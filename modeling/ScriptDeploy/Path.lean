/-!
# Paths as text

A path is text with `/` between its parts. A leading `/` makes it absolute; a leading `.` part
of a relative path is kept as the current directory; empty parts and other `.` parts are not
parts at all; `..` is the parent directory and anything else is a name.

* The file name is the last part when that is a name (`a/b/` has `b`; `/`, `.` and `a/..`
  have none).
* The parent is the text before the last part, without the separators and `.` parts at its
  end; the root and the empty path have none.
* Joining a relative path adds it after a `/` unless the base is empty or already ends with
  one; joining an absolute path gives that path.
* Setting the file name replaces the file name if there is one, and otherwise joins the name.
* A path's components are its root or leading `.`, then its names and `..` parts; one path is
  a prefix of another when its components begin the other's.
-/

namespace ScriptDeploy.Path

inductive Part where
  | root
  | current
  | parent
  | name (text : String)
deriving DecidableEq, Repr, Inhabited

def isAbsolute (p : String) : Bool := p.startsWith "/"

def leadsWithCurrent (cs : List Char) : Bool :=
  match cs with
  | ['.'] => true
  | '.' :: '/' :: _ => true
  | _ => false

/-- The number of characters before the first part that is a name or `..`: the root, or a
leading `.` of a relative path. -/
def bodyStart (cs : List Char) : Nat :=
  match cs with
  | '/' :: _ => 1
  | _ => if leadsWithCurrent cs then 1 else 0

def lastPiece (cs : List Char) : List Char × Nat :=
  let body := cs.drop (bodyStart cs)
  let piece := (body.reverse.takeWhile (· != '/')).reverse
  (piece, piece.length + (if piece.length < body.length then 1 else 0))

def trimEnd (cs : List Char) : List Char :=
  go (cs.length + 1) cs
where
  go : Nat → List Char → List Char
    | 0, cs => cs
    | fuel + 1, cs =>
      if cs.length ≤ bodyStart cs then cs
      else
        let (piece, size) := lastPiece cs
        if piece.isEmpty || piece == ['.'] then go fuel (cs.take (cs.length - size)) else cs

/-- The last part of a path, with the text before it. -/
def lastPart? (p : String) : Option (Part × String) :=
  let cs := trimEnd p.toList
  if cs.length > bodyStart cs then
    let (piece, size) := lastPiece cs
    let rest := String.ofList (trimEnd (cs.take (cs.length - size)))
    some (if piece == ['.', '.'] then .parent else .name (String.ofList piece), rest)
  else if leadsWithCurrent cs then some (.current, "")
  else if isAbsolute p then some (.root, "")
  else none

def fileName? (p : String) : Option String :=
  match lastPart? p with
  | some (.name n, _) => some n
  | _ => none

/-- The parent of a path: the text before its last part, unless that part is the root. -/
def parent? (p : String) : Option String :=
  match lastPart? p with
  | some (.root, _) | none => none
  | some (_, rest) => some rest

def join (base p : String) : String :=
  if isAbsolute p then p
  else if base.isEmpty || base.endsWith "/" then base ++ p
  else base ++ "/" ++ p

def withFileName (p name : String) : String :=
  match fileName? p, parent? p with
  | some _, some parent => join parent name
  | _, _ => join p name

/-- The components of a path: the root as `/` or a leading `.` first, then its names and `..`
parts; empty parts and other `.` parts are left out. -/
def components (p : String) : List String :=
  let parts := (p.splitOn "/").filter fun s => !s.isEmpty && s != "."
  if isAbsolute p then "/" :: parts
  else if leadsWithCurrent p.toList then "." :: parts
  else parts

/-- The rest of a path after a base, component by component; none when the base's components
do not begin the path's. -/
def stripPrefix? (p base : String) : Option String :=
  let a := components p
  let b := components base
  if b.isPrefixOf a then some ("/".intercalate (a.drop b.length)) else none

end ScriptDeploy.Path
