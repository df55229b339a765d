import ScriptDeploy.Files.Error
import ScriptDeploy.Path

/-!
# A file system as a table of locations

A file system holds directories and regular files. Each entry sits at a location, the list of
names from the root down; the root is the empty location and is always a directory. A name is
a list of bytes and need not be UTF-8, although every path given as text names UTF-8 parts.

Paths are followed part by part as the operating system does: empty parts are skipped, `.`
stays and `..` climbs (the root's parent is the root), and every part but the last must lead
through a directory, or the walk fails with "not found" or "not a directory". A path ending in
a separator, `.` or `..` names a directory only. A path holding a NUL character fails before
any walk, as does one too long; so does a name too long when the walk reaches it. A relative
path is read from the root: the table has no working directory.

The operations keep the two rules of the table: each location holds at most one entry, and
every entry but the root's lies in a directory. Writing a new entry appends it to the table,
and removing one filters it out, so removing an entry just written restores the table.
Listing a directory gives its names in byte order.

The device may hold a limited number of bytes in files. Writing a file makes it, or empties
it, and then fills it as far as the device has room: a device that fills up fails the write
and leaves the file holding the bytes that fit.
-/

namespace ScriptDeploy.Files

abbrev Bytes := List UInt8

abbrev Location := List Bytes

inductive Entry where
  | dir
  | file (content : Bytes)
deriving DecidableEq, Repr, Inhabited

def Entry.size : Entry → Nat
  | .dir => 0
  | .file content => content.length

/-- Byte order of names: the first differing byte decides, and a name comes before the names
it begins. -/
def bytesLe : Bytes → Bytes → Bool
  | [], _ => true
  | _ :: _, [] => false
  | a :: as, b :: bs => a < b || (a == b && bytesLe as bs)

def pathMax : Nat := 4096

def nameMax : Nat := 255

/-- A file system: the entries at their locations, in the order they were made, and the bytes
its device holds at most in files, when it sets a limit. -/
structure Tree where
  entries : List (Location × Entry)
  capacity : Option Nat := none
deriving Repr, Inhabited

/-- A path read against a tree: the location it names, and whether it names a directory
only, ending in a separator, `.` or `..`. -/
structure Spot where
  location : Location
  dirOnly : Bool
deriving Repr, Inhabited

namespace Tree

def empty : Tree := { entries := [] }

def get? (t : Tree) (loc : Location) : Option Entry :=
  if loc.isEmpty then some .dir else t.entries.lookup loc

/-- The tree with a location holding an entry: in place when it holds one, else appended. -/
def set (t : Tree) (loc : Location) (e : Entry) : Tree :=
  if t.entries.any (·.1 == loc) then
    { t with entries := t.entries.map fun (l, x) => if l == loc then (l, e) else (l, x) }
  else { t with entries := t.entries ++ [(loc, e)] }

def erase (t : Tree) (loc : Location) : Tree := { t with entries := t.entries.filter (·.1 != loc) }

def eraseBelow (t : Tree) (loc : Location) : Tree :=
  { t with entries := t.entries.filter fun (l, _) => !loc.isPrefixOf l }

def used (t : Tree) : Nat := t.entries.foldr (fun e n => e.2.size + n) 0

/-- The bytes a file at a location can take once what it held is dropped; none when the device
sets no limit. -/
def roomAt (t : Tree) (loc : Location) : Option Nat :=
  t.capacity.map (· - (t.set loc (.file [])).used)

def childNames (t : Tree) (loc : Location) : List Bytes :=
  let names := t.entries.filterMap fun (l, _) =>
    match l.getLast? with
    | some n => if l.dropLast == loc then some n else none
    | none => none
  names.mergeSort bytesLe

/-- Follows the parts of a path from a location: every part but the empty ones must start
from a directory. -/
def walk (t : Tree) : Location → List String → Except Error Location
  | loc, [] => .ok loc
  | loc, part :: rest =>
    if part.isEmpty then walk t loc rest
    else
      match t.get? loc with
      | none => .error .notFound
      | some (.file _) => .error .notDirectory
      | some .dir =>
        if part == "." then walk t loc rest
        else if part == ".." then walk t loc.dropLast rest
        else if part.utf8ByteSize > nameMax then .error .nameTooLong
        else walk t (loc ++ [part.toUTF8.toList]) rest

def locate (t : Tree) (p : String) : Except Error Spot :=
  if p.contains (Char.ofNat 0) then .error .nulInName
  else if p.isEmpty then .error .notFound
  else if p.utf8ByteSize ≥ pathMax then .error .nameTooLong
  else
    let parts := (p.toList.splitOn '/').map String.ofList
    let last := parts.getLast?.getD ""
    (t.walk [] parts).map fun loc => ⟨loc, last.isEmpty || last == "." || last == ".."⟩

def find (t : Tree) (p : String) : Except Error (Location × Entry) := do
  let s ← t.locate p
  match t.get? s.location with
  | none => throw .notFound
  | some (.file c) => if s.dirOnly then throw .notDirectory else return (s.location, .file c)
  | some .dir => return (s.location, .dir)

def isDir (t : Tree) (p : String) : Bool :=
  match t.find p with
  | .ok (_, .dir) => true
  | _ => false

def isFile (t : Tree) (p : String) : Bool :=
  match t.find p with
  | .ok (_, .file _) => true
  | _ => false

def hasEntry (t : Tree) (p : String) : Bool :=
  match t.find p with
  | .ok _ => true
  | .error _ => false

def readText (t : Tree) (p : String) : Except Error String := do
  match (← t.find p).2 with
  | .dir => throw .isDirectory
  | .file c =>
    match String.fromUTF8? c.toByteArray with
    | some s => return s
    | none => throw .invalidUtf8

def readTextIn (t : Tree) (dir : String) (name : Bytes) : Except Error String := do
  match ← t.find dir with
  | (_, .file _) => throw .notDirectory
  | (loc, .dir) =>
    match t.get? (loc ++ [name]) with
    | none => throw .notFound
    | some .dir => throw .isDirectory
    | some (.file c) =>
      match String.fromUTF8? c.toByteArray with
      | some s => return s
      | none => throw .invalidUtf8

def listDir (t : Tree) (p : String) : Except Error (List Bytes) := do
  match ← t.find p with
  | (_, .file _) => throw .notDirectory
  | (loc, .dir) => return t.childNames loc

def makeDir (t : Tree) (p : String) : Except Error Tree := do
  let s ← t.locate p
  match t.get? s.location with
  | some _ => throw .alreadyExists
  | none => return t.set s.location .dir

/-- Makes a directory and the missing directories above it. A path that already names a
directory is left as it is; a path at which making the directory fails for another reason
than a missing parent fails with that reason. -/
def makeDirAll (t : Tree) (p : String) : Except Error Tree :=
  go (p.length + 1) t p
where
  go : Nat → Tree → String → Except Error Tree
    | 0, _, _ => .error .notFound
    | fuel + 1, t, p =>
      if p.isEmpty then .ok t
      else
        match t.makeDir p with
        | .ok t => .ok t
        | .error .notFound =>
          match Path.parent? p with
          | none => .error .notFound
          | some q =>
            match go fuel t q with
            | .error e => .error e
            | .ok t =>
              match t.makeDir p with
              | .ok t => .ok t
              | .error e => if t.isDir p then .ok t else .error e
        | .error e => if t.isDir p then .ok t else .error e

/-- Writes a file's bytes at a location: the file is made, or emptied, and then filled as far
as the device has room; a directory cannot be written. A full device fails the write with the
bytes that fit left in the file. -/
def writeAt (t : Tree) (loc : Location) (content : Bytes) : Except Error Unit × Tree :=
  match t.get? loc with
  | some .dir => (.error .isDirectory, t)
  | _ =>
    match t.roomAt loc with
    | some n =>
      if content.length ≤ n then (.ok (), t.set loc (.file content))
      else (.error .noSpace, t.set loc (.file (content.take n)))
    | none => (.ok (), t.set loc (.file content))

def writeFile (t : Tree) (p : String) (content : Bytes) : Except Error Unit × Tree :=
  match t.locate p with
  | .error e => (.error e, t)
  | .ok s => if s.dirOnly then (.error .isDirectory, t) else t.writeAt s.location content

def writeIn (t : Tree) (dir : String) (name : Bytes) (content : Bytes) : Except Error Unit × Tree :=
  match t.find dir with
  | .error e => (.error e, t)
  | .ok (_, .file _) => (.error .notDirectory, t)
  | .ok (loc, .dir) => t.writeAt (loc ++ [name]) content

def moveFile (t : Tree) (src dst : String) : Except Error Tree := do
  let a ← t.locate src
  let content ← match t.get? a.location with
    | none => throw .notFound
    | some .dir => throw .isDirectory
    | some (.file c) => if a.dirOnly then throw .notDirectory else pure c
  let b ← t.locate dst
  match t.get? b.location with
  | some .dir => throw .isDirectory
  | _ =>
    if b.dirOnly then throw .notDirectory
    else if a.location == b.location then return t
    else return (t.erase a.location).set b.location (.file content)

def removeFile (t : Tree) (p : String) : Except Error Tree := do
  let s ← t.locate p
  match t.get? s.location with
  | none => throw .notFound
  | some .dir => throw .isDirectory
  | some (.file _) => if s.dirOnly then throw .notDirectory else return t.erase s.location

def remove (t : Tree) (p : String) : Except Error Tree := do
  match ← t.find p with
  | (_, .file _) => t.removeFile p
  | (loc, .dir) => if loc.isEmpty then throw .permissionDenied else return t.eraseBelow loc

end Tree

end ScriptDeploy.Files
