import ScriptDeploy.Error

/-!
# Remote paths of scripts

A script's remote path is read off its local path, by the text alone: no file is looked at.
Both `/` and `\` separate parts; empty and `.` parts are dropped; `..` removes the part before
it when there is one that is not itself `..`, and is otherwise dropped from an absolute path
and kept in a relative one.

The source must lie strictly inside the namespace root: both absolute or both relative, with
the root's parts as a proper beginning of the source's parts and no `..` among the rest. The
remote path is the prefix without its trailing slashes, a slash, and the rest of the parts
joined by slashes, the last one without its extension (the text from its last `.`, unless that
`.` starts the name).
-/

namespace ScriptDeploy.RemotePath

def unify (raw : String) : List Char := raw.toList.map fun c => if c == '\\' then '/' else c

/-- Adds one part of a path to the normal parts before it, which are kept last first. -/
def fold (absolute : Bool) (out : List String) (part : String) : List String :=
  if part.isEmpty || part == "." then out
  else if part == ".." then
    match out with
    | last :: rest => if last != ".." then rest else if absolute then out else ".." :: out
    | [] => if absolute then out else [".."]
  else part :: out

def segments (raw : String) : Bool × List String :=
  let absolute := (unify raw).head? == some '/'
  (absolute, ((((unify raw).splitOn '/').map String.ofList).foldl (fold absolute) []).reverse)

/-- A name without its extension: the text from its last `.`, unless the name starts there. -/
def stripExtension (name : String) : String :=
  let cs := name.toList
  match (cs.reverse.idxOf? '.') with
  | some i =>
    let dot := cs.length - 1 - i
    if dot > 0 then String.ofList (cs.take dot) else name
  | none => name

/-- The remote path of a source under a namespace root, with the given prefix. -/
def ofSource (source root pre : String) : Except ScriptError String :=
  let (sourceAbs, sourceParts) := segments source
  let (rootAbs, rootParts) := segments root
  if sourceAbs != rootAbs || sourceParts.length ≤ rootParts.length ||
      !rootParts.isPrefixOf sourceParts then
    .error (.outOfScope source root)
  else
    let relative := sourceParts.drop rootParts.length
    if relative.contains ".." then .error (.outOfScope source root)
    else
      let relative := match relative.reverse with
        | last :: rest => (stripExtension last :: rest).reverse
        | [] => []
      let base := String.ofList (pre.toList.reverse.dropWhile (· == '/')).reverse
      .ok (base ++ "/" ++ "/".intercalate relative)

end ScriptDeploy.RemotePath
