import ScriptDeploy.Cli

/-!
# The program

Reads the command line and the environment; for a command, also the file tree on standard input
(see `Cli`). Prints the command's output lines, then, when the command changed files, a line
`---` and the changed files as a YAML mapping of paths to texts; prints its error lines on
standard error, and exits with its code. The working directory is `PWD` when that is absolute,
else the root.
-/

namespace ScriptDeploy.Program

def envNames : List String :=
  ["WM_TOKEN", "WM_BASE_URL", "WM_WORKSPACE", "WM_SCRIPTS_ROOT", "WM_NAMESPACE_ROOT",
    "XDG_CONFIG_HOME", "HOME", "PWD"]

partial def readAll (stream : IO.FS.Stream) (acc : String) : IO String := do
  let line ← stream.getLine
  if line.isEmpty then return acc else readAll stream (acc ++ line)

/-- Prints a run's lines and changed files, giving its exit code. -/
def report (before : Files.Tree) (r : Cli.Run) : IO UInt32 := do
  r.out.forM IO.println
  let changed := Cli.changedFiles before r.tree
  if !changed.isEmpty then
    IO.println "---"
    IO.print changed
  r.err.forM IO.eprintln
  return UInt32.ofNat r.code

end ScriptDeploy.Program

open ScriptDeploy in
def main (args : List String) : IO UInt32 := do
  let values ← Program.envNames.mapM fun n => return (n, ← IO.getEnv n)
  let env := fun n => (values.lookup n).join
  let cwd := match env "PWD" with
    | some d => if Path.isAbsolute d then d else "/"
    | none => "/"
  match Cli.readArgs args with
  | .error e =>
    (Cli.usageError none e).forM IO.eprintln
    return 2
  | .ok (.run s c) =>
    match Cli.treeOf cwd (← Program.readAll (← IO.getStdin) "") with
    | .error e =>
      IO.eprintln ("error: standard input is not a file tree: " ++ e)
      return 2
    | .ok t => Program.report t (Cli.run (.run s c) env t cwd)
  | .ok req => Program.report Files.Tree.empty (Cli.run req env Files.Tree.empty cwd)
