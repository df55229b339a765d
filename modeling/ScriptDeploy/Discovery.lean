import ScriptDeploy.Config
import ScriptDeploy.Error
import ScriptDeploy.Files.Tree

/-!
# Finding scripts and their sidecars

A script's sidecar sits next to it: the script's file name without its source extension,
followed by the metadata suffix (`job.py` has `job.script.yaml`). A path without a file name
gets the suffix alone as a new last part.

A scan visits the configured folders under the scripts root in the order given, a folder
given twice twice, and skips a folder that is missing or is not a directory. In each folder it
takes the regular files whose names are UTF-8, longer in bytes than the source extension with
its dot, and end with it, in byte order of their names. Each source found carries its
sidecar's path when that path is a regular file. The scripts ready to deploy are the sources
that have a sidecar, in the order of the scan.
-/

namespace ScriptDeploy

/-- A source file found by a scan, with the path of its sidecar when it has one. -/
structure Found where
  source : String
  sidecar : Option String
deriving DecidableEq, Repr, Inhabited

structure Script where
  source : String
  sidecar : String
deriving DecidableEq, Repr, Inhabited

namespace Discovery

open Files

def sidecarPath (source extension suffix : String) : String :=
  let name := (Path.fileName? source).getD ""
  let dotted := "." ++ extension
  let stem := if name.endsWith dotted then String.ofList (name.toList.take (name.length - dotted.length)) else name
  Path.withFileName source (stem ++ suffix)

/-- Whether a name in a folder is the name of a source file: UTF-8, longer in bytes than the
dotted extension, and ending with it. -/
def sourceName? (dotted : String) (name : Bytes) : Option String :=
  match String.fromUTF8? name.toByteArray with
  | some s => if s.utf8ByteSize > dotted.utf8ByteSize && s.endsWith dotted then some s else none
  | none => none

def scanFolder (t : Tree) (c : DeployConfig) (folder : String) : Except SyncError (List Found) :=
  let dir := Path.join c.scriptsRoot folder
  if !t.isDir dir then .ok []
  else
    match t.listDir dir with
    | .error e => .error (.fileFailed dir e)
    | .ok names =>
      let sources := (names.filterMap (sourceName? ("." ++ c.sourceExtension))).map (Path.join dir)
      .ok ((sources.filter t.isFile).map fun source =>
        let sidecar := sidecarPath source c.sourceExtension c.metadataSuffix
        { source, sidecar := if t.isFile sidecar then some sidecar else none })

/-- Every source in the configured folders, paired or not. -/
def scan (t : Tree) (c : DeployConfig) : Except SyncError (List Found) :=
  c.folders.foldlM (fun acc folder => (acc ++ ·) <$> scanFolder t c folder) []

def ready (found : List Found) : List Script :=
  found.filterMap fun f => f.sidecar.map fun sidecar => { source := f.source, sidecar }

def discover (t : Tree) (c : DeployConfig) : Except SyncError (List Script) :=
  ready <$> scan t c

end Discovery

end ScriptDeploy
