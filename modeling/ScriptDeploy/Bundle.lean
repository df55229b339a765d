import ScriptDeploy.Preparation
import ScriptDeploy.Yaml.Emit

/-!
# Bundles: one YAML file per script

A bundle is a flat YAML mapping of a script's summary, description, language and source text,
for importing the script by hand. Every source a scan finds is bundled, paired or not: a
script without a sidecar, or whose sidecar fails to load, gets the default metadata. The
bundle of a source is named by its file name without the extension, with `.yaml` added, in
the output directory, which is made first if it is missing.

Each bundle goes to a temporary file beside the bundle, which is then moved over it; when the
move fails the temporary file is removed. A write of the temporary file that fails is not
cleaned up: a device that fills up leaves the temporary file with the bytes that fit. Writing stops at the first source that cannot be read or
bundle that cannot be written, keeping the bundles already written.
-/

namespace ScriptDeploy

open Files

structure Bundle where
  summary : String
  description : String
  language : String
  content : String
deriving DecidableEq, Repr, Inhabited

structure Bundled where
  source : String
  bundle : String
deriving DecidableEq, Repr, Inhabited

namespace Bundle

def toYaml (b : Bundle) : String :=
  Yaml.Emit.mapping [("summary", b.summary), ("description", b.description),
    ("language", b.language), ("content", b.content)]

def tempPath (path : String) : String := path ++ ".wmdeploy.tmp"

/-- Writes text to a path through a temporary file beside it. A failed write of the temporary
file is given back as it left the tree; a failed move removes the temporary file. -/
def atomicWrite (t : Tree) (path text : String) : Except SyncError Unit × Tree :=
  let tmp := tempPath path
  match t.writeFile tmp text.toUTF8.toList with
  | (.error e, left) => (.error (.fileFailed tmp e), left)
  | (.ok (), written) =>
    match written.moveFile tmp path with
    | .ok moved => (.ok (), moved)
    | .error e =>
      match written.removeFile tmp with
      | .ok cleaned => (.error (.fileFailed path e), cleaned)
      | .error _ => (.error (.fileFailed path e), written)

/-- The path of the bundle of a source in the output directory. -/
def pathFor (outDir source : String) : String :=
  Path.join outDir (((Path.fileName? source).map RemotePath.stripExtension).getD "" ++ ".yaml")

/-- The metadata a source is bundled with: its sidecar's, or the defaults. -/
def metadataOf (t : Tree) (f : Found) : Metadata :=
  match f.sidecar with
  | some path =>
    match Metadata.load t path f.source with
    | .ok m => m
    | .error _ => Metadata.default f.source
  | none => Metadata.default f.source

def writeEach (c : DeployConfig) (outDir : String) :
    Tree → List Found → Except SyncError (List Bundled) × Tree
  | t, [] => (.ok [], t)
  | t, f :: rest =>
    let m := metadataOf t f
    match t.readText f.source with
    | .error e => (.error (.fileFailed f.source e), t)
    | .ok content =>
      let b : Bundle :=
        { summary := m.summary, description := m.description, language := c.language, content }
      let path := pathFor outDir f.source
      match atomicWrite t path b.toYaml with
      | (.error e, t) => (.error e, t)
      | (.ok (), t) =>
        match writeEach c outDir t rest with
        | (.ok done, t) => (.ok (⟨f.source, path⟩ :: done), t)
        | (.error e, t) => (.error e, t)

/-- Makes the output directory and writes the bundle of every source a scan finds. -/
def writeAll (t : Tree) (c : DeployConfig) (outDir : String) :
    Except SyncError (List Bundled) × Tree :=
  match t.makeDirAll outDir with
  | .error e => (.error (.fileFailed outDir e), t)
  | .ok t =>
    match Discovery.scan t c with
    | .error e => (.error e, t)
    | .ok found => writeEach c outDir t found

end Bundle

end ScriptDeploy
