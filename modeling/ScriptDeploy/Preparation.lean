import ScriptDeploy.Discovery
import ScriptDeploy.Metadata
import ScriptDeploy.Payload
import ScriptDeploy.RemotePath

/-!
# Preparing a script for upload

A script is prepared in three steps, each of which can fail: its sidecar is loaded (missing,
unreadable or not a metadata document), its remote path is derived from its source under the
namespace root, and its source is read. The remote path is known from the second step on, so
a failure of the third still reports it.
-/

namespace ScriptDeploy

open Files

def Metadata.load (t : Tree) (metadataPath source : String) : Except ScriptError Metadata :=
  if !t.hasEntry metadataPath then .error (.missingMetadata metadataPath)
  else
    match t.readText metadataPath with
    | .error e => .error (.readFailed metadataPath e)
    | .ok contents => Metadata.parse contents metadataPath source

/-- The remote path of a script's source under the configured namespace root. -/
def DeployConfig.remotePathOf (c : DeployConfig) (source : String) : Except ScriptError String :=
  RemotePath.ofSource source c.namespaceRoot c.remoteBase

/-- The payload of a script, with its remote path once that is known. -/
def Payload.prepare (t : Tree) (c : DeployConfig) (s : Script) :
    Option String × Except ScriptError Payload :=
  match Metadata.load t s.sidecar s.source with
  | .error e => (none, .error e)
  | .ok m =>
    match c.remotePathOf s.source with
    | .error e => (none, .error e)
    | .ok path =>
      match t.readText s.source with
      | .error e => (some path, .error (.readFailed s.source e))
      | .ok content => (some path, .ok (Payload.build content path m c.language))

end ScriptDeploy
