import ScriptDeploy.Preparation
import ScriptDeploy.Report
import ScriptDeploy.Upload.Client

/-!
# Planning and running a deploy

A plan lists the scripts ready to deploy with the remote path each would get, or why it gets
none. A run goes further: a run that sends needs a token, checked before anything else; then
each script ready to deploy is prepared and, unless the run is dry, uploaded. A script that
fails ends with its error's message and the run goes on with the next one; only a missing
token or a folder that cannot be listed stops the run, before any script is touched.

The transport's state is threaded through the scripts in order, and the requests of all the
uploads are given in the order they were sent. The file system is only read.
-/

namespace ScriptDeploy

open Files Upload

/-- A script ready to deploy and the remote path it would get. -/
structure Planned where
  script : Script
  remotePath : Except ScriptError String

def plan (t : Tree) (c : DeployConfig) : Except SyncError (List Planned) :=
  (·.map fun s => ⟨s, c.remotePathOf s.source⟩) <$> Discovery.discover t c

/-- The client of a run: none for a dry run, else one holding the token. -/
def DeployConfig.client? (c : DeployConfig) (dryRun : Bool) : Except SyncError (Option Client) :=
  if dryRun then .ok none
  else
    match c.requireToken with
    | .ok token => .ok (some { baseUrl := c.baseUrl, workspace := c.workspace, token })
    | .error e => .error (.config e)

def Outcome.ofUpload : Except SyncError Done → Outcome
  | .ok .created => .created
  | .ok .updated => .updated
  | .error e => .failed e.message

def deployScript {σ : Type} (t : Tree) (c : DeployConfig) (client : Option Client)
    (tr : Transport σ) (st : σ) (s : Script) : ItemReport × σ × List Request :=
  let (remotePath, prepared) := Payload.prepare t c s
  match prepared, client with
  | .error e, _ => (⟨s.source, remotePath, .failed e.message⟩, st, [])
  | .ok _, none => (⟨s.source, remotePath, .skipped⟩, st, [])
  | .ok p, some cl =>
    let (r, st, sent) := cl.upsert tr st p
    (⟨s.source, remotePath, Outcome.ofUpload r⟩, st, sent)

def deployScripts {σ : Type} (t : Tree) (c : DeployConfig) (client : Option Client)
    (tr : Transport σ) : σ → List Script → List ItemReport × σ × List Request
  | st, [] => ([], st, [])
  | st, s :: rest =>
    let (item, st, sent) := deployScript t c client tr st s
    let (items, st, more) := deployScripts t c client tr st rest
    (item :: items, st, sent ++ more)

/-- Runs a deploy: the report or the error that stopped it, the transport's new state and the
requests sent. -/
def deploy {σ : Type} (t : Tree) (c : DeployConfig) (tr : Transport σ) (st : σ)
    (dryRun : Bool) : Except SyncError Report × σ × List Request :=
  match c.client? dryRun with
  | .error e => (.error e, st, [])
  | .ok client =>
    match Discovery.discover t c with
    | .error e => (.error e, st, [])
    | .ok scripts =>
      let (items, st, sent) := deployScripts t c client tr st scripts
      (.ok { workspace := c.workspace, dryRun, items }, st, sent)

end ScriptDeploy
