import ScriptDeploy.Files.Error
import ScriptDeploy.Yaml.Error

/-!
# Errors of preparing, configuring and uploading scripts

Three families of errors, each with its message:

* preparing one script: a source outside the namespace root, a missing or unreadable sidecar,
  a sidecar that is not a metadata document, an unreadable source;
* configuring a run: no token, an unreadable or invalid configuration file;
* uploading and exporting: a request that got no response, a response that refuses the
  script, a file operation that failed, and the two families above passed through unchanged.
-/

namespace ScriptDeploy

/-- Why one script could not be prepared. -/
inductive ScriptError where
  | outOfScope (path root : String)
  | missingMetadata (path : String)
  | metadataParse (path : String) (e : Yaml.Error)
  | readFailed (path : String) (e : Files.Error)
deriving Repr, Inhabited

def ScriptError.message : ScriptError → String
  | .outOfScope path root => "script path outside " ++ root ++ ": " ++ path
  | .missingMetadata path => "metadata not found at " ++ path
  | .metadataParse path e => "failed to parse metadata at " ++ path ++ ": " ++ e.text
  | .readFailed path e => "I/O error at " ++ path ++ ": " ++ e.text

def ScriptError.causes : ScriptError → List String
  | .metadataParse _ e => [e.text]
  | .readFailed _ e => [e.text]
  | _ => []

/-- Why a run could not be configured. -/
inductive ConfigError where
  | missingCredential
  | readFailed (path : String) (e : Files.Error)
  | parse (path : String) (e : Yaml.Error)
deriving Repr, Inhabited

def ConfigError.message : ConfigError → String
  | .missingCredential => "missing WM_TOKEN; export WM_TOKEN or pass --token before deploying"
  | .readFailed path e => "I/O error reading config at " ++ path ++ ": " ++ e.text
  | .parse path e => "failed to parse config at " ++ path ++ ": " ++ e.text

def ConfigError.causes : ConfigError → List String
  | .readFailed _ e => [e.text]
  | .parse _ e => [e.text]
  | .missingCredential => []

inductive Stage where
  | create
  | update
deriving DecidableEq, Repr, Inhabited

def Stage.name : Stage → String
  | .create => "create"
  | .update => "update"

/-- Why uploading or exporting failed. -/
inductive SyncError where
  | script (e : ScriptError)
  | config (e : ConfigError)
  | transport (url message : String)
  | rejected (path : String) (stage : Stage) (status : Nat) (body : String)
  | fileFailed (path : String) (e : Files.Error)
deriving Repr, Inhabited

def SyncError.message : SyncError → String
  | .script e => e.message
  | .config e => e.message
  | .transport url message => "request to " ++ url ++ " failed: " ++ message
  | .rejected path stage status body =>
    stage.name ++ " failed " ++ path ++ ": " ++ toString status ++ " " ++ body
  | .fileFailed path e => "I/O error at " ++ path ++ ": " ++ e.text

/-- The message of an upload or export error followed by the errors under it, outermost first;
a passed-through error brings its own. -/
def SyncError.chain : SyncError → List String
  | .script e => e.message :: e.causes
  | .config e => e.message :: e.causes
  | .fileFailed path e => [(SyncError.fileFailed path e).message, e.text]
  | e => [e.message]

end ScriptDeploy
