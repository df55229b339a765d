import ScriptDeploy.Error
import ScriptDeploy.Path
import ScriptDeploy.Text.Blank
import ScriptDeploy.Yaml.Walk

/-!
# Run configuration

Settings come in three layers, the first that gives a value winning: overrides from the
command line, the configuration file, and built-in defaults. Only the token, the API base, the
workspace, the two roots and the timeout can be overridden; an override wins even when it is
blank.

* A token that is blank after trimming counts as none.
* The API base loses its trailing slashes.
* A relative root is joined onto the working directory.
* The source extension loses its leading dots.

The configuration file is a YAML mapping with only the known keys, each optional; blank text
is an empty file, and a file that is not such a mapping fails with the reader's message.
-/

namespace ScriptDeploy

/-- The settings of a configuration file, each optional. -/
structure ConfigFile where
  token : Option String := none
  baseUrl : Option String := none
  workspace : Option String := none
  scriptsRoot : Option String := none
  namespaceRoot : Option String := none
  folders : Option (List String) := none
  namespaceName : Option String := none
  owner : Option String := none
  language : Option String := none
  sourceExtension : Option String := none
  metadataSuffix : Option String := none
  timeoutSecs : Option Nat := none
deriving Repr, Inhabited

/-- The settings that the command line can override. -/
structure Overrides where
  token : Option String := none
  baseUrl : Option String := none
  workspace : Option String := none
  scriptsRoot : Option String := none
  namespaceRoot : Option String := none
  timeoutSecs : Option Nat := none
deriving Repr, Inhabited

inductive Setting where
  | text (v : Option String)
  | texts (v : Option (List String))
  | count (v : Option Nat)
deriving Repr, Inhabited

namespace ConfigFile

def keys : List String :=
  ["token", "base_url", "workspace", "scripts_root", "namespace_root", "folders", "namespace",
   "owner", "language", "source_extension", "metadata_suffix", "timeout_secs"]

def settingReader (i : Nat) : Yaml.NodeReader Setting := fun doc scope spot =>
  match i with
  | 3 | 4 => do
    let (v, s) ← Yaml.readOption (Yaml.readText "path string") doc scope spot
    return (.text v, s)
  | 5 => do
    let (v, s) ← Yaml.readOption Yaml.readTexts doc scope spot
    return (.texts v, s)
  | 11 => do
    let (v, s) ← Yaml.readOption Yaml.readCount doc scope spot
    return (.count v, s)
  | _ => do
    let (v, s) ← Yaml.readOption (Yaml.readText "a string") doc scope spot
    return (.text v, s)

def set (f : ConfigFile) : Nat × Setting → ConfigFile
  | (0, .text v) => { f with token := v }
  | (1, .text v) => { f with baseUrl := v }
  | (2, .text v) => { f with workspace := v }
  | (3, .text v) => { f with scriptsRoot := v }
  | (4, .text v) => { f with namespaceRoot := v }
  | (5, .texts v) => { f with folders := v }
  | (6, .text v) => { f with namespaceName := v }
  | (7, .text v) => { f with owner := v }
  | (8, .text v) => { f with language := v }
  | (9, .text v) => { f with sourceExtension := v }
  | (10, .text v) => { f with metadataSuffix := v }
  | (11, .count v) => { f with timeoutSecs := v }
  | _ => f

def parse (contents : String) : Except Yaml.Error ConfigFile :=
  if Text.isBlankText contents then .ok {}
  else do
    let got ← Yaml.parseWith (Yaml.readRecord "ConfigFile" keys settingReader) contents
    return got.foldl set {}

def load (path : String) (read : Except Files.Error String) : Except ConfigError ConfigFile :=
  match read with
  | .error e => .error (.readFailed path e)
  | .ok contents => (parse contents).mapError (.parse path)

end ConfigFile

/-- The settings of a run. -/
structure DeployConfig where
  token : Option String
  baseUrl : String
  workspace : String
  scriptsRoot : String
  namespaceRoot : String
  folders : List String
  namespaceName : String
  owner : String
  language : String
  sourceExtension : String
  metadataSuffix : String
  timeoutSecs : Option Nat
deriving Repr, Inhabited

namespace DeployConfig

def absolutize (cwd p : String) : String := if Path.isAbsolute p then p else Path.join cwd p

def dropTrailing (c : Char) (s : String) : String :=
  String.ofList (s.toList.reverse.dropWhile (· == c)).reverse

/-- The settings of a run from the file's settings and the overrides, roots resolved against
the working directory. -/
def resolve (file : ConfigFile) (o : Overrides) (cwd : String) : DeployConfig where
  token := (o.token <|> file.token).filter fun t => !Text.isBlankText t
  baseUrl := dropTrailing '/' ((o.baseUrl <|> file.baseUrl).getD "http://localhost:8000/api")
  workspace := (o.workspace <|> file.workspace).getD "admins"
  scriptsRoot := absolutize cwd ((o.scriptsRoot <|> file.scriptsRoot).getD "f/einstein_kids")
  namespaceRoot := absolutize cwd ((o.namespaceRoot <|> file.namespaceRoot).getD "f")
  folders := file.folders.getD ["shared", "moms", "therapists"]
  namespaceName := file.namespaceName.getD "u"
  owner := file.owner.getD "admin"
  language := file.language.getD "python3"
  sourceExtension := match file.sourceExtension with
    | some e => String.ofList (e.toList.dropWhile (· == '.'))
    | none => "py"
  metadataSuffix := file.metadataSuffix.getD ".script.yaml"
  timeoutSecs := o.timeoutSecs <|> file.timeoutSecs

def requireToken (c : DeployConfig) : Except ConfigError String :=
  match c.token with
  | some t => .ok t
  | none => .error .missingCredential

def remoteBase (c : DeployConfig) : String := c.namespaceName ++ "/" ++ c.owner

end DeployConfig

end ScriptDeploy
