import ScriptDeploy.Bundle
import ScriptDeploy.Deploy
import ScriptDeploy.Text.Utf8

/-!
# The command line

`wmdeploy [OPTIONS] <COMMAND>` runs one of three commands:

* `deploy [--dry-run] [--json]` uploads every script ready to deploy, or with `--dry-run`
  only prepares them;
* `list [--json]` shows the scripts ready to deploy and their remote paths;
* `bundle [-o|--out DIR]` writes one YAML bundle per source, into `scripts_yaml` by default.

The shared options `--token`, `--base-url`, `--workspace`, `--root`, `--namespace-root`,
`--timeout`, `--config` and `-v`/`--verbose` may stand before or after the command; an option
takes its value from the next word or after `=`. An option given wins over its environment
variable (`WM_TOKEN`, `WM_BASE_URL`, `WM_WORKSPACE`, `WM_SCRIPTS_ROOT`, `WM_NAMESPACE_ROOT`; an
empty one counts as unset), which wins over the configuration file: the one `--config` names,
else `wmdeploy/config.yaml` in the configuration directory (`XDG_CONFIG_HOME`, else
`~/.config`) when it is there.

A run works on a file tree and a working directory. It gives the lines for standard output and
for standard error, the exit code (0 on success, 1 when the command fails, 2 for a command line
that cannot be read) and the tree afterwards. The file tree is read from YAML text: a mapping
from paths, relative to the working directory or absolute, to the text of each file, or to null
for a directory. Uploads need a network, which a run does not have: every request of a real
deploy fails as a transport error.

A failure is shown as `Error: ` and its message, then `Caused by:` and the errors under it,
numbered when there are several. The JSON report of a deploy leaves out the start and end
times, since a run has no clock.
-/

namespace ScriptDeploy.Cli

open Files

/-- The settings every command takes, as the command line gives them. -/
structure Settings where
  token : Option String := none
  baseUrl : Option String := none
  workspace : Option String := none
  scriptsRoot : Option String := none
  namespaceRoot : Option String := none
  timeoutSecs : Option Nat := none
  config : Option String := none
  verbose : Bool := false
deriving Repr, Inhabited

inductive Command where
  | deploy (dryRun json : Bool)
  | list (json : Bool)
  | bundle (out : String)
deriving Repr, Inhabited

inductive Request where
  | run (settings : Settings) (command : Command)
  | help (command : Option String)
  | version
deriving Repr, Inhabited

def Command.name : Command → String
  | .deploy _ _ => "deploy"
  | .list _ => "list"
  | .bundle _ => "bundle"

def versionLine : String := "wmdeploy 0.1.0"

def usage (command : Option String) : String :=
  match command with
  | some c => "Usage: wmdeploy " ++ c ++ " [OPTIONS]"
  | none => "Usage: wmdeploy [OPTIONS] <COMMAND>"

def sharedHelp : List String :=
  [ "      --token <TOKEN>           Bearer token for the scripts API [env: WM_TOKEN]",
    "      --base-url <BASE_URL>     API base URL [default: http://localhost:8000/api] [env: WM_BASE_URL]",
    "      --workspace <WORKSPACE>   Workspace identifier [default: admins] [env: WM_WORKSPACE]",
    "      --root <DIR>              Directory holding the script folders [default: f/einstein_kids] [env: WM_SCRIPTS_ROOT]",
    "      --namespace-root <DIR>    Directory remote paths are relative to [default: f] [env: WM_NAMESPACE_ROOT]",
    "      --timeout <SECS>          Per-request timeout in seconds",
    "      --config <PATH>           YAML config file [default: <config dir>/wmdeploy/config.yaml if present]",
    "  -v, --verbose                 Log progress to stderr (same as RUST_LOG=info)",
    "  -h, --help                    Print help" ]

def helpText : Option String → List String
  | some "deploy" =>
    ["Create or update every paired script in the remote workspace", "", usage (some "deploy"), "",
      "Options:",
      "      --dry-run                 Build every payload and report what would be sent, without sending",
      "      --json                    Emit the run report as JSON on stdout"] ++ sharedHelp
  | some "list" =>
    ["Show discovered scripts and the remote paths they map to", "", usage (some "list"), "",
      "Options:",
      "      --json                    Emit machine-readable JSON"] ++ sharedHelp
  | some "bundle" =>
    ["Write one YAML bundle per script instead of uploading", "", usage (some "bundle"), "",
      "Options:",
      "  -o, --out <OUT>               Output directory; created if missing [default: scripts_yaml]"] ++
      sharedHelp
  | _ =>
    ["Deploy local scripts to a remote workspace", "", usage none, "", "Commands:",
      "  deploy  Create or update every paired script in the remote workspace",
      "  list    Show discovered scripts and the remote paths they map to",
      "  bundle  Write one YAML bundle per script instead of uploading",
      "  help    Print this message or the help of the given subcommand(s)", "", "Options:"] ++
      sharedHelp ++ ["  -V, --version                 Print version"]

/-! ## Reading the command line -/

/-- A whole number below `2^64`, or why the text is not one. -/
def readCount (text : String) : Except String Nat :=
  if text.isEmpty then .error "cannot parse integer from empty string"
  else if !text.all Char.isDigit then .error "invalid digit found in string"
  else
    let n := text.foldl (fun acc c => acc * 10 + (c.toNat - '0'.toNat)) 0
    if n < Nat.pow 2 64 then .ok n else .error "number too large to fit in target type"

def valueName : String → Option String
  | "token" => some "TOKEN"
  | "base-url" => some "BASE_URL"
  | "workspace" => some "WORKSPACE"
  | "root" => some "DIR"
  | "namespace-root" => some "DIR"
  | "timeout" => some "SECS"
  | "config" => some "PATH"
  | "out" => some "OUT"
  | _ => none

def Settings.set (s : Settings) (name value : String) : Except String Settings :=
  match name with
  | "token" => .ok { s with token := some value }
  | "base-url" => .ok { s with baseUrl := some value }
  | "workspace" => .ok { s with workspace := some value }
  | "root" => .ok { s with scriptsRoot := some value }
  | "namespace-root" => .ok { s with namespaceRoot := some value }
  | "config" => .ok { s with config := some value }
  | "timeout" =>
    match readCount value with
    | .ok n => .ok { s with timeoutSecs := some n }
    | .error why =>
      .error ("invalid value '" ++ value ++ "' for '--timeout <SECS>': " ++ why)
  | _ => .error ("unexpected argument '--" ++ name ++ "' found")

def splitLong (word : String) : String × Option String :=
  let body := (word.toList.drop 2)
  match body.idxOf? '=' with
  | some i => (String.ofList (body.take i), some (String.ofList (body.drop (i + 1))))
  | none => (String.ofList body, none)

structure Reading where
  settings : Settings := {}
  command : Option Command := none
  helpTopic : Option String := none
  wantsHelp : Bool := false
deriving Inhabited

def Reading.setValue (r : Reading) (name value : String) : Except String Reading :=
  if name == "out" then
    match r.command with
    | some (.bundle _) => .ok { r with command := some (.bundle value) }
    | _ => .error "unexpected argument '--out' found"
  else (fun s => { r with settings := s }) <$> r.settings.set name value

def missingValue (name : String) : String :=
  "a value is required for '--" ++ name ++ " <" ++ (valueName name).getD "VALUE" ++
    ">' but none was supplied"

def Reading.withFlag (r : Reading) (name : String) : Except String Reading :=
  match name, r.command with
  | "verbose", _ => .ok { r with settings := { r.settings with verbose := true } }
  | "help", _ => .ok { r with wantsHelp := true }
  | "dry-run", some (.deploy _ json) => .ok { r with command := some (.deploy true json) }
  | "json", some (.deploy dryRun _) => .ok { r with command := some (.deploy dryRun true) }
  | "json", some (.list _) => .ok { r with command := some (.list true) }
  | _, _ => .error ("unexpected argument '--" ++ name ++ "' found")

def readWords : List String → Reading → Except String Request
  | [], r =>
    if r.wantsHelp then .ok (.help (r.command.map Command.name))
    else
      match r.helpTopic, r.command with
      | some topic, _ => .ok (.help (if topic.isEmpty then none else some topic))
      | none, some c => .ok (.run r.settings c)
      | none, none =>
        .error "'wmdeploy' requires a subcommand but one was not provided\n  [subcommands: deploy, list, bundle, help]"
  | word :: rest, r =>
    if word == "-V" || word == "--version" then .ok .version
    else if word == "-h" then readWords rest { r with wantsHelp := true }
    else if word == "-v" then readWords rest { r with settings := { r.settings with verbose := true } }
    else if word.startsWith "--" && word.length > 2 then
      let (name, inline) := splitLong word
      if (valueName name).isSome then
        match inline with
        | some v =>
          match r.setValue name v with
          | .ok r => readWords rest r
          | .error e => .error e
        | none =>
          match rest with
          | v :: more =>
            match r.setValue name v with
            | .ok r => readWords more r
            | .error e => .error e
          | [] => .error (missingValue name)
      else
        match inline with
        | some _ => .error ("unexpected value for '--" ++ name ++ "'")
        | none =>
          match r.withFlag name with
          | .ok r => readWords rest r
          | .error e => .error e
    else if word.startsWith "-o" && word.length > 2 then
      let v := String.ofList (word.toList.drop 2)
      let v := if v.startsWith "=" then String.ofList (v.toList.drop 1) else v
      match r.setValue "out" v with
      | .ok r => readWords rest r
      | .error e => .error e
    else if word == "-o" then
      match rest with
      | v :: more =>
        match r.setValue "out" v with
        | .ok r => readWords more r
        | .error e => .error e
      | [] => .error (missingValue "out")
    else
      match r.helpTopic, r.command, word with
      | some "", _, topic => readWords rest { r with helpTopic := some topic }
      | none, none, "deploy" => readWords rest { r with command := some (.deploy false false) }
      | none, none, "list" => readWords rest { r with command := some (.list false) }
      | none, none, "bundle" => readWords rest { r with command := some (.bundle "scripts_yaml") }
      | none, none, "help" => readWords rest { r with helpTopic := some "" }
      | none, none, _ => .error ("unrecognized subcommand '" ++ word ++ "'")
      | _, _, _ => .error ("unexpected argument '" ++ word ++ "' found")
termination_by words => words.length
decreasing_by all_goals simp only [List.length_cons]; omega

def readArgs (args : List String) : Except String Request := readWords args {}

/-! ## Running a command -/

/-- What a run gives: the lines for standard output and standard error, the exit code and the
file tree afterwards. -/
structure Run where
  out : List String
  err : List String
  code : Nat
  tree : Tree
deriving Inhabited

def errorLines (chain : List String) : List String :=
  match chain with
  | [] => []
  | [e] => ["Error: " ++ e]
  | [e, c] => ["Error: " ++ e, "", "Caused by:", "    " ++ c]
  | e :: causes =>
    ["Error: " ++ e, "", "Caused by:"] ++
      (causes.zipIdx.map fun (c, i) =>
        let n := toString i
        String.ofList (List.replicate (5 - n.length) ' ') ++ n ++ ": " ++ c)

def Settings.withEnv (s : Settings) (env : String → Option String) : Settings :=
  let get (name : String) : Option String := (env name).filter (!·.isEmpty)
  { s with
    token := s.token <|> get "WM_TOKEN"
    baseUrl := s.baseUrl <|> get "WM_BASE_URL"
    workspace := s.workspace <|> get "WM_WORKSPACE"
    scriptsRoot := s.scriptsRoot <|> get "WM_SCRIPTS_ROOT"
    namespaceRoot := s.namespaceRoot <|> get "WM_NAMESPACE_ROOT" }

def Settings.overrides (s : Settings) : Overrides :=
  { token := s.token, baseUrl := s.baseUrl, workspace := s.workspace,
    scriptsRoot := s.scriptsRoot, namespaceRoot := s.namespaceRoot, timeoutSecs := s.timeoutSecs }

def defaultConfigPath (env : String → Option String) : Option String :=
  let dir := match env "XDG_CONFIG_HOME" with
    | some d => if Path.isAbsolute d then some d else (env "HOME").map (Path.join · ".config")
    | none => (env "HOME").map (Path.join · ".config")
  dir.map (Path.join · "wmdeploy/config.yaml")

/-- The configuration file of a run: the one named, or the default one when it is there. -/
def loadConfig (t : Tree) (s : Settings) (env : String → Option String) (cwd : String) :
    Except ConfigError ConfigFile :=
  match s.config with
  | some p => ConfigFile.load p (t.readText (DeployConfig.absolutize cwd p))
  | none =>
    match defaultConfigPath env with
    | some p => if t.hasEntry p then ConfigFile.load p (t.readText p) else .ok {}
    | none => .ok {}

/-- The transport of a run, which has no network: every request fails. -/
def offline : Upload.Transport Unit where
  send _ _ := (.error "no network transport is available", ())

def success (t : Tree) (out : List String) : Run := ⟨out, [], 0, t⟩

def failure (t : Tree) (chain : List String) : Run := ⟨[], errorLines chain, 1, t⟩

def table (header : List String) (rows : List (List String)) : List String :=
  let all := header :: rows
  let widths := header.zipIdx.map fun (_, i) =>
    all.foldl (fun w row => max w ((row.getD i "").length)) 0
  let rule (left mid right : String) : String :=
    left ++ mid.intercalate (widths.map fun w => String.ofList (List.replicate (w + 2) '─')) ++
      right
  let line (row : List String) : String :=
    "│" ++ "│".intercalate (widths.zipIdx.map fun (w, i) =>
      let cell := row.getD i ""
      " " ++ cell ++ String.ofList (List.replicate (w - cell.length) ' ') ++ " ") ++ "│"
  [rule "╭" "┬" "╮", line header, rule "├" "┼" "┤"] ++ rows.map line ++ [rule "╰" "┴" "╯"]

def plannedJson (p : Planned) : Json :=
  .object [("source", .string p.script.source), ("metadata", .string p.script.sidecar),
    ("remote_path", match p.remotePath with
      | .ok r => .string r
      | .error _ => .null),
    ("error", match p.remotePath with
      | .ok _ => .null
      | .error e => .string e.message)]

def list (t : Tree) (c : DeployConfig) (json : Bool) : Run :=
  match plan t c with
  | .error e => failure t (("failed to scan " ++ c.scriptsRoot) :: e.chain)
  | .ok planned =>
    if json then success t [Json.pretty 0 (.array (planned.map plannedJson))]
    else if planned.isEmpty then
      success t ["No deployable scripts under " ++ c.scriptsRoot ++ "."]
    else
      let rows := planned.map fun p =>
        [(Path.stripPrefix? p.script.source c.scriptsRoot).getD p.script.source,
          match p.remotePath with
          | .ok r => r
          | .error e => "error: " ++ e.message]
      success t (table ["source", "remote path"] rows ++
        [toString planned.length ++ " script(s) in workspace '" ++ c.workspace ++ "'"])

/-- The report of a deploy as JSON, without its times. -/
def reportJson (r : Report) : Json :=
  .object [("workspace", .string r.workspace), ("dry_run", .bool r.dryRun),
    ("items", .array (r.items.map fun i =>
      .object [("source_path", .string i.source),
        ("remote_path", match i.remotePath with
          | some p => .string p
          | none => .null),
        ("outcome", i.outcome.toJson)]))]

def signOf : Outcome → String
  | .created => "+"
  | .updated => "↻"
  | .skipped => "~"
  | .failed _ => "✗"

def reportLines (r : Report) : List String :=
  let pre := if r.dryRun then "[dry-run] " else ""
  if r.items.isEmpty then [pre ++ "✓ '" ++ r.workspace ++ "' — nothing to deploy"]
  else
    let verb := if r.dryRun then "planned" else "deployed"
    (pre ++ "✓ '" ++ r.workspace ++ "' " ++ verb ++ " (" ++ toString r.created ++ " created, " ++
      toString r.updated ++ " updated, " ++ toString r.skipped ++ " skipped, " ++
      toString r.failed ++ " failed)") ::
    r.items.map fun i => "  " ++ signOf i.outcome ++ "  " ++ i.remotePath.getD i.source

def failureLines (r : Report) : List String :=
  let failed := r.items.filter (·.outcome.isFailed)
  ("✗ " ++ toString failed.length ++ " script(s) failed:") ::
    failed.filterMap fun i =>
      match i.outcome with
      | .failed reason => some ("  " ++ i.source ++ ": " ++ reason)
      | _ => none

def deployAll (t : Tree) (c : DeployConfig) (dryRun json : Bool) : Run :=
  match deploy t c offline () dryRun with
  | (.error e, _, _) => failure t ("deploy aborted before any script was uploaded" :: e.chain)
  | (.ok r, _, _) =>
    let shown := if json then [Json.pretty 0 (reportJson r)] else reportLines r
    if r.isSuccess then success t shown
    else
      ⟨shown, failureLines r ++
        errorLines [toString r.failed ++ " of " ++ toString r.items.length ++ " script(s) failed"],
        1, t⟩

def bundleAll (t : Tree) (c : DeployConfig) (out cwd : String) : Run :=
  match Bundle.writeAll t c (DeployConfig.absolutize cwd out) with
  | (.error e, t) => failure t (("bundle export to " ++ out ++ " failed") :: e.chain)
  | (.ok done, t) =>
    if done.isEmpty then success t ["No scripts under " ++ c.scriptsRoot ++ "."]
    else
      success t (done.map (fun b => "  ✎  " ++ b.bundle) ++
        ["✓ " ++ toString done.length ++ " bundle(s) written"])

def run (req : Request) (env : String → Option String) (t : Tree) (cwd : String) : Run :=
  match req with
  | .help topic => success t (helpText topic)
  | .version => success t [versionLine]
  | .run s command =>
    let s := s.withEnv env
    match loadConfig t s env cwd with
    | .error e => failure t (e.message :: e.causes)
    | .ok file =>
      let c := DeployConfig.resolve file s.overrides cwd
      match command with
      | .deploy dryRun json => deployAll t c dryRun json
      | .list json => list t c json
      | .bundle out => bundleAll t c out cwd

def usageError (command : Option String) (message : String) : List String :=
  ["error: " ++ message, "", usage command, "", "For more information, try '--help'."]

def main (args : List String) (env : String → Option String) (t : Tree) (cwd : String) :
    Run :=
  match readArgs args with
  | .error e => ⟨[], usageError none e, 2, t⟩
  | .ok req => run req env t cwd

/-! ## File trees as text -/

/-- Adds one entry of a tree's text: a file with its text, or a directory for null. -/
def addEntry (cwd : String) (t : Tree) (entry : Yaml.Value × Yaml.Value) : Except String Tree :=
  match entry.1.asText "a path", entry.2 with
  | .error e, _ => .error e.text
  | .ok p, .null =>
    (t.makeDirAll (DeployConfig.absolutize cwd p)).mapError fun e => p ++ ": " ++ e.text
  | .ok p, v =>
    match v.asText "the text of a file" with
    | .error e => .error (p ++ ": " ++ e.text)
    | .ok text =>
      let path := DeployConfig.absolutize cwd p
      let made := match Path.parent? path with
        | some dir => t.makeDirAll dir
        | none => .ok t
      match made with
      | .error e => .error (p ++ ": " ++ e.text)
      | .ok t =>
        match t.writeFile path text.toUTF8.toList with
        | (.ok (), t) => .ok t
        | (.error e, _) => .error (p ++ ": " ++ e.text)

def treeOf (cwd text : String) : Except String Tree := do
  let t ← (Tree.empty.makeDirAll cwd).mapError (·.text)
  if Text.isBlankText text then return t
  match Yaml.parseWith Yaml.readValue text with
  | .error e => throw e.text
  | .ok .null => return t
  | .ok v =>
    match v.untag with
    | .mapping entries => entries.foldlM (addEntry cwd) t
    | _ => throw "a file tree is a mapping from paths to texts"

/-- The files a run left that differ from those before it, with their texts, as YAML. -/
def changedFiles (before after : Tree) : String :=
  let changed := after.entries.filterMap fun (loc, e) =>
    match e with
    | .file content =>
      if before.get? loc == some e then none
      else
        some ("/" ++ "/".intercalate (loc.map Text.decodeLossy), Text.decodeLossy content)
    | .dir => none
  if changed.isEmpty then "" else Yaml.Emit.mapping changed

end ScriptDeploy.Cli
