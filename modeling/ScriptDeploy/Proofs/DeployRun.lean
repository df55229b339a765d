import ScriptDeploy.Deploy
import ScriptDeploy.Proofs.UploadProtocol
import ScriptDeploy.Upload.Transport

/-! # What a deploy run does

A run either stops before touching any script, with the missing token or the folder that could
not be listed, and then sends nothing; or it reports every script ready to deploy, in the order
of discovery. `Handles` says what the run does with one script, from the transport's state
before it to the state after it; `Threaded` strings these steps together, so that each script
is handled from the state the scripts before it left and a script that fails changes nothing
for those after it (`deploy_cases`).

A dry run and a run that sends, over the same files, discover the same scripts and prepare
each in the same way. They report the same sources and remote paths, a script that cannot be
prepared fails in both with the same message and costs the real run no request, and a script
that a dry run skips is uploaded once by the real run (`deploy_dryRun_mirrors`).
-/

namespace ScriptDeploy

set_option autoImplicit false

open Files Upload

variable {σ : Type}

/-! ## Preparation and the run's client -/

theorem prepare_remotePath_eq_some_iff (t : Tree) (c : DeployConfig) (s : Script)
    (path : String) : (Payload.prepare t c s).1 = some path ↔
      (∃ m, Metadata.load t s.sidecar s.source = .ok m) ∧ c.remotePathOf s.source = .ok path := by
  unfold Payload.prepare
  cases hm : Metadata.load t s.sidecar s.source with
  | error e => simp
  | ok m =>
    cases hp : c.remotePathOf s.source with
    | error e => simp
    | ok derived =>
      cases t.readText s.source <;> simp

theorem client?_dryRun (c : DeployConfig) : c.client? true = .ok none := rfl

theorem client?_of_token {c : DeployConfig} {token : String} (h : c.token = some token) :
    c.client? false = .ok (some { baseUrl := c.baseUrl, workspace := c.workspace, token }) := by
  simp [DeployConfig.client?, DeployConfig.requireToken, h]

theorem client?_missing_token {c : DeployConfig} (h : c.token = none) :
    c.client? false = .error (.config .missingCredential) := by
  simp [DeployConfig.client?, DeployConfig.requireToken, h]

/-! ## One script -/

section Script

variable {t : Tree} {c : DeployConfig} {tr : Transport σ} {st : σ} {s : Script}
  {remotePath : Option String}

theorem deployScript_of_unprepared {client : Option Client} {e : ScriptError}
    (h : Payload.prepare t c s = (remotePath, .error e)) :
    deployScript t c client tr st s = (⟨s.source, remotePath, .failed e.message⟩, st, []) := by
  simp only [deployScript, h]

theorem deployScript_of_dryRun {p : Payload} (h : Payload.prepare t c s = (remotePath, .ok p)) :
    deployScript t c none tr st s = (⟨s.source, remotePath, .skipped⟩, st, []) := by
  simp only [deployScript, h]

theorem deployScript_of_client {p : Payload} {cl : Client}
    (h : Payload.prepare t c s = (remotePath, .ok p)) :
    deployScript t c (some cl) tr st s =
      (⟨s.source, remotePath, Outcome.ofUpload (cl.upsert tr st p).1⟩,
        (cl.upsert tr st p).2.1, (cl.upsert tr st p).2.2) := by
  simp only [deployScript, h]

end Script

/-- What a run does with one script, from the transport's state `st` to `st'`. The report names
the script's source and has a remote path exactly when the sidecar loaded and the path was
derived. A script that cannot be prepared fails with the message of the preparation's error,
and a dry run skips a prepared one, both without a request; a run that sends uploads the
prepared payload once, with a client holding the run's token, and reports what the upload
gave. -/
structure Handles (t : Tree) (c : DeployConfig) (dryRun : Bool) (tr : Transport σ) (st : σ)
    (s : Script) (out : ItemReport × List Request) (st' : σ) : Prop where
  source : out.1.source = s.source
  remotePath : ∀ path, out.1.remotePath = some path ↔
    (∃ m, Metadata.load t s.sidecar s.source = .ok m) ∧ c.remotePathOf s.source = .ok path
  unprepared : ∀ e, (Payload.prepare t c s).2 = .error e →
    out.1.outcome = .failed e.message ∧ out.2 = [] ∧ st' = st
  skipped : ∀ p, (Payload.prepare t c s).2 = .ok p → dryRun = true →
    out.1.outcome = .skipped ∧ out.2 = [] ∧ st' = st
  uploaded : ∀ p token, (Payload.prepare t c s).2 = .ok p → dryRun = false →
    c.token = some token →
    ∃ r, ({ baseUrl := c.baseUrl, workspace := c.workspace, token } : Client).upsert tr st p =
      (r, st', out.2) ∧ out.1.outcome = Outcome.ofUpload r

theorem deployScript_handles {t : Tree} {c : DeployConfig} {dryRun : Bool}
    {client : Option Client} (hclient : c.client? dryRun = .ok client) (tr : Transport σ) (st : σ)
    (s : Script) :
    Handles t c dryRun tr st s ((deployScript t c client tr st s).1,
      (deployScript t c client tr st s).2.2) (deployScript t c client tr st s).2.1 := by
  have hpath := prepare_remotePath_eq_some_iff t c s
  rcases hprep : Payload.prepare t c s with ⟨remotePath, _ | p⟩
  case error e =>
    rw [deployScript_of_unprepared hprep]
    rw [hprep] at hpath
    refine ⟨rfl, hpath, ?_, ?_, ?_⟩
    · intro e' he'
      rw [hprep] at he'
      cases he'
      exact ⟨rfl, rfl, rfl⟩
    · intro p hp
      simp [hprep] at hp
    · intro p token hp
      simp [hprep] at hp
  case ok =>
    rw [hprep] at hpath
    have hunprepared : ∀ e, (Payload.prepare t c s).2 ≠ .error e := by simp [hprep]
    cases dryRun with
    | true =>
      cases hclient
      rw [deployScript_of_dryRun hprep]
      refine ⟨rfl, hpath, fun e he => absurd he (hunprepared e), fun _ _ _ => ⟨rfl, rfl, rfl⟩, ?_⟩
      intro _ _ _ hdry
      cases hdry
    | false =>
      cases htoken : c.token with
      | none => simp [client?_missing_token htoken] at hclient
      | some token =>
        rw [client?_of_token htoken] at hclient
        cases hclient
        rw [deployScript_of_client hprep]
        refine ⟨rfl, hpath, fun e he => absurd he (hunprepared e), ?_, ?_⟩
        · intro _ _ hdry
          cases hdry
        · intro p' token' hp' _ htoken'
          rw [hprep] at hp'
          cases hp'
          cases htoken.symm.trans htoken'
          exact ⟨_, rfl, rfl⟩

/-! ## The scripts of a run, in order -/

theorem deployScripts_handles {t : Tree} {c : DeployConfig} {dryRun : Bool}
    {client : Option Client} (hclient : c.client? dryRun = .ok client) (tr : Transport σ)
    (st : σ) (scripts : List Script) :
    ∃ steps, Threaded (Handles t c dryRun tr) st scripts steps
        (deployScripts t c client tr st scripts).2.1 ∧
      (deployScripts t c client tr st scripts).1 = steps.map Prod.fst ∧
      (deployScripts t c client tr st scripts).2.2 = steps.flatMap Prod.snd := by
  induction scripts generalizing st with
  | nil => exact ⟨[], .nil st, rfl, rfl⟩
  | cons s rest ih =>
    -- the rest of the scripts start from the state this one left
    obtain ⟨steps, hrun, hitems, hsent⟩ := ih (deployScript t c client tr st s).2.1
    refine ⟨_ :: steps, .cons (deployScript_handles hclient tr st s) hrun, ?_, ?_⟩
    · simp only [deployScripts, hitems, List.map_cons]
    · simp only [deployScripts, hsent, List.flatMap_cons]

/-! ## The counts of a report -/

@[simp] theorem Outcome.isFailed_failed (reason : String) :
    (Outcome.failed reason).isFailed = true :=
  rfl

@[simp] theorem Outcome.isFailed_created : Outcome.created.isFailed = false := rfl

@[simp] theorem Outcome.isFailed_updated : Outcome.updated.isFailed = false := rfl

@[simp] theorem Outcome.isFailed_skipped : Outcome.skipped.isFailed = false := rfl

theorem Report.counts_partition (r : Report) :
    r.created + r.updated + r.skipped + r.failed = r.items.length := by
  obtain ⟨workspace, dryRun, items⟩ := r
  simp only [Report.created, Report.updated, Report.skipped, Report.failed, Report.count]
  induction items with
  | nil => rfl
  | cons i items ih =>
    cases h : i.outcome <;> simp [h] <;> omega

theorem Report.isSuccess_iff (r : Report) : r.isSuccess = true ↔ r.failed = 0 := by
  simp [Report.isSuccess, Report.failed, Report.count, List.filter_eq_nil_iff]

/-! ## A run -/

section Run

variable (t : Tree) (c : DeployConfig) (tr : Transport σ) (st : σ) (dryRun : Bool)

theorem deploy_of_missing_token (hdry : dryRun = false) (htoken : c.token = none) :
    deploy t c tr st dryRun = (.error (.config .missingCredential), st, []) := by
  subst hdry
  simp only [deploy, client?_missing_token htoken]

theorem deploy_of_client {client : Option Client} (hclient : c.client? dryRun = .ok client) :
    deploy t c tr st dryRun = match Discovery.discover t c with
      | .error e => (.error e, st, [])
      | .ok scripts =>
        (.ok ⟨c.workspace, dryRun, (deployScripts t c client tr st scripts).1⟩,
          (deployScripts t c client tr st scripts).2.1,
          (deployScripts t c client tr st scripts).2.2) := by
  cases hfound : Discovery.discover t c <;> simp [deploy, hclient, hfound]

theorem client?_ok_iff : (∃ client, c.client? dryRun = .ok client) ↔
    dryRun = true ∨ c.token.isSome = true := by
  cases dryRun with
  | true => exact ⟨fun _ => .inl rfl, fun _ => ⟨none, rfl⟩⟩
  | false =>
    cases htoken : c.token with
    | none => simp [client?_missing_token htoken]
    | some token => simp [client?_of_token htoken]

/-- A deploy run does one of two things. It stops with an error and sends nothing: the
missing token when the run sends and has none, checked before anything else, and otherwise
the error of discovery. Or it reports exactly the discovered scripts, in order, each handled
from the transport's state the scripts before it left, with the requests of all of them in
that order; its counts split the scripts, and it succeeds exactly when none failed. -/
theorem deploy_cases :
    (∃ e, deploy t c tr st dryRun = (.error e, st, []) ∧
      ((dryRun = false ∧ c.token = none ∧ e = .config .missingCredential) ∨
        ((dryRun = true ∨ c.token.isSome = true) ∧ Discovery.discover t c = .error e))) ∨
    (∃ scripts report steps st', (dryRun = true ∨ c.token.isSome = true) ∧
      Discovery.discover t c = .ok scripts ∧
      deploy t c tr st dryRun = (.ok report, st', steps.flatMap Prod.snd) ∧
      report.workspace = c.workspace ∧ report.dryRun = dryRun ∧
      report.items = steps.map Prod.fst ∧
      Threaded (Handles t c dryRun tr) st scripts steps st' ∧
      report.created + report.updated + report.skipped + report.failed = report.items.length ∧
      (report.isSuccess = true ↔ report.failed = 0)) := by
  by_cases hclient : dryRun = true ∨ c.token.isSome = true
  · obtain ⟨client, hok⟩ := (client?_ok_iff c dryRun).mpr hclient
    rw [deploy_of_client t c tr st dryRun hok]
    cases hfound : Discovery.discover t c with
    | error e => exact .inl ⟨e, rfl, .inr ⟨hclient, rfl⟩⟩
    | ok scripts =>
      obtain ⟨steps, hrun, hitems, hsent⟩ := deployScripts_handles hok tr st scripts
      refine .inr ⟨scripts, ⟨c.workspace, dryRun, (deployScripts t c client tr st scripts).1⟩,
        steps, _, hclient, rfl, ?_, rfl, rfl, hitems, hrun, Report.counts_partition _,
        Report.isSuccess_iff _⟩
      simp only [hsent]
  · -- a run that sends without a token stops at once
    simp only [not_or, Bool.not_eq_true, Option.isSome_eq_false_iff, Option.isNone_iff_eq_none]
      at hclient
    obtain ⟨hdry, htoken⟩ := hclient
    exact .inl ⟨_, deploy_of_missing_token t c tr st dryRun hdry htoken, .inl ⟨hdry, htoken, rfl⟩⟩

end Run

/-! ## A dry run against a run that sends -/

theorem Outcome.isFailed_eq_true_iff (o : Outcome) :
    o.isFailed = true ↔ ∃ reason, o = .failed reason := by
  cases o <;> simp

/-- How a run that sends treats one script next to a dry run, from the transport's state `st`
to `st'`: `out` holds the dry run's report, the real run's report and the real run's requests.
Both report the same source and remote path. A failure of the dry run is the same failure in
the real run, which sends nothing for it; a script the dry run skips is one upload of its
prepared payload, which creates it, updates it, or fails with a refusal or an unanswered
request. A dry run does nothing else. -/
structure Mirrors (t : Tree) (c : DeployConfig) (cl : Client) (tr : Transport σ) (st : σ)
    (s : Script) (out : ItemReport × ItemReport × List Request) (st' : σ) : Prop where
  source : out.2.1.source = out.1.source
  remotePath : out.2.1.remotePath = out.1.remotePath
  failed : ∀ reason, out.1.outcome = .failed reason →
    out.2.1.outcome = .failed reason ∧ out.2.2 = [] ∧ st' = st
  skipped : out.1.outcome = .skipped → ∃ p r, (Payload.prepare t c s).2 = .ok p ∧
    cl.upsert tr st p = (r, st', out.2.2) ∧
    (out.2.1.outcome = .created ∨ out.2.1.outcome = .updated ∨
      ∃ e : SyncError, out.2.1.outcome = .failed e.message ∧
        ((∃ url m, e = .transport url m) ∨
          ∃ path stage status body, e = .rejected path stage status body))
  dry : out.1.outcome = .skipped ∨ ∃ reason, out.1.outcome = .failed reason

theorem deployScript_mirrors (t : Tree) (c : DeployConfig) (cl : Client) (tr : Transport σ)
    (sd st : σ) (s : Script) :
    (deployScript t c none tr sd s).2 = (sd, []) ∧
    Mirrors t c cl tr st s ((deployScript t c none tr sd s).1,
      (deployScript t c (some cl) tr st s).1, (deployScript t c (some cl) tr st s).2.2)
      (deployScript t c (some cl) tr st s).2.1 := by
  rcases hprep : Payload.prepare t c s with ⟨remotePath, _ | p⟩
  case error e =>
    rw [deployScript_of_unprepared hprep, deployScript_of_unprepared hprep]
    refine ⟨rfl, rfl, rfl, ?_, fun h => (by cases h), .inr ⟨_, rfl⟩⟩
    intro reason h
    cases h
    exact ⟨rfl, rfl, rfl⟩
  case ok =>
    rw [deployScript_of_dryRun hprep, deployScript_of_client hprep]
    refine ⟨rfl, rfl, rfl, fun _ h => (by cases h), fun _ => ?_, .inl rfl⟩
    refine ⟨p, _, by rw [hprep], rfl, ?_⟩
    -- what the upload gave decides the real run's outcome
    cases hup : (cl.upsert tr st p).1 with
    | ok done => cases done <;> simp [Outcome.ofUpload]
    | error e => exact .inr (.inr ⟨e, rfl, Client.upsert_error_cases hup⟩)

theorem deployScripts_mirrors (t : Tree) (c : DeployConfig) (cl : Client) (tr : Transport σ)
    (sd st : σ) (scripts : List Script) :
    (deployScripts t c none tr sd scripts).2 = (sd, []) ∧
    ∃ steps, Threaded (Mirrors t c cl tr) st scripts steps
        (deployScripts t c (some cl) tr st scripts).2.1 ∧
      (deployScripts t c none tr sd scripts).1 = steps.map (·.1) ∧
      (deployScripts t c (some cl) tr st scripts).1 = steps.map (·.2.1) ∧
      (deployScripts t c (some cl) tr st scripts).2.2 = steps.flatMap (·.2.2) := by
  induction scripts generalizing sd st with
  | nil => exact ⟨rfl, [], .nil st, rfl, rfl, rfl⟩
  | cons s rest ih =>
    obtain ⟨hdry, hstep⟩ := deployScript_mirrors t c cl tr sd st s
    have hdryState : (deployScript t c none tr sd s).2.1 = sd := congrArg Prod.fst hdry
    have hdrySent : (deployScript t c none tr sd s).2.2 = [] := congrArg Prod.snd hdry
    -- the dry run goes on from `sd`, the real run from the state this script left
    obtain ⟨hdryRest, steps, hrun, hitemsDry, hitemsReal, hsent⟩ :=
      ih sd (deployScript t c (some cl) tr st s).2.1
    refine ⟨?_, _ :: steps, .cons hstep hrun, ?_, ?_, ?_⟩
    · simp only [deployScripts, hdryState, hdrySent, hdryRest, List.nil_append]
    · simp only [deployScripts, hdryState, hitemsDry, List.map_cons]
    · simp only [deployScripts, hitemsReal, List.map_cons]
    · simp only [deployScripts, hsent, List.flatMap_cons]

theorem any_failed_of_mirrors {t : Tree} {c : DeployConfig} {cl : Client} {tr : Transport σ}
    {st st' : σ} {scripts : List Script} {steps : List (ItemReport × ItemReport × List Request)}
    (hrun : Threaded (Mirrors t c cl tr) st scripts steps st')
    (h : (steps.map (·.1)).any (·.outcome.isFailed) = true) :
    (steps.map (·.2.1)).any (·.outcome.isFailed) = true := by
  simp only [List.any_map, List.any_eq_true, Function.comp_apply] at h ⊢
  obtain ⟨x, hx, hfailed⟩ := h
  obtain ⟨s₁, script, s₂, hmirror⟩ := hrun.exists_step_of_mem hx
  obtain ⟨reason, hreason⟩ := (Outcome.isFailed_eq_true_iff _).mp hfailed
  exact ⟨x, hx, (Outcome.isFailed_eq_true_iff _).mpr ⟨reason, (hmirror.failed reason hreason).1⟩⟩

/-- Over the same files and from the same transport state, a dry run never touches the
transport, and a run that sends, with a token, either fails with the same error as the dry run
without a request, or reports the same discovered scripts. Script by script, the two reports
agree on source and remote path, the real run fails exactly where the dry run fails, with the
same reason and no request, and uploads once each script the dry run skips, threading the
transport through the scripts in order. So the real run succeeds only if the dry run does. -/
theorem deploy_dryRun_mirrors (t : Tree) (c : DeployConfig) (tr : Transport σ) (st : σ)
    (token : String) (htoken : c.token = some token) :
    (deploy t c tr st true).2 = (st, []) ∧
    ((∃ e, (deploy t c tr st true).1 = .error e ∧ deploy t c tr st false = (.error e, st, [])) ∨
      (∃ scripts dry real steps, Discovery.discover t c = .ok scripts ∧
        (deploy t c tr st true).1 = .ok dry ∧ (deploy t c tr st false).1 = .ok real ∧
        dry.items = steps.map (·.1) ∧ real.items = steps.map (·.2.1) ∧
        (deploy t c tr st false).2.2 = steps.flatMap (·.2.2) ∧
        Threaded (Mirrors t c ⟨c.baseUrl, c.workspace, token⟩ tr) st scripts steps
          (deploy t c tr st false).2.1 ∧
        (real.isSuccess = true → dry.isSuccess = true))) := by
  rw [deploy_of_client t c tr st true (client?_dryRun c),
    deploy_of_client t c tr st false (client?_of_token htoken)]
  cases Discovery.discover t c with
  | error e => exact ⟨rfl, .inl ⟨e, rfl, rfl⟩⟩
  | ok scripts =>
    obtain ⟨hsilent, steps, hrun, hitemsDry, hitemsReal, hsent⟩ :=
      deployScripts_mirrors t c ⟨c.baseUrl, c.workspace, token⟩ tr st st scripts
    refine ⟨by simp only [hsilent], .inr ⟨scripts, _, _, steps, rfl, rfl, rfl, hitemsDry,
      hitemsReal, hsent, hrun, ?_⟩⟩
    simp only [Report.isSuccess, hitemsDry, hitemsReal, Bool.not_eq_true']
    intro hreal
    cases hdry : (steps.map (·.1)).any (·.outcome.isFailed)
    · rfl
    · rw [any_failed_of_mirrors hrun hdry] at hreal
      cases hreal

/-! ## A sample tree -/

def sampleConfig : DeployConfig :=
  { DeployConfig.resolve {} {} "/" with
    scriptsRoot := "/f", namespaceRoot := "/", folders := ["s"], metadataSuffix := ".s" }

def singleScript : Tree where
  entries := [
    (["f"].map (·.toUTF8.toList), .dir), (["f", "s"].map (·.toUTF8.toList), .dir),
    (["f", "s", "y.py"].map (·.toUTF8.toList), .file "a".toUTF8.toList),
    (["f", "s", "y.s"].map (·.toUTF8.toList), .file [])]

def tokenConfig : DeployConfig := { sampleConfig with token := some "tok" }

/-- The sample settings with a token, scanning the folder `s` twice: its script is found twice,
with one remote path. -/
def twiceConfig : DeployConfig := { tokenConfig with folders := ["s", "s"] }

theorem deploy_dryRun_mirrors_with_token :
    tokenConfig.token = some "tok" ∧
    (deploy singleScript tokenConfig server [] true).2 = ([], []) ∧
    ((∃ e, (deploy singleScript tokenConfig server [] true).1 = .error e ∧
        deploy singleScript tokenConfig server [] false = (.error e, [], [])) ∨
      (∃ scripts dry real steps, Discovery.discover singleScript tokenConfig = .ok scripts ∧
        (deploy singleScript tokenConfig server [] true).1 = .ok dry ∧
        (deploy singleScript tokenConfig server [] false).1 = .ok real ∧
        dry.items = steps.map (·.1) ∧ real.items = steps.map (·.2.1) ∧
        (deploy singleScript tokenConfig server [] false).2.2 = steps.flatMap (·.2.2) ∧
        Threaded (Mirrors singleScript tokenConfig
            ⟨tokenConfig.baseUrl, tokenConfig.workspace, "tok"⟩ server)
          [] scripts steps (deploy singleScript tokenConfig server [] false).2.1 ∧
        (real.isSuccess = true → dry.isSuccess = true))) :=
  ⟨rfl, deploy_dryRun_mirrors singleScript tokenConfig server [] "tok" rfl⟩

end ScriptDeploy
