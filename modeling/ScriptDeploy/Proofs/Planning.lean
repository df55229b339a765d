import ScriptDeploy.Proofs.DeployRun
import ScriptDeploy.Proofs.InMemoryServer
import Mathlib

/-! # What a plan says about a run

A plan derives each script's remote path on its own; a run derives it while preparing the
script, after loading the sidecar, and uploads under it. Whenever a run reports, the plan of
the same files and settings lists the same scripts in the same order (`plan_matches_deploy`).
Script by script, a remote path in the run's report is the plan's; a script whose path the plan
cannot derive fails in the run without a remote path, with the plan's error unless its sidecar
failed to load first; and every request the run sends for a script carries a payload at the
script's remote path, the update request at the address that ends in the encoded path.
-/

namespace ScriptDeploy

set_option autoImplicit false

open Files Upload

variable {σ : Type}

namespace Threaded

theorem forall₂_map {α β γ : Type} {R : σ → α → β → σ → Prop} {Q : γ → β → Prop}
    (f : α → γ) (hstep : ∀ {s a b s'}, R s a b s' → Q (f a) b) {s s' : σ} {as : List α}
    {bs : List β} (h : Threaded R s as bs s') : List.Forall₂ Q (as.map f) bs := by
  induction h with
  | nil => exact .nil
  | cons hR _ ih => exact .cons (hstep hR) ih

end Threaded

namespace Upload

theorem Upserts.mem_sent {c : Client} {p : Payload} {sent : List Request}
    {answers : List (Except String Response)} {res : Except SyncError Done}
    (h : Upserts c p sent answers res) {r : Request} (hr : r ∈ sent) :
    r = c.createRequest p ∨ r = c.updateRequest p := by
  cases h <;> simp_all

namespace Client

theorem mem_upsert_requests (c : Client) (tr : Transport σ) (s : σ) (p : Payload) {r : Request}
    (hr : r ∈ (c.upsert tr s p).2.2) : r = c.createRequest p ∨ r = c.updateRequest p := by
  obtain ⟨answers, hrun, -⟩ := upsert_follows c tr s p
  exact hrun.mem_sent hr

theorem updateUrl_endsWith (c : Client) (path : String) :
    (c.updateUrl path).endsWith (Text.encodeUriComponent path) = true := by
  rw [endsWith_iff_suffix]
  exact ⟨(c.baseUrl ++ "/w/" ++ c.workspace ++ "/scripts/update/").toList, by simp [updateUrl]⟩

end Client

end Upload

/-! ## Preparing a planned script -/

section Prepare

variable {t : Tree} {c : DeployConfig} {s : Script}

theorem prepare_ok {p : Payload} (hp : (Payload.prepare t c s).2 = .ok p) :
    (∃ m, Metadata.load t s.sidecar s.source = .ok m) ∧ c.remotePathOf s.source = .ok p.path := by
  unfold Payload.prepare at hp
  cases hm : Metadata.load t s.sidecar s.source with
  | error e => simp [hm] at hp
  | ok m =>
    cases hpath : c.remotePathOf s.source with
    | error e => simp [hm, hpath] at hp
    | ok path =>
      cases hread : t.readText s.source with
      | error e => simp [hm, hpath, hread] at hp
      | ok content =>
        simp only [hm, hpath, hread, Except.ok.injEq] at hp
        exact ⟨⟨m, rfl⟩, by rw [← hp]; rfl⟩

theorem prepare_of_remotePathOf_error {e : ScriptError} (he : c.remotePathOf s.source = .error e) :
    (Payload.prepare t c s).2 = .error (match Metadata.load t s.sidecar s.source with
      | .error first => first
      | .ok _ => e) := by
  unfold Payload.prepare
  cases Metadata.load t s.sidecar s.source <;> simp [he]

end Prepare

/-! ## A run against its plan -/

/-- How a run's report of a planned script, and the requests the run sent for it, match the
plan. -/
structure MatchesPlan (t : Tree) (c : DeployConfig) (planned : Planned)
    (step : ItemReport × List Request) : Prop where
  source : step.1.source = planned.script.source
  remotePath : ∀ path, step.1.remotePath = some path → planned.remotePath = .ok path
  unplaced : ∀ e, planned.remotePath = .error e → step.1.remotePath = none ∧
    step.1.outcome = .failed (match Metadata.load t planned.script.sidecar planned.script.source with
      | .error first => first
      | .ok _ => e).message
  requests : ∀ r ∈ step.2, ∃ path, step.1.remotePath = some path ∧ r.body.path = path ∧
    c.token = some r.token ∧
    (r.url = (Client.mk c.baseUrl c.workspace r.token).createUrl ∨
      (r.url = (Client.mk c.baseUrl c.workspace r.token).updateUrl path ∧
        r.url.endsWith (Text.encodeUriComponent path) = true))

theorem Handles.matchesPlan {t : Tree} {c : DeployConfig} {dryRun : Bool} {tr : Transport σ}
    {st st' : σ} {s : Script} {out : ItemReport × List Request}
    (hsend : dryRun = true ∨ c.token.isSome = true) (h : Handles t c dryRun tr st s out st') :
    MatchesPlan t c ⟨s, c.remotePathOf s.source⟩ out := by
  refine ⟨h.source, fun path hpath => ((h.remotePath path).mp hpath).2, ?_, ?_⟩
  · intro e he
    have hnone : out.1.remotePath = none := by
      cases hrp : out.1.remotePath with
      | none => rfl
      | some path =>
        have hderived := ((h.remotePath path).mp hrp).2
        simp only at he
        rw [hderived] at he
        cases he
    exact ⟨hnone, (h.unprepared _ (prepare_of_remotePathOf_error he)).1⟩
  · intro r hr
    cases hp : (Payload.prepare t c s).2 with
    | error e =>
      rw [(h.unprepared e hp).2.1] at hr
      cases hr
    | ok p =>
      obtain ⟨hloaded, hderived⟩ := prepare_ok hp
      have hrp : out.1.remotePath = some p.path := (h.remotePath p.path).mpr ⟨hloaded, hderived⟩
      cases dryRun with
      | true =>
        rw [(h.skipped p hp rfl).2.1] at hr
        cases hr
      | false =>
        -- a run that sends has the token, and the requests are those of one upload of `p`
        obtain ⟨token, htoken⟩ := Option.isSome_iff_exists.mp (hsend.resolve_left (by simp))
        obtain ⟨res, hup, -⟩ := h.uploaded p token hp rfl htoken
        have hsent : out.2 = (Client.upsert ⟨c.baseUrl, c.workspace, token⟩ tr st p).2.2 := by
          rw [hup]
        rw [hsent] at hr
        refine ⟨p.path, hrp, ?_⟩
        rcases Client.mem_upsert_requests _ tr st p hr with rfl | rfl
        · exact ⟨rfl, htoken, .inl rfl⟩
        · exact ⟨rfl, htoken, .inr ⟨rfl, Client.updateUrl_endsWith _ _⟩⟩

theorem MatchesPlan.sources_eq {t : Tree} {c : DeployConfig} {planned : List Planned}
    {steps : List (ItemReport × List Request)} (h : List.Forall₂ (MatchesPlan t c) planned steps) :
    planned.map (·.script.source) = steps.map (·.1.source) := by
  induction h with
  | nil => rfl
  | cons hstep _ ih => simp [hstep.source, ih]

/-- Whenever a run reports, the plan of the same files and settings lists the scripts of the
report in its order, and each script's line of the report, with the requests sent for it,
matches its line of the plan. -/
theorem plan_matches_deploy (t : Tree) (c : DeployConfig) (tr : Transport σ) (st : σ)
    (dryRun : Bool) {report : Report} {st' : σ} {sent : List Request}
    (hrun : deploy t c tr st dryRun = (.ok report, st', sent)) :
    ∃ planned steps, plan t c = .ok planned ∧
      planned.map (·.script.source) = report.items.map (·.source) ∧
      report.items = steps.map Prod.fst ∧ sent = steps.flatMap Prod.snd ∧
      List.Forall₂ (MatchesPlan t c) planned steps := by
  rcases deploy_cases t c tr st dryRun with ⟨e, hdeploy, -⟩ |
    ⟨scripts, report', steps, st'', hsend, hfound, hdeploy, -, -, hitems, hthreaded, -, -⟩
  · rw [hdeploy] at hrun
    simp at hrun
  · rw [hdeploy] at hrun
    simp only [Prod.mk.injEq, Except.ok.injEq] at hrun
    obtain ⟨rfl, -, rfl⟩ := hrun
    have hall := hthreaded.forall₂_map (fun s => (⟨s, c.remotePathOf s.source⟩ : Planned))
      fun hR => hR.matchesPlan hsend
    refine ⟨_, steps, by simp [plan, hfound], ?_, hitems, rfl, hall⟩
    rw [MatchesPlan.sources_eq hall, hitems, List.map_map]
    rfl

theorem singleScript_dryRun : deploy singleScript sampleConfig scripted [] true =
    (.ok ⟨"admins", true, [⟨"/f/s/y.py", some "u/admin/f/s/y", .skipped⟩]⟩, [], []) := by
  cbv

theorem singleScript_discover_twice : Discovery.discover singleScript twiceConfig =
    .ok [⟨"/f/s/y.py", "/f/s/y.s"⟩, ⟨"/f/s/y.py", "/f/s/y.s"⟩] := by
  cbv

theorem singleScript_deploy_twice :
    deploy singleScript twiceConfig server [] false =
      (.ok ⟨twiceConfig.workspace, false, (deployScripts singleScript twiceConfig
          (some ⟨twiceConfig.baseUrl, twiceConfig.workspace, "tok"⟩) server []
          [⟨"/f/s/y.py", "/f/s/y.s"⟩, ⟨"/f/s/y.py", "/f/s/y.s"⟩]).1⟩,
        (deployScripts singleScript twiceConfig (some ⟨twiceConfig.baseUrl, twiceConfig.workspace, "tok"⟩)
          server [] [⟨"/f/s/y.py", "/f/s/y.s"⟩, ⟨"/f/s/y.py", "/f/s/y.s"⟩]).2.1,
        (deployScripts singleScript twiceConfig (some ⟨twiceConfig.baseUrl, twiceConfig.workspace, "tok"⟩)
          server [] [⟨"/f/s/y.py", "/f/s/y.s"⟩, ⟨"/f/s/y.py", "/f/s/y.s"⟩]).2.2) := by
  rw [deploy_of_client singleScript twiceConfig server [] false (client?_of_token rfl),
    singleScript_discover_twice]

/-- A dry run of the sample tree on a scripted transport, and a run that sends, against the
in-memory server, over its script found twice. -/
theorem plan_matches_deploy_dry_run :
    (deploy singleScript sampleConfig scripted [] true =
        (.ok ⟨"admins", true, [⟨"/f/s/y.py", some "u/admin/f/s/y", .skipped⟩]⟩, [], []) ∧
      ∃ planned steps, plan singleScript sampleConfig = .ok planned ∧
        planned.map (·.script.source) =
          [(⟨"/f/s/y.py", some "u/admin/f/s/y", .skipped⟩ : ItemReport)].map (·.source) ∧
        [(⟨"/f/s/y.py", some "u/admin/f/s/y", .skipped⟩ : ItemReport)] = steps.map Prod.fst ∧
        ([] : List Request) = steps.flatMap Prod.snd ∧
        List.Forall₂ (MatchesPlan singleScript sampleConfig) planned steps) ∧
    ∃ report st' sent, deploy singleScript twiceConfig server [] false = (.ok report, st', sent) ∧
      ∃ planned steps, plan singleScript twiceConfig = .ok planned ∧
        planned.map (·.script) = [⟨"/f/s/y.py", "/f/s/y.s"⟩, ⟨"/f/s/y.py", "/f/s/y.s"⟩] ∧
        planned.map (·.script.source) = report.items.map (·.source) ∧
        report.items = steps.map Prod.fst ∧ sent = steps.flatMap Prod.snd ∧
        List.Forall₂ (MatchesPlan singleScript twiceConfig) planned steps := by
  refine ⟨⟨singleScript_dryRun, plan_matches_deploy _ _ scripted [] true singleScript_dryRun⟩, ?_⟩
  obtain ⟨planned, steps, hplan, hrest⟩ :=
    plan_matches_deploy _ _ server [] false singleScript_deploy_twice
  have hscripts : planned.map (·.script) = [⟨"/f/s/y.py", "/f/s/y.s"⟩, ⟨"/f/s/y.py", "/f/s/y.s"⟩] := by
    rw [plan, singleScript_discover_twice] at hplan
    cases hplan
    rfl
  exact ⟨_, _, _, singleScript_deploy_twice, planned, steps, hplan, hscripts, hrest⟩

end ScriptDeploy
