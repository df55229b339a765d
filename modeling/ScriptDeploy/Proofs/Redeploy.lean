import ScriptDeploy.Proofs.DeployRun
import ScriptDeploy.Proofs.InMemoryServer

/-! # Deploying again against the in-memory server

The in-memory server stores in place: storing at a path it holds rewrites every entry at that
path and keeps the entries in their order. Once a list of payloads has been stored, every entry
whose path one of them names holds the last of those, so storing the same list a second time
changes nothing (`foldl_put_foldl_put`), whatever the store held before and however often a
path repeats in the list.

A run that sends uploads exactly the payloads its scripts prepare, in order, and preparing reads
only the files. A second run over the same files therefore prepares the same payloads and finds
every path held: each of its uploads updates, the store is left as the first run left it, and
its report is the first one with every created script updated (`deploy_server_again`).
-/

namespace ScriptDeploy

set_option autoImplicit false

open Files Upload

namespace Upload.Store

variable {st : Store} {p : Payload} {ps : List Payload} {e : String × Payload}

theorem holds_put (st : Store) (p : Payload) (path : String) :
    (st.put p).holds path = (p.path == path || st.holds path) := by
  rw [holds_eq_isSome, holds_eq_isSome, lookup_put]
  by_cases hpath : p.path = path <;> simp [hpath]

theorem holds_foldl_put (st : Store) {q : Payload} (hq : q ∈ ps) :
    (ps.foldl put st).holds q.path = true := by
  rw [holds_eq_isSome, lookup_foldl_put]
  have hne : ps.filter (·.path == q.path) ≠ [] :=
    List.ne_nil_of_mem (List.mem_filter.mpr ⟨hq, by simp⟩)
  cases hlast : (ps.filter (·.path == q.path)).getLast? with
  | none => exact absurd (List.getLast?_eq_none_iff.mp hlast) hne
  | some r => rfl

theorem put_of_holds (h : st.holds p.path = true) :
    st.put p = st.map fun e => if e.1 == p.path then (p.path, p) else e := by
  unfold put
  exact if_pos h

theorem mem_put (he : e ∈ st.put p) : e = (p.path, p) ∨ (e ∈ st ∧ e.1 ≠ p.path) := by
  unfold put at he
  split at he
  case isTrue =>
    obtain ⟨e', he', rfl⟩ := List.mem_map.mp he
    by_cases hkey : e'.1 = p.path
    · exact .inl (by simp [hkey])
    · exact .inr ⟨by simpa [hkey] using he', by simp [hkey]⟩
  case isFalse hfresh =>
    rcases List.mem_append.mp he with he | he
    · refine .inr ⟨he, ?_⟩
      rintro hkey
      exact hfresh (List.any_eq_true.mpr ⟨e, he, by simp [hkey]⟩)
    · exact .inl (List.mem_singleton.mp he)

theorem mem_of_mem_foldl_put (he : e ∈ ps.foldl put st) (hfresh : ∀ q ∈ ps, q.path ≠ e.1) :
    e ∈ st := by
  induction ps generalizing st with
  | nil => exact he
  | cons p ps ih =>
    have hst : e ∈ st.put p := ih he fun q hq => hfresh q (List.mem_cons_of_mem p hq)
    rcases mem_put hst with rfl | ⟨hmem, -⟩
    · exact absurd rfl (hfresh _ List.mem_cons_self)
    · exact hmem

/-- An entry as storing a list of payloads in turn leaves it, when its path is held: the last
payload of the list at its path, or the entry itself when none is. -/
def latest (ps : List Payload) (e : String × Payload) : String × Payload :=
  match (ps.filter (·.path == e.1)).getLast? with
  | some q => (e.1, q)
  | none => e

theorem latest_nil (e : String × Payload) : latest [] e = e := rfl

theorem latest_cons (p : Payload) (ps : List Payload) (e : String × Payload) :
    latest (p :: ps) e = latest ps (if e.1 == p.path then (p.path, p) else e) := by
  by_cases hkey : e.1 = p.path
  · obtain ⟨path, q⟩ := e
    simp only at hkey
    subst hkey
    have hfilter : (p :: ps).filter (·.path == p.path) = p :: ps.filter (·.path == p.path) := by
      simp
    simp only [beq_self_eq_true, if_true]
    unfold latest
    rw [hfilter, List.getLast?_cons]
    cases (ps.filter (·.path == p.path)).getLast? <;> rfl
  · have hskip : (p.path == e.1) = false := beq_eq_false_iff_ne.mpr (Ne.symm hkey)
    have hfilter : (p :: ps).filter (·.path == e.1) = ps.filter (·.path == e.1) := by
      simp [hskip]
    simp only [beq_eq_false_iff_ne.mpr hkey, Bool.false_eq_true, if_false]
    unfold latest
    rw [hfilter]

theorem foldl_put_of_holds (hheld : ∀ q ∈ ps, st.holds q.path = true) :
    ps.foldl put st = st.map (latest ps) := by
  induction ps generalizing st with
  | nil =>
    have hid : latest [] = id := funext latest_nil
    simp [hid]
  | cons p ps ih =>
    have hheld' : ∀ q ∈ ps, (st.put p).holds q.path = true := by
      intro q hq
      simp [holds_put, hheld q (List.mem_cons_of_mem p hq)]
    rw [List.foldl_cons, ih hheld', put_of_holds (hheld p List.mem_cons_self), List.map_map]
    apply List.map_congr_left
    intro e _
    rw [Function.comp_apply, latest_cons]

theorem latest_of_mem_foldl_put (he : e ∈ ps.foldl put st) : latest ps e = e := by
  induction ps generalizing st with
  | nil => rfl
  | cons p ps ih =>
    have hlater := ih he
    rw [latest_cons]
    by_cases hkey : e.1 = p.path
    · rw [if_pos (by simpa using hkey)]
      cases hlast : (ps.filter (·.path == e.1)).getLast? with
      | some q =>
        -- a later payload at the same path decides both entries
        have hq : latest ps e = (e.1, q) := by simp [latest, hlast]
        simp only [latest, ← hkey, hlast]
        exact hq.symm.trans hlater
      | none =>
        -- no later payload has the path, so the entry is the one `p` stored
        have hfresh : ∀ q ∈ ps, q.path ≠ e.1 := by
          intro q hq hpath
          have hmem : q ∈ ps.filter (·.path == e.1) := List.mem_filter.mpr ⟨hq, by simp [hpath]⟩
          simp [List.getLast?_eq_none_iff.mp hlast] at hmem
        rcases mem_put (mem_of_mem_foldl_put he hfresh) with rfl | ⟨-, hne⟩
        · simp [latest, hlast]
        · exact absurd hkey hne
    · rw [if_neg (by simpa using hkey)]
      exact hlater

theorem foldl_put_foldl_put (st : Store) (ps : List Payload) :
    ps.foldl put (ps.foldl put st) = ps.foldl put st := by
  calc ps.foldl put (ps.foldl put st)
      = (ps.foldl put st).map (latest ps) :=
        foldl_put_of_holds fun q hq => holds_foldl_put st hq
    _ = (ps.foldl put st).map id := List.map_congr_left fun e he => latest_of_mem_foldl_put he
    _ = ps.foldl put st := List.map_id _

end Upload.Store

/-! ## Runs against the server -/

def preparedPayloads (t : Tree) (c : DeployConfig) (scripts : List Script) : List Payload :=
  scripts.filterMap fun s => (Payload.prepare t c s).2.toOption

/-- The outcome of a script deployed once more: what was created is now updated. -/
def Outcome.again : Outcome → Outcome
  | .created => .updated
  | o => o

def ItemReport.again (i : ItemReport) : ItemReport := { i with outcome := i.outcome.again }

section Server

variable (t : Tree) (c : DeployConfig) (cl : Client)

theorem ofUpload_upsert_server (st : Store) (p : Payload) :
    Outcome.ofUpload (cl.upsert server st p).1 = if st.holds p.path then .updated else .created := by
  rw [Client.upsert_server]
  by_cases hheld : st.holds p.path <;> simp [hheld, Outcome.ofUpload]

theorem deployScripts_server_state (st : Store) (scripts : List Script) :
    (deployScripts t c (some cl) server st scripts).2.1 =
      (preparedPayloads t c scripts).foldl Store.put st := by
  induction scripts generalizing st with
  | nil => rfl
  | cons s rest ih =>
    rcases hprep : Payload.prepare t c s with ⟨remotePath, _ | p⟩
    case error e =>
      have hpayloads : preparedPayloads t c (s :: rest) = preparedPayloads t c rest := by
        simp [preparedPayloads, hprep, Except.toOption]
      simp only [deployScripts, deployScript_of_unprepared hprep, hpayloads, ih]
    case ok =>
      have hpayloads : preparedPayloads t c (s :: rest) = p :: preparedPayloads t c rest := by
        simp [preparedPayloads, hprep, Except.toOption]
      simp only [deployScripts, deployScript_of_client hprep, Client.upsert_server_state, hpayloads,
        List.foldl_cons, ih]

theorem deployScripts_server_again (scripts : List Script) (st held : Store)
    (hheld : ∀ p ∈ preparedPayloads t c scripts, held.holds p.path = true) :
    (deployScripts t c (some cl) server held scripts).1 =
      (deployScripts t c (some cl) server st scripts).1.map ItemReport.again := by
  induction scripts generalizing st held with
  | nil => rfl
  | cons s rest ih =>
    rcases hprep : Payload.prepare t c s with ⟨remotePath, _ | p⟩
    case error e =>
      have hrest : ∀ q ∈ preparedPayloads t c rest, held.holds q.path = true := by
        intro q hq
        exact hheld q (by simpa [preparedPayloads, hprep, Except.toOption] using hq)
      simp only [deployScripts, deployScript_of_unprepared hprep, List.map_cons, ih st held hrest]
      rfl
    case ok =>
      have hpayloads : preparedPayloads t c (s :: rest) = p :: preparedPayloads t c rest := by
        simp [preparedPayloads, hprep, Except.toOption]
      rw [hpayloads] at hheld
      have hp : held.holds p.path = true := hheld p List.mem_cons_self
      -- the held store keeps every path after `p` is stored again
      have hrest : ∀ q ∈ preparedPayloads t c rest, (held.put p).holds q.path = true := by
        intro q hq
        simp [Store.holds_put, hheld q (List.mem_cons_of_mem p hq)]
      simp only [deployScripts, deployScript_of_client hprep, Client.upsert_server_state,
        List.map_cons, ih (st.put p) (held.put p) hrest, ofUpload_upsert_server, hp]
      by_cases hfirst : st.holds p.path <;> simp [hfirst, ItemReport.again, Outcome.again]

end Server

/-- Deploying twice over the same files against the in-memory server converges. The second run,
from the store the first one left, leaves that store as it is, and it stops with the first
run's error or reports the first run's scripts with the same sources, remote paths and failures,
each script the first run created now updated. -/
theorem deploy_server_again (t : Tree) (c : DeployConfig) (st : Store) (token : String)
    (htoken : c.token = some token) :
    (deploy t c server (deploy t c server st false).2.1 false).2.1 =
        (deploy t c server st false).2.1 ∧
      (deploy t c server (deploy t c server st false).2.1 false).1 =
        (fun r => { r with items := r.items.map ItemReport.again }) <$>
          (deploy t c server st false).1 := by
  have hclient := client?_of_token htoken
  cases hfound : Discovery.discover t c with
  | error e =>
    have hrun : ∀ s, deploy t c server s false = (.error e, s, []) := fun s => by
      rw [deploy_of_client t c server s false hclient, hfound]
    simp only [hrun]
    exact ⟨trivial, rfl⟩
  | ok scripts =>
    have hrun : ∀ s, deploy t c server s false =
        (.ok ⟨c.workspace, false, (deployScripts t c (some ⟨c.baseUrl, c.workspace, token⟩) server s
            scripts).1⟩,
          (deployScripts t c (some ⟨c.baseUrl, c.workspace, token⟩) server s scripts).2.1,
          (deployScripts t c (some ⟨c.baseUrl, c.workspace, token⟩) server s scripts).2.2) :=
      fun s => by rw [deploy_of_client t c server s false hclient, hfound]
    refine ⟨by simp only [hrun, deployScripts_server_state, Store.foldl_put_foldl_put], ?_⟩
    have hheld : ∀ p ∈ preparedPayloads t c scripts,
        (deployScripts t c (some ⟨c.baseUrl, c.workspace, token⟩) server st scripts).2.1.holds
          p.path = true := by
      intro p hp
      rw [deployScripts_server_state]
      exact Store.holds_foldl_put st hp
    simp only [hrun, deployScripts_server_again t c _ scripts st _ hheld]
    rfl

theorem deploy_server_again_with_token :
    twiceConfig.token = some "tok" ∧
    (deploy singleScript twiceConfig server (deploy singleScript twiceConfig server [] false).2.1
        false).2.1 = (deploy singleScript twiceConfig server [] false).2.1 ∧
    (deploy singleScript twiceConfig server (deploy singleScript twiceConfig server [] false).2.1
        false).1 =
      (fun r => { r with items := r.items.map ItemReport.again }) <$>
        (deploy singleScript twiceConfig server [] false).1 :=
  ⟨rfl, deploy_server_again singleScript twiceConfig [] "tok" rfl⟩

end ScriptDeploy
