import ScriptDeploy.Upload.Client

/-! # The upload protocol as a relation

One upload is a short exchange with the transport: a create request, then an update request
only when the create answer says that the path is taken. `Upserts` lists the six ways this
exchange can go, each with its requests, the answers they got and the result. `Threaded`
says that steps were taken in turn, each from the state the previous one left; for a
transport, that it gave those answers to those requests in that order.

The upload function is exactly the protocol (`upsert_eq_iff`): whatever the transport and
its state, it makes one of these exchanges and nothing else, and every such exchange is what
it does. A request that is missing or repeated would move the transport's state, so it would
show in every later upload through the same transport.
-/

namespace ScriptDeploy

set_option autoImplicit false

variable {σ : Type}

/-- Steps taken in order, each from the state the previous one left: `R s a b s'` says that
the step for `a` gives `b` and takes the state from `s` to `s'`. -/
inductive Threaded {α β : Type} (R : σ → α → β → σ → Prop) : σ → List α → List β → σ → Prop
  | nil (s : σ) : Threaded R s [] [] s
  | cons {s s₁ s₂ : σ} {a : α} {b : β} {as : List α} {bs : List β} :
      R s a b s₁ → Threaded R s₁ as bs s₂ → Threaded R s (a :: as) (b :: bs) s₂

namespace Threaded

variable {α β : Type} {R : σ → α → β → σ → Prop}

theorem exists_step_of_mem {s s' : σ} {as : List α} {bs : List β} (h : Threaded R s as bs s')
    {b : β} (hb : b ∈ bs) : ∃ s₁ a s₂, R s₁ a b s₂ := by
  induction h with
  | nil => cases hb
  | cons hstep _ ih =>
    rcases List.mem_cons.mp hb with rfl | hb
    · exact ⟨_, _, _, hstep⟩
    · exact ih hb

theorem singleton_iff {s s' : σ} {a : α} {b : β} : Threaded R s [a] [b] s' ↔ R s a b s' := by
  constructor
  · intro h
    cases h with
    | cons hstep hrest =>
      cases hrest
      exact hstep
  · intro h
    exact .cons h (.nil s')

theorem pair_iff {s s' : σ} {a₁ a₂ : α} {b₁ b₂ : β} :
    Threaded R s [a₁, a₂] [b₁, b₂] s' ↔ ∃ s₁, R s a₁ b₁ s₁ ∧ R s₁ a₂ b₂ s' := by
  constructor
  · intro h
    cases h with
    | cons hstep hrest => exact ⟨_, hstep, singleton_iff.mp hrest⟩
  · rintro ⟨s₁, h₁, h₂⟩
    exact .cons h₁ (.cons h₂ (.nil s'))

end Threaded

namespace Upload

def Transport.Answers (tr : Transport σ) (s : σ) (requests : List Request)
    (answers : List (Except String Response)) (s' : σ) : Prop :=
  Threaded (fun s req ans s' => tr.send s req = (ans, s')) s requests answers s'

theorem isSuccess_iff (r : Response) : r.isSuccess = true ↔ 200 ≤ r.status ∧ r.status < 300 := by
  simp [Response.isSuccess]

theorem classify_eq_created_iff (r : Response) :
    classify r = .created ↔ 200 ≤ r.status ∧ r.status < 300 := by
  rw [← isSuccess_iff]
  unfold classify
  split
  · simp_all
  · split <;> simp_all

theorem classify_eq_rejected {r : Response} (hs : ¬ (200 ≤ r.status ∧ r.status < 300))
    (hc : classify r ≠ .conflict) : classify r = .rejected r.status r.body := by
  rw [← isSuccess_iff] at hs
  unfold classify at hc ⊢
  split <;> simp_all

theorem classify_rejected_fields {r : Response} {status : Nat} {body : String}
    (h : classify r = .rejected status body) : status = r.status ∧ body = r.body := by
  unfold classify at h
  split at h
  · cases h
  · split at h
    · cases h
    · cases h
      exact ⟨rfl, rfl⟩

namespace Client

def createRequest (c : Client) (p : Payload) : Request :=
  { url := c.createUrl, token := c.token, body := p }

def updateRequest (c : Client) (p : Payload) : Request :=
  { url := c.updateUrl p.path, token := c.token, body := p }

variable {c : Client} {tr : Transport σ} {s s₁ s₂ : σ} {p : Payload} {r r' : Response}

theorem upsert_of_create_unanswered {m : String}
    (h : tr.send s (c.createRequest p) = (.error m, s₁)) :
    c.upsert tr s p = (.error (.transport c.createUrl m), s₁, [c.createRequest p]) := by
  simp only [createRequest] at h
  simp only [upsert, send, h]
  rfl

theorem upsert_of_created (h : tr.send s (c.createRequest p) = (.ok r, s₁))
    (hc : classify r = .created) :
    c.upsert tr s p = (.ok .created, s₁, [c.createRequest p]) := by
  simp only [createRequest] at h
  simp only [upsert, send, h, hc]
  rfl

theorem upsert_of_create_rejected {status : Nat} {body : String}
    (h : tr.send s (c.createRequest p) = (.ok r, s₁)) (hc : classify r = .rejected status body) :
    c.upsert tr s p = (.error (.rejected p.path .create status body), s₁, [c.createRequest p]) := by
  simp only [createRequest] at h
  simp only [upsert, send, h, hc]
  rfl

theorem upsert_of_update_unanswered {m : String}
    (h : tr.send s (c.createRequest p) = (.ok r, s₁)) (hc : classify r = .conflict)
    (h₂ : tr.send s₁ (c.updateRequest p) = (.error m, s₂)) :
    c.upsert tr s p = (.error (.transport (c.updateUrl p.path) m), s₂,
      [c.createRequest p, c.updateRequest p]) := by
  simp only [createRequest] at h
  simp only [updateRequest] at h₂
  simp only [upsert, send, h, hc, h₂]
  rfl

theorem upsert_of_update_answered (h : tr.send s (c.createRequest p) = (.ok r, s₁))
    (hc : classify r = .conflict) (h₂ : tr.send s₁ (c.updateRequest p) = (.ok r', s₂)) :
    c.upsert tr s p = (if r'.isSuccess then .ok .updated
      else .error (.rejected p.path .update r'.status r'.body), s₂,
      [c.createRequest p, c.updateRequest p]) := by
  simp only [createRequest] at h
  simp only [updateRequest] at h₂
  simp only [upsert, send, h, hc, h₂]
  split <;> rfl

end Client

/-- The runs of the protocol for one upload of `p`: the requests sent, the answers they got
and the result. A create answered with a success creates; a conflict leads to exactly one
update of the same body at the path's address; every other answer, and a request that got no
answer, ends the upload with an error naming its stage or its address. -/
inductive Upserts (c : Client) (p : Payload) :
    List Request → List (Except String Response) → Except SyncError Done → Prop
  | created {r : Response} : 200 ≤ r.status → r.status < 300 →
      Upserts c p [c.createRequest p] [.ok r] (.ok .created)
  | createUnanswered (m : String) :
      Upserts c p [c.createRequest p] [.error m] (.error (.transport c.createUrl m))
  | createRefused {r : Response} : ¬ (200 ≤ r.status ∧ r.status < 300) →
      classify r ≠ .conflict →
      Upserts c p [c.createRequest p] [.ok r] (.error (.rejected p.path .create r.status r.body))
  | updated {r r' : Response} : classify r = .conflict → 200 ≤ r'.status → r'.status < 300 →
      Upserts c p [c.createRequest p, c.updateRequest p] [.ok r, .ok r'] (.ok .updated)
  | updateUnanswered {r : Response} (m : String) : classify r = .conflict →
      Upserts c p [c.createRequest p, c.updateRequest p] [.ok r, .error m]
        (.error (.transport (c.updateUrl p.path) m))
  | updateRefused {r r' : Response} : classify r = .conflict →
      ¬ (200 ≤ r'.status ∧ r'.status < 300) →
      Upserts c p [c.createRequest p, c.updateRequest p] [.ok r, .ok r']
        (.error (.rejected p.path .update r'.status r'.body))

theorem Upserts.error_cases {c : Client} {p : Payload} {sent : List Request}
    {answers : List (Except String Response)} {e : SyncError}
    (h : Upserts c p sent answers (.error e)) :
    (∃ url m, e = .transport url m) ∨
      (∃ path stage status body, e = .rejected path stage status body) := by
  cases h with
  | createUnanswered m => exact .inl ⟨_, m, rfl⟩
  | createRefused => exact .inr ⟨_, _, _, _, rfl⟩
  | updateUnanswered m => exact .inl ⟨_, m, rfl⟩
  | updateRefused => exact .inr ⟨_, _, _, _, rfl⟩

namespace Client

variable {c : Client} {tr : Transport σ} {s : σ} {p : Payload}

theorem upsert_follows (c : Client) (tr : Transport σ) (s : σ) (p : Payload) :
    ∃ answers, Upserts c p (c.upsert tr s p).2.2 answers (c.upsert tr s p).1 ∧
      tr.Answers s (c.upsert tr s p).2.2 answers (c.upsert tr s p).2.1 := by
  rcases h : tr.send s (c.createRequest p) with ⟨_ | r, s₁⟩
  case error m =>
    rw [upsert_of_create_unanswered h]
    exact ⟨_, .createUnanswered m, Threaded.singleton_iff.mpr h⟩
  case ok =>
    cases hc : classify r with
    | created =>
      rw [upsert_of_created h hc]
      obtain ⟨hlo, hhi⟩ := (classify_eq_created_iff r).mp hc
      exact ⟨_, .created hlo hhi, Threaded.singleton_iff.mpr h⟩
    | rejected status body =>
      rw [upsert_of_create_rejected h hc]
      obtain ⟨rfl, rfl⟩ := classify_rejected_fields hc
      have hs : ¬ (200 ≤ r.status ∧ r.status < 300) := by
        rw [← classify_eq_created_iff, hc]
        simp
      exact ⟨_, .createRefused hs (by simp [hc]), Threaded.singleton_iff.mpr h⟩
    | conflict =>
      rcases h₂ : tr.send s₁ (c.updateRequest p) with ⟨_ | r', s₂⟩
      case error m =>
        rw [upsert_of_update_unanswered h hc h₂]
        exact ⟨_, .updateUnanswered m hc, Threaded.pair_iff.mpr ⟨s₁, h, h₂⟩⟩
      case ok =>
        rw [upsert_of_update_answered h hc h₂]
        by_cases hs : r'.isSuccess
        · obtain ⟨hlo, hhi⟩ := (isSuccess_iff r').mp hs
          rw [if_pos hs]
          exact ⟨_, .updated hc hlo hhi, Threaded.pair_iff.mpr ⟨s₁, h, h₂⟩⟩
        · have hs' : ¬ (200 ≤ r'.status ∧ r'.status < 300) := by rwa [← isSuccess_iff]
          rw [if_neg hs]
          exact ⟨_, .updateRefused hc hs', Threaded.pair_iff.mpr ⟨s₁, h, h₂⟩⟩

theorem upsert_of_upserts {sent : List Request} {answers : List (Except String Response)}
    {res : Except SyncError Done} {s' : σ} (hrun : Upserts c p sent answers res)
    (hans : tr.Answers s sent answers s') : c.upsert tr s p = (res, s', sent) := by
  cases hrun with
  | created hlo hhi =>
    exact upsert_of_created (Threaded.singleton_iff.mp hans)
      ((classify_eq_created_iff _).mpr ⟨hlo, hhi⟩)
  | createUnanswered m => exact upsert_of_create_unanswered (Threaded.singleton_iff.mp hans)
  | createRefused hs hc =>
    exact upsert_of_create_rejected (Threaded.singleton_iff.mp hans) (classify_eq_rejected hs hc)
  | updated hc hlo hhi =>
    obtain ⟨s₁, h, h₂⟩ := Threaded.pair_iff.mp hans
    rw [upsert_of_update_answered h hc h₂, if_pos ((isSuccess_iff _).mpr ⟨hlo, hhi⟩)]
  | updateUnanswered m hc =>
    obtain ⟨s₁, h, h₂⟩ := Threaded.pair_iff.mp hans
    exact upsert_of_update_unanswered h hc h₂
  | updateRefused hc hs =>
    obtain ⟨s₁, h, h₂⟩ := Threaded.pair_iff.mp hans
    rw [upsert_of_update_answered h hc h₂, if_neg (by rwa [isSuccess_iff])]

theorem upsert_error_cases {e : SyncError} (h : (c.upsert tr s p).1 = .error e) :
    (∃ url m, e = .transport url m) ∨
      (∃ path stage status body, e = .rejected path stage status body) := by
  obtain ⟨answers, hrun, -⟩ := upsert_follows c tr s p
  rw [h] at hrun
  exact hrun.error_cases

/-- An upload is exactly a run of the protocol: it gives a result, a new transport state and
its requests precisely when some answers of the transport to those requests, sent in turn,
make a run of the protocol with that result. -/
theorem upsert_eq_iff (c : Client) (tr : Transport σ) (s : σ) (p : Payload)
    (res : Except SyncError Done) (s' : σ) (sent : List Request) :
    c.upsert tr s p = (res, s', sent) ↔
      ∃ answers, Upserts c p sent answers res ∧ tr.Answers s sent answers s' := by
  constructor
  · intro h
    obtain ⟨answers, hrun, hans⟩ := upsert_follows c tr s p
    rw [h] at hrun hans
    exact ⟨answers, hrun, hans⟩
  · rintro ⟨answers, hrun, hans⟩
    exact upsert_of_upserts hrun hans

end Client

end Upload

end ScriptDeploy
