import ScriptDeploy.Proofs.UploadProtocol
import ScriptDeploy.Upload.Transport

/-! # Uploads against the in-memory server

The in-memory server tells requests apart by their address alone: one that ends in
`/scripts/create` may conflict, any other overwrites. The protocol relies on the two addresses
being told apart correctly. The create address always has that ending. The update address
never has it, whatever the API base, the workspace and the path: the encoded path holds no
`/`, so the address ends in `/update/` and the encoded path, and never in `/scripts/create`.
With the conflict answer recognised as one, an upload against the server is a plain store
of the payload at its path (`upsert_server`), created when the path was new and updated
otherwise.

Uploading payloads one after another therefore leaves the store of the last payload at each
path, and every upload succeeds, with one request for a new path and two for a known one
(`upsertEach_server`).
-/

namespace ScriptDeploy

set_option autoImplicit false

namespace Text

theorem hexDigitUpper_ne_slash : ∀ n, n < 16 → hexDigitUpper n ≠ '/' := by
  decide

theorem slash_not_mem_encodeByte (b : UInt8) : '/' ∉ (encodeByte b).toList := by
  unfold encodeByte
  split
  case isTrue hb =>
    -- a byte kept as itself is a letter, a digit or one of the marks, none of them `/`
    intro h
    simp only [Char.toString, String.toList_singleton, List.mem_singleton] at h
    unfold isUnreserved at hb
    simp [← h] at hb
  case isFalse =>
    have hhi : b.toNat / 16 < 16 := by
      have := b.toNat_lt
      omega
    have hlo : b.toNat % 16 < 16 := Nat.mod_lt _ (by decide)
    simp only [String.toList_ofList, List.mem_cons, List.not_mem_nil, or_false, not_or]
    exact ⟨by decide, (hexDigitUpper_ne_slash _ hhi).symm, (hexDigitUpper_ne_slash _ hlo).symm⟩

theorem slash_not_mem_encodeUriComponent (s : String) : '/' ∉ (encodeUriComponent s).toList := by
  simp only [encodeUriComponent, String.toList_join, List.mem_flatMap, List.mem_map, not_exists,
    not_and]
  rintro _ ⟨b, -, rfl⟩
  exact slash_not_mem_encodeByte b

end Text

theorem eq_of_append_slash {P Q F E : List Char} (hF : '/' ∉ F) (hE : '/' ∉ E)
    (h : P ++ '/' :: F = Q ++ '/' :: E) : P = Q ∧ F = E := by
  induction P generalizing Q with
  | nil =>
    cases Q with
    | nil => simpa using h
    | cons q Q =>
      simp only [List.nil_append, List.cons_append, List.cons.injEq] at h
      obtain ⟨-, rfl⟩ := h
      simp at hF
  | cons p P ih =>
    cases Q with
    | nil =>
      simp only [List.cons_append, List.nil_append, List.cons.injEq] at h
      obtain ⟨-, rfl⟩ := h
      simp at hE
    | cons q Q =>
      simp only [List.cons_append, List.cons.injEq] at h
      obtain ⟨rfl, h⟩ := h
      obtain ⟨rfl, rfl⟩ := ih h
      exact ⟨rfl, rfl⟩

theorem endsWith_iff_suffix (s t : String) : s.endsWith t = true ↔ t.toList <:+ s.toList := by
  rw [String.endsWith_eq_endsWith_toSlice, String.Slice.endsWith_string_iff]
  simp

namespace Upload

namespace Client

theorem createUrl_endsWith (c : Client) : c.createUrl.endsWith "/scripts/create" = true := by
  rw [endsWith_iff_suffix]
  exact ⟨(c.baseUrl ++ "/w/" ++ c.workspace).toList, by simp [createUrl]⟩

theorem updateUrl_not_endsWith (c : Client) (path : String) :
    (c.updateUrl path).endsWith "/scripts/create" = false := by
  rw [Bool.eq_false_iff, ne_eq, endsWith_iff_suffix]
  rintro ⟨T, hT⟩
  have hurl : (c.updateUrl path).toList = (c.baseUrl ++ "/w/" ++ c.workspace).toList ++
      "/scripts/update".toList ++ '/' :: (Text.encodeUriComponent path).toList := by
    simp [updateUrl]
  have hcreate : "/scripts/create".toList = "/scripts".toList ++ '/' :: "create".toList := by
    simp
  rw [hurl, hcreate, ← List.append_assoc] at hT
  -- the parts after the last `/` agree, so what precedes it must end in both `/scripts` and
  -- `/scripts/update`
  obtain ⟨hpre, -⟩ := eq_of_append_slash (by simp) (Text.slash_not_mem_encodeUriComponent path) hT
  generalize (c.baseUrl ++ "/w/" ++ c.workspace).toList = U at hpre
  have hlast := congrArg List.getLast? hpre
  rw [List.getLast?_append, List.getLast?_append] at hlast
  simp at hlast

end Client

namespace Store

theorem lookup_map_replace (st : Store) (p : Payload) (path : String) :
    (st.map fun e => if e.1 == p.path then (p.path, p) else e).lookup path =
      (st.lookup path).map fun q => if p.path = path then p else q := by
  induction st with
  | nil => rfl
  | cons e st ih =>
    obtain ⟨k, v⟩ := e
    by_cases hk : k = p.path
    · subst hk
      by_cases hpath : path = p.path
      · subst hpath
        simp
      · have hb : (path == p.path) = false := beq_eq_false_iff_ne.mpr hpath
        simp only [List.map_cons, beq_self_eq_true, if_true, List.lookup_cons, hb]
        exact ih
    · have hkb : (k == p.path) = false := beq_eq_false_iff_ne.mpr hk
      by_cases hpath : path = k
      · subst hpath
        simp [hk, Ne.symm hk]
      · have hb : (path == k) = false := beq_eq_false_iff_ne.mpr hpath
        simp only [List.map_cons, hkb, Bool.false_eq_true, if_false, List.lookup_cons, hb]
        exact ih

theorem holds_eq_isSome (st : Store) (path : String) : st.holds path = (st.lookup path).isSome := by
  rw [Bool.eq_iff_iff, List.lookup_isSome_iff]
  simp only [holds, List.any_eq_true, beq_iff_eq]
  constructor <;> rintro ⟨e, he, h⟩ <;> exact ⟨e, he, h.symm⟩

theorem lookup_put (st : Store) (p : Payload) (path : String) :
    (st.put p).lookup path = if p.path = path then some p else st.lookup path := by
  unfold put
  split
  case isTrue hany =>
    rw [lookup_map_replace]
    by_cases hpath : p.path = path
    · subst hpath
      have hsome : (st.lookup p.path).isSome = true := by
        rw [← holds_eq_isSome]
        exact hany
      obtain ⟨q, hq⟩ := Option.isSome_iff_exists.mp hsome
      simp [hq]
    · simp [hpath]
  case isFalse hany =>
    have hnone : st.lookup p.path = none := by
      rw [← Option.not_isSome_iff_eq_none, ← holds_eq_isSome]
      exact hany
    by_cases hpath : p.path = path
    · subst hpath
      simp [List.lookup_append, hnone]
    · have hb : (path == p.path) = false := beq_eq_false_iff_ne.mpr (Ne.symm hpath)
      simp only [List.lookup_append, List.lookup_cons, hb, List.lookup_nil, Option.or_none,
        if_neg hpath]

theorem lookup_foldl_put (st : Store) (ps : List Payload) (path : String) :
    (ps.foldl put st).lookup path =
      ((ps.filter (·.path == path)).getLast?).or (st.lookup path) := by
  induction ps generalizing st with
  | nil => simp
  | cons p ps ih =>
    rw [List.foldl_cons, ih, lookup_put]
    by_cases hpath : p.path = path
    · cases h : (ps.filter (·.path == path)).getLast? <;> simp [hpath, h, List.getLast?_cons]
    · simp [hpath]

end Store

theorem classify_conflictAnswer :
    classify { status := 400, body := "Path conflict: script already exists" } = .conflict := by
  decide +kernel

namespace Client

variable {c : Client}

/-- Against the in-memory server an upload stores the payload at its path: it creates the
script with one request when the path is new, and updates it with two when the path is known. -/
theorem upsert_server (c : Client) (st : Store) (p : Payload) :
    c.upsert server st p = if st.holds p.path
      then (.ok .updated, st.put p, [c.createRequest p, c.updateRequest p])
      else (.ok .created, st.put p, [c.createRequest p]) := by
  have hcreate : server.send st (c.createRequest p) = if st.holds p.path
      then (.ok { status := 400, body := "Path conflict: script already exists" }, st)
      else (.ok { status := 201, body := p.path }, st.put p) := by
    simp only [server, Store.answer, createRequest, createUrl_endsWith, if_true]
    split <;> rfl
  by_cases hheld : st.holds p.path
  · rw [if_pos hheld] at hcreate
    have hupdate : server.send st (c.updateRequest p) =
        (.ok { status := 200, body := p.path }, st.put p) := by
      simp only [server, Store.answer, updateRequest, updateUrl_not_endsWith]
      rfl
    rw [upsert_of_update_answered hcreate classify_conflictAnswer hupdate, if_pos hheld]
    rfl
  · rw [if_neg hheld] at hcreate
    rw [upsert_of_created hcreate ((classify_eq_created_iff _).mpr ⟨by simp, by simp⟩),
      if_neg hheld]

theorem upsert_server_state (st : Store) (p : Payload) : (c.upsert server st p).2.1 = st.put p := by
  rw [upsert_server]
  split <;> rfl

theorem upsert_server_outcome (st : Store) (p : Payload) :
    ((c.upsert server st p).1, (c.upsert server st p).2.2) = if st.holds p.path
      then (.ok .updated, [c.createRequest p, c.updateRequest p])
      else (.ok .created, [c.createRequest p]) := by
  rw [upsert_server]
  by_cases hheld : st.holds p.path <;> simp [hheld]

def upsertEach {σ : Type} (c : Client) (tr : Transport σ) :
    σ → List Payload → List (Except SyncError Done × List Request) × σ
  | s, [] => ([], s)
  | s, p :: ps =>
    let (r, s, sent) := c.upsert tr s p
    let (rs, s) := c.upsertEach tr s ps
    ((r, sent) :: rs, s)

theorem upsertEach_nil {σ : Type} (tr : Transport σ) (s : σ) : c.upsertEach tr s [] = ([], s) :=
  rfl

theorem upsertEach_cons {σ : Type} (tr : Transport σ) (s : σ) (p : Payload) (ps : List Payload) :
    c.upsertEach tr s (p :: ps) =
      (((c.upsert tr s p).1, (c.upsert tr s p).2.2) ::
        (c.upsertEach tr (c.upsert tr s p).2.1 ps).1,
      (c.upsertEach tr (c.upsert tr s p).2.1 ps).2) :=
  rfl

theorem upsertEach_server_state (st : Store) (ps : List Payload) :
    (c.upsertEach server st ps).2 = ps.foldl Store.put st := by
  induction ps generalizing st with
  | nil => rfl
  | cons p ps ih =>
    rw [upsertEach_cons, List.foldl_cons, ← upsert_server_state, ← ih]

theorem upsertEach_server_outcomes (st : Store) (ps : List Payload) :
    (c.upsertEach server st ps).1 = ps.mapIdx fun k p =>
      if ((ps.take k).foldl Store.put st).holds p.path
      then (.ok .updated, [c.createRequest p, c.updateRequest p])
      else (.ok .created, [c.createRequest p]) := by
  induction ps generalizing st with
  | nil => rfl
  | cons q ps ih =>
    -- the first upload starts from `st`, each later one from the store after `q`
    rw [upsertEach_cons, upsert_server_outcome, upsert_server_state, ih, List.mapIdx_cons]
    simp only [List.take_zero, List.foldl_nil, List.take_succ_cons, List.foldl_cons]
    rfl

/-- Uploading payloads in turn against the in-memory server, from any store, refines storing
them: the server ends with the last payload at each path and every other entry unchanged.
Every upload succeeds; the `k`-th creates its script with one request exactly when its path is
not held by the store the uploads before it left, and otherwise updates it with the create
and the update request of that payload. -/
theorem upsertEach_server (c : Client) (S : Store) (ps : List Payload) :
    (c.upsertEach server S ps).2 = ps.foldl Store.put S ∧
    (∀ path, (c.upsertEach server S ps).2.lookup path =
      ((ps.filter (·.path == path)).getLast?).or (S.lookup path)) ∧
    (c.upsertEach server S ps).1 = ps.mapIdx fun k p =>
      if ((c.upsertEach server S (ps.take k)).2.lookup p.path).isSome
      then (.ok .updated, [c.createRequest p, c.updateRequest p])
      else (.ok .created, [c.createRequest p]) := by
  refine ⟨upsertEach_server_state S ps, ?_, ?_⟩
  · intro path
    rw [upsertEach_server_state, Store.lookup_foldl_put]
  · simp only [upsertEach_server_outcomes, upsertEach_server_state, Store.holds_eq_isSome]

end Client

end Upload

end ScriptDeploy
