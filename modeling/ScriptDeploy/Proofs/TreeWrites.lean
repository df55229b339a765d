import ScriptDeploy.Proofs.Scan

/-! # What a write leaves in a file tree

Writing a file, moving one and removing one change the entry at one or two locations and leave
every other entry as it was (`get?_set`, `get?_erase`). None of them makes or removes a
directory (`SameDirs`), and a walk only looks at which locations are directories; so every path
that led somewhere still leads to the same place afterwards (`locate_of_sameDirs`), and a file
whose location was not touched reads the same (`readText_of_sameDirs`).

A name joined onto a directory path lands right below the place the directory path leads to
(`locate_join_eq_ok`): two different names joined onto one directory are two different places,
whatever the directory path looks like (`location_join_ne`).
-/

namespace ScriptDeploy

set_option autoImplicit false

open Files

namespace Files.Tree

variable {t t' t'' : Tree}

/-! ## Entries after a change -/

theorem get?_nil (t : Tree) : t.get? [] = some .dir := rfl

theorem get?_of_ne_nil {l : Location} (hl : l ≠ []) : t.get? l = t.entries.lookup l := by
  simp [get?, List.isEmpty_iff, hl]

theorem ne_nil_of_get?_ne_dir {l : Location} (h : t.get? l ≠ some .dir) : l ≠ [] := by
  rintro rfl
  exact h rfl

theorem lookup_map_keep {α β : Type} [BEq α] [LawfulBEq α] {g : α × β → α × β} (hg : ∀ p, (g p).1 = p.1)
    {l : α} (hl : ∀ p : α × β, p.1 = l → g p = p) (es : List (α × β)) :
    (es.map g).lookup l = es.lookup l := by
  induction es with
  | nil => rfl
  | cons p ps ih =>
    obtain ⟨k, v⟩ := p
    by_cases hk : k = l
    · rw [List.map_cons, hl (k, v) hk]
      subst hk
      rw [List.lookup_cons_self, List.lookup_cons_self]
    · have hgkv : g (k, v) = (k, (g (k, v)).2) := Prod.ext (hg _) rfl
      have hbeq : (l == k) = false := beq_eq_false_iff_ne.mpr (Ne.symm hk)
      rw [List.map_cons, hgkv, List.lookup_cons, List.lookup_cons, hbeq]
      exact ih

theorem lookup_map_set {α β : Type} [BEq α] [LawfulBEq α] {g : α × β → α × β} (hg : ∀ p, (g p).1 = p.1)
    {l : α} {b : β} (hl : ∀ p : α × β, p.1 = l → g p = (l, b)) {es : List (α × β)}
    (hmem : ∃ p ∈ es, p.1 = l) : (es.map g).lookup l = some b := by
  induction es with
  | nil => simp at hmem
  | cons p ps ih =>
    obtain ⟨k, v⟩ := p
    by_cases hk : k = l
    · rw [List.map_cons, hl (k, v) hk, List.lookup_cons_self]
    · have hgkv : g (k, v) = (k, (g (k, v)).2) := Prod.ext (hg _) rfl
      have hbeq : (l == k) = false := beq_eq_false_iff_ne.mpr (Ne.symm hk)
      have hrest : ∃ p ∈ ps, p.1 = l := by
        obtain ⟨q, hq, hql⟩ := hmem
        rcases List.mem_cons.mp hq with rfl | hq
        · exact absurd hql hk
        · exact ⟨q, hq, hql⟩
      rw [List.map_cons, hgkv, List.lookup_cons, hbeq]
      exact ih hrest

theorem lookup_set_of_ne {es : List (Location × Entry)} {cap : Option Nat} {loc l : Location}
    (e : Entry) (hne : l ≠ loc) : (Tree.set ⟨es, cap⟩ loc e).entries.lookup l = es.lookup l := by
  unfold set
  split
  · -- the entries at `loc` are replaced in place, and `l` is not among them
    dsimp only
    apply lookup_map_keep
    · intro p
      split <;> rfl
    · rintro ⟨k, v⟩ rfl
      simp [hne]
  · -- the new entry is appended after all others and is not at `l`
    have hbeq : (l == loc) = false := beq_eq_false_iff_ne.mpr hne
    dsimp only
    rw [List.lookup_append, List.lookup_cons, hbeq, List.lookup_nil]
    cases es.lookup l <;> rfl

theorem lookup_set_self {es : List (Location × Entry)} {cap : Option Nat} (loc : Location)
    (e : Entry) : (Tree.set ⟨es, cap⟩ loc e).entries.lookup loc = some e := by
  unfold set
  split
  · -- some entry is at `loc`: it now holds `e`
    rename_i hany
    dsimp only at hany ⊢
    apply lookup_map_set
    · intro p
      split <;> rfl
    · rintro ⟨k, v⟩ rfl
      simp
    · simpa using hany
  · -- no entry is at `loc`: the new one, appended, is found
    rename_i hany
    have hnone : es.lookup loc = none := by
      simp only [List.any_eq_true, beq_iff_eq, not_exists, not_and] at hany
      simp only [List.lookup_eq_none_iff]
      rintro ⟨a, b⟩ hab
      simpa using fun heq => hany (a, b) hab heq.symm
    simp [List.lookup_append, hnone]

theorem get?_set {loc : Location} (hloc : loc ≠ []) (e : Entry) (l : Location) :
    (t.set loc e).get? l = if l = loc then some e else t.get? l := by
  obtain ⟨es, cap⟩ := t
  by_cases hl : l = []
  · subst hl
    simp [Ne.symm hloc, get?_nil]
  rw [get?_of_ne_nil hl, get?_of_ne_nil hl]
  split
  · rename_i hll
    subst hll
    exact lookup_set_self l e
  · rename_i hll
    exact lookup_set_of_ne e hll

theorem get?_erase {loc : Location} (hloc : loc ≠ []) (l : Location) :
    (t.erase loc).get? l = if l = loc then none else t.get? l := by
  obtain ⟨es, cap⟩ := t
  by_cases hl : l = []
  · subst hl
    simp [Ne.symm hloc, get?_nil]
  rw [get?_of_ne_nil hl, get?_of_ne_nil hl]
  unfold erase
  dsimp only
  induction es with
  | nil => simp
  | cons x xs ih =>
    obtain ⟨l', x'⟩ := x
    by_cases hx : l' = loc
    · subst hx
      by_cases hll : l = l'
      · simpa [hll] using ih
      · have hbeq : (l == l') = false := beq_eq_false_iff_ne.mpr hll
        simpa [hll, List.lookup_cons, hbeq] using ih
    · by_cases hll : l = l'
      · subst hll
        simp [hx]
      · have hbeq : (l == l') = false := beq_eq_false_iff_ne.mpr hll
        simpa [List.lookup_cons, hx, hbeq] using ih

/-! ## Directories stay -/

/-- Two trees with the same directories. -/
def SameDirs (t t' : Tree) : Prop := ∀ l, t.get? l = some .dir ↔ t'.get? l = some .dir

theorem SameDirs.refl (t : Tree) : SameDirs t t := fun _ => Iff.rfl

theorem SameDirs.symm (h : SameDirs t t') : SameDirs t' t := fun l => (h l).symm

theorem SameDirs.trans (h : SameDirs t t') (h' : SameDirs t' t'') : SameDirs t t'' :=
  fun l => (h l).trans (h' l)

theorem sameDirs_set_file {loc : Location} (h : t.get? loc ≠ some .dir) (c : Bytes) :
    SameDirs t (t.set loc (.file c)) := by
  intro l
  rw [get?_set (ne_nil_of_get?_ne_dir h)]
  split
  · rename_i hl
    subst hl
    simp [h]
  · exact Iff.rfl

theorem sameDirs_erase {loc : Location} (h : t.get? loc ≠ some .dir) : SameDirs t (t.erase loc) := by
  intro l
  rw [get?_erase (ne_nil_of_get?_ne_dir h)]
  split
  · rename_i hl
    subst hl
    simp [h]
  · exact Iff.rfl

/-! ## Walking a path -/

/-- A walk that arrives keeps arriving at the same place in a tree with the same directories:
it only ever asks whether a location is a directory. -/
theorem walk_of_sameDirs (h : SameDirs t t') {ps : List String} :
    ∀ {loc r : Location}, t.walk loc ps = .ok r → t'.walk loc ps = .ok r := by
  induction ps with
  | nil => exact fun hw => hw
  | cons part rest ih =>
    intro loc r hw
    rw [walk] at hw ⊢
    by_cases hempty : part.isEmpty = true
    · rw [if_pos hempty] at hw ⊢
      exact ih hw
    rw [if_neg hempty] at hw ⊢
    cases hget : t.get? loc with
    | none => rw [hget] at hw; cases hw
    | some e =>
      cases e with
      | file c => rw [hget] at hw; cases hw
      | dir =>
        rw [hget] at hw
        rw [(h loc).mp hget]
        dsimp only at hw ⊢
        by_cases hdot : (part == ".") = true
        · rw [if_pos hdot] at hw ⊢
          exact ih hw
        rw [if_neg hdot] at hw ⊢
        by_cases hparent : (part == "..") = true
        · rw [if_pos hparent] at hw ⊢
          exact ih hw
        rw [if_neg hparent] at hw ⊢
        by_cases hlong : part.utf8ByteSize > nameMax
        · rw [if_pos hlong] at hw
          cases hw
        rw [if_neg hlong] at hw ⊢
        exact ih hw

theorem walk_append (ps qs : List String) :
    ∀ loc, t.walk loc (ps ++ qs) = (t.walk loc ps >>= fun l => t.walk l qs) := by
  induction ps with
  | nil => exact fun _ => rfl
  | cons part rest ih =>
    intro loc
    rw [List.cons_append, walk, walk]
    split
    · exact ih loc
    · split
      · rfl
      · rfl
      · split
        · exact ih loc
        · split
          · exact ih _
          · split
            · rfl
            · exact ih _

theorem walk_name {n : String} (hn : Path.IsName n) {loc r : Location} (hw : t.walk loc [n] = .ok r) :
    t.get? loc = some .dir ∧ r = loc ++ [n.toUTF8.toList] := by
  have hempty : n.isEmpty = false := by simpa [String.isEmpty_iff] using hn.ne_empty
  have hdot : (n == ".") = false := by simpa using hn.ne_current
  have hparent : (n == "..") = false := by simpa using hn.ne_parent
  rw [walk, if_neg (by simp [hempty])] at hw
  cases hget : t.get? loc with
  | none => rw [hget] at hw; cases hw
  | some e =>
    cases e with
    | file c => rw [hget] at hw; cases hw
    | dir =>
      rw [hget] at hw
      dsimp only at hw
      rw [if_neg (by simp [hdot]), if_neg (by simp [hparent])] at hw
      by_cases hlong : n.utf8ByteSize > nameMax
      · rw [if_pos hlong] at hw
        cases hw
      · rw [if_neg hlong, walk] at hw
        cases hw
        exact ⟨rfl, rfl⟩

theorem locate_of_sameDirs (h : SameDirs t t') {p : String} {s : Spot} (hl : t.locate p = .ok s) :
    t'.locate p = .ok s := by
  unfold locate at hl ⊢
  split at hl
  · cases hl
  rename_i hnul
  rw [if_neg hnul]
  split at hl
  · cases hl
  rename_i hempty
  rw [if_neg hempty]
  split at hl
  · cases hl
  rename_i hlong
  rw [if_neg hlong]
  dsimp only at hl ⊢
  cases hw : t.walk [] ((p.toList.splitOn '/').map String.ofList) with
  | error e => rw [hw] at hl; cases hl
  | ok loc =>
    rw [hw] at hl
    rw [walk_of_sameDirs h hw]
    exact hl

theorem find_of_sameDirs (h : SameDirs t t') {p : String} {s : Spot} (hl : t.locate p = .ok s)
    (hget : t'.get? s.location = t.get? s.location) : t'.find p = t.find p := by
  unfold find
  rw [locate_of_sameDirs h hl, hl]
  simp only [bind, Except.bind, hget]

theorem readText_of_sameDirs (h : SameDirs t t') {p : String} {s : Spot} (hl : t.locate p = .ok s)
    (hget : t'.get? s.location = t.get? s.location) : t'.readText p = t.readText p := by
  unfold readText
  rw [find_of_sameDirs h hl hget]

theorem toByteArray_toUTF8_toList (s : String) : s.toUTF8.toList.toByteArray = s.toUTF8 := by
  apply ByteArray.ext
  apply Array.toList_inj.mp
  rw [List.toList_data_toByteArray, ByteArray.toList_eq_data]

theorem fromUTF8?_toUTF8_toList (s : String) :
    String.fromUTF8? s.toUTF8.toList.toByteArray = some s := by
  rw [toByteArray_toUTF8_toList]
  unfold String.fromUTF8?
  rw [dif_pos (by simpa using s.isValidUTF8)]
  simp [String.fromUTF8]

theorem readText_of_get? {p text : String} {l : Location} (hl : t.locate p = .ok ⟨l, false⟩)
    (hget : t.get? l = some (.file text.toUTF8.toList)) : t.readText p = .ok text := by
  simp only [readText, find, hl, hget, bind, Except.bind, pure, Except.pure, Bool.false_eq_true,
    if_false, fromUTF8?_toUTF8_toList]

theorem locate_of_readText_eq_ok {p text : String} (h : t.readText p = .ok text) :
    ∃ s, t.locate p = .ok s := by
  cases hl : t.locate p with
  | error e => simp [readText, find, hl, bind, Except.bind] at h
  | ok s => exact ⟨s, rfl⟩

/-! ## What a write, a move and a removal do -/

/-- A file of some bytes fits at a location: the device sets no limit, or has room for them. -/
def HasRoom (t : Tree) (l : Location) (c : Bytes) : Prop := ∀ n, t.roomAt l = some n → c.length ≤ n

@[simp] theorem capacity_set (l : Location) (e : Entry) : (t.set l e).capacity = t.capacity := by
  unfold set
  split <;> rfl

@[simp] theorem capacity_erase (l : Location) : (t.erase l).capacity = t.capacity := rfl

theorem hasRoom_of_capacity (h : t.capacity = none) (l : Location) (c : Bytes) : t.HasRoom l c := by
  intro n hn
  simp [roomAt, h] at hn

theorem writeAt_of_hasRoom {l : Location} {c : Bytes} (hget : t.get? l ≠ some .dir)
    (hroom : t.HasRoom l c) : t.writeAt l c = (.ok (), t.set l (.file c)) := by
  unfold writeAt
  split
  · contradiction
  · cases hn : t.roomAt l with
    | none => rfl
    | some n => simp [hroom n hn]

theorem writeAt_of_full {l : Location} {c : Bytes} {n : Nat} (hget : t.get? l ≠ some .dir)
    (hroom : t.roomAt l = some n) (hn : n < c.length) :
    t.writeAt l c = (.error .noSpace, t.set l (.file (c.take n))) := by
  unfold writeAt
  split
  · contradiction
  · simp [hroom, Nat.not_le.mpr hn]

/-- A write by location either makes the whole file, or fails on a directory and changes
nothing, or runs out of room and leaves the bytes that fit. -/
theorem writeAt_cases (l : Location) (c : Bytes) :
    (t.get? l ≠ some .dir ∧ t.HasRoom l c ∧ t.writeAt l c = (.ok (), t.set l (.file c))) ∨
      t.writeAt l c = (.error .isDirectory, t) ∨
      ∃ n, t.get? l ≠ some .dir ∧ t.roomAt l = some n ∧ n < c.length ∧
        t.writeAt l c = (.error .noSpace, t.set l (.file (c.take n))) := by
  by_cases hget : t.get? l = some .dir
  · refine .inr (.inl ?_)
    simp [writeAt, hget]
  by_cases hroom : t.HasRoom l c
  · exact .inl ⟨hget, hroom, writeAt_of_hasRoom hget hroom⟩
  -- only a limit too small for the bytes is left
  obtain ⟨n, hn, hlt⟩ : ∃ n, t.roomAt l = some n ∧ n < c.length := by
    simpa [HasRoom] using hroom
  exact .inr (.inr ⟨n, hget, hn, hlt, writeAt_of_full hget hn hlt⟩)

theorem writeFile_cases (p : String) (c : Bytes) :
    (∃ e, t.writeFile p c = (.error e, t)) ∨
      ∃ l, t.locate p = .ok ⟨l, false⟩ ∧ t.writeFile p c = t.writeAt l c := by
  unfold writeFile
  cases t.locate p with
  | error e => exact .inl ⟨e, rfl⟩
  | ok s =>
    obtain ⟨l, dirOnly⟩ := s
    cases dirOnly with
    | true => exact .inl ⟨.isDirectory, rfl⟩
    | false => exact .inr ⟨l, rfl, rfl⟩

theorem writeFile_eq_ok {p : String} {c : Bytes} (h : t.writeFile p c = (.ok (), t')) :
    ∃ l, t.locate p = .ok ⟨l, false⟩ ∧ t.get? l ≠ some .dir ∧ t.HasRoom l c ∧
      t' = t.set l (.file c) := by
  rcases writeFile_cases (t := t) p c with ⟨e, he⟩ | ⟨l, hl, hw⟩
  · rw [he] at h
    cases h
  · rw [hw] at h
    rcases writeAt_cases (t := t) l c with ⟨hget, hroom, hat⟩ | hat | ⟨n, -, -, -, hat⟩ <;>
      rw [hat] at h
    · exact ⟨l, hl, hget, hroom, (Prod.mk.inj h).2.symm⟩
    · cases h
    · cases h

theorem writeFile_eq_error {p : String} {c : Bytes} {e : Error} (h : t.writeFile p c = (.error e, t')) :
    t' = t ∨ ∃ l n, t.locate p = .ok ⟨l, false⟩ ∧ t.get? l ≠ some .dir ∧ t.roomAt l = some n ∧
      n < c.length ∧ e = .noSpace ∧ t' = t.set l (.file (c.take n)) := by
  rcases writeFile_cases (t := t) p c with ⟨e', he⟩ | ⟨l, hl, hw⟩
  · rw [he] at h
    exact .inl (Prod.mk.inj h).2.symm
  · rw [hw] at h
    rcases writeAt_cases (t := t) l c with ⟨-, -, hat⟩ | hat | ⟨n, hget, hn, hlt, hat⟩ <;>
      rw [hat] at h
    · cases h
    · exact .inl (Prod.mk.inj h).2.symm
    · obtain ⟨he, rfl⟩ := Prod.mk.inj h
      exact .inr ⟨l, n, hl, hget, hn, hlt, (Except.error.inj he).symm, rfl⟩

theorem moveFile_eq_ok {src dst : String} (h : t.moveFile src dst = .ok t') :
    ∃ a b c, t.locate src = .ok ⟨a, false⟩ ∧ t.get? a = some (.file c) ∧
      t.locate dst = .ok ⟨b, false⟩ ∧ t.get? b ≠ some .dir ∧
      t' = if a = b then t else (t.erase a).set b (.file c) := by
  unfold moveFile at h
  cases ha : t.locate src with
  | error e => rw [ha] at h; cases h
  | ok sa =>
    obtain ⟨a, aDirOnly⟩ := sa
    rw [ha] at h
    simp only [bind, Except.bind] at h
    cases hget : t.get? a with
    | none => rw [hget] at h; cases h
    | some e =>
      cases e with
      | dir => rw [hget] at h; cases h
      | file c =>
        rw [hget] at h
        cases aDirOnly with
        | true => cases h
        | false =>
          dsimp only [pure, Except.pure] at h
          cases hb : t.locate dst with
          | error e => rw [hb] at h; cases h
          | ok sb =>
            obtain ⟨b, bDirOnly⟩ := sb
            rw [hb] at h
            dsimp only at h
            have hbdir : t.get? b ≠ some .dir := by
              intro hdir
              rw [hdir] at h
              cases h
            have hmove : (if bDirOnly = true then (throw Error.notDirectory : Except Error Tree)
                else if (a == b) = true then Except.ok t
                else Except.ok ((t.erase a).set b (.file c))) = Except.ok t' := by
              cases hgb : t.get? b with
              | none => rw [hgb] at h; exact h
              | some e =>
                cases e with
                | dir => exact absurd hgb hbdir
                | file _ => rw [hgb] at h; exact h
            cases bDirOnly with
            | true => cases hmove
            | false =>
              refine ⟨a, b, c, rfl, hget, rfl, hbdir, ?_⟩
              simp only [Bool.false_eq_true, if_false, beq_iff_eq] at hmove
              by_cases hab : a = b
              · rw [if_pos hab] at hmove ⊢
                exact (Except.ok.inj hmove).symm
              · rw [if_neg hab] at hmove ⊢
                exact (Except.ok.inj hmove).symm

theorem writeFile_of_locate {p : String} {l : Location} {c : Bytes}
    (hl : t.locate p = .ok ⟨l, false⟩) (hget : t.get? l ≠ some .dir) (hroom : t.HasRoom l c) :
    t.writeFile p c = (.ok (), t.set l (.file c)) := by
  unfold writeFile
  rw [hl]
  exact writeAt_of_hasRoom hget hroom

theorem writeFile_of_full {p : String} {l : Location} {c : Bytes} {n : Nat}
    (hl : t.locate p = .ok ⟨l, false⟩) (hget : t.get? l ≠ some .dir) (hroom : t.roomAt l = some n)
    (hn : n < c.length) : t.writeFile p c = (.error .noSpace, t.set l (.file (c.take n))) := by
  unfold writeFile
  rw [hl]
  exact writeAt_of_full hget hroom hn

theorem moveFile_of_locate {src dst : String} {a b : Location} {c : Bytes}
    (ha : t.locate src = .ok ⟨a, false⟩) (hga : t.get? a = some (.file c))
    (hb : t.locate dst = .ok ⟨b, false⟩) (hgb : t.get? b ≠ some .dir) :
    t.moveFile src dst = .ok (if a = b then t else (t.erase a).set b (.file c)) := by
  unfold moveFile
  rw [ha, hb]
  simp only [bind, Except.bind, hga, Bool.false_eq_true, if_false, pure, Except.pure]
  cases hg : t.get? b with
  | none => by_cases hab : a = b <;> simp [hab]
  | some e =>
    cases e with
    | dir => exact absurd hg hgb
    | file c' => by_cases hab : a = b <;> simp [hab]

/-! ## A name joined onto a directory path -/

def dirParts (d : String) : List String :=
  (((Path.dirPart d).splitOn '/').dropLast).map String.ofList

theorem splitOn_join (d : String) {n : String} (hn : '/' ∉ n.toList) :
    ((Path.join d n).toList.splitOn '/').map String.ofList = dirParts d ++ [n] := by
  have hname : n.toList.splitOn '/' = [n.toList] := List.splitOn_eq_singleton hn
  rw [Path.join_toList d hn, dirParts]
  rcases Path.dirPart_eq_nil_or_getLast d with hnil | hlast
  · rw [hnil, List.nil_append, hname]
    simp
  · -- the directory part ends in a separator, which splits it from the name
    obtain ⟨D, hD⟩ := List.getLast?_eq_some_iff.mp hlast
    rw [hD, List.append_assoc, List.singleton_append, List.splitOn_append_cons_self, hname,
      List.splitOn_append_cons_self]
    simp

/-- A name joined onto a directory path is right below the place the directory path leads to,
and names a file as much as a directory. -/
theorem locate_join_eq_ok {d n : String} (hn : Path.IsName n) {s : Spot}
    (h : t.locate (Path.join d n) = .ok s) :
    ∃ L, t.walk [] (dirParts d) = .ok L ∧ t.get? L = some .dir ∧
      s = ⟨L ++ [n.toUTF8.toList], false⟩ := by
  unfold locate at h
  split at h
  · cases h
  split at h
  · cases h
  split at h
  · cases h
  dsimp only at h
  rw [splitOn_join d hn.no_slash, walk_append] at h
  have hlast : n.isEmpty = false ∧ (n == ".") = false ∧ (n == "..") = false :=
    ⟨by simpa [String.isEmpty_iff] using hn.ne_empty, by simpa using hn.ne_current,
      by simpa using hn.ne_parent⟩
  cases hdir : t.walk [] (dirParts d) with
  | error e => rw [hdir] at h; cases h
  | ok L =>
    rw [hdir] at h
    cases hname : t.walk L [n] with
    | error e => simp [hname, bind, Except.bind, Except.map] at h
    | ok r =>
      obtain ⟨hL, rfl⟩ := walk_name hn hname
      simp only [hname, bind, Except.bind, Except.map, Except.ok.injEq] at h
      refine ⟨L, rfl, hL, ?_⟩
      rw [← h]
      simp [hlast.1, hlast.2.1, hlast.2.2]

theorem walk_name_of_dir {n : String} (hn : Path.IsName n) (hsize : n.utf8ByteSize ≤ nameMax)
    {loc : Location} (hdir : t.get? loc = some .dir) :
    t.walk loc [n] = .ok (loc ++ [n.toUTF8.toList]) := by
  have hempty : n.isEmpty = false := by simpa [String.isEmpty_iff] using hn.ne_empty
  have hdot : (n == ".") = false := by simpa using hn.ne_current
  have hparent : (n == "..") = false := by simpa using hn.ne_parent
  rw [walk, if_neg (by simp [hempty]), hdir]
  dsimp only
  rw [if_neg (by simp [hdot]), if_neg (by simp [hparent]), if_neg (by omega)]
  rfl

theorem locate_join_sibling {d n₁ n₂ : String} (h₁ : Path.IsName n₁) (h₂ : Path.IsName n₂)
    {L : Location} (hl₁ : t.locate (Path.join d n₁) = .ok ⟨L ++ [n₁.toUTF8.toList], false⟩)
    (hnul : (Path.join d n₂).contains (Char.ofNat 0) = false)
    (hlen : (Path.join d n₂).utf8ByteSize < pathMax) (hsize : n₂.utf8ByteSize ≤ nameMax) :
    t.locate (Path.join d n₂) = .ok ⟨L ++ [n₂.toUTF8.toList], false⟩ := by
  obtain ⟨L', hwalk, hdir, hspot⟩ := locate_join_eq_ok h₁ hl₁
  have hL : L' = L := List.append_cancel_right (Spot.mk.inj hspot).1.symm
  subst hL
  have hne : (Path.join d n₂).isEmpty = false := by
    rw [Bool.eq_false_iff, ne_eq, String.isEmpty_iff]
    intro hnil
    have hlist := congrArg String.toList hnil
    rw [Path.join_toList d h₂.no_slash] at hlist
    exact h₂.toList_ne_nil (List.append_eq_nil_iff.mp hlist).2
  unfold locate
  rw [if_neg (by simp [hnul]), if_neg (by simp [hne]), if_neg (by omega)]
  dsimp only
  rw [splitOn_join d h₂.no_slash, walk_append, hwalk]
  simp only [bind, Except.bind, walk_name_of_dir h₂ hsize hdir, Except.map, List.getLast?_append,
    List.getLast?_singleton, Option.some_or, Option.getD_some]
  have hlast : n₂.isEmpty = false ∧ (n₂ == ".") = false ∧ (n₂ == "..") = false :=
    ⟨by simpa [String.isEmpty_iff] using h₂.ne_empty, by simpa using h₂.ne_current,
      by simpa using h₂.ne_parent⟩
  simp [hlast.1, hlast.2.1, hlast.2.2]

theorem location_join_ne {d n₁ n₂ : String} (h₁ : Path.IsName n₁) (h₂ : Path.IsName n₂)
    (hne : n₁ ≠ n₂) {s₁ s₂ : Spot} (hl₁ : t.locate (Path.join d n₁) = .ok s₁)
    (hl₂ : t.locate (Path.join d n₂) = .ok s₂) : s₁.location ≠ s₂.location := by
  obtain ⟨L₁, hw₁, -, rfl⟩ := locate_join_eq_ok h₁ hl₁
  obtain ⟨L₂, hw₂, -, rfl⟩ := locate_join_eq_ok h₂ hl₂
  have hL : L₁ = L₂ := Except.ok.inj (hw₁.symm.trans hw₂)
  subst hL
  intro hsame
  exact hne (toUTF8_toList_inj (List.singleton_inj.mp (List.append_cancel_left hsame)))

end Files.Tree

end ScriptDeploy
