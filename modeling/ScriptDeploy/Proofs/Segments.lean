import ScriptDeploy.Proofs.PathNames

/-! # The lexical parts of a path

`segments` writes each `\` as `/`, splits the text at `/` and folds the pieces. Folding keeps
its parts normal (`Normal`): no part holds a `/`, and the parts of an absolute path hold no
`..`. A name without `\` joined onto a directory is the last part, after the directory's own
(`segments_join`), so the remote path of a name in a directory is read off the directory's
parts (`ofSource_join`). A remote path gives its parts back (`intercalate_slash_inj`), and the
stripped name gives back a name that ends in a dotted extension (`stripExtension_inj`).
-/

namespace ScriptDeploy.RemotePath

set_option autoImplicit false

open ScriptDeploy.Path

def unifyChar (c : Char) : Char := if c == '\\' then '/' else c

/-- The normal parts, last first, of a text whose separators are all `/`. -/
def foldParts (absolute : Bool) (cs : List Char) : List String :=
  ((cs.splitOn '/').map String.ofList).foldl (fold absolute) []

@[simp] theorem unifyChar_slash : unifyChar '/' = '/' := by decide

theorem unify_eq_map (raw : String) : unify raw = raw.toList.map unifyChar := rfl

theorem segments_eq (raw : String) :
    segments raw = ((unify raw).head? == some '/',
      (foldParts ((unify raw).head? == some '/') (unify raw)).reverse) := rfl

theorem map_unifyChar_of_not_mem {cs : List Char} (hb : '\\' ∉ cs) : cs.map unifyChar = cs := by
  have hid : ∀ c ∈ cs, unifyChar c = id c := by
    intro c hc
    have hne : c ≠ '\\' := fun h => hb (h ▸ hc)
    simp [unifyChar, hne]
  rw [List.map_congr_left hid, List.map_id]

theorem not_mem_of_mem_splitOn (a : Char) :
    ∀ {cs piece : List Char}, piece ∈ cs.splitOn a → a ∉ piece
  | [], piece, h => by
    rw [List.splitOn_nil, List.mem_singleton] at h
    simp [h]
  | c :: cs, piece, h => by
    rw [List.splitOn_cons_eq_if_modifyHead] at h
    split at h
    · rcases List.mem_cons.mp h with rfl | h
      · simp
      · exact not_mem_of_mem_splitOn a h
    · rename_i hc
      -- the first piece gains `c`, which is not the separator
      obtain ⟨first, rest, hsplit⟩ := List.exists_cons_of_ne_nil (List.splitOn_ne_nil a cs)
      rw [hsplit, List.modifyHead_cons] at h
      rcases List.mem_cons.mp h with rfl | h
      · have hfirst := not_mem_of_mem_splitOn a (hsplit ▸ List.mem_cons_self (l := rest))
        have hca : c ≠ a := by simpa using hc
        simp [Ne.symm hca, hfirst]
      · exact not_mem_of_mem_splitOn a (hsplit ▸ List.mem_cons_of_mem first h)

/-! ## Folding the parts -/

/-- What folding keeps of the parts: none holds a `/`, and those of an absolute path hold no
`..`. -/
structure Normal (absolute : Bool) (out : List String) : Prop where
  no_slash : ∀ x ∈ out, '/' ∉ x.toList
  no_parent : absolute = true → ".." ∉ out

theorem Normal.nil (absolute : Bool) : Normal absolute [] := ⟨by simp, by simp⟩

theorem Normal.fold {absolute : Bool} {out : List String} {part : String}
    (h : Normal absolute out) (hpart : '/' ∉ part.toList) : Normal absolute (fold absolute out part) := by
  unfold RemotePath.fold
  split
  · exact h
  split
  · rename_i hdots
    split
    · rename_i last rest
      split
      · exact ⟨fun x hx => h.no_slash x (List.mem_cons_of_mem last hx),
          fun habs hmem => h.no_parent habs (List.mem_cons_of_mem last hmem)⟩
      split
      · exact h
      · rename_i habs
        refine ⟨?_, fun h' => absurd h' habs⟩
        intro x hx
        rcases List.mem_cons.mp hx with rfl | hx
        · decide
        · exact h.no_slash x hx
    · split
      · exact h
      · rename_i habs
        exact ⟨by simp, fun h' => absurd h' habs⟩
  · rename_i hdots
    refine ⟨?_, fun habs hmem => ?_⟩
    · intro x hx
      rcases List.mem_cons.mp hx with rfl | hx
      · exact hpart
      · exact h.no_slash x hx
    · rcases List.mem_cons.mp hmem with heq | hmem
      · exact hdots (by simp [← heq])
      · exact h.no_parent habs hmem

theorem normal_foldParts (absolute : Bool) (cs : List Char) :
    Normal absolute (foldParts absolute cs) := by
  -- every piece of the split is free of `/`, and each fold step keeps the parts normal
  have hrun : ∀ (pieces : List (List Char)) (out : List String), (∀ p ∈ pieces, '/' ∉ p) →
      Normal absolute out → Normal absolute ((pieces.map String.ofList).foldl (fold absolute) out) := by
    intro pieces
    induction pieces with
    | nil => intro out _ h; exact h
    | cons p rest ih =>
      intro out hpieces h
      rw [List.map_cons, List.foldl_cons]
      apply ih _ (fun q hq => hpieces q (List.mem_cons_of_mem p hq))
      exact h.fold (by simpa using hpieces p List.mem_cons_self)
  exact hrun _ [] (fun p hp => not_mem_of_mem_splitOn '/' hp) (Normal.nil absolute)

theorem normal_segments (raw : String) : Normal (segments raw).1 (segments raw).2 := by
  have h := normal_foldParts ((unify raw).head? == some '/') (unify raw)
  rw [segments_eq]
  exact ⟨fun x hx => h.no_slash x (List.mem_reverse.mp hx),
    fun habs hmem => h.no_parent habs (List.mem_reverse.mp hmem)⟩

theorem fold_empty (absolute : Bool) (out : List String) : fold absolute out "" = out := by
  simp [RemotePath.fold]

theorem fold_current (absolute : Bool) (out : List String) : fold absolute out "." = out := by
  simp [RemotePath.fold]

theorem fold_parent {out : List String} (h : ".." ∉ out) : fold true out ".." = out.tail := by
  cases out with
  | nil => simp [RemotePath.fold]
  | cons last earlier =>
    have hlast : last ≠ ".." := fun heq => h (heq ▸ List.mem_cons_self)
    simp [RemotePath.fold, hlast]

theorem fold_part (absolute : Bool) (out : List String) {part : String} (hempty : part ≠ "")
    (hcur : part ≠ ".") (hpar : part ≠ "..") : fold absolute out part = part :: out := by
  have hempty' : part.isEmpty = false := by simpa [String.isEmpty_iff] using hempty
  have hcur' : (part == ".") = false := by simpa using hcur
  have hpar' : (part == "..") = false := by simpa using hpar
  simp [RemotePath.fold, hempty', hcur', hpar']

theorem fold_name (absolute : Bool) (out : List String) {s : String} (hs : IsName s) :
    fold absolute out s = s :: out :=
  fold_part absolute out hs.ne_empty hs.ne_current hs.ne_parent

theorem foldParts_append_slash (absolute : Bool) (u v : List Char) :
    foldParts absolute (u ++ '/' :: v) =
      ((v.splitOn '/').map String.ofList).foldl (fold absolute) (foldParts absolute u) := by
  simp only [foldParts, List.splitOn_append_cons_self, List.map_append, List.foldl_append]

theorem foldParts_append_name (absolute : Bool) (u : List Char) {s : String} (hs : IsName s) :
    foldParts absolute (u ++ '/' :: s.toList) = s :: foldParts absolute u := by
  rw [foldParts_append_slash, List.splitOn_eq_singleton hs.no_slash]
  simp [fold_name absolute _ hs]

theorem foldParts_append_sep (absolute : Bool) (u : List Char) :
    foldParts absolute (u ++ ['/']) = foldParts absolute u := by
  rw [foldParts_append_slash, List.splitOn_nil]
  simp [fold_empty]

/-! ## A name joined onto a directory -/

section Join

variable {s : String}

theorem dirPart_eq_append (dir : String) : ∃ rest, dirPart dir = dir.toList ++ rest := by
  unfold dirPart
  split
  · exact ⟨[], by simp⟩
  · exact ⟨['/'], rfl⟩

theorem unify_join (dir : String) (hs : IsName s) (hb : '\\' ∉ s.toList) :
    unify (join dir s) = (dirPart dir).map unifyChar ++ s.toList := by
  rw [unify_eq_map, join_toList dir hs.no_slash, List.map_append, map_unifyChar_of_not_mem hb]

theorem foldParts_join (absolute : Bool) (dir : String) (hs : IsName s) (hb : '\\' ∉ s.toList) :
    foldParts absolute (unify (join dir s)) = s :: foldParts absolute (unify dir) := by
  rw [unify_join dir hs hb]
  by_cases hempty : dir.isEmpty = true
  · -- the name alone
    obtain rfl := String.isEmpty_iff.mp hempty
    have hsplit := List.splitOn_eq_singleton hs.no_slash
    rw [show dirPart "" = [] from rfl]
    simp only [foldParts, List.map_nil, List.nil_append, hsplit, unify_eq_map, String.toList_empty,
      List.splitOn_nil, List.map_cons, String.ofList_toList, String.ofList_nil, List.foldl_cons,
      List.foldl_nil, fold_name absolute _ hs, fold_empty]
  · unfold dirPart
    by_cases hend : dir.endsWith "/" = true
    · -- the directory's own trailing `/` separates the name
      obtain ⟨pre, hpre⟩ := (endsWith_iff_suffix _ _).mp hend
      have hdir : dir.toList = pre ++ ['/'] := by simpa using hpre.symm
      rw [if_pos (by simp [hend]), unify_eq_map, hdir, List.map_append, List.map_singleton,
        unifyChar_slash, List.append_assoc, List.singleton_append, foldParts_append_name _ _ hs,
        foldParts_append_sep]
    · rw [if_neg (by simp [hempty, hend]), List.map_append, List.map_singleton, unifyChar_slash,
        List.append_assoc, List.singleton_append, foldParts_append_name _ _ hs, unify_eq_map]

theorem absolute_join (dir : String) (hs : IsName s) (hb : '\\' ∉ s.toList) :
    ((unify (join dir s)).head? == some '/') = ((unify dir).head? == some '/') := by
  rw [unify_join dir hs hb]
  by_cases hempty : dir.isEmpty = true
  · -- the name alone starts with a character that is neither separator
    obtain rfl := String.isEmpty_iff.mp hempty
    obtain ⟨c, rest, hcs⟩ := List.exists_cons_of_ne_nil hs.toList_ne_nil
    have hc : c ≠ '/' := fun h => hs.no_slash (by simp [hcs, h])
    simp [dirPart, hcs, hc, unify_eq_map]
  · obtain ⟨rest, hrest⟩ := dirPart_eq_append dir
    obtain ⟨c, cs, hcs⟩ := List.exists_cons_of_ne_nil
      (show dir.toList ≠ [] by simpa [String.isEmpty_iff] using hempty)
    simp [hrest, hcs, unify_eq_map]

theorem segments_join (dir : String) (hs : IsName s) (hb : '\\' ∉ s.toList) :
    segments (join dir s) = ((segments dir).1, (segments dir).2 ++ [s]) := by
  rw [segments_eq, segments_eq, absolute_join dir hs hb, foldParts_join _ dir hs hb]
  simp

end Join

/-! ## Remote paths -/

theorem stripExtension_isPrefix (name : String) : (stripExtension name).toList <+: name.toList := by
  unfold stripExtension
  dsimp only
  split
  · split
    · simpa using List.take_prefix _ _
    · exact List.prefix_refl _
  · exact List.prefix_refl _

theorem stripExtension_dotted (ending : List Char) : ∃ tail : List Char, ∀ stem : List Char,
    stem ≠ [] → (stripExtension (String.ofList (stem ++ '.' :: ending))).toList = stem ++ tail := by
  obtain ⟨i, hidx, hle⟩ : ∃ i, (ending.reverse ++ ['.']).idxOf? '.' = some i ∧
      i ≤ ending.length := by
    cases hfirst : ending.reverse.idxOf? '.' with
    | none =>
      refine ⟨ending.length, ?_, Nat.le_refl _⟩
      simp only [List.idxOf?] at hfirst ⊢
      simp [List.findIdx?_append, hfirst]
    | some i =>
      refine ⟨i, ?_, ?_⟩
      · simp only [List.idxOf?] at hfirst ⊢
        simp [List.findIdx?_append, hfirst]
      · have := (List.findIdx?_eq_some_iff_findIdx_eq.mp hfirst).1
        simp only [List.length_reverse] at this
        omega
  refine ⟨('.' :: ending).take (ending.length - i), fun stem hstem => ?_⟩
  have hpos : 0 < stem.length := List.length_pos_iff.mpr hstem
  have hrev : (stem ++ '.' :: ending).reverse = (ending.reverse ++ ['.']) ++ stem.reverse := by simp
  have hlast : (stem ++ '.' :: ending).reverse.idxOf? '.' = some i := by
    rw [hrev]
    simp only [List.idxOf?] at hidx ⊢
    rw [List.findIdx?_append, hidx, Option.some_or]
  unfold stripExtension
  simp only [String.toList_ofList, hlast]
  have hdot : (stem ++ '.' :: ending).length - 1 - i = stem.length + (ending.length - i) := by
    simp only [List.length_append, List.length_cons]
    omega
  rw [hdot, if_pos (by omega), String.toList_ofList, List.take_append,
    List.take_of_length_le (by omega), Nat.add_sub_cancel_left]

theorem stripExtension_inj {ext s₁ s₂ stem₁ stem₂ : String} (h₁ : stem₁ ++ ("." ++ ext) = s₁)
    (h₂ : stem₂ ++ ("." ++ ext) = s₂) (hne₁ : stem₁ ≠ "") (hne₂ : stem₂ ≠ "")
    (h : stripExtension s₁ = stripExtension s₂) : s₁ = s₂ := by
  obtain ⟨tail, htail⟩ := stripExtension_dotted ext.toList
  have hdotted : ∀ stem : String,
      stem ++ ("." ++ ext) = String.ofList (stem.toList ++ '.' :: ext.toList) := by
    intro stem
    rw [← String.toList_inj]
    simp
  have e₁ := htail stem₁.toList (by simpa using hne₁)
  have e₂ := htail stem₂.toList (by simpa using hne₂)
  rw [← hdotted, h₁] at e₁
  rw [← hdotted, h₂] at e₂
  have hstems : stem₁.toList = stem₂.toList :=
    List.append_cancel_right (e₁.symm.trans ((congrArg String.toList h).trans e₂))
  rw [← h₁, ← h₂, String.toList_injective hstems]

theorem intercalate_slash_inj {l₁ l₂ : List String} (h₁ : ∀ x ∈ l₁, '/' ∉ x.toList)
    (h₂ : ∀ x ∈ l₂, '/' ∉ x.toList) (hne₁ : l₁ ≠ []) (hne₂ : l₂ ≠ [])
    (h : "/".intercalate l₁ = "/".intercalate l₂) : l₁ = l₂ := by
  have hchars := congrArg String.toList h
  rw [String.toList_intercalate, String.toList_intercalate] at hchars
  have hsplit₁ := List.splitOn_intercalate '/'
    (show ∀ l ∈ l₁.map String.toList, '/' ∉ l by simpa using h₁) (by simpa using hne₁)
  have hsplit₂ := List.splitOn_intercalate '/'
    (show ∀ l ∈ l₂.map String.toList, '/' ∉ l by simpa using h₂) (by simpa using hne₂)
  have hlists : l₁.map String.toList = l₂.map String.toList := by
    rw [← hsplit₁, ← hsplit₂]
    exact congrArg (List.splitOn '/') hchars
  exact (List.map_inj_right fun _ _ => String.toList_injective).mp hlists

theorem remotePath_inj {pre : String} {root parts₁ parts₂ : List String} {name₁ name₂ : String}
    (hbegins₁ : root <+: parts₁) (hbegins₂ : root <+: parts₂)
    (hparts₁ : ∀ x ∈ parts₁, '/' ∉ x.toList) (hparts₂ : ∀ x ∈ parts₂, '/' ∉ x.toList)
    (hname₁ : '/' ∉ name₁.toList) (hname₂ : '/' ∉ name₂.toList)
    (h : pre ++ "/" ++ "/".intercalate (parts₁.drop root.length ++ [stripExtension name₁]) =
      pre ++ "/" ++ "/".intercalate (parts₂.drop root.length ++ [stripExtension name₂])) :
    parts₁ = parts₂ ∧ stripExtension name₁ = stripExtension name₂ := by
  -- the texts after the common beginning agree, and no part of them holds a `/`
  have hjoined : "/".intercalate (parts₁.drop root.length ++ [stripExtension name₁]) =
      "/".intercalate (parts₂.drop root.length ++ [stripExtension name₂]) := by
    have hchars := congrArg String.toList h
    simp only [String.toList_append] at hchars
    exact String.toList_injective (List.append_cancel_left hchars)
  have hplain : ∀ {parts : List String} {name : String}, '/' ∉ name.toList →
      (∀ x ∈ parts, '/' ∉ x.toList) →
      ∀ x ∈ parts.drop root.length ++ [stripExtension name], '/' ∉ x.toList := by
    intro parts name hname hparts x hx
    rcases List.mem_append.mp hx with hx | hx
    · exact hparts x (List.mem_of_mem_drop hx)
    · rw [List.mem_singleton.mp hx]
      exact fun hslash => hname ((stripExtension_isPrefix name).subset hslash)
  obtain ⟨hrest, hstrip⟩ := List.append_singleton_inj.mp
    (intercalate_slash_inj (hplain hname₁ hparts₁) (hplain hname₂ hparts₂) (by simp) (by simp)
      hjoined)
  refine ⟨?_, hstrip⟩
  rw [← List.take_append_drop root.length parts₁, ← List.take_append_drop root.length parts₂,
    ← List.prefix_iff_eq_take.mp hbegins₁, ← List.prefix_iff_eq_take.mp hbegins₂, hrest]

/-- The remote path of a name without `\` in a directory of an absolute path, under an absolute
root: the directory's parts after the root's, then the stripped name, when the root's parts
begin the directory's, and out of scope otherwise. -/
theorem ofSource_join (dir root pre : String) {s : String} (hs : IsName s) (hb : '\\' ∉ s.toList)
    (hdir : (segments dir).1 = true) (hroot : (segments root).1 = true) :
    ofSource (join dir s) root pre =
      if (segments root).2 <+: (segments dir).2 then
        .ok (DeployConfig.dropTrailing '/' pre ++ "/" ++
          "/".intercalate ((segments dir).2.drop (segments root).2.length ++ [stripExtension s]))
      else .error (.outOfScope (join dir s) root) := by
  have hnormal := normal_segments dir
  unfold ofSource
  rw [segments_join dir hs hb]
  generalize segments dir = D at hdir hnormal ⊢
  generalize segments root = R at hroot ⊢
  obtain ⟨dirAbs, parts⟩ := D
  obtain ⟨rootAbs, rootParts⟩ := R
  simp only at hdir hroot hnormal ⊢
  subst hdir hroot
  by_cases hbegins : rootParts <+: parts
  · rw [if_pos hbegins]
    have hlen : rootParts.length ≤ parts.length := hbegins.length_le
    have hguard : (true != true || (parts ++ [s]).length ≤ rootParts.length ||
        !rootParts.isPrefixOf (parts ++ [s])) = false := by
      have hpre : rootParts.isPrefixOf (parts ++ [s]) = true :=
        List.isPrefixOf_iff_prefix.mpr (hbegins.trans (List.prefix_append _ _))
      simp only [List.length_append, List.length_singleton, hpre]
      simp
      omega
    -- the parts after the root's: no `..` among the directory's, and the name is none
    have hdrop : (parts ++ [s]).drop rootParts.length = parts.drop rootParts.length ++ [s] :=
      List.drop_append_of_le_length hlen
    have hparent : (parts.drop rootParts.length ++ [s]).contains ".." = false := by
      have hno := hnormal.no_parent rfl
      have hs' : s ≠ ".." := hs.ne_parent
      simp only [List.contains_eq_mem, decide_eq_false_iff_not, List.mem_append, List.mem_singleton,
        not_or]
      exact ⟨fun h => hno (List.mem_of_mem_drop h), fun h => hs' h.symm⟩
    rw [if_neg (by rw [hguard]; decide), hdrop, if_neg (by rw [hparent]; decide)]
    simp only [List.reverse_append, List.reverse_cons, List.reverse_nil, List.nil_append,
      List.singleton_append, List.reverse_cons, List.reverse_reverse]
    rfl
  · rw [if_neg hbegins]
    -- a root whose parts do not begin the directory's is no proper beginning of the source's
    have hguard : (true != true || (parts ++ [s]).length ≤ rootParts.length ||
        !rootParts.isPrefixOf (parts ++ [s])) = true := by
      by_cases hpre : rootParts <+: parts ++ [s]
      · rcases List.prefix_concat_iff.mp hpre with heq | hpre'
        · simp [heq]
        · exact absurd hpre' hbegins
      · have hnot : rootParts.isPrefixOf (parts ++ [s]) = false :=
          Bool.eq_false_iff.mpr (mt List.isPrefixOf_iff_prefix.mp hpre)
        simp [hnot]
    rw [if_pos hguard]

end ScriptDeploy.RemotePath
