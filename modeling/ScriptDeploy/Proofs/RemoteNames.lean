import ScriptDeploy.Proofs.Segments

/-! # What a remote path is made of

Every lexical part of a path is `..` or a name (`parent_or_isName_of_mem_segments`). A
successful mapping takes the source's parts after the root's, all of them names, and writes the
prefix without its trailing `/`, a `/`, and those parts joined by `/`, the last without its
extension (`ofSource_eq_ok`). Stripping the extension keeps a name non-empty and free of `/`, but
it can leave a dot part: `..x` becomes `.` and `...` becomes `..` (`stripExtension_eq_iff`), so a
file named `...` lands on the prefix's parent (`ofSource_dots_name_climbs`). As no part holds a
`/`, two sources under one root share a remote path exactly when their parts agree up to the last
one's extension (`ofSource_eq_iff_sameUpToExtension`).
-/

namespace ScriptDeploy.RemotePath

set_option autoImplicit false

open ScriptDeploy.Path

/-! ## The parts of a path -/

theorem mem_fold {absolute : Bool} {out : List String} {part x : String}
    (hx : x ∈ fold absolute out part) :
    x ∈ out ∨ x = ".." ∨ (x = part ∧ part ≠ "" ∧ part ≠ ".") := by
  unfold RemotePath.fold at hx
  split at hx
  · exact .inl hx
  split at hx
  · -- `..` drops the last part, or is dropped, or is kept
    split at hx
    · split at hx
      · exact .inl (List.mem_cons_of_mem _ hx)
      split at hx
      · exact .inl hx
      · rcases List.mem_cons.mp hx with h | h
        · exact .inr (.inl h)
        · exact .inl h
    · split at hx
      · exact .inl hx
      · exact .inr (.inl (List.mem_singleton.mp hx))
  · rename_i hblank _
    rcases List.mem_cons.mp hx with h | h
    · refine .inr (.inr ⟨h, fun hempty => ?_, fun hcur => ?_⟩)
      · simp [hempty] at hblank
      · simp [hcur] at hblank
    · exact .inl h

theorem mem_foldl_fold {absolute : Bool} : ∀ (parts out : List String) {x : String},
    x ∈ parts.foldl (fold absolute) out → x ∈ out ∨ x = ".." ∨ (x ∈ parts ∧ x ≠ "" ∧ x ≠ ".")
  | [], _, _, hx => .inl hx
  | part :: parts, out, x, hx => by
    rcases mem_foldl_fold parts _ hx with h | h | ⟨hmem, hne⟩
    · rcases mem_fold h with h | h | ⟨rfl, hne⟩
      · exact .inl h
      · exact .inr (.inl h)
      · exact .inr (.inr ⟨List.mem_cons_self, hne⟩)
    · exact .inr (.inl h)
    · exact .inr (.inr ⟨List.mem_cons_of_mem _ hmem, hne⟩)

theorem parent_or_isName_of_mem_segments {raw x : String} (hx : x ∈ (segments raw).2) :
    x = ".." ∨ IsName x := by
  rw [segments_eq, List.mem_reverse] at hx
  rcases mem_foldl_fold _ [] hx with h | h | ⟨hmem, hempty, hcur⟩
  · cases h
  · exact .inl h
  · by_cases hpar : x = ".."
    · exact .inl hpar
    · obtain ⟨piece, hpiece, rfl⟩ := List.mem_map.mp hmem
      exact .inr ⟨hempty, hcur, hpar, by simpa using not_mem_of_mem_splitOn '/' hpiece⟩

/-! ## Extensions -/

theorem dot_free_or_last_dot : ∀ cs : List Char,
    '.' ∉ cs ∨ ∃ stem ext, cs = stem ++ '.' :: ext ∧ '.' ∉ ext
  | [] => .inl List.not_mem_nil
  | c :: cs => by
    rcases dot_free_or_last_dot cs with hcs | ⟨stem, ext, rfl, hext⟩
    · by_cases hc : c = '.'
      · exact .inr ⟨[], cs, by rw [hc]; rfl, hcs⟩
      · exact .inl (by simp [Ne.symm hc, hcs])
    · exact .inr ⟨c :: stem, ext, rfl, hext⟩

theorem stripExtension_of_dot_free {name : String} (h : '.' ∉ name.toList) :
    stripExtension name = name := by
  have hnone : name.toList.reverse.idxOf? '.' = none :=
    List.idxOf?_eq_none_iff.mpr (by simpa using h)
  unfold stripExtension
  simp only [hnone]

theorem stripExtension_last_dot {stem ext : List Char} (hext : '.' ∉ ext) :
    stripExtension (String.ofList (stem ++ '.' :: ext)) =
      if stem = [] then String.ofList ('.' :: ext) else String.ofList stem := by
  -- read from the end, the first `.` is the one after the stem
  have hidx : (stem ++ '.' :: ext).reverse.idxOf? '.' = some ext.length := by
    rw [List.reverse_append, List.reverse_cons, List.append_assoc, List.singleton_append]
    simp only [List.idxOf?, List.findIdx?_append]
    rw [List.findIdx?_eq_none_iff.mpr fun c hc => by
      simpa using ne_of_mem_of_not_mem (List.mem_reverse.mp hc) hext]
    simp [List.findIdx?_cons]
  unfold stripExtension
  simp only [String.toList_ofList, hidx]
  have hdot : (stem ++ '.' :: ext).length - 1 - ext.length = stem.length := by
    simp only [List.length_append, List.length_cons]
    omega
  rw [hdot]
  by_cases hstem : stem = []
  · simp [hstem]
  · rw [if_pos (List.length_pos_iff.mpr hstem), if_neg hstem, List.take_left]

theorem stripExtension_cases (name : String) :
    stripExtension name = name ∨ ∃ stem ext, stem ≠ [] ∧ '.' ∉ ext ∧
      name.toList = stem ++ '.' :: ext ∧ stripExtension name = String.ofList stem := by
  rcases dot_free_or_last_dot name.toList with hfree | ⟨stem, ext, hname, hext⟩
  · exact .inl (stripExtension_of_dot_free hfree)
  · have hstrip : stripExtension name =
        if stem = [] then String.ofList ('.' :: ext) else String.ofList stem := by
      rw [← stripExtension_last_dot hext, ← hname, String.ofList_toList]
    by_cases hstem : stem = []
    · left
      rw [hstrip, if_pos hstem, ← List.nil_append ('.' :: ext), ← hstem, ← hname,
        String.ofList_toList]
    · exact .inr ⟨stem, ext, hstem, hext, hname, by rw [hstrip, if_neg hstem]⟩

theorem stripExtension_ne_empty {name : String} (h : name ≠ "") : stripExtension name ≠ "" := by
  rcases stripExtension_cases name with hsame | ⟨stem, -, hstem, -, -, hstrip⟩
  · rwa [hsame]
  · rw [hstrip]
    exact fun h => hstem (String.ofList_eq_empty_iff.mp h)

theorem slash_not_mem_stripExtension {name : String} (h : '/' ∉ name.toList) :
    '/' ∉ (stripExtension name).toList :=
  fun hslash => h ((stripExtension_isPrefix name).subset hslash)

theorem stripExtension_eq_iff {name d : String} (hd : d ≠ "") (hne : name ≠ d) :
    stripExtension name = d ↔ ∃ ext, '.' ∉ ext.toList ∧ name = d ++ "." ++ ext := by
  constructor
  · intro h
    rcases stripExtension_cases name with hsame | ⟨stem, ext, -, hext, hname, hstrip⟩
    · exact absurd (hsame.symm.trans h) hne
    · refine ⟨String.ofList ext, by simpa using hext, ?_⟩
      rw [← String.toList_inj, hname, ← @String.toList_ofList stem, ← hstrip, h]
      simp
  · rintro ⟨ext, hext, rfl⟩
    have hdl : d.toList ≠ [] := fun h => hd (String.toList_eq_nil_iff.mp h)
    have hsplit : d ++ "." ++ ext = String.ofList (d.toList ++ '.' :: ext.toList) := by
      rw [← String.toList_inj]
      simp
    rw [hsplit, stripExtension_last_dot hext, if_neg hdl, String.ofList_toList]

/-! ## A successful mapping -/

/-- The parts of a source after those of the root. -/
def relativeParts (source root : String) : List String :=
  (segments source).2.drop (segments root).2.length

theorem ofSource_eq_ok {source root pre v : String} (h : ofSource source root pre = .ok v) :
    ∃ parts name, relativeParts source root = parts ++ [name] ∧
      (∀ x ∈ parts ++ [name], IsName x) ∧
      v = DeployConfig.dropTrailing '/' pre ++ "/" ++
        "/".intercalate (parts ++ [stripExtension name]) := by
  have hparts : ∀ x ∈ relativeParts source root, x = ".." ∨ IsName x :=
    fun x hx => parent_or_isName_of_mem_segments (List.mem_of_mem_drop hx)
  unfold ofSource at h
  unfold relativeParts at hparts ⊢
  generalize segments source = S at h hparts ⊢
  generalize segments root = R at h hparts ⊢
  obtain ⟨sourceAbs, sourceParts⟩ := S
  obtain ⟨rootAbs, rootParts⟩ := R
  simp only at h hparts ⊢
  split at h
  · cases h
  rename_i hguard
  split at h
  · cases h
  rename_i hparent
  -- the source has a part past the root's, and none of those parts is `..`
  have hlong : rootParts.length < sourceParts.length := by
    simp only [Bool.or_eq_true, not_or, decide_eq_true_eq] at hguard
    omega
  rcases List.eq_nil_or_concat (sourceParts.drop rootParts.length) with hnil | ⟨parts, name, hrel⟩
  · have hlen := congrArg List.length hnil
    simp only [List.length_drop, List.length_nil] at hlen
    omega
  rw [List.concat_eq_append] at hrel
  refine ⟨parts, name, hrel, fun x hx => ?_, ?_⟩
  · rw [← hrel] at hx
    rcases hparts x hx with rfl | hname
    · exact absurd (List.contains_iff_mem.mpr hx) hparent
    · exact hname
  · rw [hrel] at h
    simp only [List.reverse_append, List.reverse_cons, List.reverse_nil, List.nil_append,
      List.singleton_append, List.reverse_reverse] at h
    cases h
    rfl

theorem slash_not_mem_of_isName {parts : List String} {name : String}
    (h : ∀ x ∈ parts ++ [name], IsName x) :
    ∀ x ∈ parts ++ [stripExtension name], x ≠ "" ∧ '/' ∉ x.toList := by
  intro x hx
  rcases List.mem_append.mp hx with hx | hx
  · exact ⟨(h x (List.mem_append_left _ hx)).ne_empty,
      (h x (List.mem_append_left _ hx)).no_slash⟩
  · have hname := h name (List.mem_append_right _ List.mem_cons_self)
    rw [List.mem_singleton.mp hx]
    exact ⟨stripExtension_ne_empty hname.ne_empty, slash_not_mem_stripExtension hname.no_slash⟩

/-- How a remote path is made of the prefix, the parts of a source after the root's, and its file
name: joined by `/`, the name without its extension. Each part is non-empty and free of `/`; all
but the last are neither `.` nor `..`, and the last is `.` or `..` exactly when the file name is
`..` or `...` before an ending without `.`. -/
structure RemoteName (pre v : String) (parts : List String) (name : String) : Prop where
  eq : v = DeployConfig.dropTrailing '/' pre ++ "/" ++
    "/".intercalate (parts ++ [stripExtension name])
  plain : ∀ x ∈ parts ++ [stripExtension name], x ≠ "" ∧ '/' ∉ x.toList
  no_dots : ∀ x ∈ parts, x ≠ "." ∧ x ≠ ".."
  current_iff : stripExtension name = "." ↔ ∃ ext, '.' ∉ ext.toList ∧ name = "." ++ "." ++ ext
  parent_iff : stripExtension name = ".." ↔ ∃ ext, '.' ∉ ext.toList ∧ name = ".." ++ "." ++ ext

theorem remoteName_of_ofSource {source root pre v : String}
    (h : ofSource source root pre = .ok v) :
    ∃ parts name, relativeParts source root = parts ++ [name] ∧ RemoteName pre v parts name := by
  obtain ⟨parts, name, hrel, hnames, hv⟩ := ofSource_eq_ok h
  have hname : IsName name := hnames name (List.mem_append_right _ List.mem_cons_self)
  refine ⟨parts, name, hrel, hv, slash_not_mem_of_isName hnames, fun x hx => ?_,
    stripExtension_eq_iff (by decide) hname.ne_current,
    stripExtension_eq_iff (by decide) hname.ne_parent⟩
  have hx' := hnames x (List.mem_append_left _ hx)
  exact ⟨hx'.ne_current, hx'.ne_parent⟩

theorem remoteName_of_dots_file : ofSource "/a/..." "/a" "u/admin" = .ok "u/admin/.." ∧
    ∃ parts name, relativeParts "/a/..." "/a" = parts ++ [name] ∧
      RemoteName "u/admin" "u/admin/.." parts name :=
  have h : ofSource "/a/..." "/a" "u/admin" = .ok "u/admin/.." := rfl
  ⟨h, remoteName_of_ofSource h⟩

/-- A file named `...` directly in the root is mapped to the prefix followed by `..`: the last
part of a remote path can climb out of the prefix. -/
theorem ofSource_dots_name_climbs : ofSource "/a/..." "/a" "u/admin" = .ok "u/admin/.." ∧
    ∀ rest : String, "u/admin/.." = DeployConfig.dropTrailing '/' "u/admin" ++ "/" ++ rest →
      rest = ".." := by
  refine ⟨rfl, fun rest h => ?_⟩
  have hpre : DeployConfig.dropTrailing '/' "u/admin" = "u/admin" := by decide +kernel
  rw [hpre, show "u/admin/.." = "u/admin" ++ "/" ++ ".." from rfl, String.append_right_inj] at h
  exact h.symm

/-! ## When two sources collide -/

/-- Two lists of parts agree up to the last one's extension: of one length, equal but for the
last part, and with last parts equal once stripped. -/
def SameUpToExtension (a b : List String) : Prop :=
  a.length = b.length ∧ a.dropLast = b.dropLast ∧
    a.getLast?.map stripExtension = b.getLast?.map stripExtension

instance (a b : List String) : Decidable (SameUpToExtension a b) :=
  inferInstanceAs (Decidable (_ ∧ _ ∧ _))

/-- Under one root and prefix, two sources get one remote path exactly when their parts after the
root's agree up to the last one's extension. -/
theorem ofSource_eq_iff_sameUpToExtension {source₁ source₂ root pre v₁ v₂ : String}
    (h₁ : ofSource source₁ root pre = .ok v₁) (h₂ : ofSource source₂ root pre = .ok v₂) :
    v₁ = v₂ ↔ SameUpToExtension (relativeParts source₁ root) (relativeParts source₂ root) := by
  obtain ⟨parts₁, name₁, hrel₁, hnames₁, rfl⟩ := ofSource_eq_ok h₁
  obtain ⟨parts₂, name₂, hrel₂, hnames₂, rfl⟩ := ofSource_eq_ok h₂
  unfold SameUpToExtension
  rw [hrel₁, hrel₂, String.append_right_inj]
  simp only [List.length_append, List.length_singleton, List.dropLast_concat,
    List.getLast?_concat, Option.map_some, Option.some.injEq]
  constructor
  · intro h
    -- no part holds a `/`, so the joined texts give their parts back
    obtain ⟨hparts, hname⟩ := List.append_singleton_inj.mp
      (intercalate_slash_inj (fun x hx => (slash_not_mem_of_isName hnames₁ x hx).2)
        (fun x hx => (slash_not_mem_of_isName hnames₂ x hx).2) (by simp) (by simp) h)
    exact ⟨by rw [hparts], hparts, hname⟩
  · rintro ⟨-, rfl, hname⟩
    rw [hname]

theorem ofSource_eq_iff_sameUpToExtension_twins :
    ofSource "/repo/f/a/x.py" "/repo/f" "u/admin" = .ok "u/admin/a/x" ∧
      ofSource "\\repo\\f\\.\\b\\..\\a\\x.js" "/repo/f" "u/admin" = .ok "u/admin/a/x" ∧
      ("u/admin/a/x" = "u/admin/a/x" ↔ SameUpToExtension (relativeParts "/repo/f/a/x.py" "/repo/f")
        (relativeParts "\\repo\\f\\.\\b\\..\\a\\x.js" "/repo/f")) :=
  have h₁ : ofSource "/repo/f/a/x.py" "/repo/f" "u/admin" = .ok "u/admin/a/x" := rfl
  have h₂ : ofSource "\\repo\\f\\.\\b\\..\\a\\x.js" "/repo/f" "u/admin" = .ok "u/admin/a/x" := rfl
  ⟨h₁, h₂, ofSource_eq_iff_sameUpToExtension h₁ h₂⟩

end ScriptDeploy.RemotePath
