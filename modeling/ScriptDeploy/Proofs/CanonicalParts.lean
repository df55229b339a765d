import ScriptDeploy.Proofs.RemoteNames

/-! # The lexical normal form of a path

The parts that `segments` gives are in a normal form (`Canonical`): none is empty or `.` or holds
a separator, every `..` comes before every other part, and an absolute path has no `..` at all.
Folding keeps that form one piece at a time (`Canonical.fold`), so the parts of every path have it
(`canonical_segments`). Written back as text, `/` first when the path is absolute and `/` between
the parts (`render`), parts in that form read back as themselves (`segments_render`): the lexical
form of a path is a fixed point of `segments` (`segments_canonical`).
-/

namespace ScriptDeploy.RemotePath

set_option autoImplicit false

open ScriptDeploy.Path

/-- Parts written back as a path: `/` first when absolute, and `/` between the parts. -/
def render (absolute : Bool) (segs : List String) : String :=
  (if absolute then "/" else "") ++ "/".intercalate segs

/-- Parts in lexical normal form: no part is empty or `.` or holds a separator, each `..` comes
before every other part, and an absolute path has none. -/
structure Canonical (absolute : Bool) (segs : List String) : Prop where
  part : ∀ x ∈ segs, x ≠ "" ∧ x ≠ "." ∧ '/' ∉ x.toList ∧ '\\' ∉ x.toList
  parents_first : segs.Pairwise fun x y => y = ".." → x = ".."
  no_parent : absolute = true → ".." ∉ segs

/-! ## Pieces of a text -/

theorem subset_of_mem_splitOn (a : Char) :
    ∀ {cs piece : List Char}, piece ∈ cs.splitOn a → piece ⊆ cs
  | [], piece, h => by
    rw [List.splitOn_nil, List.mem_singleton] at h
    simp [h]
  | c :: cs, piece, h => by
    rw [List.splitOn_cons_eq_if_modifyHead] at h
    split at h
    · rcases List.mem_cons.mp h with rfl | h
      · exact List.nil_subset _
      · exact List.Subset.trans (subset_of_mem_splitOn a h) (List.subset_cons_self c cs)
    · -- the first piece gains `c`, the others are pieces of `cs`
      obtain ⟨first, rest, hsplit⟩ := List.exists_cons_of_ne_nil (List.splitOn_ne_nil a cs)
      rw [hsplit, List.modifyHead_cons] at h
      rcases List.mem_cons.mp h with rfl | h
      · exact List.cons_subset_cons c (subset_of_mem_splitOn a (hsplit ▸ List.mem_cons_self))
      · exact List.Subset.trans (subset_of_mem_splitOn a (hsplit ▸ List.mem_cons_of_mem first h))
          (List.subset_cons_self c cs)

theorem unifyChar_ne_backslash (c : Char) : unifyChar c ≠ '\\' := by
  unfold unifyChar
  split
  · decide
  · rename_i hc
    simpa using hc

theorem backslash_not_mem_unify (raw : String) : '\\' ∉ unify raw := by
  rw [unify_eq_map, List.mem_map]
  rintro ⟨c, -, hc⟩
  exact unifyChar_ne_backslash c hc

theorem map_intercalate {α β : Type} (f : α → β) (sep : List α) :
    ∀ ls : List (List α), (sep.intercalate ls).map f = (sep.map f).intercalate (ls.map (·.map f))
  | [] => rfl
  | [l] => by simp [List.intercalate_singleton]
  | l :: l' :: ls => by
    rw [List.intercalate_cons_cons, List.map_append, List.map_append, map_intercalate f sep (l' :: ls)]
    simp [List.intercalate_cons_cons]

/-! ## Folding keeps the normal form -/

section Fold

variable {absolute : Bool} {l : List String}

theorem Canonical.nil (absolute : Bool) : Canonical absolute [] := ⟨by simp, .nil, by simp⟩

theorem Canonical.sublist {l' : List String} (h : Canonical absolute l) (hsub : List.Sublist l' l) :
    Canonical absolute l' where
  part x hx := h.part x (hsub.subset hx)
  parents_first := h.parents_first.sublist hsub
  no_parent habs hmem := h.no_parent habs (hsub.subset hmem)

theorem parent_of_mem_before_parent
    (h : (l ++ [".."]).Pairwise fun x y => y = ".." → x = "..") : ∀ y ∈ l, y = ".." :=
  fun y hy => (List.pairwise_append.mp h).2.2 y hy ".." (List.mem_singleton_self _) rfl

theorem Canonical.append_part (h : Canonical absolute l) {x : String}
    (hx : x ≠ "" ∧ x ≠ "." ∧ '/' ∉ x.toList ∧ '\\' ∉ x.toList) (hpar : x ≠ "..") :
    Canonical absolute (l ++ [x]) where
  part y hy := by
    rcases List.mem_append.mp hy with hy | hy
    · exact h.part y hy
    · rw [List.mem_singleton.mp hy]
      exact hx
  parents_first := by
    refine List.pairwise_append.mpr ⟨h.parents_first, List.pairwise_singleton _ _, ?_⟩
    intro y _ z hz hzpar
    exact absurd (List.mem_singleton.mp hz ▸ hzpar) hpar
  no_parent habs hmem := by
    rcases List.mem_append.mp hmem with hmem | hmem
    · exact h.no_parent habs hmem
    · exact hpar (List.mem_singleton.mp hmem).symm

theorem Canonical.append_parent (h : Canonical absolute l) (hrel : ¬absolute = true)
    (hall : ∀ y ∈ l, y = "..") : Canonical absolute (l ++ [".."]) where
  part y hy := by
    rcases List.mem_append.mp hy with hy | hy
    · exact h.part y hy
    · rw [List.mem_singleton.mp hy]
      decide
  parents_first :=
    List.pairwise_append.mpr ⟨h.parents_first, List.pairwise_singleton _ _,
      fun y hy _ _ _ => hall y hy⟩
  no_parent habs := absurd habs hrel

theorem Canonical.fold {out : List String} {piece : String} (h : Canonical absolute out.reverse)
    (hslash : '/' ∉ piece.toList) (hback : '\\' ∉ piece.toList) :
    Canonical absolute (fold absolute out piece).reverse := by
  unfold RemotePath.fold
  split
  · exact h
  split
  · -- `..` drops the last part, is dropped, or joins the run of `..` in front
    split
    · rename_i last rest
      rw [List.reverse_cons] at h
      split
      · exact h.sublist (List.sublist_append_left _ _)
      split
      · rw [List.reverse_cons]
        exact h
      · rename_i hlast hrel
        have hlast : last = ".." := by simpa using hlast
        subst hlast
        have hall := parent_of_mem_before_parent h.parents_first
        rw [List.reverse_cons, List.reverse_cons]
        refine h.append_parent hrel fun y hy => ?_
        rcases List.mem_append.mp hy with hy | hy
        · exact hall y hy
        · exact List.mem_singleton.mp hy
    · split
      · exact h
      · rename_i hrel
        exact (Canonical.nil absolute).append_parent hrel (by simp)
  · rename_i hblank hpar
    have hne : piece ≠ "" := fun heq => hblank (by simp [heq])
    have hcur : piece ≠ "." := fun heq => hblank (by simp [heq])
    rw [List.reverse_cons]
    exact h.append_part ⟨hne, hcur, hslash, hback⟩ (by simpa using hpar)

theorem canonical_foldl : ∀ (pieces out : List String),
    (∀ p ∈ pieces, '/' ∉ p.toList ∧ '\\' ∉ p.toList) → Canonical absolute out.reverse →
      Canonical absolute (pieces.foldl (fold absolute) out).reverse
  | [], _, _, h => h
  | p :: ps, out, hp, h =>
    canonical_foldl ps (fold absolute out p) (fun q hq => hp q (List.mem_cons_of_mem p hq))
      (h.fold (hp p List.mem_cons_self).1 (hp p List.mem_cons_self).2)

end Fold

theorem canonical_segments (raw : String) : Canonical (segments raw).1 (segments raw).2 := by
  rw [segments_eq]
  apply canonical_foldl _ [] _ (Canonical.nil _)
  -- each piece lies between two `/` of a text in which every `\` was written as `/`
  intro p hp
  obtain ⟨piece, hpiece, rfl⟩ := List.mem_map.mp hp
  rw [String.toList_ofList]
  exact ⟨not_mem_of_mem_splitOn '/' hpiece,
    fun hb => backslash_not_mem_unify raw (subset_of_mem_splitOn '/' hpiece hb)⟩

theorem segments_absolute_iff (raw : String) :
    (segments raw).1 = true ↔ raw.toList.head? = some '/' ∨ raw.toList.head? = some '\\' := by
  rw [segments_eq, unify_eq_map, List.head?_map]
  cases raw.toList.head? with
  | none => simp
  | some c =>
    by_cases hc : c = '\\' <;> simp [unifyChar, hc]

/-! ## Reading the normal form back -/

theorem fold_of_canonical {absolute : Bool} {out : List String} {x : String}
    (h : Canonical absolute (out.reverse ++ [x])) : fold absolute out x = x :: out := by
  by_cases hx : x = ".."
  · -- a `..` of a relative path, after nothing but `..`
    subst hx
    have hrel : absolute = false := by
      cases absolute with
      | false => rfl
      | true => exact absurd (List.mem_append_right _ (List.mem_singleton_self _)) (h.no_parent rfl)
    have hall := parent_of_mem_before_parent h.parents_first
    subst hrel
    cases out with
    | nil => rfl
    | cons last rest =>
      have hlast : last = ".." := hall last (by simp)
      subst hlast
      simp [RemotePath.fold]
  · obtain ⟨hne, hcur, -, -⟩ := h.part x (List.mem_append_right _ (List.mem_singleton_self x))
    exact fold_part absolute out hne hcur hx

theorem foldl_fold_of_canonical {absolute : Bool} : ∀ (segs out : List String),
    Canonical absolute (out.reverse ++ segs) → segs.foldl (fold absolute) out = segs.reverse ++ out
  | [], _, _ => by simp
  | x :: rest, out, h => by
    have hstep : fold absolute out x = x :: out :=
      fold_of_canonical (h.sublist (((List.nil_sublist rest).cons_cons x).append_left _))
    rw [List.foldl_cons, hstep, foldl_fold_of_canonical rest (x :: out) (by simpa using h)]
    simp

section Render

variable {segs : List String}

theorem unify_render (absolute : Bool) (hb : ∀ x ∈ segs, '\\' ∉ x.toList) :
    unify (render absolute segs) =
      (if absolute then ['/'] else []) ++ ['/'].intercalate (segs.map String.toList) := by
  have hparts : (segs.map String.toList).map (·.map unifyChar) = segs.map String.toList := by
    rw [List.map_map]
    exact List.map_congr_left fun x hx => map_unifyChar_of_not_mem (hb x hx)
  rw [unify_eq_map, render, String.toList_append, String.toList_intercalate, List.map_append,
    map_intercalate, hparts]
  cases absolute <;> rfl

theorem foldParts_render (absolute : Bool) (hsegs : ∀ x ∈ segs, '/' ∉ x.toList ∧ '\\' ∉ x.toList) :
    foldParts absolute (unify (render absolute segs)) = segs.foldl (fold absolute) [] := by
  rw [unify_render absolute fun x hx => (hsegs x hx).2]
  have hbare : foldParts absolute [] = [] := by simp [foldParts, fold_empty]
  by_cases hnil : segs = []
  · -- nothing but the root, or nothing at all
    subst hnil
    cases absolute with
    | false => exact hbare
    | true => exact (foldParts_append_sep true []).trans hbare
  · -- the text after the root splits back into the parts
    have hsplit : ((['/'].intercalate (segs.map String.toList)).splitOn '/').map String.ofList = segs := by
      rw [List.splitOn_intercalate '/' (by simpa using fun x hx => (hsegs x hx).1) (by simpa using hnil),
        List.map_map]
      simp
    cases absolute with
    | false =>
      rw [if_neg Bool.false_ne_true, List.nil_append]
      unfold foldParts
      rw [hsplit]
    | true =>
      rw [if_pos rfl, ← List.nil_append (['/'] ++ _), List.singleton_append, foldParts_append_slash,
        hbare, hsplit]

theorem absolute_render (absolute : Bool)
    (hsegs : ∀ x ∈ segs, x ≠ "" ∧ '/' ∉ x.toList ∧ '\\' ∉ x.toList) :
    ((unify (render absolute segs)).head? == some '/') = absolute := by
  rw [unify_render absolute fun x hx => (hsegs x hx).2.2]
  cases absolute with
  | true => rfl
  | false =>
    cases segs with
    | nil => rfl
    | cons s rest =>
      -- the text starts with the first part, whose first character is no `/`
      obtain ⟨hne, hslash, -⟩ := hsegs s List.mem_cons_self
      obtain ⟨c, cs, hcs⟩ := List.exists_cons_of_ne_nil (show s.toList ≠ [] by simpa using hne)
      have hc : c ≠ '/' := fun heq => hslash (by simp [hcs, heq])
      simp [hcs, hc]

theorem segments_render {absolute : Bool} (h : Canonical absolute segs) :
    segments (render absolute segs) = (absolute, segs) := by
  rw [segments_eq, absolute_render absolute fun x hx => ⟨(h.part x hx).1, (h.part x hx).2.2⟩,
    foldParts_render absolute fun x hx => (h.part x hx).2.2,
    foldl_fold_of_canonical segs [] (by simpa using h), List.append_nil, List.reverse_reverse]

end Render

/-- A path is absolute exactly when it starts with `/` or `\`; its parts are never empty or `.`
and hold no separator, its `..` parts come before all others and are absent from an absolute
path; and written back, the path reads as the same parts. -/
theorem segments_canonical (raw : String) :
    ((segments raw).1 = true ↔ raw.toList.head? = some '/' ∨ raw.toList.head? = some '\\') ∧
      Canonical (segments raw).1 (segments raw).2 ∧
      segments (render (segments raw).1 (segments raw).2) = segments raw :=
  ⟨segments_absolute_iff raw, canonical_segments raw, segments_render (canonical_segments raw)⟩

end ScriptDeploy.RemotePath
