import ScriptDeploy.Proofs.RemoteNames
import Mathlib.Logic.Relation

/-! # Spellings of one path

A separator can be written as either separator, as a run of them, as `/./`, or as `/x/../`
around a name `x` (`SeparatorSpelling`). Read with `\` as `/`, each of these is one `/` or puts
between two `/` pieces that folding passes over, so writing any separator of a path another way
keeps its lexical parts and whether it is absolute (`segments_respelled`). As the mapping reads
a source and a root through those alone, neither the remote path nor being out of scope depends
on how the two are spelled (`ofSource_respelled`).
-/

namespace ScriptDeploy.RemotePath

set_option autoImplicit false

open ScriptDeploy.Path

/-- The ways of writing one separator that leave a path's lexical form alone. -/
inductive SeparatorSpelling : List Char → Prop where
  | run {cs : List Char} : cs ≠ [] → (∀ c ∈ cs, c = '/' ∨ c = '\\') → SeparatorSpelling cs
  | current : SeparatorSpelling ['/', '.', '/']
  | detour {x : String} : IsName x → '\\' ∉ x.toList →
      SeparatorSpelling ('/' :: x.toList ++ ['/', '.', '.', '/'])

/-- A path with one of its separators written another way. -/
def Respelled (s t : String) : Prop :=
  ∃ u v c w, (c = '/' ∨ c = '\\') ∧ SeparatorSpelling w ∧
    s.toList = u ++ c :: v ∧ t.toList = u ++ w ++ v

/-- Pieces that folding passes over: whatever the parts before them, they leave them as they are. -/
def Passes (pieces : List Char) : Prop :=
  ∀ (absolute : Bool) (out : List String),
    ((pieces.splitOn '/').map String.ofList).foldl (fold absolute) out = out

theorem unifyChar_of_separator {c : Char} (h : c = '/' ∨ c = '\\') : unifyChar c = '/' := by
  rcases h with rfl | rfl <;> decide

theorem fold_parent_name (absolute : Bool) (out : List String) {x : String} (hx : x ≠ "..") :
    fold absolute (x :: out) ".." = out := by
  simp [RemotePath.fold, hx]

theorem passes_replicate (n : Nat) : Passes (List.replicate n '/') := by
  intro absolute out
  induction n generalizing out with
  | zero => simp [fold_empty]
  | succ n ih =>
    rw [List.replicate_succ, ← List.nil_append ('/' :: List.replicate n '/'),
      List.splitOn_append_cons_self]
    simp [fold_empty, ih]

theorem passes_current : Passes ['.'] := by
  intro absolute out
  rw [List.splitOn_eq_singleton (by decide)]
  exact fold_current absolute out

theorem passes_detour {x : String} (hx : IsName x) : Passes (x.toList ++ ['/', '.', '.']) := by
  intro absolute out
  rw [List.splitOn_append_cons_self, List.splitOn_eq_singleton hx.no_slash]
  simp only [List.map_append, List.map_cons, List.map_nil, List.foldl_append, List.foldl_cons,
    List.foldl_nil, String.ofList_toList, fold_name absolute out hx]
  rw [List.splitOn_eq_singleton (by decide)]
  exact fold_parent_name absolute out hx.ne_parent

theorem SeparatorSpelling.unify {w : List Char} (h : SeparatorSpelling w) :
    w.map unifyChar = ['/'] ∨
      ∃ pieces, Passes pieces ∧ w.map unifyChar = '/' :: (pieces ++ ['/']) := by
  cases h with
  | run hne hsep =>
    have hall : w.map unifyChar = List.replicate w.length '/' := by
      refine List.eq_replicate_iff.mpr ⟨List.length_map _, fun b hb => ?_⟩
      obtain ⟨c, hc, rfl⟩ := List.mem_map.mp hb
      exact unifyChar_of_separator (hsep c hc)
    obtain ⟨n, hn⟩ := Nat.exists_eq_add_of_lt (List.length_pos_iff.mpr hne)
    rw [hall, hn]
    cases n with
    | zero => exact .inl rfl
    | succ n =>
      refine .inr ⟨List.replicate n '/', passes_replicate n, ?_⟩
      rw [Nat.zero_add, List.replicate_succ, List.replicate_succ']
  | current => exact .inr ⟨['.'], passes_current, rfl⟩
  | detour hx hb =>
    rename_i x
    refine .inr ⟨x.toList ++ ['/', '.', '.'], passes_detour hx, ?_⟩
    rw [List.map_append, List.map_cons, map_unifyChar_of_not_mem hb, unifyChar_slash]
    simp [unifyChar]

theorem foldParts_passes {pieces : List Char} (hpass : Passes pieces) (absolute : Bool)
    (u v : List Char) :
    foldParts absolute (u ++ '/' :: (pieces ++ '/' :: v)) = foldParts absolute (u ++ '/' :: v) := by
  rw [foldParts_append_slash, foldParts_append_slash, List.splitOn_append_cons_self,
    List.map_append, List.foldl_append, hpass]

theorem segments_respelled {s t : String} (h : Respelled s t) : segments t = segments s := by
  obtain ⟨u, v, c, w, hc, hw, hs, ht⟩ := h
  have hus : unify s = u.map unifyChar ++ '/' :: v.map unifyChar := by
    rw [unify_eq_map, hs, List.map_append, List.map_cons, unifyChar_of_separator hc]
  have hut : unify t = u.map unifyChar ++ (w.map unifyChar ++ v.map unifyChar) := by
    rw [unify_eq_map, ht, List.map_append, List.map_append, List.append_assoc]
  rw [segments_eq, segments_eq, hus, hut]
  rcases hw.unify with hsingle | ⟨pieces, hpass, hpieces⟩
  · rw [hsingle, List.singleton_append]
  · -- the text before the separator decides whether the path is absolute
    have hhead : (u.map unifyChar ++ ('/' :: (pieces ++ ['/']) ++ v.map unifyChar)).head? =
        (u.map unifyChar ++ '/' :: v.map unifyChar).head? := by
      cases u.map unifyChar <;> rfl
    rw [hpieces, hhead, List.cons_append, List.append_assoc, List.singleton_append,
      foldParts_passes hpass]

theorem segments_of_respellings {s t : String} (h : Relation.ReflTransGen Respelled s t) :
    segments t = segments s := by
  induction h with
  | refl => rfl
  | tail _ hstep ih => rw [segments_respelled hstep, ih]

theorem ofSource_error {source root pre : String} {e : ScriptError}
    (h : ofSource source root pre = .error e) : e = .outOfScope source root := by
  unfold ofSource at h
  generalize segments source = S at h
  generalize segments root = R at h
  obtain ⟨sourceAbs, sourceParts⟩ := S
  obtain ⟨rootAbs, rootParts⟩ := R
  simp only at h
  split at h
  · cases h; rfl
  split at h
  · cases h; rfl
  · cases h

theorem ofSource_toOption_congr {source source' root root' : String} (pre : String)
    (hs : segments source' = segments source) (hr : segments root' = segments root) :
    (ofSource source' root' pre).toOption = (ofSource source root pre).toOption := by
  unfold ofSource
  rw [hs, hr]
  generalize segments source = S
  generalize segments root = R
  obtain ⟨sourceAbs, sourceParts⟩ := S
  obtain ⟨rootAbs, rootParts⟩ := R
  simp only
  split
  · rfl
  split <;> rfl

/-- However the separators of a source and of a root are written (either separator, a run of
them, `/./`, or `/x/../` around a name), the source gets the same remote path, or is out of scope
for both spellings. -/
theorem ofSource_respelled {source source' root root' : String} (pre : String)
    (hs : Relation.ReflTransGen Respelled source source')
    (hr : Relation.ReflTransGen Respelled root root') :
    (ofSource source' root' pre).toOption = (ofSource source root pre).toOption ∧
      (ofSource source' root' pre = .error (.outOfScope source' root') ↔
        ofSource source root pre = .error (.outOfScope source root)) := by
  have hsame := ofSource_toOption_congr pre (segments_of_respellings hs)
    (segments_of_respellings hr)
  refine ⟨hsame, ?_⟩
  -- every failure is out of scope, so failing for one spelling is failing for the other
  have hfails : ∀ {s r : String}, ofSource s r pre = .error (.outOfScope s r) ↔
      (ofSource s r pre).toOption = none := by
    intro s r
    constructor
    · intro h
      rw [h]
      rfl
    · intro h
      cases hres : ofSource s r pre with
      | ok v => rw [hres] at h; cases h
      | error e => rw [ofSource_error hres]
  rw [hfails, hfails, hsame]

theorem ofSource_respelled_windows_detour :
    Relation.ReflTransGen Respelled "/repo/f/a/x.py" "/repo\\f/b/../a/x.py" ∧
      Relation.ReflTransGen Respelled "/repo/f" "/repo//f" ∧
      (ofSource "/repo\\f/b/../a/x.py" "/repo//f" "u/admin").toOption =
        (ofSource "/repo/f/a/x.py" "/repo/f" "u/admin").toOption ∧
      (ofSource "/repo\\f/b/../a/x.py" "/repo//f" "u/admin" =
          .error (.outOfScope "/repo\\f/b/../a/x.py" "/repo//f") ↔
        ofSource "/repo/f/a/x.py" "/repo/f" "u/admin" =
          .error (.outOfScope "/repo/f/a/x.py" "/repo/f")) :=
  have hback : Respelled "/repo/f/a/x.py" "/repo\\f/a/x.py" :=
    ⟨"/repo".toList, "f/a/x.py".toList, '/', ['\\'], .inl rfl, .run (by decide) (by simp),
      by decide +kernel, by decide +kernel⟩
  have hdetour : Respelled "/repo\\f/a/x.py" "/repo\\f/b/../a/x.py" :=
    ⟨"/repo\\f".toList, "a/x.py".toList, '/', '/' :: "b".toList ++ ['/', '.', '.', '/'], .inl rfl,
      .detour ⟨by decide, by decide, by decide, by decide⟩ (by decide),
      by decide +kernel, by decide +kernel⟩
  have hrun : Respelled "/repo/f" "/repo//f" :=
    ⟨"/repo".toList, "f".toList, '/', ['/', '/'], .inl rfl, .run (by decide) (by simp),
      by decide +kernel, by decide +kernel⟩
  have hs := (Relation.ReflTransGen.single hback).tail hdetour
  have hr := Relation.ReflTransGen.single hrun
  ⟨hs, hr, ofSource_respelled "u/admin" hs hr⟩

end ScriptDeploy.RemotePath
