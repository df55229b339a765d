import ScriptDeploy.Discovery
import ScriptDeploy.RemotePath
import ScriptDeploy.Proofs.InMemoryServer

/-! # A directory joined with a name

A name that a directory can hold is not empty, not `.` or `..`, and has no `/`. Joined onto a
directory path it becomes the path's last part: it is the file name and the text before it is
the parent (`lastPart?_join`), so a sidecar is the source's stem with the suffix, in the source's
directory (`sidecarPath_join`). Without a `\` either, the name is also the last of the path's
lexical parts, after the directory's own (`segments_join`).
-/

namespace ScriptDeploy

set_option autoImplicit false

/-- A name a directory can hold: not empty, not `.` or `..`, and without `/`. -/
structure Path.IsName (s : String) : Prop where
  ne_empty : s ≠ ""
  ne_current : s ≠ "."
  ne_parent : s ≠ ".."
  no_slash : '/' ∉ s.toList

namespace Path

variable {s : String}

theorem IsName.toList_ne_nil (hs : IsName s) : s.toList ≠ [] := by
  intro h
  exact hs.ne_empty (String.toList_inj.mp (by simpa using h))

theorem IsName.toList_ne_current (hs : IsName s) : s.toList ≠ ['.'] := by
  intro h
  exact hs.ne_current (String.toList_inj.mp (by simpa using h))

theorem IsName.toList_ne_parent (hs : IsName s) : s.toList ≠ ['.', '.'] := by
  intro h
  exact hs.ne_parent (String.toList_inj.mp (by simpa using h))

theorem isAbsolute_eq_false (hs : '/' ∉ s.toList) : isAbsolute s = false := by
  unfold isAbsolute
  rw [String.startsWith_string_eq_false_iff]
  rintro ⟨t, ht⟩
  exact hs (by simp [← ht])

/-- The directory part that joining a relative name keeps: nothing for an empty directory, the
directory itself when it ends in `/`, and otherwise the directory and a `/`. -/
def dirPart (dir : String) : List Char :=
  if dir.isEmpty || dir.endsWith "/" then dir.toList else dir.toList ++ ['/']

theorem dirPart_eq_nil_or_getLast (dir : String) :
    dirPart dir = [] ∨ (dirPart dir).getLast? = some '/' := by
  unfold dirPart
  by_cases hempty : dir.isEmpty = true
  · left
    simp [String.isEmpty_iff.mp hempty]
  · by_cases hend : dir.endsWith "/" = true
    · right
      obtain ⟨pre, hpre⟩ := (endsWith_iff_suffix _ _).mp hend
      simp [hend, ← hpre]
    · right
      simp [hempty, hend]

theorem join_toList (dir : String) (hs : '/' ∉ s.toList) :
    (join dir s).toList = dirPart dir ++ s.toList := by
  unfold join dirPart
  rw [isAbsolute_eq_false hs, if_neg (by simp)]
  split <;> simp

theorem mem_join_of_mem (dir : String) (hs : '/' ∉ s.toList) {c : Char} (hc : c ∈ s.toList) :
    c ∈ (join dir s).toList := by
  rw [join_toList dir hs]
  exact List.mem_append_right _ hc

/-! ## The last part of a path that ends in a name -/

section LastPart

variable {pre : List Char}

theorem bodyStart_name (hs : IsName s) : bodyStart s.toList = 0 := by
  -- a name neither starts with `/` nor is a leading `.` part
  have hcur : leadsWithCurrent s.toList = false := by
    unfold leadsWithCurrent
    split
    · rename_i h
      exact absurd h hs.toList_ne_current
    · rename_i tail h
      exact absurd (by simp [h]) hs.no_slash
    · rfl
  unfold bodyStart
  split
  · rename_i tail h
    exact absurd (by simp [h]) hs.no_slash
  · simp [hcur]

theorem bodyStart_le (hs : IsName s) (hpre : pre = [] ∨ pre.getLast? = some '/') :
    bodyStart (pre ++ s.toList) ≤ pre.length := by
  rcases hpre with rfl | hlast
  · simp [bodyStart_name hs]
  · have hpos : 0 < pre.length := by
      cases pre with
      | nil => simp at hlast
      | cons _ _ => simp
    unfold bodyStart
    split
    · exact hpos
    · split <;> omega

theorem lastPiece_fst (hs : IsName s) (hpre : pre = [] ∨ pre.getLast? = some '/') :
    (lastPiece (pre ++ s.toList)).1 = s.toList := by
  have hle := bodyStart_le hs hpre
  have hnoslash : ∀ c ∈ s.toList.reverse, (c != '/') = true := by
    intro c hc
    have : c ≠ '/' := fun h => hs.no_slash (by simpa [h] using hc)
    simpa using this
  unfold lastPiece
  simp only
  rw [List.drop_append_of_le_length hle, List.reverse_append, List.takeWhile_append_of_pos hnoslash]
  -- what remains before the name is empty or ends in `/`, so nothing more is taken
  have hrest : List.takeWhile (fun c => c != '/') (pre.drop (bodyStart (pre ++ s.toList))).reverse
      = [] := by
    rcases hpre with rfl | hlast
    · simp
    · cases hdrop : (pre.drop (bodyStart (pre ++ s.toList))).reverse with
      | nil => rfl
      | cons c rest =>
        have hc : c = '/' := by
          have h1 : (pre.drop (bodyStart (pre ++ s.toList))).getLast? = some c := by
            rw [← List.head?_reverse, hdrop]
            rfl
          rw [List.getLast?_drop] at h1
          split at h1
          · cases h1
          · rw [hlast] at h1
            exact (Option.some.inj h1).symm
        simp [hc]
  rw [hrest, List.append_nil, List.reverse_reverse]

theorem trimEnd_eq (hs : IsName s) (hpre : pre = [] ∨ pre.getLast? = some '/') :
    trimEnd (pre ++ s.toList) = pre ++ s.toList := by
  unfold trimEnd trimEnd.go
  split
  · rfl
  · simp only [lastPiece_fst hs hpre]
    have hne : s.toList.isEmpty = false := by simpa using hs.toList_ne_nil
    have hcur : (s.toList == ['.']) = false := by simpa using hs.toList_ne_current
    simp [hne, hcur]

theorem lastPart?_of_toList {p : String} (hp : p.toList = pre ++ s.toList) (hs : IsName s)
    (hpre : pre = [] ∨ pre.getLast? = some '/') : ∃ rest, lastPart? p = some (.name s, rest) := by
  have hlong : bodyStart (pre ++ s.toList) < (pre ++ s.toList).length := by
    have := bodyStart_le hs hpre
    have : 0 < s.toList.length := List.length_pos_iff.mpr hs.toList_ne_nil
    simp only [List.length_append]
    omega
  unfold lastPart?
  simp only [hp, trimEnd_eq hs hpre]
  rw [if_pos hlong]
  simp only [lastPiece_fst hs hpre, String.ofList_toList]
  have hparent : (s.toList == ['.', '.']) = false := by simpa using hs.toList_ne_parent
  simp [hparent]

end LastPart

theorem lastPart?_join (dir : String) (hs : IsName s) :
    ∃ rest, lastPart? (join dir s) = some (.name s, rest) :=
  lastPart?_of_toList (join_toList dir hs.no_slash) hs (dirPart_eq_nil_or_getLast dir)

end Path

/-! ## Sidecars -/

namespace Discovery

open ScriptDeploy.Path

theorem sidecarPath_join (dir ext suffix : String) {s : String} (hs : IsName s)
    (hend : s.endsWith ("." ++ ext) = true) :
    ∃ stem parent, stem ++ ("." ++ ext) = s ∧ Path.parent? (Path.join dir s) = some parent ∧
      sidecarPath (Path.join dir s) ext suffix = Path.join parent (stem ++ suffix) := by
  obtain ⟨rest, hlast⟩ := lastPart?_join dir hs
  have hname : fileName? (Path.join dir s) = some s := by simp [fileName?, hlast]
  have hparent : parent? (Path.join dir s) = some rest := by simp [parent?, hlast]
  obtain ⟨pre, hpre⟩ := (endsWith_iff_suffix _ _).mp hend
  have hstem : String.ofList (s.toList.take (s.length - ("." ++ ext).length)) = String.ofList pre := by
    rw [← String.length_toList, ← String.length_toList, ← hpre, List.length_append,
      Nat.add_sub_cancel, List.take_left]
  refine ⟨String.ofList pre, rest, ?_, hparent, ?_⟩
  · rw [← String.toList_inj, String.toList_append, String.toList_ofList, hpre]
  · simp only [sidecarPath, hname, Option.getD_some, hend, if_true, hstem, withFileName, hparent]

end Discovery

end ScriptDeploy
