import ScriptDeploy.Proofs.UploadProtocol
import Mathlib

/-! # Recognising a conflict

A create answer means a conflict when its status is 400 and its body, put in lower case,
holds `already exists`. The lower case is Unicode's, which is longer than ASCII's in two ways:
it lowers letters outside ASCII, and it can give ASCII letters for characters that are not
ASCII. Only two characters do the latter: the Kelvin sign, whose lower case is `k`, and the
capital I with a dot above, whose lower case is `i` followed by a combining dot
(`lowerChar_cases`). The phrase has no `k`, and its `i` is followed by `s`, never by a
combining dot; so neither can help to spell it, and every character outside ASCII stands in the
lowered body where nothing of the phrase can be (`infix_lowerFrom_iff`).

So the test is the same as looking for the phrase with ASCII letters compared without regard
to case and every other character compared as it is (`ContainsIgnoringAsciiCase`,
`containsText_toLowercase_iff`), and the three answers are told apart by the status and that
test alone (`classify_ignoring_ascii_case`).
-/

namespace ScriptDeploy

set_option autoImplicit false

/-! ## ASCII case -/

namespace Text

theorem toLower_of_not_ascii {c : Char} (h : 128 ≤ c.toNat) : c.toLower = c := by
  have hZ : 'Z'.val.toNat = 90 := rfl
  have hc : c.val.toNat = c.toNat := rfl
  unfold Char.toLower
  rw [dif_neg]
  simp only [ge_iff_le, UInt32.le_iff_toNat_le, hZ, hc, not_and, not_le]
  omega

/-! ## The lower case of one character -/

def runLeavesAscii (r : Nat × Nat × Nat × Nat) : Bool :=
  let last := r.2.2.2 + (r.2.1 - r.1)
  128 ≤ r.1 &&
    ((128 ≤ r.2.2.2 && (last < 0xD800 || (0xE000 ≤ r.2.2.2 && last < 0x110000))) ||
      (r.1 == 0x212A && r.2.1 == 0x212A && r.2.2.2 == 0x6B))

theorem lowerRuns_leaveAscii : lowerRuns.all runLeavesAscii = true := by
  decide +kernel

theorem lowerRun?_eq_some {n m : Nat} (h : lowerRun? n = some m) :
    ∃ r ∈ lowerRuns, r.1 ≤ n ∧ n ≤ r.2.1 ∧ m = r.2.2.2 + (n - r.1) := by
  unfold lowerRun? at h
  obtain ⟨r, hfind, rfl⟩ := Option.map_eq_some_iff.mp h
  have hr := List.find?_some hfind
  simp only [Bool.and_eq_true, decide_eq_true_eq] at hr
  exact ⟨r, List.mem_of_find?_eq_some hfind, hr.1.1, hr.1.2, rfl⟩

theorem lowerRun?_leavesAscii {n m : Nat} (h : lowerRun? n = some m) :
    (Char.ofNat m = 'k') ∨ 128 ≤ (Char.ofNat m).toNat := by
  obtain ⟨r, hr, hlo, hhi, rfl⟩ := lowerRun?_eq_some h
  have hleaves := List.all_eq_true.mp lowerRuns_leaveAscii r hr
  simp only [runLeavesAscii, Bool.and_eq_true, Bool.or_eq_true, decide_eq_true_eq,
    beq_iff_eq] at hleaves
  rcases hleaves.2 with ⟨hto, hvalid⟩ | ⟨⟨hkelvin, -⟩, hk⟩
  · right
    have hchar : (r.2.2.2 + (n - r.1)).isValidChar := by
      unfold Nat.isValidChar
      omega
    rw [Char.toNat_ofNat, if_pos hchar]
    omega
  · left
    rw [hk, show n - r.1 = 0 by omega]

theorem lowerChar_cases (c : Char) :
    (c.toNat < 128 ∧ lowerChar c = [c.toLower]) ∨ (128 ≤ c.toNat ∧ lowerChar c = ['i', '̇']) ∨
      (128 ≤ c.toNat ∧ ∃ x, lowerChar c = [x] ∧ (x = 'k' ∨ 128 ≤ x.toNat)) := by
  unfold lowerChar
  by_cases hascii : c.toNat < 128
  · exact .inl ⟨hascii, if_pos hascii⟩
  · rw [if_neg hascii]
    by_cases hdot : c = 'İ'
    · exact .inr (.inl ⟨by omega, if_pos hdot⟩)
    · rw [if_neg hdot]
      refine .inr (.inr ⟨by omega, ?_⟩)
      cases hrun : lowerRun? c.toNat with
      | none => exact ⟨c, rfl, .inr (by omega)⟩
      | some m => exact ⟨Char.ofNat m, rfl, lowerRun?_leavesAscii hrun⟩

theorem lowerSigma_not_ascii (before after : List Char) : 128 ≤ (lowerSigma before after).toNat := by
  unfold lowerSigma
  split <;> decide

theorem lowerStep_cases (before after : List Char) (c : Char) :
    let out := if c = 'Σ' then [lowerSigma before after] else lowerChar c
    (c.toNat < 128 ∧ out = [c.toLower]) ∨ (128 ≤ c.toNat ∧ out = ['i', '̇']) ∨
      (128 ≤ c.toNat ∧ ∃ x, out = [x] ∧ (x = 'k' ∨ 128 ≤ x.toNat)) := by
  intro out
  by_cases hsigma : c = 'Σ'
  · subst hsigma
    exact .inr (.inr ⟨by decide, _, if_pos rfl, .inr (lowerSigma_not_ascii before after)⟩)
  · simp only [out, if_neg hsigma]
    exact lowerChar_cases c

/-! ## Looking for an ASCII phrase in lowered text -/

/-- A phrase that no lower case of a character outside ASCII can help to spell: ASCII without
`k`, and not ending in `i`. -/
structure AsciiPhrase (n : List Char) : Prop where
  ascii : ∀ x ∈ n, x.toNat < 128 ∧ x ≠ 'k'
  last_ne_i : n.getLast? ≠ some 'i'

theorem AsciiPhrase.tail {x : Char} {n : List Char} (h : AsciiPhrase (x :: n)) : AsciiPhrase n := by
  refine ⟨fun y hy => h.ascii y (List.mem_cons_of_mem _ hy), ?_⟩
  cases n with
  | nil => simp
  | cons y n =>
    have hlast := h.last_ne_i
    rwa [List.getLast?_cons_cons] at hlast

/-- The lowered text begins with a phrase exactly when the text with its ASCII letters lowered
does. The induction runs over the text, with the characters passed kept for the sigmas. -/
theorem prefix_lowerFrom_iff : ∀ {n : List Char}, AsciiPhrase n → ∀ (before cs : List Char),
    n <+: lowerFrom before cs ↔ n <+: cs.map Char.toLower
  | [], _, _, _ => by simp
  | x :: ns, hn, before, [] => by simp [lowerFrom]
  | x :: ns, hn, before, c :: cs => by
    have hx := hn.ascii x List.mem_cons_self
    rw [lowerFrom, List.map_cons]
    rcases lowerStep_cases before cs c with ⟨-, hout⟩ | ⟨hc, hout⟩ | ⟨hc, y, hout, hy⟩
    · -- an ASCII character: both sides lower it the same way
      rw [hout, List.singleton_append, List.cons_prefix_cons, List.cons_prefix_cons,
        prefix_lowerFrom_iff hn.tail (c :: before) cs]
    · -- the dotted capital I: its `i` would have to end the phrase, or be followed by the dot
      rw [hout]
      have hleft : ¬ (x :: ns <+: ['i', '̇'] ++ lowerFrom (c :: before) cs) := by
        intro hpre
        rw [List.cons_append, List.cons_prefix_cons] at hpre
        obtain ⟨rfl, hrest⟩ := hpre
        cases ns with
        | nil => exact hn.last_ne_i rfl
        | cons y ns =>
          rw [List.singleton_append, List.cons_prefix_cons] at hrest
          have hy := (hn.ascii y (by simp)).1
          rw [hrest.1] at hy
          exact absurd hy (by decide)
      simp only [hleft, false_iff, List.cons_prefix_cons, not_and]
      intro hxc
      rw [toLower_of_not_ascii hc] at hxc
      subst hxc
      exact absurd hx.1 (by omega)
    · -- any other character: one character outside ASCII, or `k`, neither in the phrase
      rw [hout, List.singleton_append, List.cons_prefix_cons, List.cons_prefix_cons,
        toLower_of_not_ascii hc]
      have hxy : x ≠ y := by
        rintro rfl
        rcases hy with rfl | hy
        · exact hx.2 rfl
        · exact absurd hx.1 (by omega)
      have hxc : x ≠ c := by
        rintro rfl
        exact absurd hx.1 (by omega)
      simp [hxy, hxc]

theorem infix_lowerFrom_iff : ∀ {n : List Char}, AsciiPhrase n → ∀ (before cs : List Char),
    n <:+: lowerFrom before cs ↔ n <:+: cs.map Char.toLower
  | [], _, _, _ => by simp
  | x :: ns, hn, before, [] => by simp [lowerFrom]
  | x :: ns, hn, before, c :: cs => by
    have hstart := prefix_lowerFrom_iff hn before (c :: cs)
    have hlater := infix_lowerFrom_iff hn (c :: before) cs
    rw [lowerFrom] at hstart ⊢
    rw [List.map_cons, List.infix_cons_iff, ← List.map_cons, ← hstart, ← hlater]
    rcases lowerStep_cases before cs c with ⟨-, hout⟩ | ⟨-, hout⟩ | ⟨-, y, hout, -⟩
    · rw [hout, List.singleton_append, List.infix_cons_iff]
    · rw [hout, List.cons_append, List.infix_cons_iff, List.singleton_append,
        List.infix_cons_iff]
      have hdot : ¬ (x :: ns <+: '̇' :: lowerFrom (c :: before) cs) := by
        rw [List.cons_prefix_cons]
        rintro ⟨rfl, -⟩
        exact absurd (hn.ascii _ List.mem_cons_self).1 (by decide)
      simp [hdot]
    · rw [hout, List.singleton_append, List.infix_cons_iff]

/-! ## The phrase, with and without regard to case -/

/-- `needle` occurs in `hay` as a run of consecutive characters, when ASCII letters are compared
without regard to case and every other character as it is. -/
def ContainsIgnoringAsciiCase (hay needle : List Char) : Prop :=
  ∃ pre w post, hay = pre ++ w ++ post ∧ List.Forall₂ (fun a b => a.toLower = b.toLower) w needle

theorem containsIgnoringAsciiCase_iff (hay needle : List Char) :
    ContainsIgnoringAsciiCase hay needle ↔ needle.map Char.toLower <:+: hay.map Char.toLower := by
  have hsame : ∀ w : List Char, List.Forall₂ (fun a b => a.toLower = b.toLower) w needle ↔
      w.map Char.toLower = needle.map Char.toLower := by
    intro w
    rw [← List.forall₂_eq_eq_eq, List.forall₂_map_left_iff, List.forall₂_map_right_iff]
  constructor
  · rintro ⟨pre, w, post, rfl, hw⟩
    refine ⟨pre.map Char.toLower, post.map Char.toLower, ?_⟩
    rw [← (hsame w).mp hw]
    simp
  · rintro ⟨s, t, h⟩
    obtain ⟨pre, rest, rfl, -, hrest⟩ := List.map_eq_append_iff.mp (h.symm.trans (List.append_assoc _ _ _))
    obtain ⟨w, post, rfl, hw, -⟩ := List.map_eq_append_iff.mp hrest
    exact ⟨pre, w, post, (List.append_assoc _ _ _).symm, (hsame w).mpr hw⟩

end Text

namespace Upload

open Text

theorem containsText_go_iff (n : List Char) : ∀ hay : List Char,
    containsText.go n hay = true ↔ n <:+: hay
  | [] => by simp [containsText.go, List.infix_nil]
  | c :: rest => by
    rw [containsText.go, Bool.or_eq_true, List.isPrefixOf_iff_prefix, containsText_go_iff n rest,
      List.infix_cons_iff]

theorem containsText_iff (hay needle : String) :
    containsText hay needle = true ↔ needle.toList <:+: hay.toList :=
  containsText_go_iff _ _

theorem conflictPhrase_asciiPhrase : AsciiPhrase conflictPhrase.toList := by
  have hascii : (conflictPhrase.toList.all fun x => decide (x.toNat < 128 ∧ x ≠ 'k')) = true := by
    decide
  exact ⟨fun x hx => by simpa using List.all_eq_true.mp hascii x hx, by decide⟩

theorem conflictPhrase_lower : conflictPhrase.toList.map Char.toLower = conflictPhrase.toList := by
  decide

theorem containsText_toLowercase_iff (body : String) :
    containsText (Text.toLowercase body) conflictPhrase = true ↔
      ContainsIgnoringAsciiCase body.toList conflictPhrase.toList := by
  rw [containsText_iff, toLowercase, String.toList_ofList,
    infix_lowerFrom_iff conflictPhrase_asciiPhrase, containsIgnoringAsciiCase_iff,
    conflictPhrase_lower]

/-- A create answer is a success for every status from 200 to 299, a conflict for a 400 whose
body holds `already exists` with ASCII letters compared without regard to case, and otherwise a
refusal carrying the status and body as they came; the Unicode lower case of the body decides
the conflict as that comparison does. -/
theorem classify_ignoring_ascii_case (r : Response) :
    (classify r = .created ↔ 200 ≤ r.status ∧ r.status ≤ 299) ∧
    (classify r = .conflict ↔
      r.status = 400 ∧ ContainsIgnoringAsciiCase r.body.toList conflictPhrase.toList) ∧
    (classify r = .rejected r.status r.body ↔
      ¬ (200 ≤ r.status ∧ r.status ≤ 299) ∧
        ¬ (r.status = 400 ∧ ContainsIgnoringAsciiCase r.body.toList conflictPhrase.toList)) ∧
    (containsText (Text.toLowercase r.body) conflictPhrase = true ↔
      ContainsIgnoringAsciiCase r.body.toList conflictPhrase.toList) := by
  have hcontains := containsText_toLowercase_iff r.body
  have hsuccess : r.isSuccess = true ↔ 200 ≤ r.status ∧ r.status ≤ 299 := by
    rw [isSuccess_iff]
    omega
  refine ⟨?_, ?_, ?_, hcontains⟩
  · rw [classify_eq_created_iff]
    omega
  · unfold classify
    by_cases hs : r.isSuccess = true
    · have h400 : r.status ≠ 400 := by have := hsuccess.mp hs; omega
      simp [hs, h400]
    · simp only [hs, Bool.false_eq_true, ↓reduceIte, Bool.and_eq_true, beq_iff_eq, hcontains]
      split <;> simp_all
  · unfold classify
    by_cases hs : r.isSuccess = true
    · simp [hs, hsuccess.mp hs]
    · have hrange := hsuccess.not.mp hs
      simp only [hs, Bool.false_eq_true, ↓reduceIte, Bool.and_eq_true, beq_iff_eq, hcontains]
      split <;> simp_all

example : classify { status := 400, body := "ALREADY EXİSTS" } =
    .rejected 400 "ALREADY EXİSTS" := by
  decide +kernel

end Upload

end ScriptDeploy
