import ScriptDeploy.Proofs.Scan
import Mathlib

/-! # Percent-encoding

An encoded part is made of kept characters (ASCII letters and digits and `- _ . ! ~ * ' ( )`)
and escapes `%XX` of two upper-case hexadecimal digits (`Encoded`). Encoding writes each byte of
the text's UTF-8 form as one such piece, and reading a piece back gives its byte, so decoding an
encoded part gives the UTF-8 form of the text, and two texts with one encoding are one text.
-/

namespace ScriptDeploy.Text

set_option autoImplicit false

def IsKept (c : Char) : Prop :=
  ('A' ≤ c ∧ c ≤ 'Z') ∨ ('a' ≤ c ∧ c ≤ 'z') ∨ ('0' ≤ c ∧ c ≤ '9') ∨ c ∈ "-_.!~*'()".toList

instance : DecidablePred IsKept := fun _ => inferInstanceAs (Decidable (_ ∨ _))

def IsUpperHex (c : Char) : Prop := ('0' ≤ c ∧ c ≤ '9') ∨ ('A' ≤ c ∧ c ≤ 'F')

instance : DecidablePred IsUpperHex := fun _ => inferInstanceAs (Decidable (_ ∨ _))

/-- Text made of kept characters and escapes of two upper-case hexadecimal digits. -/
inductive Encoded : List Char → Prop where
  | nil : Encoded []
  | kept {c : Char} {rest : List Char} : IsKept c → Encoded rest → Encoded (c :: rest)
  | escape {hi lo : Char} {rest : List Char} : IsUpperHex hi → IsUpperHex lo → Encoded rest →
      Encoded ('%' :: hi :: lo :: rest)

/-! ## Bytes and characters -/

theorem toUTF8_toList (s : String) : s.toUTF8.toList = s.toList.flatMap String.utf8EncodeChar := by
  rw [String.toUTF8_eq_toByteArray, ← String.utf8Encode_toList, ByteArray.toList_eq_data]
  simp only [List.utf8Encode, List.toList_data_toByteArray]

theorem toNat_ofNat_byte (b : UInt8) : (Char.ofNat b.toNat).toNat = b.toNat := by
  have hvalid : b.toNat.isValidChar := Or.inl (by have := b.toNat_lt; omega)
  simp [Char.ofNat, hvalid, Char.ofNatAux, Char.toNat]

theorem toUTF8_toList_ascii {c : Char} (h : c.toNat < 128) :
    c.toString.toUTF8.toList = [UInt8.ofNat c.toNat] := by
  have hsize : c.utf8Size = 1 := by
    rw [Char.utf8Size_eq_one_iff, UInt32.le_iff_toNat_le]
    exact Nat.le_of_lt_succ h
  rw [toUTF8_toList, Char.toString, String.toList_singleton, List.flatMap_singleton,
    String.utf8EncodeChar_eq_singleton hsize]
  rfl

theorem isKept_of_isAlphanum {c : Char} (h : c.isAlphanum = true) : IsKept c := by
  simp only [Char.isAlphanum, Char.isAlpha, Char.isUpper, Char.isLower, Char.isDigit,
    Bool.or_eq_true, Bool.and_eq_true, decide_eq_true_eq] at h
  rcases h with (⟨hlo, hhi⟩ | ⟨hlo, hhi⟩) | ⟨hlo, hhi⟩
  · exact Or.inl ⟨hlo, hhi⟩
  · exact Or.inr (Or.inl ⟨hlo, hhi⟩)
  · exact Or.inr (Or.inr (Or.inl ⟨hlo, hhi⟩))

theorem isKept_of_isUnreserved {b : UInt8} (h : isUnreserved b = true) :
    IsKept (Char.ofNat b.toNat) ∧ b.toNat < 128 := by
  unfold isUnreserved at h
  simp only [Bool.or_eq_true, Bool.and_eq_true, decide_eq_true_eq, List.contains_eq_mem] at h
  rcases h with ⟨halnum, hlt⟩ | hmark
  · exact ⟨isKept_of_isAlphanum halnum, UInt8.lt_iff_toNat_lt.mp hlt⟩
  · refine ⟨Or.inr (Or.inr (Or.inr hmark)), ?_⟩
    have hmarks : ("-_.!~*'()".toList.all fun c => decide (c.toNat < 128)) = true := by decide
    rw [← toNat_ofNat_byte b]
    exact of_decide_eq_true (List.all_eq_true.mp hmarks _ hmark)

theorem toNat_div_sixteen_lt (b : UInt8) : b.toNat / 16 < 16 := by
  have := b.toNat_lt
  omega

theorem hexDigitUpper_isUpperHex {n : Nat} (h : n < 16) : IsUpperHex (hexDigitUpper n) := by
  interval_cases n <;> decide

theorem hexValue?_hexDigitUpper {n : Nat} (h : n < 16) : hexValue? (hexDigitUpper n) = some n := by
  interval_cases n <;> decide

/-! ## One byte -/

theorem encodeByte_toList (b : UInt8) : (encodeByte b).toList =
    if isUnreserved b then [Char.ofNat b.toNat]
    else ['%', hexDigitUpper (b.toNat / 16), hexDigitUpper (b.toNat % 16)] := by
  unfold encodeByte
  split <;> simp [Char.toString]

theorem encoded_encodeByte (b : UInt8) {rest : List Char} (h : Encoded rest) :
    Encoded ((encodeByte b).toList ++ rest) := by
  rw [encodeByte_toList]
  split
  case isTrue hb => exact .kept (isKept_of_isUnreserved hb).1 h
  case isFalse =>
    exact .escape (hexDigitUpper_isUpperHex (toNat_div_sixteen_lt b))
      (hexDigitUpper_isUpperHex (Nat.mod_lt _ (by decide))) h

theorem decodeBytes_encodeByte (b : UInt8) (rest : List Char) :
    decodeBytes ((encodeByte b).toList ++ rest) = (decodeBytes rest).map (b :: ·) := by
  rw [encodeByte_toList]
  split
  case isTrue hb =>
    obtain ⟨hkept, hlt⟩ := isKept_of_isUnreserved hb
    have hpct : Char.ofNat b.toNat ≠ '%' := by
      intro h
      rw [h] at hkept
      revert hkept
      decide
    have hascii : (Char.ofNat b.toNat).toNat < 128 := (toNat_ofNat_byte b).symm ▸ hlt
    rw [List.singleton_append, decodeBytes.eq_4 _ _ (fun _ _ _ h _ => hpct h) hpct,
      toUTF8_toList_ascii hascii, toNat_ofNat_byte, UInt8.ofNat_toNat]
    rfl
  case isFalse =>
    have hhi := toNat_div_sixteen_lt b
    have hlo : b.toNat % 16 < 16 := Nat.mod_lt _ (by decide)
    -- the two digits give back the byte's high and low halves
    have hb : UInt8.ofNat (16 * (b.toNat / 16) + b.toNat % 16) = b := by
      rw [Nat.div_add_mod, UInt8.ofNat_toNat]
    simp only [List.cons_append, List.nil_append, decodeBytes.eq_2, hexValue?_hexDigitUpper hhi,
      hexValue?_hexDigitUpper hlo, Option.bind_eq_bind, Option.bind_some, hb]
    cases decodeBytes rest <;> rfl

/-! ## The whole text -/

theorem encodeUriComponent_toList (s : String) :
    (encodeUriComponent s).toList = s.toUTF8.toList.flatMap fun b => (encodeByte b).toList := by
  rw [encodeUriComponent, String.toList_join, List.flatMap_map]

theorem encoded_encodeBytes (bytes : List UInt8) :
    Encoded (bytes.flatMap fun b => (encodeByte b).toList) := by
  induction bytes with
  | nil => exact .nil
  | cons b bytes ih =>
    rw [List.flatMap_cons]
    exact encoded_encodeByte b ih

theorem decodeBytes_encodeBytes (bytes : List UInt8) :
    decodeBytes (bytes.flatMap fun b => (encodeByte b).toList) = some bytes := by
  induction bytes with
  | nil => rfl
  | cons b bytes ih => rw [List.flatMap_cons, decodeBytes_encodeByte, ih, Option.map_some]

/-- An encoded part is made of kept characters and `%XX` escapes, so it holds no `/`; it decodes
to the UTF-8 form of the text, so two texts with one encoding are one text. -/
theorem encodeUriComponent_encoded_and_decodes (s : String) :
    Encoded (encodeUriComponent s).toList ∧ '/' ∉ (encodeUriComponent s).toList ∧
      decodeBytes (encodeUriComponent s).toList = some s.toUTF8.toList ∧
      ∀ t, encodeUriComponent t = encodeUriComponent s → t = s := by
  have hdecode : ∀ t, decodeBytes (encodeUriComponent t).toList = some t.toUTF8.toList := by
    intro t
    rw [encodeUriComponent_toList, decodeBytes_encodeBytes]
  refine ⟨?_, slash_not_mem_encodeUriComponent s, hdecode s, fun t h => ?_⟩
  · rw [encodeUriComponent_toList]
    exact encoded_encodeBytes _
  · have hsame := hdecode t
    rw [h, hdecode s] at hsame
    exact toUTF8_toList_inj (Option.some.inj hsame).symm

example : encodeUriComponent "a b/c~d(e)é" = "a%20b%2Fc~d(e)%C3%A9" := by decide +kernel

end ScriptDeploy.Text
