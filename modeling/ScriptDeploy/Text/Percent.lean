/-!
# Percent-encoding of path text

Text placed in one part of a URL keeps the ASCII letters and digits and the marks
`- _ . ! ~ * ' ( )`; every other byte of its UTF-8 form is written `%XX` with upper-case
hexadecimal digits.
-/

namespace ScriptDeploy.Text

/-- Whether a byte stands for itself in an encoded URL part. -/
def isUnreserved (b : UInt8) : Bool :=
  let c := Char.ofNat b.toNat
  c.isAlphanum && b < 128 || "-_.!~*'()".toList.contains c

def hexDigitUpper (n : Nat) : Char :=
  if n < 10 then Char.ofNat (48 + n) else Char.ofNat (55 + n)

def encodeByte (b : UInt8) : String :=
  if isUnreserved b then (Char.ofNat b.toNat).toString
  else String.ofList ['%', hexDigitUpper (b.toNat / 16), hexDigitUpper (b.toNat % 16)]

def encodeUriComponent (s : String) : String :=
  String.join (s.toUTF8.toList.map encodeByte)

def hexValue? (c : Char) : Option Nat :=
  if c.isDigit then some (c.toNat - 48)
  else if 'A' ≤ c && c ≤ 'F' then some (c.toNat - 55)
  else if 'a' ≤ c && c ≤ 'f' then some (c.toNat - 87)
  else none

/-- The bytes an encoded part stands for: each `%XX` is one byte, every other character its
own UTF-8 bytes. -/
def decodeBytes : List Char → Option (List UInt8)
  | [] => some []
  | '%' :: a :: b :: rest => do
    let hi ← hexValue? a
    let lo ← hexValue? b
    let tail ← decodeBytes rest
    return UInt8.ofNat (16 * hi + lo) :: tail
  | '%' :: _ => none
  | c :: rest => (decodeBytes rest).map (c.toString.toUTF8.toList ++ ·)

end ScriptDeploy.Text
