/-!
# Double-precision numbers by their bit pattern

A binary64 number is held as its 64-bit word: one sign bit, eleven exponent bits and
fifty-two fraction bits. A finite word stands for `m · 2^q` with the significand `m` and the
exponent `q` read off the fields; no runtime floating-point operation is used anywhere.

`Binary64.ofFraction` rounds an exact positive ratio to the nearest word, a tie going to the
even significand, with gradual underflow and overflow to infinity. Reading decimal text and
writing the shortest decimal build on it, and so do the product and the quotient of two
finite numbers, which are exact ratios before they are rounded.
-/

namespace ScriptDeploy.Decimal

/-- A binary64 number, by its bit pattern. -/
structure Binary64 where
  bits : UInt64
deriving DecidableEq, Repr, Inhabited

namespace Binary64

def hidden : Nat := Nat.pow 2 52

def make (negative : Bool) (biased fraction : Nat) : Binary64 :=
  ⟨UInt64.ofNat ((if negative then Nat.pow 2 63 else 0) + biased * hidden + fraction)⟩

def negative (x : Binary64) : Bool := x.bits >>> 63 == 1

def biased (x : Binary64) : Nat := ((x.bits >>> 52) &&& 0x7FF).toNat

def fraction (x : Binary64) : Nat := (x.bits &&& 0xFFFFFFFFFFFFF).toNat

def isFinite (x : Binary64) : Bool := x.biased != 2047

def isNaN (x : Binary64) : Bool := x.biased == 2047 && x.fraction != 0

def isInfinite (x : Binary64) : Bool := x.biased == 2047 && x.fraction == 0

def isZero (x : Binary64) : Bool := x.biased == 0 && x.fraction == 0

def significand (x : Binary64) : Nat :=
  if x.biased == 0 then x.fraction else hidden + x.fraction

def exponent (x : Binary64) : Int :=
  if x.biased == 0 then -1074 else (x.biased : Int) - 1075

def zero (negative : Bool) : Binary64 := make negative 0 0

def infinity (negative : Bool) : Binary64 := make negative 2047 0

def nan : Binary64 := make false 2047 (Nat.pow 2 51)

def neg (x : Binary64) : Binary64 := ⟨x.bits ^^^ 0x8000000000000000⟩

/-- Equality of numbers: NaN equals NaN, and the two zeros are equal. -/
def sameValue (x y : Binary64) : Bool :=
  (x.isNaN && y.isNaN) || (x.isZero && y.isZero) || (!x.isNaN && x == y)

def roundDiv (n d : Nat) : Nat :=
  let q := n / d
  let r := n % d
  if 2 * r > d || (2 * r == d && q % 2 == 1) then q + 1 else q

/-- The word for `m · 2^q` where `m ≤ 2^53` and `q ≥ -1074`, with the sign given: a
significand of `2^53` (from rounding up) moves to the next binade, a significand below `2^52`
is subnormal, and an exponent past the largest finite one is infinity. -/
def encode (negative : Bool) (m : Nat) (q : Int) : Binary64 :=
  let (m, q) := if m ≥ 2 * hidden then (m / 2, q + 1) else (m, q)
  if m < hidden then make negative 0 m
  else if q + 1075 ≥ 2047 then infinity negative
  else make negative (q + 1075).toNat (m - hidden)

def powerOfTwo (e : Int) : Nat × Nat :=
  if e ≥ 0 then (Nat.pow 2 e.toNat, 1) else (1, Nat.pow 2 (-e).toNat)

/-- The nearest number to `num / den`, with the sign given; ties go to the even significand. -/
def ofFraction (negative : Bool) (num den : Nat) : Binary64 :=
  if num = 0 || den = 0 then zero negative
  else
    let e : Int := (Nat.log2 num : Int) - Nat.log2 den
    -- `2^e ≤ num / den`, else one less
    let (a, b) := powerOfTwo e
    let e := if num * b < den * a then e - 1 else e
    let q := max (e - 52) (-1074)
    let (a, b) := powerOfTwo q
    encode negative (roundDiv (num * b) (den * a)) q

def mul (x y : Binary64) : Binary64 :=
  let (a, b) := powerOfTwo (x.exponent + y.exponent)
  ofFraction (x.negative != y.negative) (x.significand * y.significand * a) b

def div (x y : Binary64) : Binary64 :=
  let (a, b) := powerOfTwo (x.exponent - y.exponent)
  ofFraction (x.negative != y.negative) (x.significand * a) (y.significand * b)

def digitCount (n : Nat) : Nat := (toString n).length

/-- The nearest number to `digits · 10^exp10`, with the sign given. Values past the largest
finite number by a full decimal place are infinite and values below a tenth of the smallest
subnormal are zero, without computing their powers of ten. -/
def ofDecimal (negative : Bool) (digits : Nat) (exp10 : Int) : Binary64 :=
  if digits = 0 then zero negative
  else
    let n := digitCount digits
    if exp10 + n > 310 then infinity negative
    else if exp10 + n < -330 then zero negative
    else if exp10 ≥ 0 then ofFraction negative (digits * Nat.pow 10 exp10.toNat) 1
    else ofFraction negative digits (Nat.pow 10 (-exp10).toNat)

def ofNat (n : Nat) : Binary64 := ofDecimal false n 0

def ofInt (i : Int) : Binary64 := ofDecimal (i < 0) i.natAbs 0

end Binary64

end ScriptDeploy.Decimal
