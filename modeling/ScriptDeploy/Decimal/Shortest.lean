import ScriptDeploy.Decimal.Binary64

/-!
# The shortest decimal that reads back

A finite positive number `x = m · 2^q` is the nearest double to every real in its rounding
interval: halfway to each neighbour, the ends included when `m` is even. Below a power of two
the lower neighbour is only half as far, except at the smallest normal number.

For one, two, … seventeen significant digits we look at the two neighbours of `x` on that
decimal grid. If a grid point lies in the interval, one of the two neighbours does, so the
first grid with a neighbour inside gives the fewest digits; of two neighbours inside, the nearer
to `x` is taken. Seventeen digits always suffice.

Two equally near neighbours are a tie, which the layout settles. The scientific layout of JSON
and YAML numbers (`1e100`, `2.5e-8`, `0.001`, `1.0`) takes the one whose last digit is even, so
`562949953421312.25` is written `562949953421312.2`. The positional layout of error messages
(`1.5`, `100`, `0.0000001`) takes the one of greater magnitude, so `10.8006134033203125` is
written `10.800613403320313`.
-/

namespace ScriptDeploy.Decimal

/-- Significant digits and a decimal exponent: the value `digits · 10^exp10`. -/
structure Scientific where
  digits : Nat
  exp10 : Int
deriving DecidableEq, Repr, Inhabited

/-- Which of two equally near shortest decimals is written. -/
inductive Tie where
  | toEven
  | up
deriving DecidableEq, Repr

namespace Binary64

def compareScaled (a : Nat) (s : Int) (b : Nat) (k : Int) : Ordering :=
  let lhs := a * Nat.pow 2 s.toNat * Nat.pow 10 (-k).toNat
  let rhs := b * Nat.pow 10 k.toNat * Nat.pow 2 (-s).toNat
  compare lhs rhs

def floorOnGrid (m : Nat) (q k : Int) : Nat :=
  (m * Nat.pow 2 q.toNat * Nat.pow 10 (-k).toNat) / (Nat.pow 10 k.toNat * Nat.pow 2 (-q).toNat)

def Scientific.trim (fuel : Nat) (s : Scientific) : Scientific :=
  match fuel with
  | 0 => s
  | fuel + 1 =>
    if s.digits != 0 && s.digits % 10 == 0 then
      Scientific.trim fuel ⟨s.digits / 10, s.exp10 + 1⟩
    else s

def leadingExponent (m : Nat) (q : Int) : Int :=
  (digitCount (floorOnGrid m q (-330)) : Int) - 1 - 330

def searchGrids (tie : Tie) (m : Nat) (q lead : Int) (lowerGap : Nat) (inclusive : Bool) :
    Nat → Nat → Scientific
  | 0, _ => ⟨m, q⟩
  | fuel + 1, p =>
    let k := lead - p + 1
    let lo := floorOnGrid m q k
    let hi := lo + 1
    -- the interval in units of 2^(q-2): from 4m - lowerGap to 4m + 2
    let above (c : Nat) :=
      match compareScaled (4 * m - lowerGap) (q - 2) c k with
      | .lt => true
      | .eq => inclusive
      | .gt => false
    let below (c : Nat) :=
      match compareScaled (4 * m + 2) (q - 2) c k with
      | .gt => true
      | .eq => inclusive
      | .lt => false
    let loIn := above lo
    let hiIn := below hi
    if loIn && hiIn then
      -- the nearer one: `x` below the midpoint of the two means `lo`; at the midpoint, the
      -- tie rule decides
      match compareScaled (2 * m) q (lo + hi) k with
      | .lt => ⟨lo, k⟩
      | .gt => ⟨hi, k⟩
      | .eq =>
        match tie with
        | .toEven => if lo % 2 == 0 then ⟨lo, k⟩ else ⟨hi, k⟩
        | .up => ⟨hi, k⟩
    else if loIn then ⟨lo, k⟩
    else if hiIn then ⟨hi, k⟩
    else searchGrids tie m q lead lowerGap inclusive fuel (p + 1)

/-- The shortest decimal of a finite positive number, nearest to it among the shortest, a tie
settled as `tie` says. -/
def shortest (tie : Tie) (x : Binary64) : Scientific :=
  let m := x.significand
  let q := x.exponent
  let lowerGap := if x.fraction == 0 && x.biased > 1 then 1 else 2
  let s := searchGrids tie m q (leadingExponent m q) lowerGap (m % 2 == 0) 17 1
  Scientific.trim 20 s

def digitsAndPoint (tie : Tie) (x : Binary64) : String × Int :=
  let s := x.shortest tie
  let ds := toString s.digits
  (ds, s.exp10 + ds.length)

def zeros (n : Nat) : String := String.ofList (List.replicate n '0')

/-- The number in the layout of JSON output: positional from `1e-5` up to below `1e16`,
with `.0` on whole numbers, and otherwise a mantissa and an exponent such as `1e100` or
`2.5e-8`; a tie goes to the even last digit. Infinities and NaN, which JSON cannot hold, are
written `null`. -/
def toJsonText (x : Binary64) : String :=
  if !x.isFinite then "null"
  else
    let sign := if x.negative then "-" else ""
    if x.isZero then sign ++ "0.0"
    else
      let (ds, point) := x.digitsAndPoint .toEven
      let len : Int := ds.length
      let body :=
        if 0 ≤ point - len && point ≤ 16 then ds ++ zeros (point - len).toNat ++ ".0"
        else if 0 < point && point ≤ 16 then
          String.ofList (ds.toList.take point.toNat) ++ "." ++
            String.ofList (ds.toList.drop point.toNat)
        else if -5 < point && point ≤ 0 then "0." ++ zeros (-point).toNat ++ ds
        else
          let e := point - 1
          let mant := if ds.length == 1 then ds
            else String.ofList (ds.toList.take 1) ++ "." ++ String.ofList (ds.toList.drop 1)
          mant ++ "e" ++ toString e
      sign ++ body

/-- The number written out without an exponent, as in error messages: the shortest digits,
padded with zeros to the decimal point (`100`, `0.0000001`, `1.5`); a tie goes to the greater
magnitude. Infinities are `inf` and `-inf`, NaN is `NaN`. -/
def toPositional (x : Binary64) : String :=
  if x.isNaN then "NaN"
  else
    let sign := if x.negative then "-" else ""
    if x.isInfinite then sign ++ "inf"
    else if x.isZero then sign ++ "0"
    else
      let (ds, point) := x.digitsAndPoint .up
      let len : Int := ds.length
      let body :=
        if point ≤ 0 then "0." ++ zeros (-point).toNat ++ ds
        else if point < len then
          String.ofList (ds.toList.take point.toNat) ++ "." ++
            String.ofList (ds.toList.drop point.toNat)
        else ds ++ zeros (point - len).toNat
      sign ++ body

/-- The positional text with `.0` added when it has no decimal point, as type errors show a
floating-point value (`1.0`, `-0.0`); infinities and NaN are left as they are. -/
def toPointedText (x : Binary64) : String :=
  let t := x.toPositional
  if x.isFinite && !t.contains '.' then t ++ ".0" else t

end Binary64

end ScriptDeploy.Decimal
