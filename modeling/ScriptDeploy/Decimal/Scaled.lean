import ScriptDeploy.Decimal.Binary64

/-!
# Decimals scaled in double arithmetic

A quick way to turn `s · 10^e` into a double does the work in doubles: `s` is rounded to a
double, then multiplied by the double nearest `10^e`, or divided by the double nearest `10^-e`.
Each step rounds once, so the result can miss the nearest double by a unit in the last place:
`120448955962 · 10^-171` gives `1.2044895596200001e-160`, not `1.20448955962e-160`.

Powers of ten beyond `10^308` have no double. For a smaller power the value is first divided by
`1e308` as often as needed, and a value that has reached zero stays zero. A product past the
largest finite double is refused, and so is any non-zero value with a power above `10^308`.
-/

namespace ScriptDeploy.Decimal

namespace Binary64

def tenPower (e : Nat) : Binary64 := ofDecimal false 1 e

/-- `x · 10^e` for a finite `x`, by double steps as above; none when a product overflows. -/
def scaleByTen (x : Binary64) (e : Int) : Option Binary64 :=
  if e < -308 then
    if x.isZero then some x else scaleByTen (x.div (tenPower 308)) (e + 308)
  else if e < 0 then some (x.div (tenPower e.natAbs))
  else if e ≤ 308 then
    let y := x.mul (tenPower e.toNat)
    if y.isInfinite then none else some y
  else if x.isZero then some x
  else none
termination_by (-e).toNat
decreasing_by omega

def ofScaled (s : Nat) (e : Int) : Option Binary64 := scaleByTen (ofNat s) e

end Binary64

end ScriptDeploy.Decimal
