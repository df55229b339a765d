import ScriptDeploy.Decimal.Binary64

/-!
# Reading decimal text as a double

The accepted text is an optional sign followed by either a word for infinity or NaN (`inf`,
`infinity`, `nan`, in any case) or a decimal: digits with an optional point, at least one digit
on one side of it, and an optional exponent `e` or `E` with an optional sign and at least one
digit. Nothing else may stand before or after it. The value is rounded to the nearest double,
a tie going to the even significand.
-/

namespace ScriptDeploy.Decimal

namespace Binary64

def spanDigits (cs : List Char) : List Char × List Char :=
  (cs.takeWhile Char.isDigit, cs.dropWhile Char.isDigit)

def digitsValue (ds : List Char) : Nat :=
  ds.foldl (fun n c => 10 * n + (c.toNat - '0'.toNat)) 0

def readExponent (cs : List Char) : Option Int :=
  let (negative, rest) :=
    match cs with
    | '+' :: r => (false, r)
    | '-' :: r => (true, r)
    | r => (false, r)
  let (ds, tail) := spanDigits rest
  if ds.isEmpty || !tail.isEmpty then none
  else
    let v : Int := digitsValue ds
    some (if negative then -v else v)

def readUnsigned (negative : Bool) (cs : List Char) : Option Binary64 :=
  let lower := String.ofList (cs.map Char.toLower)
  if lower == "inf" || lower == "infinity" then some (infinity negative)
  else if lower == "nan" then some (if negative then nan.neg else nan)
  else
    let (whole, rest) := spanDigits cs
    let (frac, rest) :=
      match rest with
      | '.' :: r => spanDigits r
      | r => ([], r)
    if whole.isEmpty && frac.isEmpty then none
    else
      let exp : Option Int :=
        match rest with
        | [] => some 0
        | c :: r => if c == 'e' || c == 'E' then readExponent r else none
      exp.map fun e =>
        ofDecimal negative (digitsValue (whole ++ frac)) (e - frac.length)

/-- Reads a decimal text as the nearest double, or fails on text that is not a number. -/
def read? (s : String) : Option Binary64 :=
  match s.toList with
  | '+' :: r => readUnsigned false r
  | '-' :: r => readUnsigned true r
  | r => readUnsigned false r

end Binary64

end ScriptDeploy.Decimal
