import ScriptDeploy.Decimal.Read
import ScriptDeploy.Yaml.Error
import ScriptDeploy.Yaml.Token

/-!
# What a scalar denotes

A plain scalar without a tag is read by the core schema, trying in turn:

* null: empty, `~`, `null`, `Null`, `NULL`;
* a boolean: `true`, `True`, `TRUE`, `false`, `False`, `FALSE`;
* a whole number: decimal, or hexadecimal, octal or binary after `0x`, `0o`, `0b`, with an
  optional `+` before it or `-` before a negative one; tried as a 64-bit unsigned number,
  a negative 64-bit number, and then the same in 128 bits. A zero followed by more digits
  (`0123`, `-007`) is no number but text;
* a finite double: decimal text, or `.inf`, `-.inf`, `.nan` in three spellings each; a `+`
  may stand before a number or before `.inf`;
* otherwise text.

A quoted or block scalar is text. The standard tags `!!bool`, `!!int`, `!!float` and `!!null`
ask for that kind and refuse text of another one; a local tag such as `!x` on a plain scalar
reads it as if untagged; any other tag makes it text.
-/

namespace ScriptDeploy.Yaml

open ScriptDeploy.Decimal

/-- The value a scalar denotes. -/
inductive Resolved where
  | unit
  | bool (b : Bool)
  | unsigned (n : Nat)
  | signed (i : Int)
  | unsigned128 (n : Nat)
  | signed128 (i : Int)
  | float (x : Binary64)
  | string (s : String)
deriving Repr, Inhabited

def Resolved.unexpected : Resolved → Unexpected
  | .unit => .unit
  | .bool b => .bool b
  | .unsigned n => .unsigned n
  | .signed i => .signed i
  | .unsigned128 n => .other ("integer `" ++ toString n ++ "` as u128")
  | .signed128 i => .other ("integer `" ++ toString i ++ "` as i128")
  | .float x => .float x
  | .string s => .str s

namespace Scalar

def boolTag : String := "tag:yaml.org,2002:bool"
def intTag : String := "tag:yaml.org,2002:int"
def floatTag : String := "tag:yaml.org,2002:float"
def nullTag : String := "tag:yaml.org,2002:null"

def isNull (s : String) : Bool := s == "null" || s == "Null" || s == "NULL" || s == "~"

def boolOf? (s : String) : Option Bool :=
  if s == "true" || s == "True" || s == "TRUE" then some true
  else if s == "false" || s == "False" || s == "FALSE" then some false
  else none

def digitValue? (radix : Nat) (c : Char) : Option Nat :=
  let v :=
    if c.isDigit then some (c.toNat - '0'.toNat)
    else if 'a' ≤ c && c ≤ 'z' then some (c.toNat - 'a'.toNat + 10)
    else if 'A' ≤ c && c ≤ 'Z' then some (c.toNat - 'A'.toNat + 10)
    else none
  v.bind fun d => if d < radix then some d else none

def digitsIn? (radix : Nat) (cs : List Char) : Option Nat :=
  if cs.isEmpty then none
  else cs.foldlM (fun n c => (digitValue? radix c).map (radix * n + ·)) 0

/-- Reads a whole number in a radix with the given number of bits: a `+` may lead, and a `-`
too when the type is signed; the value must fit. -/
def intIn? (radix bits : Nat) (isSigned : Bool) (s : String) : Option Int :=
  let (negative, digits) :=
    match s.toList with
    | '+' :: rest => (false, rest)
    | '-' :: rest => if isSigned then (true, rest) else (false, '-' :: rest)
    | rest => (false, rest)
  (digitsIn? radix digits).bind fun n =>
    let v : Int := if negative then -n else n
    let (lo, hi) : Int × Int :=
      if isSigned then (-Int.pow 2 (bits - 1), Int.pow 2 (bits - 1) - 1)
      else (0, Int.pow 2 bits - 1)
    if lo ≤ v && v ≤ hi then some v else none

/-- Whether the text is a zero followed by digits only, after an optional sign: such text is
not a number. -/
def isZeroPadded (s : String) : Bool :=
  let cs := match s.toList with
    | '-' :: rest | '+' :: rest => rest
    | rest => rest
  match cs with
  | '0' :: rest@(_ :: _) => rest.all Char.isDigit
  | _ => false

def after? (s pre : String) : Option String :=
  if s.startsWith pre then some (String.ofList (s.toList.drop pre.length)) else none

def startsSigned (s : String) : Bool := s.startsWith "+" || s.startsWith "-"

def unsignedOf? (bits : Nat) (s : String) : Option Nat :=
  let unpositive := (after? s "+").getD s
  let radixed (pre : String) (radix : Nat) : Option (Option Nat) :=
    match after? unpositive pre with
    | some rest =>
      if startsSigned rest then some none
      else (intIn? radix bits false rest).map fun v => some v.toNat
    | none => none
  match radixed "0x" 16 with
  | some r => r
  | none =>
    match radixed "0o" 8 with
    | some r => r
    | none =>
      match radixed "0b" 2 with
      | some r => r
      | none =>
        if startsSigned unpositive || isZeroPadded s then none
        else (intIn? 10 bits false unpositive).map Int.toNat

def signedOf? (bits : Nat) (s : String) : Option Int :=
  let radixed (pre : String) (radix : Nat) : Option Int :=
    (after? s pre).bind fun rest => intIn? radix bits true ("-" ++ rest)
  match radixed "-0x" 16 with
  | some v => some v
  | none =>
    match radixed "-0o" 8 with
    | some v => some v
    | none =>
      match radixed "-0b" 2 with
      | some v => some v
      | none => if isZeroPadded s then none else intIn? 10 bits true s

/-- The whole number the text spells, trying 64 unsigned, 64 signed, 128 unsigned and 128
signed bits in turn. -/
def intOf? (s : String) : Option Resolved :=
  match unsignedOf? 64 s with
  | some n => some (.unsigned n)
  | none =>
    match signedOf? 64 s with
    | some i => some (.signed i)
    | none =>
      match unsignedOf? 128 s with
      | some n => some (.unsigned128 n)
      | none => (signedOf? 128 s).map .signed128

def floatOf? (s : String) : Option Binary64 :=
  let unpositive := (after? s "+").getD s
  if s.startsWith "+" && startsSigned unpositive then none
  else if unpositive == ".inf" || unpositive == ".Inf" || unpositive == ".INF" then
    some (Binary64.infinity false)
  else if s == "-.inf" || s == "-.Inf" || s == "-.INF" then some (Binary64.infinity true)
  else if s == ".nan" || s == ".NaN" || s == ".NAN" then some Binary64.nan
  else
    match Binary64.read? unpositive with
    | some x => if x.isFinite then some x else none
    | none => none

def untagged (s : String) : Resolved :=
  if s.isEmpty || isNull s then .unit
  else match boolOf? s with
    | some b => .bool b
    | none =>
      match intOf? s with
      | some r => r
      | none =>
        match (if isZeroPadded s then none else floatOf? s) with
        | some x => .float x
        | none => .string s

/-- What a scalar denotes, given its tag and style. Once a value's tag has been taken as the
name of a variant, the scalar is read as if it had none. -/
def resolve (tag : Option Tag) (text : String) (style : ScalarStyle) (tagTaken : Bool) :
    Except Message Resolved :=
  match tag, tagTaken with
  | some t, false =>
    if t.isText boolTag then
      match boolOf? text with
      | some b => .ok (.bool b)
      | none => .error (.invalidValue (.str text) "a boolean")
    else if t.isText intTag then
      match intOf? text with
      | some r => .ok r
      | none => .error (.invalidValue (.str text) "an integer")
    else if t.isText floatTag then
      match floatOf? text with
      | some x => .ok (.float x)
      | none => .error (.invalidValue (.str text) "a float")
    else if t.isText nullTag then
      if isNull text then .ok .unit else .error (.invalidValue (.str text) "null")
    else if t.isLocal && style == .plain then .ok (untagged text)
    else .ok (.string text)
  | _, _ => .ok (if style == .plain then untagged text else .string text)

end Scalar

end ScriptDeploy.Yaml
