import ScriptDeploy.Decimal.Shortest
import ScriptDeploy.Text.Escaped

/-!
# YAML values

A YAML document read without a schema is a tree of null, booleans, numbers, strings,
sequences, mappings and tagged values. Numbers keep their kind: a whole number that fits in 64
unsigned bits, a negative one that fits in 64 signed bits, or a double.

Two values are the same when they have the same shape and the same leaves. Doubles compare by
value, with NaN equal to NaN; mappings compare without regard to the order of their entries;
tags compare with one leading `!` dropped. A mapping never holds two keys that are the same.
-/

namespace ScriptDeploy.Yaml

open ScriptDeploy.Decimal

inductive Number where
  | natural (n : Nat)
  | negative (i : Int)
  | float (x : Binary64)
deriving DecidableEq, Repr, Inhabited

namespace Number

/-- Whether two numbers are the same: whole numbers by value, doubles by value with NaN equal
to NaN, and never a whole number and a double. -/
def same : Number → Number → Bool
  | .natural a, .natural b => a == b
  | .negative a, .negative b => a == b
  | .float a, .float b => a.sameValue b
  | _, _ => false

/-- The number as YAML writes it: whole numbers in decimal, doubles in their shortest form,
and `.nan`, `.inf`, `-.inf` for the values that are not finite. -/
def text : Number → String
  | .natural n => toString n
  | .negative i => toString i
  | .float x =>
    if x.isNaN then ".nan"
    else if x.isInfinite then (if x.negative then "-.inf" else ".inf")
    else x.toJsonText

def ofInt (i : Int) : Number := if i < 0 then .negative i else .natural i.toNat

end Number

/-- A YAML value. -/
inductive Value where
  | null
  | bool (b : Bool)
  | number (n : Number)
  | string (s : String)
  | sequence (items : List Value)
  | mapping (entries : List (Value × Value))
  | tagged (tag : String) (value : Value)
deriving Repr, Inhabited

def bareTag (tag : String) : String :=
  match tag.toList with
  | '!' :: rest@(_ :: _) => String.ofList rest
  | _ => tag

namespace Value

mutual

/-- Whether two values are the same. -/
def same : Value → Value → Bool
  | .null, .null => true
  | .bool a, .bool b => a == b
  | .number a, .number b => a.same b
  | .string a, .string b => a == b
  | .sequence xs, .sequence ys => sameItems xs ys
  | .mapping xs, .mapping ys => xs.length == ys.length && sameEntries xs ys
  | .tagged t a, .tagged u b => bareTag t == bareTag u && same a b
  | _, _ => false

def sameItems : List Value → List Value → Bool
  | [], [] => true
  | x :: xs, y :: ys => same x y && sameItems xs ys
  | _, _ => false

def sameEntries : List (Value × Value) → List (Value × Value) → Bool
  | [], _ => true
  | (k, v) :: rest, ys => ys.any (fun e => same k e.1 && same v e.2) && sameEntries rest ys

end

/-- How a key that occurs twice in a mapping is named in the error. -/
def duplicateDescription : Value → String
  | .null => "with null key"
  | .bool b => "with key `" ++ toString b ++ "`"
  | .number n => "with key " ++ n.text
  | .string s => "with key " ++ Text.quoted s
  | _ => "in YAML map"

def untag : Value → Value
  | .tagged _ v => untag v
  | v => v

end Value

end ScriptDeploy.Yaml
