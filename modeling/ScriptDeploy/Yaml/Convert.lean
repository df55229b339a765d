import ScriptDeploy.Json
import ScriptDeploy.Yaml.Error

/-!
# YAML values as text, records and JSON

A YAML value already read can be taken apart further. Tags are looked through wherever a
particular kind is asked for: text, a mapping for a record (where null counts as a mapping with
no entries), a key naming a field. A value of
another kind is refused with what it is and what was asked for; these errors carry no place,
since the value no longer knows where it came from.

As JSON, null, booleans, numbers, strings and sequences keep their form, and doubles that are
not finite become `null`. A mapping becomes an object when all its keys are text: the first key
that is not is refused as "a string key", a later one as "a string"; a key that comes again
replaces the earlier value. A tagged value has no JSON form.
-/

namespace ScriptDeploy.Yaml

namespace Value

def unexpected : Value → Unexpected
  | .null => .unit
  | .bool b => .bool b
  | .number (.natural n) => .unsigned n
  | .number (.negative i) => .signed i
  | .number (.float x) => .float x
  | .string s => .str s
  | .sequence _ => .seq
  | .mapping _ => .map
  | .tagged _ _ => .enum

/-- The text a value holds, looking through tags. -/
def asText (expected : String) (v : Value) : Except Message String :=
  match v.untag with
  | .string s => .ok s
  | other => .error (.invalidType other.unexpected expected)

/-- The entries of a mapping taken as a record, looking through tags; null is a record with
no entries. -/
def asRecord (name : String) (v : Value) : Except Message (List (Value × Value)) :=
  match v.untag with
  | .mapping entries => .ok entries
  | .null => .ok []
  | other => .error (.invalidType other.unexpected ("struct " ++ name))

mutual

def toJson : Value → Except Message Json
  | .null => .ok .null
  | .bool b => .ok (.bool b)
  | .number (.natural n) => .ok (.natural n)
  | .number (.negative i) => .ok (.negative i)
  | .number (.float x) => .ok (if x.isFinite then .float x else .null)
  | .string s => .ok (.string s)
  | .sequence items => (itemsToJson items).map .array
  | .mapping entries => (entriesToJson true entries []).map .object
  | .tagged _ _ => .error (.invalidType .enum "any valid JSON value")

def itemsToJson : List Value → Except Message (List Json)
  | [] => .ok []
  | v :: rest => do
    let j ← toJson v
    let js ← itemsToJson rest
    return j :: js

/-- The fields of an object from the entries of a mapping; `first` tells whether no key has
been read yet. -/
def entriesToJson (first : Bool) : List (Value × Value) → List (String × Json) →
    Except Message (List (String × Json))
  | [], acc => .ok acc
  | (k, v) :: rest, acc => do
    let name ← k.asText (if first then "a string key" else "a string")
    let j ← toJson v
    entriesToJson false rest (Json.setField acc name j)

end

end Value

end ScriptDeploy.Yaml
