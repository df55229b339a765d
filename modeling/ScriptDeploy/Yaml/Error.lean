import ScriptDeploy.Yaml.SyntaxError
import ScriptDeploy.Yaml.Value

/-!
# Errors of reading YAML into a value

Reading can fail in the text itself (a syntax error or an alias without its anchor), in the
shape of the document (nested too deep, aliases expanded too often, more than one document,
ended too early), or in a value that does not fit what was asked for. The last kind is a
`Message`; it is placed at the node where it arose, with the path of keys and indexes that
leads there from the root:

`timeout_secs: invalid type: integer ``-1``, expected u64 at line 1 column 15`

The path is left out at the root, the position at the very start of the text.
-/

namespace ScriptDeploy.Yaml

open ScriptDeploy.Decimal

inductive Unexpected where
  | bool (b : Bool)
  | unsigned (n : Nat)
  | signed (i : Int)
  | float (x : Binary64)
  | str (s : String)
  | unit
  | seq
  | map
  | enum
  | other (text : String)
deriving Repr, Inhabited

def Unexpected.text : Unexpected → String
  | .bool b => "boolean `" ++ toString b ++ "`"
  | .unsigned n => "integer `" ++ toString n ++ "`"
  | .signed i => "integer `" ++ toString i ++ "`"
  | .float x => "floating point `" ++ x.toPointedText ++ "`"
  | .str s => "string " ++ Text.quoted s
  | .unit => "unit value"
  | .seq => "sequence"
  | .map => "map"
  | .enum => "enum"
  | .other text => text

/-- Why a value does not fit. -/
inductive Message where
  | invalidType (found : Unexpected) (expected : String)
  | invalidValue (found : Unexpected) (expected : String)
  | duplicateEntry (key : Value)
  | unknownField (name : String) (fields : List String)
  | duplicateField (name : String)
deriving Repr, Inhabited

def oneOf (names : List String) : String :=
  let shown := names.map fun n => "`" ++ n ++ "`"
  match shown with
  | [] => "there are no fields"
  | [a] => a
  | [a, b] => a ++ " or " ++ b
  | _ => "one of " ++ ", ".intercalate shown

def Message.text : Message → String
  | .invalidType found expected => "invalid type: " ++ found.text ++ ", expected " ++ expected
  | .invalidValue found expected => "invalid value: " ++ found.text ++ ", expected " ++ expected
  | .duplicateEntry key => "duplicate entry " ++ key.duplicateDescription
  | .unknownField name [] => "unknown field `" ++ name ++ "`, there are no fields"
  | .unknownField name fields => "unknown field `" ++ name ++ "`, expected " ++ oneOf fields
  | .duplicateField name => "duplicate field `" ++ name ++ "`"

inductive Path where
  | root
  | index (parent : Path) (i : Nat)
  | key (parent : Path) (name : String)
  | alias (parent : Path)
  | unknown (parent : Path)
deriving Repr, Inhabited

/-- A path as text: `.` for the root, keys joined by dots, indexes in brackets, `?` for a key
that is not text; an alias adds nothing. -/
def Path.text : Path → String
  | .root => "."
  | .index parent i => parent.text ++ "[" ++ toString i ++ "]"
  | .key parent name => Path.text.parentText parent ++ name
  | .alias parent => parent.text
  | .unknown parent => Path.text.parentText parent ++ "?"
where
  parentText : Path → String
    | .root => ""
    | p => p.text ++ "."

/-- An error of reading YAML into a value. -/
inductive Error where
  | malformed (e : SyntaxError)
  | unknownAnchor (mark : Mark)
  | message (m : Message) (place : Option (Mark × Path))
  | endOfStream
  | moreThanOneDocument
  | recursionLimit (mark : Mark)
  | repetitionLimit
deriving Repr, Inhabited

namespace Error

def ofMessage (m : Message) : Error := .message m none

/-- Gives a message error that has no place yet the place of the node being read. -/
def placed (e : Error) (mark : Mark) (path : Path) : Error :=
  match e with
  | .message m none => .message m (some (mark, path))
  | e => e

def markText (mark : Mark) : String :=
  if mark.isOrigin then "" else " at " ++ mark.describe

def text : Error → String
  | .malformed e => e.message
  | .unknownAnchor mark => "unknown anchor" ++ markText mark
  | .message m none => m.text
  | .message m (some (mark, path)) =>
    let shown := path.text
    (if shown == "." then "" else shown ++ ": ") ++ m.text ++ markText mark
  | .endOfStream => "EOF while parsing a value"
  | .moreThanOneDocument =>
    "deserializing from YAML containing more than one document is not supported"
  | .recursionLimit mark => "recursion limit exceeded" ++ markText mark
  | .repetitionLimit => "repetition limit exceeded"

end Error

end ScriptDeploy.Yaml
