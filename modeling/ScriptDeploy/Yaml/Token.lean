import ScriptDeploy.Yaml.Cursor
import ScriptDeploy.Yaml.Tag

/-!
# Tokens of YAML text

The lexer cuts YAML text into these tokens. Block structure shows as explicit tokens
(`blockMappingStart`, `blockSequenceStart`, `blockEnd`) computed from indentation, and a mapping
key found by its following `:` shows as a `key` token placed before it. The URI parts of tags
are bytes, since their escapes may spell any.
-/

namespace ScriptDeploy.Yaml

inductive ScalarStyle where
  | plain
  | singleQuoted
  | doubleQuoted
  | literal
  | folded
deriving Repr, DecidableEq, Inhabited

inductive TokenKind where
  | streamStart
  | streamEnd
  | versionDirective (major minor : Nat)
  | tagDirective (handle : String) (pre : List UInt8)
  | documentStart
  | documentEnd
  | blockSequenceStart
  | blockMappingStart
  | blockEnd
  | flowSequenceStart
  | flowSequenceEnd
  | flowMappingStart
  | flowMappingEnd
  | blockEntry
  | flowEntry
  | key
  | value
  | alias (name : String)
  | anchor (name : String)
  | tag (handle : String) (suffix : List UInt8)
  | scalar (text : String) (style : ScalarStyle)
deriving Repr, DecidableEq, Inhabited

/-- A token and the marks of its first character and of the character after it. -/
structure Token where
  kind : TokenKind
  start : Mark
  stop : Mark
deriving Repr, DecidableEq, Inhabited

end ScriptDeploy.Yaml
