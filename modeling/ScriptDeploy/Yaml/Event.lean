import ScriptDeploy.Yaml.Token

/-!
# Events of a YAML stream

The reader turns tokens into a stream of events: the nested start and end of documents,
sequences and mappings, with scalars and aliases in between. Each event keeps the mark of the
token that began it (the anchor or tag, when the node has one).
-/

namespace ScriptDeploy.Yaml

structure Properties where
  anchor : Option String := none
  tag : Option Tag := none
deriving Repr, DecidableEq, Inhabited

/-- An event of a YAML stream. -/
inductive Event where
  | streamStart
  | streamEnd
  | documentStart (implicit : Bool)
  | documentEnd (implicit : Bool)
  | alias (name : String)
  | scalar (props : Properties) (text : String) (style : ScalarStyle)
  | sequenceStart (props : Properties)
  | sequenceEnd
  | mappingStart (props : Properties)
  | mappingEnd
deriving Repr, DecidableEq, Inhabited

structure MarkedEvent where
  event : Event
  mark : Mark
deriving Repr, DecidableEq, Inhabited

end ScriptDeploy.Yaml
