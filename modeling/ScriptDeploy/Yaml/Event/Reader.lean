import ScriptDeploy.Yaml.Event
import ScriptDeploy.Yaml.Token.Lexer

/-!
# From tokens to events

The reader is a state machine over the token stream. Its state says what is expected next (a
document, a node, the next entry of a sequence, the key or value of a mapping); the states to
return to after a nested node are kept on a stack, and so are the marks where the open
collections began, for error messages. Missing keys and values are empty plain scalars.

Tags are resolved against the `%TAG` directives of the current document and the two standard
handles: `!` stands for itself and `!!` for `tag:yaml.org,2002:`.
-/

namespace ScriptDeploy.Yaml

inductive ReadState where
  | streamStart
  | implicitDocumentStart
  | documentStart
  | documentContent
  | documentEnd
  | blockNode
  | blockNodeOrIndentlessSequence
  | flowNode
  | blockSequenceFirstEntry
  | blockSequenceEntry
  | indentlessSequenceEntry
  | blockMappingFirstKey
  | blockMappingKey
  | blockMappingValue
  | flowSequenceFirstEntry
  | flowSequenceEntry
  | flowSequenceEntryMappingKey
  | flowSequenceEntryMappingValue
  | flowSequenceEntryMappingEnd
  | flowMappingFirstKey
  | flowMappingKey
  | flowMappingValue
  | flowMappingEmptyValue
  | finished
deriving Repr, DecidableEq, Inhabited

/-- The reader: the lexer, the expected item, the states and collection marks to return to,
and the tag handles of the current document. -/
structure Reader where
  lexer : Lexer
  state : ReadState := .streamStart
  states : List ReadState := []
  marks : List Mark := []
  handles : List (String × List UInt8) := []

namespace Reader

def init (input : List Char) : Reader := { lexer := Lexer.init input }

def peek (r : Reader) : Except SyntaxError (Token × Reader) := do
  let (t, lx) ← r.lexer.peek
  return (t, { r with lexer := lx })

def take (r : Reader) : Reader := { r with lexer := r.lexer.take }

def pop (r : Reader) : Reader :=
  match r.states with
  | s :: ss => { r with state := s, states := ss }
  | [] => { r with state := .finished }

def push (r : Reader) (s : ReadState) : Reader := { r with states := s :: r.states }

def popMark (r : Reader) : Mark × Reader :=
  match r.marks with
  | m :: ms => (m, { r with marks := ms })
  | [] => ({}, r)

def error (p : Problem) (m : Mark) : SyntaxError := { problem := p, mark := m }

def errorIn (ctx : Context) (start : Mark) (p : Problem) (m : Mark) : SyntaxError :=
  { problem := p, mark := m, context := some (ctx, start) }

def emptyScalar (m : Mark) : MarkedEvent := ⟨.scalar {} "" .plain, m⟩

def isDirective : TokenKind → Bool
  | .versionDirective _ _ | .tagDirective _ _ => true
  | _ => false

/-- Reads the directives before a document, then adds the standard handles that the document
did not redefine. -/
def directives : Nat → Reader → Bool → Except SyntaxError Reader
  | 0, r, _ => .ok r
  | fuel + 1, r, seenVersion => do
    let (t, r) ← r.peek
    match t.kind with
    | .versionDirective major minor =>
      if seenVersion then throw (error .duplicateVersionDirective t.start)
      if major != 1 || (minor != 1 && minor != 2) then
        throw (error .incompatibleVersion t.start)
      directives fuel r.take true
    | .tagDirective handle uri =>
      if r.handles.any (·.1 == handle) then throw (error .duplicateTagDirective t.start)
      directives fuel { r.take with handles := r.handles ++ [(handle, uri)] } seenVersion
    | _ =>
      let add (hs : List (String × List UInt8)) (d : String × List UInt8) :=
        if hs.any (·.1 == d.1) then hs else hs ++ [d]
      let standard := add (add r.handles ("!", [33])) ("!!", Tag.textBytes "tag:yaml.org,2002:")
      return { r with handles := standard }

def budget (r : Reader) : Nat := r.lexer.queue.length + r.lexer.cur.rest.length + 2

def skipDocumentEnds : Nat → Reader → Except SyntaxError (Token × Reader)
  | 0, r => r.peek
  | fuel + 1, r => do
    let (t, r) ← r.peek
    if t.kind == .documentEnd then skipDocumentEnds fuel r.take else return (t, r)

def documentStart (r : Reader) (implicit : Bool) : Except SyntaxError (MarkedEvent × Reader) := do
  let (t, r) ← if implicit then r.peek else skipDocumentEnds r.budget r
  if implicit && !isDirective t.kind && t.kind != .documentStart && t.kind != .streamEnd then
    let r ← directives r.budget r false
    return (⟨.documentStart true, t.start⟩, { r.push .documentEnd with state := .blockNode })
  else if t.kind != .streamEnd then
    let r ← directives r.budget r false
    let (t', r) ← r.peek
    if t'.kind != .documentStart then throw (error .missingDocumentStart t'.start)
    return (⟨.documentStart false, t.start⟩,
      { (r.push .documentEnd).take with state := .documentContent })
  else
    return (⟨.streamEnd, t.start⟩, { r.take with state := .finished })

/-- The resolved tag of a node: a verbatim tag as it is, otherwise the handle's prefix followed
by the suffix. -/
def resolveTag (r : Reader) (handle : String) (suffix : List UInt8) (start tagMark : Mark) :
    Except SyntaxError Tag :=
  if handle.isEmpty then .ok (Tag.verbatim suffix)
  else
    match r.handles.find? (·.1 == handle) with
    | some (_, pre) => .ok (Tag.join pre suffix)
    | none => .error (errorIn .node start .undefinedTagHandle tagMark)

/-- A node: an alias, or optional anchor and tag followed by a scalar or a collection start.
With `block` block collections are allowed; with `indentless` a `-` at the current indentation
starts a sequence. A node with only properties is an empty scalar. -/
def node (r : Reader) (block indentless : Bool) : Except SyntaxError (MarkedEvent × Reader) := do
  let (t, r) ← r.peek
  match t.kind with
  | .alias name => return (⟨.alias name, t.start⟩, r.pop.take)
  | _ =>
    let start := t.start
    -- anchor and tag, in either order
    let (anchor, tag, tagMark, t, r) ←
      match t.kind with
      | .anchor name => do
        let (t2, r) ← r.take.peek
        match t2.kind with
        | .tag h s => do
          let (t3, r) ← r.take.peek
          pure (some name, some (h, s), t2.start, t3, r)
        | _ => pure (some name, none, t.start, t2, r)
      | .tag h s => do
        let (t2, r) ← r.take.peek
        match t2.kind with
        | .anchor name => do
          let (t3, r) ← r.take.peek
          pure (some name, some (h, s), t.start, t3, r)
        | _ => pure (none, some (h, s), t.start, t2, r)
      | _ => pure (none, none, t.start, t, r)
    let tagText ← match tag with
      | some (h, s) => (resolveTag r h s start tagMark).map some
      | none => pure none
    let props : Properties := { anchor, tag := tagText }
    if indentless && t.kind == .blockEntry then
      return (⟨.sequenceStart props, start⟩, { r with state := .indentlessSequenceEntry })
    match t.kind with
    | .scalar text style => return (⟨.scalar props text style, start⟩, r.pop.take)
    | .flowSequenceStart =>
      return (⟨.sequenceStart props, start⟩, { r with state := .flowSequenceFirstEntry })
    | .flowMappingStart =>
      return (⟨.mappingStart props, start⟩, { r with state := .flowMappingFirstKey })
    | .blockSequenceStart =>
      if block then
        return (⟨.sequenceStart props, start⟩, { r with state := .blockSequenceFirstEntry })
      else fallback r props start t
    | .blockMappingStart =>
      if block then
        return (⟨.mappingStart props, start⟩, { r with state := .blockMappingFirstKey })
      else fallback r props start t
    | _ => fallback r props start t
where
  fallback (r : Reader) (props : Properties) (start : Mark) (t : Token) :
      Except SyntaxError (MarkedEvent × Reader) :=
    if props.anchor.isSome || props.tag.isSome then .ok (⟨.scalar props "" .plain, start⟩, r.pop)
    else .error (errorIn (if block then .blockNode else .flowNode) start .missingNodeContent t.start)

def openCollection (r : Reader) (first : Bool) : Except SyntaxError Reader := do
  if first then
    let (t, r) ← r.peek
    return { r.take with marks := t.start :: r.marks }
  else return r

def blockSequenceEntry (r : Reader) (first : Bool) : Except SyntaxError (MarkedEvent × Reader) := do
  let r ← r.openCollection first
  let (t, r) ← r.peek
  match t.kind with
  | .blockEntry =>
    let (t2, r) ← r.take.peek
    if t2.kind != .blockEntry && t2.kind != .blockEnd then
      (r.push .blockSequenceEntry).node true false
    else return (emptyScalar t.stop, { r with state := .blockSequenceEntry })
  | .blockEnd =>
    let (_, r) := r.popMark
    return (⟨.sequenceEnd, t.start⟩, r.pop.take)
  | _ =>
    let (m, _) := r.popMark
    throw (errorIn .blockCollection m .missingDash t.start)

def indentlessSequenceEntry (r : Reader) : Except SyntaxError (MarkedEvent × Reader) := do
  let (t, r) ← r.peek
  match t.kind with
  | .blockEntry =>
    let (t2, r) ← r.take.peek
    if t2.kind != .blockEntry && t2.kind != .key && t2.kind != .value && t2.kind != .blockEnd then
      (r.push .indentlessSequenceEntry).node true false
    else return (emptyScalar t.stop, { r with state := .indentlessSequenceEntry })
  | _ => return (⟨.sequenceEnd, t.start⟩, r.pop)

def blockMappingKey (r : Reader) (first : Bool) : Except SyntaxError (MarkedEvent × Reader) := do
  let r ← r.openCollection first
  let (t, r) ← r.peek
  match t.kind with
  | .key =>
    let (t2, r) ← r.take.peek
    if t2.kind != .key && t2.kind != .value && t2.kind != .blockEnd then
      (r.push .blockMappingValue).node true true
    else return (emptyScalar t.stop, { r with state := .blockMappingValue })
  | .blockEnd =>
    let (_, r) := r.popMark
    return (⟨.mappingEnd, t.start⟩, r.pop.take)
  | _ =>
    let (m, _) := r.popMark
    throw (errorIn .blockMapping m .missingKey t.start)

def blockMappingValue (r : Reader) : Except SyntaxError (MarkedEvent × Reader) := do
  let (t, r) ← r.peek
  match t.kind with
  | .value =>
    let (t2, r) ← r.take.peek
    if t2.kind != .key && t2.kind != .value && t2.kind != .blockEnd then
      (r.push .blockMappingKey).node true true
    else return (emptyScalar t.stop, { r with state := .blockMappingKey })
  | _ => return (emptyScalar t.start, { r with state := .blockMappingKey })

def flowSequenceEntry (r : Reader) (first : Bool) : Except SyntaxError (MarkedEvent × Reader) := do
  let r ← r.openCollection first
  let (t, r) ← r.peek
  let (t, r) ←
    if t.kind != .flowSequenceEnd && !first then
      if t.kind == .flowEntry then r.take.peek
      else
        let (m, _) := r.popMark
        throw (errorIn .flowSequence m .missingCommaOrBracket t.start)
    else pure (t, r)
  if t.kind == .key then
    return (⟨.mappingStart {}, t.start⟩, { r.take with state := .flowSequenceEntryMappingKey })
  else if t.kind != .flowSequenceEnd then
    (r.push .flowSequenceEntry).node false false
  else
    let (_, r) := r.popMark
    return (⟨.sequenceEnd, t.start⟩, r.pop.take)

/-- The key of a one-pair mapping inside a flow sequence. An empty key (a `?` followed at once
by `:`, `,` or `]`) is an empty scalar ending where that token ends, and the token is consumed
with it: `[? : b]` therefore reads `b` where a `,` or `]` is due. -/
def flowSequenceEntryMappingKey (r : Reader) : Except SyntaxError (MarkedEvent × Reader) := do
  let (t, r) ← r.peek
  if t.kind != .value && t.kind != .flowEntry && t.kind != .flowSequenceEnd then
    (r.push .flowSequenceEntryMappingValue).node false false
  else return (emptyScalar t.stop, { r.take with state := .flowSequenceEntryMappingValue })

def flowSequenceEntryMappingValue (r : Reader) : Except SyntaxError (MarkedEvent × Reader) := do
  let (t, r) ← r.peek
  if t.kind == .value then
    let (t2, r) ← r.take.peek
    if t2.kind != .flowEntry && t2.kind != .flowSequenceEnd then
      (r.push .flowSequenceEntryMappingEnd).node false false
    else return (emptyScalar t2.start, { r with state := .flowSequenceEntryMappingEnd })
  else return (emptyScalar t.start, { r with state := .flowSequenceEntryMappingEnd })

def flowMappingKey (r : Reader) (first : Bool) : Except SyntaxError (MarkedEvent × Reader) := do
  let r ← r.openCollection first
  let (t, r) ← r.peek
  let (t, r) ←
    if t.kind != .flowMappingEnd && !first then
      if t.kind == .flowEntry then r.take.peek
      else
        let (m, _) := r.popMark
        throw (errorIn .flowMapping m .missingCommaOrBrace t.start)
    else pure (t, r)
  if t.kind == .key then
    let (t2, r) ← r.take.peek
    if t2.kind != .value && t2.kind != .flowEntry && t2.kind != .flowMappingEnd then
      (r.push .flowMappingValue).node false false
    else return (emptyScalar t2.start, { r with state := .flowMappingValue })
  else if t.kind != .flowMappingEnd then
    (r.push .flowMappingEmptyValue).node false false
  else
    let (_, r) := r.popMark
    return (⟨.mappingEnd, t.start⟩, r.pop.take)

def flowMappingValue (r : Reader) (empty : Bool) : Except SyntaxError (MarkedEvent × Reader) := do
  let (t, r) ← r.peek
  if empty then return (emptyScalar t.start, { r with state := .flowMappingKey })
  if t.kind == .value then
    let (t2, r) ← r.take.peek
    if t2.kind != .flowEntry && t2.kind != .flowMappingEnd then
      (r.push .flowMappingKey).node false false
    else return (emptyScalar t2.start, { r with state := .flowMappingKey })
  else return (emptyScalar t.start, { r with state := .flowMappingKey })

def next (r : Reader) : Except SyntaxError (MarkedEvent × Reader) := do
  match r.state with
  | .streamStart =>
    let (t, r) ← r.peek
    if t.kind != .streamStart then throw (error .missingStreamStart t.start)
    return (⟨.streamStart, t.start⟩, { r.take with state := .implicitDocumentStart })
  | .implicitDocumentStart => r.documentStart true
  | .documentStart => r.documentStart false
  | .documentContent =>
    let (t, r) ← r.peek
    if isDirective t.kind || t.kind == .documentStart || t.kind == .documentEnd ||
        t.kind == .streamEnd then
      return (emptyScalar t.start, r.pop)
    else r.node true false
  | .documentEnd =>
    let (t, r) ← r.peek
    let explicit := t.kind == .documentEnd
    let r := if explicit then r.take else r
    return (⟨.documentEnd (!explicit), t.start⟩,
      { r with handles := [], state := .documentStart })
  | .blockNode => r.node true false
  | .blockNodeOrIndentlessSequence => r.node true true
  | .flowNode => r.node false false
  | .blockSequenceFirstEntry => r.blockSequenceEntry true
  | .blockSequenceEntry => r.blockSequenceEntry false
  | .indentlessSequenceEntry => r.indentlessSequenceEntry
  | .blockMappingFirstKey => r.blockMappingKey true
  | .blockMappingKey => r.blockMappingKey false
  | .blockMappingValue => r.blockMappingValue
  | .flowSequenceFirstEntry => r.flowSequenceEntry true
  | .flowSequenceEntry => r.flowSequenceEntry false
  | .flowSequenceEntryMappingKey => r.flowSequenceEntryMappingKey
  | .flowSequenceEntryMappingValue => r.flowSequenceEntryMappingValue
  | .flowSequenceEntryMappingEnd =>
    let (t, r) ← r.peek
    return (⟨.mappingEnd, t.start⟩, { r with state := .flowSequenceEntry })
  | .flowMappingFirstKey => r.flowMappingKey true
  | .flowMappingKey => r.flowMappingKey false
  | .flowMappingValue => r.flowMappingValue false
  | .flowMappingEmptyValue => r.flowMappingValue true
  | .finished => return (⟨.streamEnd, r.lexer.cur.mark⟩, r)

end Reader

end ScriptDeploy.Yaml
