import ScriptDeploy.Yaml.Document
import ScriptDeploy.Yaml.Scalar

/-!
# Reading values from a loaded document

A walk goes through the node events of a document in order. An alias is followed to its
anchored node and read there, after which the walk goes on after the alias; every such jump is
counted, and more than a hundred per node event of the document is refused. Collections may
nest 128 deep; the collection that would go deeper is refused at its mark.

Readers exist for a dynamic YAML value and for the pieces of a record: text, optional values,
unsigned 64-bit counts, sequences of text and records with named fields. A value that does not
fit is reported at the node where it arose, with the path to it; an error that has a place
keeps it on the way out.

A node whose tag is local (`!name`) is read, as a dynamic value, as a tagged value: the tag
without its `!` names it, and the node itself is then read as if it had no tag. A local tag
whose name is not UTF-8 text names nothing, and the node is read with its tag.

`parseWith` reads the first document of a text and then reports, in this order, the error
that stopped loading the document and a second document.
-/

namespace ScriptDeploy.Yaml

structure Spot where
  pos : Nat := 0
  jumps : Nat := 0
deriving Repr, Inhabited

/-- What a reader knows about the node it reads: its path, how many more collections may
nest inside it, and whether its tag has already been taken as a variant name. -/
structure Scope where
  path : Path := .root
  depth : Nat := 128
  tagTaken : Bool := false
deriving Repr, Inhabited

namespace Scope

def nested (s : Scope) (mark : Mark) : Except Error Scope :=
  if s.depth == 0 then .error (.recursionLimit mark) else .ok { s with depth := s.depth - 1 }

def child (s : Scope) (path : Path) : Scope := { s with path, tagTaken := false }

def viaAlias (s : Scope) : Scope := { s with path := .alias s.path, tagTaken := false }

end Scope

namespace Document

def peek (doc : Document) (spot : Spot) : Except Error (Item × Mark) :=
  match doc.items[spot.pos]? with
  | some im => .ok im
  | none => .error (doc.stop.getD .endOfStream)

def next (doc : Document) (spot : Spot) : Except Error (Item × Mark × Spot) := do
  let (item, mark) ← doc.peek spot
  return (item, mark, { spot with pos := spot.pos + 1 })

/-- Follows an alias with the given anchor number: the jump is counted, and the spot moves to
the anchored node. -/
def jump (doc : Document) (spot : Spot) (id : Nat) : Except Error Spot :=
  let jumps := spot.jumps + 1
  if jumps > doc.items.size * 100 then .error .repetitionLimit
  else
    match doc.targets.find? (·.1 == id) with
    | some (_, target) => .ok { pos := target, jumps }
    | none => .error .endOfStream

def close (doc : Document) (spot : Spot) : Except Error Spot := do
  let (_, _, after) ← doc.next spot
  return after

end Document

abbrev NodeReader (α : Type) := Document → Scope → Spot → Except Error (α × Spot)

def variantName? (tag : Option Tag) (taken : Bool) : Option String :=
  if taken then none
  else match tag with
    | some t => t.variantName?
    | none => none

/-- The error for a node of the wrong kind: a scalar shows what it denotes, a collection its
kind; the stand-in for an empty stream means the document ended. -/
def mismatch (item : Item) (expected : String) : Error :=
  match item with
  | .scalar tag text style =>
    match Scalar.resolve tag text style false with
    | .ok r => .ofMessage (.invalidType r.unexpected expected)
    | .error m => .ofMessage m
  | .sequenceStart _ => .ofMessage (.invalidType .seq expected)
  | .mappingStart _ => .ofMessage (.invalidType .map expected)
  | _ => .endOfStream

/-- The YAML value a resolved scalar gives; 128-bit numbers have no YAML value. -/
def Resolved.toValue (r : Resolved) : Except Message Value :=
  match r with
  | .unit => .ok .null
  | .bool b => .ok (.bool b)
  | .unsigned n => .ok (.number (.natural n))
  | .signed i => .ok (.number (Number.ofInt i))
  | .float x => .ok (.number (.float x))
  | .string s => .ok (.string s)
  | _ => .error (.invalidType r.unexpected "any YAML value")

def entryPath (scope : Scope) (key : Item) : Path :=
  match key with
  | .scalar _ text _ => .key scope.path text
  | _ => .unknown scope.path

mutual

def anyValue : Nat → NodeReader Value
  | 0, _, _, _ => .error .endOfStream
  | fuel + 1, doc, scope, spot => do
    let (item, mark, after) ← doc.next spot
    let result : Except Error (Value × Spot) :=
      match item with
      | .alias id => do
        let target ← doc.jump after id
        let (v, s) ← anyValue fuel doc scope.viaAlias target
        pure (v, { after with jumps := s.jumps })
      | .scalar tag text style =>
        match variantName? tag scope.tagTaken with
        | some name => do
          let (v, s) ← anyValue fuel doc { scope with tagTaken := true } spot
          pure (.tagged name v, s)
        | none => do
          let r ← (Scalar.resolve tag text style scope.tagTaken).mapError .ofMessage
          let v ← r.toValue.mapError .ofMessage
          pure (v, after)
      | .sequenceStart tag =>
        match variantName? tag scope.tagTaken with
        | some name => do
          let (v, s) ← anyValue fuel doc { scope with tagTaken := true } spot
          pure (.tagged name v, s)
        | none => do
          let inner ← scope.nested mark
          let (vs, s) ← anyItems fuel doc inner after 0 []
          let s ← doc.close s
          pure (.sequence vs, s)
      | .mappingStart tag =>
        match variantName? tag scope.tagTaken with
        | some name => do
          let (v, s) ← anyValue fuel doc { scope with tagTaken := true } spot
          pure (.tagged name v, s)
        | none => do
          let inner ← scope.nested mark
          let (es, s) ← anyEntries fuel doc inner after []
          let s ← doc.close s
          pure (.mapping es, s)
      | .void => pure (.null, after)
      | _ => .error .endOfStream
    result.mapError (·.placed mark scope.path)

def anyItems : Nat → Document → Scope → Spot → Nat → List Value →
    Except Error (List Value × Spot)
  | 0, _, _, _, _, _ => .error .endOfStream
  | fuel + 1, doc, scope, spot, i, acc => do
    let (item, _) ← doc.peek spot
    match item with
    | .sequenceEnd | .void => pure (acc.reverse, spot)
    | _ =>
      let (v, s) ← anyValue fuel doc (scope.child (.index scope.path i)) spot
      anyItems fuel doc scope s (i + 1) (v :: acc)

/-- Reads the entries of a mapping up to its end; a key met twice is refused, naming the key
as it was first stored (keys that are the same may still be written differently, as `0.0` and
`-0.0` are). -/
def anyEntries : Nat → Document → Scope → Spot → List (Value × Value) →
    Except Error (List (Value × Value) × Spot)
  | 0, _, _, _, _ => .error .endOfStream
  | fuel + 1, doc, scope, spot, acc => do
    let (item, _) ← doc.peek spot
    match item with
    | .mappingEnd | .void => pure (acc.reverse, spot)
    | _ =>
      let (k, s) ← anyValue fuel doc scope spot
      if let some (stored, _) := acc.find? (fun e => k.same e.1) then
        throw (.ofMessage (.duplicateEntry stored))
      let (v, s) ← anyValue fuel doc (scope.child (entryPath scope item)) s
      anyEntries fuel doc scope s ((k, v) :: acc)

end

def Document.budget (doc : Document) : Nat :=
  (100 * doc.items.size + 2) * (doc.items.size + 2)

def readValue : NodeReader Value := fun doc => anyValue doc.budget doc

def withNode {α : Type} (body : Document → Item → Mark → Scope → Spot → Except Error (α × Spot)) :
    NodeReader α := fun doc scope spot => do
  let (item, mark, after) ← doc.next spot
  match item with
  | .alias id => do
    let target ← doc.jump after id
    let (titem, tmark, tafter) ← doc.next target
    let (a, s) ← (body doc titem tmark scope.viaAlias tafter).mapError (·.placed mark scope.path)
    pure (a, { after with jumps := s.jumps })
  | _ => body doc item mark scope after

def readText (expected : String) : NodeReader String :=
  withNode fun _ item mark scope after =>
    match item with
    | .scalar _ text _ => .ok (text, after)
    | _ => .error ((mismatch item expected).placed mark scope.path)

/-- Reads a node as a count: a plain scalar, whatever its tag, or a literal block scalar tagged
`!!int`, that spells a whole number below `2^64`. Any other node is refused as what it
denotes. -/
def readCount : NodeReader Nat :=
  withNode fun _ item mark scope after =>
    let result : Except Error (Nat × Spot) :=
      match item with
      | .scalar tag text style =>
        let readable := style == .plain ||
          (style == .literal && !scope.tagTaken && tag.any (·.isText Scalar.intTag))
        match (if readable then Scalar.unsignedOf? 64 text else none) with
        | some n => .ok (n, after)
        | none => .error (mismatch item "u64")
      | _ => .error (mismatch item "u64")
    result.mapError (·.placed mark scope.path)

/-- Whether an optional node is present: a quoted or block scalar, a tagged scalar other than
a null-tagged one, a collection, or a plain scalar that is not empty and not null. A
null-tagged scalar that does not spell null is refused. -/
def isPresent (item : Item) (scope : Scope) : Except Error Bool :=
  match item with
  | .scalar tag text style =>
    if style != .plain || scope.tagTaken then .ok true
    else match tag with
      | some t =>
        if t.isText Scalar.nullTag then
          if Scalar.isNull text then .ok false
          else .error (.ofMessage (.invalidValue (.str text) "null"))
        else .ok true
      | none => .ok (!text.isEmpty && !Scalar.isNull text)
  | .sequenceStart _ | .mappingStart _ | .alias _ => .ok true
  | _ => .ok false

def readOption {α : Type} (inner : NodeReader α) : NodeReader (Option α) := fun doc scope spot =>
  let atSpot (scope : Scope) (spot : Spot) : Except Error (Option α × Spot) := do
    let (item, _) ← doc.peek spot
    if ← isPresent item scope then
      let (a, s) ← inner doc scope spot
      pure (some a, s)
    else pure (none, { spot with pos := spot.pos + 1 })
  do
    let (item, _) ← doc.peek spot
    match item with
    | .alias id =>
      let after := { spot with pos := spot.pos + 1 }
      let target ← doc.jump after id
      let (a, s) ← atSpot scope.viaAlias target
      pure (a, { after with jumps := s.jumps })
    | _ => atSpot scope spot

def textItems : Nat → Document → Scope → Spot → Nat → List String →
    Except Error (List String × Spot)
  | 0, _, _, _, _, _ => .error .endOfStream
  | fuel + 1, doc, scope, spot, i, acc => do
    let (item, _) ← doc.peek spot
    match item with
    | .sequenceEnd | .void => pure (acc.reverse, spot)
    | _ =>
      let (v, s) ← readText "a string" doc (scope.child (.index scope.path i)) spot
      textItems fuel doc scope s (i + 1) (v :: acc)

def readTexts : NodeReader (List String) :=
  withNode fun doc item mark scope after =>
    let result : Except Error (List String × Spot) :=
      match item with
      | .sequenceStart _ => do
        let inner ← scope.nested mark
        let (xs, s) ← textItems (doc.items.size + 1) doc inner after 0 []
        let s ← doc.close s
        pure (xs, s)
      | .void => pure ([], after)
      | .scalar _ text .plain =>
        if text.isEmpty then pure ([], after) else .error (mismatch item "a sequence")
      | _ => .error (mismatch item "a sequence")
    result.mapError (·.placed mark scope.path)

def readFieldKey (fields : List String) : NodeReader Nat :=
  withNode fun _ item mark scope after =>
    let result : Except Error (Nat × Spot) :=
      match item with
      | .scalar _ text _ =>
        match fields.idxOf? text with
        | some i => .ok (i, after)
        | none => .error (.ofMessage (.unknownField text fields))
      | _ => .error (mismatch item "field identifier")
    result.mapError (·.placed mark scope.path)

/-- Reads the entries of a record up to its end: each key names a field, at most once, and
its value is read by that field's reader. -/
def fieldEntries {β : Type} (fields : List String) (field : Nat → NodeReader β) :
    Nat → Document → Scope → Spot → List (Nat × β) → Except Error (List (Nat × β) × Spot)
  | 0, _, _, _, _ => .error .endOfStream
  | fuel + 1, doc, scope, spot, got => do
    let (item, _) ← doc.peek spot
    match item with
    | .mappingEnd | .void => pure (got.reverse, spot)
    | _ =>
      let (i, s) ← readFieldKey fields doc scope spot
      if got.any (·.1 == i) then
        throw (.ofMessage (.duplicateField (fields.getD i "")))
      let (v, s) ← field i doc (scope.child (entryPath scope item)) s
      fieldEntries fields field fuel doc scope s ((i, v) :: got)

def readRecord {β : Type} (name : String) (fields : List String) (field : Nat → NodeReader β) :
    NodeReader (List (Nat × β)) :=
  withNode fun doc item mark scope after =>
    let result : Except Error (List (Nat × β) × Spot) :=
      match item with
      | .mappingStart _ => do
        let inner ← scope.nested mark
        let (got, s) ← fieldEntries fields field (doc.items.size + 1) doc inner after []
        let s ← doc.close s
        pure (got, s)
      | .void => pure ([], after)
      | .scalar _ text .plain =>
        if text.isEmpty then pure ([], after) else .error (mismatch item ("struct " ++ name))
      | _ => .error (mismatch item ("struct " ++ name))
    result.mapError (·.placed mark scope.path)

/-- Reads the first document of a text with a reader; then an error that stopped loading the
document, and after it a second document, are errors too. -/
def parseWith {α : Type} (read : NodeReader α) (input : String) : Except Error α := do
  let (doc, more) := Document.first input
  let (a, _) ← read doc {} {}
  match doc.stop with
  | some e => throw e
  | none => if more then throw .moreThanOneDocument else pure a

end ScriptDeploy.Yaml
