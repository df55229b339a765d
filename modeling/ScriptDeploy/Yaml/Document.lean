import ScriptDeploy.Yaml.Event.Reader
import ScriptDeploy.Yaml.Error

/-!
# Documents as flat lists of nodes

A loaded document is the list of its node events in order: scalars, aliases and the starts
and ends of collections, each with its mark. Anchors are numbered as they are defined: a
definition gets the number of distinct anchor names seen before it, and an alias refers to the
number its name has at that point. A table sends each number to the position of the node that
last received it. Values are built from the list later, following an alias to its node each
time it is met.

Reading a document stops early at a syntax error or an alias whose name has no anchor yet;
the nodes before it are kept with the error, since a value may be complete, or fail in its
own way, before the reading error is reached.

The characters of the text are checked before anything else: controls other than tab, line
feed and carriage return, and the non-characters `U+FFFE` and `U+FFFF`, are refused at their
byte offset.
-/

namespace ScriptDeploy.Yaml

inductive Item where
  | alias (id : Nat)
  | scalar (tag : Option Tag) (text : String) (style : ScalarStyle)
  | sequenceStart (tag : Option Tag)
  | sequenceEnd
  | mappingStart (tag : Option Tag)
  | mappingEnd
  | void
deriving Repr, Inhabited

/-- A loaded document: its node events with their marks, the table from anchor numbers to
positions, and the error that stopped the reading, if any. -/
structure Document where
  items : Array (Item × Mark) := #[]
  targets : List (Nat × Nat) := []
  stop : Option Error := none
deriving Inhabited

def isAllowedChar (c : Char) : Bool :=
  let n := c.toNat
  n == 0x09 || n == 0x0A || n == 0x0D || (0x20 ≤ n && n ≤ 0x7E) || n == 0x85 ||
    (0xA0 ≤ n && n ≤ 0xD7FF) || (0xE000 ≤ n && n ≤ 0xFFFD) || 0x10000 ≤ n

def firstRefused (cs : List Char) : Option Nat :=
  go cs 0
where
  go : List Char → Nat → Option Nat
    | [], _ => none
    | c :: rest, offset => if isAllowedChar c then go rest (offset + c.utf8Size) else some offset

def assign (table : List (Nat × Nat)) (key value : Nat) : List (Nat × Nat) :=
  (key, value) :: table.filter (·.1 != key)

structure Loading where
  doc : Document := {}
  anchors : List (String × Nat) := []

namespace Loading

def add (ld : Loading) (item : Item) (mark : Mark) : Loading :=
  { ld with doc := { ld.doc with items := ld.doc.items.push (item, mark) } }

/-- Gives the next node the anchor, if it has one: the name receives the number of distinct
names before it, and that number points at the node. -/
def anchor (ld : Loading) : Option String → Loading
  | none => ld
  | some name =>
    let id := ld.anchors.length
    { doc := { ld.doc with targets := assign ld.doc.targets id ld.doc.items.size },
      anchors := (name, id) :: ld.anchors.filter (·.1 != name) }

end Loading

inductive Ending where
  | document
  | stream (mark : Mark)
  | halted
deriving DecidableEq, Repr, Inhabited

def Loading.run : Nat → Loading → Reader → Loading × Reader × Ending
  | 0, ld, r => (ld, r, .stream r.lexer.cur.mark)
  | fuel + 1, ld, r =>
    match r.next with
    | .error e => ({ ld with doc := { ld.doc with stop := some (.malformed e) } }, r, .halted)
    | .ok (ev, r) =>
      match ev.event with
      | .streamStart | .documentStart _ => Loading.run fuel ld r
      | .streamEnd => (ld, r, .stream ev.mark)
      | .documentEnd _ => (ld, r, .document)
      | .alias name =>
        match ld.anchors.find? (·.1 == name) with
        | some (_, id) => Loading.run fuel (ld.add (.alias id) ev.mark) r
        | none =>
          ({ ld with doc := { ld.doc with stop := some (.unknownAnchor ev.mark) } }, r, .halted)
      | .scalar props text style =>
        Loading.run fuel ((ld.anchor props.anchor).add (.scalar props.tag text style) ev.mark) r
      | .sequenceStart props =>
        Loading.run fuel ((ld.anchor props.anchor).add (.sequenceStart props.tag) ev.mark) r
      | .sequenceEnd => Loading.run fuel (ld.add .sequenceEnd ev.mark) r
      | .mappingStart props =>
        Loading.run fuel ((ld.anchor props.anchor).add (.mappingStart props.tag) ev.mark) r
      | .mappingEnd => Loading.run fuel (ld.add .mappingEnd ev.mark) r

/-- The first document of a text, and whether the text goes on with another document (or
with an error after the first). A stream without documents gives one `void` node at the end
of the stream. -/
def Document.first (input : String) : Document × Bool :=
  let cs := input.toList
  match firstRefused cs with
  | some offset =>
    ({ stop := some (.malformed { problem := .controlCharacter, mark := {}, offset }) }, false)
  | none =>
    let fuel := 4 * cs.length + 16
    let (ld, r, ending) := Loading.run fuel {} (Reader.init cs)
    match ending with
    | .halted => (ld.doc, false)
    | .stream mark =>
      let doc := if ld.doc.items.isEmpty then { ld.doc with items := #[(.void, mark)] }
        else ld.doc
      (doc, false)
    | .document =>
      let (_, _, next) := Loading.run fuel {} r
      (ld.doc, match next with | .stream _ => false | _ => true)

end ScriptDeploy.Yaml
