import ScriptDeploy.Text.Utf8

/-!
# Tags

A tag names the kind of a node. In the text it is ASCII, but its `%XX` escapes may spell any
bytes, so a tag is kept as bytes; nothing makes them UTF-8 text.

A tag also ends at its first zero byte: a `%00` escape cuts it there. A tag written with a
handle joins the handle's prefix and the suffix after each is cut at its own first zero byte.

Only a few questions are asked of a tag: whether it is one of the standard tags, whether it is
local (its first byte is `!`), and which name it gives a variant. That name is the text after
the `!`, or `!` itself for the tag `!`, and a tag whose bytes are not UTF-8 text gives none.
-/

namespace ScriptDeploy.Yaml

structure Tag where
  bytes : List UInt8
deriving DecidableEq, Repr, Inhabited

namespace Tag

def untilZero (bs : List UInt8) : List UInt8 := bs.takeWhile (· != 0)

def verbatim (bs : List UInt8) : Tag := ⟨untilZero bs⟩

def join (pre suffix : List UInt8) : Tag := ⟨untilZero pre ++ untilZero suffix⟩

def textBytes (s : String) : List UInt8 := s.toUTF8.data.toList

def isText (t : Tag) (s : String) : Bool := t.bytes == textBytes s

def isLocal (t : Tag) : Bool := t.bytes.head? == some 33

/-- The name a local tag gives a variant: the text after its `!`, or `!` for the tag `!`
itself; none for a tag that is not local or whose name is not UTF-8 text. -/
def variantName? (t : Tag) : Option String :=
  match t.bytes with
  | 33 :: rest@(_ :: _) => Text.decode? rest
  | [33] => some "!"
  | _ => none

theorem isLocal_of_variantName {t : Tag} {name : String} (h : t.variantName? = some name) :
    t.isLocal = true := by
  unfold variantName? at h
  unfold isLocal
  split at h <;> simp_all

end Tag

end ScriptDeploy.Yaml
