/-!
# Reading position in a YAML text

A `Mark` counts the bytes before a position, and its line and column (in characters), all
from zero. A `Cursor` is the unread
input together with the mark of its first character; every scanning step moves it forward, and
the lemmas here say by how much, so that the scanning loops terminate on the length of the
unread input.

Line breaks are `\r\n`, `\r`, `\n`, next line (U+0085), line separator (U+2028) and paragraph
separator (U+2029); `\r\n` counts as one break of two characters.
-/

namespace ScriptDeploy.Yaml

/-- A position in the input: the bytes of UTF-8 text before it, and its line and column, all
from zero. -/
structure Mark where
  index : Nat := 0
  line : Nat := 0
  column : Nat := 0
deriving Repr, DecidableEq, Inhabited

namespace Mark

def next (m : Mark) (c : Char) : Mark :=
  { m with index := m.index + c.utf8Size, column := m.column + 1 }

def nextLine (m : Mark) (width : Nat) : Mark := ⟨m.index + width, m.line + 1, 0⟩

def isOrigin (m : Mark) : Bool := m.line == 0 && m.column == 0

def describe (m : Mark) : String :=
  "line " ++ toString (m.line + 1) ++ " column " ++ toString (m.column + 1)

end Mark

def isBreak (c : Char) : Bool :=
  c == '\r' || c == '\n' || c == '\u0085' || c == '\u2028' || c == '\u2029'

def isBlank (c : Char) : Bool := c == ' ' || c == '\t'

def isWordChar (c : Char) : Bool :=
  ('0' ≤ c && c ≤ '9') || ('a' ≤ c && c ≤ 'z') || ('A' ≤ c && c ≤ 'Z') || c == '_' || c == '-'

def hexValue? (c : Char) : Option Nat :=
  if '0' ≤ c && c ≤ '9' then some (c.toNat - '0'.toNat)
  else if 'a' ≤ c && c ≤ 'f' then some (c.toNat - 'a'.toNat + 10)
  else if 'A' ≤ c && c ≤ 'F' then some (c.toNat - 'A'.toNat + 10)
  else none

def blankzAt (l : List Char) (k : Nat) : Bool :=
  match l[k]? with
  | none => true
  | some c => isBlank c || isBreak c

def breakzAt (l : List Char) (k : Nat) : Bool :=
  match l[k]? with
  | none => true
  | some c => isBreak c

def charAt (l : List Char) (k : Nat) (c : Char) : Bool := l[k]? == some c

def startsDocumentMarker (l : List Char) : Bool :=
  ((charAt l 0 '-' && charAt l 1 '-' && charAt l 2 '-') ||
    (charAt l 0 '.' && charAt l 1 '.' && charAt l 2 '.')) && blankzAt l 3

/-- The unread input and the mark of its first character. -/
structure Cursor where
  rest : List Char
  mark : Mark

namespace Cursor

def head? (cur : Cursor) : Option Char := cur.rest.head?

def headIs (cur : Cursor) (p : Char → Bool) : Bool :=
  match cur.rest with
  | c :: _ => p c
  | [] => false

def skip (cur : Cursor) : Cursor :=
  match cur.rest with
  | c :: r => ⟨r, cur.mark.next c⟩
  | [] => cur

def skipN : Nat → Cursor → Cursor
  | 0, cur => cur
  | n + 1, cur => skipN n cur.skip

def skipWhile (p : Char → Bool) (cur : Cursor) : Cursor :=
  match cur with
  | ⟨c :: r, m⟩ => if p c then skipWhile p ⟨r, m.next c⟩ else cur
  | ⟨[], _⟩ => cur
termination_by cur.rest.length

/-- Reads one line break: the character it stands for (`\n` for `\r\n`, `\r` and next line, the
separators themselves) and the cursor at the start of the next line. -/
def lineBreak? (cur : Cursor) : Option (Char × Cursor) :=
  match cur.rest with
  | '\r' :: '\n' :: r => some ('\n', ⟨r, cur.mark.nextLine 2⟩)
  | c :: r =>
    if c == '\r' || c == '\n' || c == '\u0085' then
      some ('\n', ⟨r, cur.mark.nextLine c.utf8Size⟩)
    else if c == '\u2028' || c == '\u2029' then some (c, ⟨r, cur.mark.nextLine c.utf8Size⟩)
    else none
  | [] => none

def skipBreak (cur : Cursor) : Cursor :=
  match cur.lineBreak? with
  | some (_, cur') => cur'
  | none => cur

theorem skip_length_le (cur : Cursor) : cur.skip.rest.length ≤ cur.rest.length := by
  unfold skip; split <;> simp_all

theorem skip_length_lt (cur : Cursor) (h : cur.rest ≠ []) :
    cur.skip.rest.length < cur.rest.length := by
  unfold skip; split <;> simp_all

theorem skipN_length_le (n : Nat) (cur : Cursor) : (cur.skipN n).rest.length ≤ cur.rest.length := by
  induction n generalizing cur with
  | zero => exact Nat.le_refl _
  | succ n ih => exact Nat.le_trans (ih cur.skip) (skip_length_le cur)

theorem skipWhile_length_le (p : Char → Bool) (cur : Cursor) :
    (cur.skipWhile p).rest.length ≤ cur.rest.length := by
  match cur with
  | ⟨c :: r, m⟩ =>
    unfold skipWhile
    split
    · have := skipWhile_length_le p ⟨r, m.next c⟩
      simp only [List.length_cons] at this ⊢
      omega
    · exact Nat.le_refl _
  | ⟨[], m⟩ => unfold skipWhile; exact Nat.le_refl _
termination_by cur.rest.length

theorem lineBreak?_length_lt {cur cur' : Cursor} {b : Char} (h : cur.lineBreak? = some (b, cur')) :
    cur'.rest.length < cur.rest.length := by
  unfold lineBreak? at h
  split at h <;> (try split at h) <;> (try split at h) <;> cases h <;>
    (dsimp only; simp only [*, List.length_cons]; omega)

theorem skipBreak_length_le (cur : Cursor) : cur.skipBreak.rest.length ≤ cur.rest.length := by
  unfold skipBreak
  split
  · next b cur' h => exact Nat.le_of_lt (lineBreak?_length_lt h)
  · exact Nat.le_refl _

end Cursor

end ScriptDeploy.Yaml
