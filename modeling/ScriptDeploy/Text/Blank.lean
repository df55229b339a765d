/-!
# Blank characters and trimming

A blank is a character of the Unicode White_Space property: the ASCII tab, line feed,
vertical tab, form feed, carriage return and space, the next-line control `U+0085`, the
no-break space `U+00A0`, the ogham space mark `U+1680`, the spaces `U+2000` to `U+200A`, the
line and paragraph separators `U+2028` and `U+2029`, the narrow no-break space `U+202F`, the
medium mathematical space `U+205F` and the ideographic space `U+3000`.

Trimming removes blanks from both ends; a text is blank when nothing is left.
-/

namespace ScriptDeploy.Text

/-- Whether a character has the Unicode White_Space property. -/
def isBlank (c : Char) : Bool :=
  let n := c.toNat
  (0x09 ≤ n && n ≤ 0x0D) || n == 0x20 || n == 0x85 || n == 0xA0 || n == 0x1680 ||
    (0x2000 ≤ n && n ≤ 0x200A) || n == 0x2028 || n == 0x2029 || n == 0x202F ||
    n == 0x205F || n == 0x3000

def trimBlank (s : String) : String :=
  String.ofList ((s.toList.dropWhile isBlank).reverse.dropWhile isBlank).reverse

def isBlankText (s : String) : Bool := s.toList.all isBlank

/-- Every character that core counts as whitespace is a blank. -/
theorem isBlank_of_isWhitespace (c : Char) (h : c.isWhitespace = true) : isBlank c = true := by
  simp only [Char.isWhitespace, Bool.or_eq_true, decide_eq_true_eq] at h
  rcases h with ((h | h) | h) | h <;> subst h <;> decide

end ScriptDeploy.Text
