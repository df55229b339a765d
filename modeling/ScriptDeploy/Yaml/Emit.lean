import ScriptDeploy.Yaml.Scalar

/-!
# Writing a mapping of text as YAML

A flat mapping from keys to text values is written as one block mapping, a line `key: value`
per entry, so that reading the text back gives the same text values. Keys are written in the
same styles as values, on one line: a key holding a line feed goes in double quotes.

Each value gets one of four styles:

* text holding a line feed asks for a literal block (`|`), every line indented by two;
* text that a reader would take for something else (null, a boolean, a number, or a number
  with leading zeros) asks for single quotes;
* any other text asks for the plain style.

What the characters allow then decides. Plain text may not start or end with a blank or a
break, hold a break, a blank beside a break, a character that cannot be shown, or an
indicator (`- `, `: `, ` #`, a leading `[`, `'`, `&` and the like, or `---` and `...`). Single
quotes may not hold a blank beside a break or a character that cannot be shown; a literal
block may not hold these nor end with a blank. Where the asked style is not allowed, plain
falls back to single quotes, and single quotes and literal blocks fall back to double quotes,
which can hold anything through escapes.

A literal block's header says how to read it: an indentation of `2` when the text starts with
a blank or a break, `-` when it ends without a break and `+` when it ends with more than one.
The text ends with the line of the last value; no document end marker follows it.
-/

namespace ScriptDeploy.Yaml.Emit

inductive Style where
  | plain
  | singleQuoted
  | doubleQuoted
  | literal
deriving DecidableEq, Repr, Inhabited

def isBreak (c : Char) : Bool :=
  c == '\r' || c == '\n' || c.toNat == 0x85 || c.toNat == 0x2028 || c.toNat == 0x2029

/-- A character that may stand as it is: line feed, printable ASCII, and the rest of Unicode
but for the C1 controls, the byte-order mark and the two non-characters `U+FFFE`, `U+FFFF`. -/
def isPrintable (c : Char) : Bool :=
  let n := c.toNat
  n == 0x0A || (0x20 ≤ n && n ≤ 0x7E) || (0xA0 ≤ n && n ≤ 0xD7FF) ||
    (0xE000 ≤ n && n ≤ 0xFFFD && n != 0xFEFF) || 0x10000 ≤ n

def isBlankOrEnd : Option Char → Bool
  | none => true
  | some c => c == ' ' || c == '\t' || isBreak c || c.toNat == 0

def leadsWithIndicator : List Char → Bool
  | [] => false
  | c :: rest =>
    "#,[]\x7b\x7d&*!|>'\"%@`".toList.contains c ||
      ((c == '?' || c == ':' || c == '-') && isBlankOrEnd rest.head?)

/-- Whether a later character makes the text read as an indicator: a `:` before a blank, or a
`#` after one. -/
def holdsIndicator (prev : Char) : List Char → Bool
  | [] => false
  | c :: rest =>
    (c == ':' && isBlankOrEnd rest.head?) || (c == '#' && isBlankOrEnd (some prev)) ||
      holdsIndicator c rest

structure Fit where
  plain : Bool
  singleQuoted : Bool
  literal : Bool
deriving Repr, Inhabited

def fit (s : String) : Fit :=
  let cs := s.toList
  if cs.isEmpty then ⟨true, true, false⟩
  else
    let pairs := cs.zip cs.tail
    let special := cs.any (!isPrintable ·)
    let breaks := cs.any isBreak
    let edgeBlank := cs.head? == some ' ' || cs.getLast? == some ' '
    let edgeBreak := (cs.head?.map isBreak).getD false || (cs.getLast?.map isBreak).getD false
    let breakBlank := pairs.any fun (a, b) => isBreak a && b == ' '
    let blankBreak := pairs.any fun (a, b) => a == ' ' && isBreak b
    let indicator := s.startsWith "---" || s.startsWith "..." || leadsWithIndicator cs ||
      match cs with
      | c :: rest => holdsIndicator c rest
      | [] => false
    { plain := !(edgeBlank || edgeBreak || breaks || breakBlank || blankBreak || special ||
        indicator)
      singleQuoted := !(breakBlank || blankBreak || special)
      literal := !(cs.getLast? == some ' ' || blankBreak || special) }

def readsAsOther (s : String) : Bool :=
  match Scalar.untagged s with
  | .string _ => Scalar.isZeroPadded s
  | _ => true

def styleOf (s : String) : Style :=
  let f := fit s
  if s.contains '\n' then (if f.literal then .literal else .doubleQuoted)
  else if readsAsOther s then (if f.singleQuoted then .singleQuoted else .doubleQuoted)
  else if f.plain then .plain
  else if f.singleQuoted then .singleQuoted
  else .doubleQuoted

def hexWidth (width n : Nat) : String :=
  let digits := Nat.toDigits 16 n |>.map Char.toUpper
  String.ofList (List.replicate (width - digits.length) '0' ++ digits)

def escaped (c : Char) : String :=
  if isPrintable c && !isBreak c && c != '"' && c != '\\' then c.toString
  else
    let n := c.toNat
    "\\" ++ match n with
      | 0x00 => "0"
      | 0x07 => "a"
      | 0x08 => "b"
      | 0x09 => "t"
      | 0x0A => "n"
      | 0x0B => "v"
      | 0x0C => "f"
      | 0x0D => "r"
      | 0x1B => "e"
      | 0x22 => "\""
      | 0x5C => "\\"
      | 0x85 => "N"
      | 0xA0 => "_"
      | 0x2028 => "L"
      | 0x2029 => "P"
      | _ =>
        if n ≤ 0xFF then "x" ++ hexWidth 2 n
        else if n ≤ 0xFFFF then "u" ++ hexWidth 4 n
        else "U" ++ hexWidth 8 n

/-- The characters between single quotes; `afterBreak` tells whether a break was just
written, after which the next line is indented by two. -/
def singleQuotedChars (afterBreak : Bool) : List Char → List Char
  | [] => if afterBreak then [' ', ' '] else []
  | c :: rest =>
    if c == ' ' then ' ' :: singleQuotedChars afterBreak rest
    else if isBreak c then
      (if !afterBreak && c == '\n' then ['\n'] else []) ++ c :: singleQuotedChars true rest
    else
      (if afterBreak then [' ', ' '] else []) ++ (if c == '\'' then ['\'', '\''] else [c]) ++
        singleQuotedChars false rest

def literalChars (lineStart : Bool) : List Char → List Char
  | [] => []
  | c :: rest =>
    if isBreak c then c :: literalChars true rest
    else (if lineStart then [' ', ' '] else []) ++ c :: literalChars false rest

def chomping (cs : List Char) : String :=
  match cs.reverse with
  | [] => "-"
  | [c] => if isBreak c then "+" else "-"
  | c :: d :: _ => if !isBreak c then "-" else if isBreak d then "+" else ""

/-- A written value, from the blank after its key's colon: its text, and whether it ends at the
start of a line. -/
structure Written where
  text : String
  atLineStart : Bool
deriving Repr, Inhabited

def value (s : String) : Written :=
  let cs := s.toList
  match styleOf s with
  | .plain => ⟨" " ++ s, false⟩
  | .singleQuoted => ⟨" '" ++ String.ofList (singleQuotedChars false cs) ++ "'", false⟩
  | .doubleQuoted => ⟨" \"" ++ String.join (cs.map escaped) ++ "\"", false⟩
  | .literal =>
    let indent := match cs.head? with
      | some c => if c == ' ' || isBreak c then "2" else ""
      | none => ""
    ⟨" |" ++ indent ++ chomping cs ++ "\n" ++ String.ofList (literalChars true cs),
      (cs.getLast?.map isBreak).getD false⟩

/-- A key written on the line of its value: plain when it may be, quoted otherwise, and in
double quotes when it holds a line feed. -/
def keyText (k : String) : String :=
  match styleOf k with
  | .plain => k
  | .literal => "\"" ++ String.join (k.toList.map escaped) ++ "\""
  | _ => ((value k).text.toList.drop 1 |> String.ofList)

/-- The text of a document holding one block mapping of keys to text values. -/
def mapping (entries : List (String × String)) : String :=
  match entries with
  | [] => "{}\n"
  | _ => go entries true ""
where
  go : List (String × String) → Bool → String → String
    | [], atLineStart, out => out ++ (if atLineStart then "" else "\n")
    | (k, v) :: rest, atLineStart, out =>
      let w := value v
      go rest w.atLineStart
        (out ++ (if atLineStart then "" else "\n") ++ keyText k ++ ":" ++ w.text)

end ScriptDeploy.Yaml.Emit
