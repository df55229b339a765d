import ScriptDeploy.Yaml.SyntaxError
import ScriptDeploy.Yaml.Token

/-!
# Scalars of YAML text

The three ways of writing a scalar: between quotes, plain, and as an indented block (`|` keeps
line breaks, `>` folds them). Each reader takes the cursor at the scalar's first character and
returns the scalar's text and the cursor after it.

Line folding is shared: a single line break between two pieces of text becomes a space, and
further breaks are kept; blanks next to line breaks are dropped.

The outer loops read at least one character per round; they are bounded by `fuel`, which the
callers set to one more than the number of unread characters.
-/

namespace ScriptDeploy.Yaml

/-- Blanks and line breaks between two pieces of a scalar: the blanks before any break, the
first break, and the breaks after it. -/
structure Gap where
  broken : Bool := false
  spaces : String := ""
  first : String := ""
  more : String := ""

/-- Adds a gap to the text read so far: without a break the blanks stay; a single `\n` becomes a
space; other breaks are kept. -/
def Gap.foldInto (acc : String) (g : Gap) : String :=
  if g.broken then
    if g.first.startsWith "\n" then (if g.more.isEmpty then acc.push ' ' else acc ++ g.more)
    else acc ++ g.first ++ g.more
  else acc ++ g.spaces

def Gap.pending (g : Gap) : Bool := g.broken || !g.spaces.isEmpty

def Gap.addBlank (g : Gap) (c : Char) : Gap :=
  if g.broken then g else { g with spaces := g.spaces.push c }

def Gap.addBreak (g : Gap) (b : Char) : Gap :=
  if g.broken then { g with more := g.more.push b }
  else { g with broken := true, spaces := "", first := String.singleton b }

def simpleEscape? : Char → Option Char
  | '0' => some '\x00'
  | 'a' => some '\x07'
  | 'b' => some '\x08'
  | 't' => some '\t'
  | '\t' => some '\t'
  | 'n' => some '\n'
  | 'v' => some '\x0b'
  | 'f' => some '\x0c'
  | 'r' => some '\r'
  | 'e' => some '\x1b'
  | ' ' => some ' '
  | '"' => some '"'
  | '/' => some '/'
  | '\'' => some '\''
  | '\\' => some '\\'
  | 'N' => some '\u0085'
  | '_' => some '\u00a0'
  | 'L' => some '\u2028'
  | 'P' => some '\u2029'
  | _ => none

def escapeWidth? : Char → Option Nat
  | 'x' => some 2
  | 'u' => some 4
  | 'U' => some 8
  | _ => none

def hexNumber? : Nat → List Char → Option Nat
  | 0, _ => some 0
  | n + 1, c :: r => do
    let d ← hexValue? c
    let v ← hexNumber? n r
    pure (d * Nat.pow 16 n + v)
  | _ + 1, [] => none

def Cursor.fail (cur : Cursor) (ctx : Context) (start : Mark) (p : Problem) : SyntaxError :=
  { problem := p, mark := cur.mark, context := some (ctx, start) }

section Quoted

/-- Reads the non-blank characters of a quoted scalar, up to a blank, a break, the end, the
closing quote or an escaped line break. The flag says whether an escaped line break ended it. -/
def quotedRun (single : Bool) (start : Mark) (fuel : Nat) (cur : Cursor) (acc : String) :
    Except SyntaxError (Cursor × String × Bool) :=
  match fuel with
  | 0 => .ok (cur, acc, false)
  | fuel + 1 =>
    match cur.rest with
    | [] => .ok (cur, acc, false)
    | c :: r =>
      if isBlank c || isBreak c then .ok (cur, acc, false)
      else if single && c == '\'' && charAt r 0 '\'' then
        quotedRun single start fuel (cur.skipN 2) (acc.push '\'')
      else if c == (if single then '\'' else '"') then .ok (cur, acc, false)
      else if !single && c == '\\' && (match r with | d :: _ => isBreak d | [] => false) then
        .ok (cur.skip.skipBreak, acc, true)
      else if !single && c == '\\' then
        match r with
        | e :: _ =>
          match simpleEscape? e with
          | some ch => quotedRun single start fuel (cur.skipN 2) (acc.push ch)
          | none =>
            match escapeWidth? e with
            | some n =>
              let digits := cur.skipN 2
              match hexNumber? n digits.rest with
              | none => .error (digits.fail .quotedScalarEscape start .missingHexDigits)
              | some v =>
                if (0xD800 ≤ v && v ≤ 0xDFFF) || v > 0x10FFFF then
                  .error (digits.fail .quotedScalarEscape start .invalidEscapedCodePoint)
                else quotedRun single start fuel (digits.skipN n) (acc.push (Char.ofNat v))
            | none => .error (cur.fail .quotedScalarEscape start .unknownEscape)
        | [] => .error (cur.fail .quotedScalarEscape start .unknownEscape)
      else quotedRun single start fuel cur.skip (acc.push c)

def readGap (cur : Cursor) (g : Gap) : Cursor × Gap :=
  match _h : cur.rest with
  | c :: _ =>
    if isBlank c then readGap cur.skip (g.addBlank c)
    else
      match _hb : cur.lineBreak? with
      | some (b, cur') => readGap cur' (g.addBreak b)
      | none => (cur, g)
  | [] => (cur, g)
termination_by cur.rest.length
decreasing_by
  · exact Cursor.skip_length_lt cur (by simp [_h])
  · exact Cursor.lineBreak?_length_lt _hb

def quotedBody (single : Bool) (start : Mark) : Nat → Cursor → String →
    Except SyntaxError (String × Cursor)
  | 0, cur, _ => .error (cur.fail .quotedScalar start .endOfStreamInScalar)
  | fuel + 1, cur, acc =>
    if cur.mark.column == 0 && startsDocumentMarker cur.rest then
      .error (cur.fail .quotedScalar start .documentMarkerInScalar)
    else if cur.rest.isEmpty then
      .error (cur.fail .quotedScalar start .endOfStreamInScalar)
    else do
      let (cur, acc, broken) ← quotedRun single start (cur.rest.length + 1) cur acc
      if cur.headIs (· == (if single then '\'' else '"')) then
        return (acc, cur.skip)
      let (cur, g) := readGap cur { broken }
      quotedBody single start fuel cur (g.foldInto acc)

def scanQuoted (single : Bool) (cur : Cursor) : Except SyntaxError (Token × Cursor) := do
  let start := cur.mark
  let inner := cur.skip
  let (text, after) ← quotedBody single start (inner.rest.length + 1) inner ""
  return (⟨.scalar text (if single then .singleQuoted else .doubleQuoted), start, after.mark⟩,
    after)

end Quoted

section Plain

def isFlowIndicator (c : Char) : Bool :=
  c == ',' || c == '[' || c == ']' || c == '{' || c == '}'

/-- Reads the non-blank characters of a plain scalar, adding a pending gap before the first one.
Stops at a blank, a break, the end, `: ` or, inside flow collections, a flow indicator. -/
def plainRun (inFlow : Bool) (start : Mark) (cur : Cursor) (acc : String) (g : Gap)
    (stop : Mark) : Except SyntaxError (Cursor × String × Gap × Mark) :=
  match _h : cur.rest with
  | [] => .ok (cur, acc, g, stop)
  | c :: r =>
    if isBlank c || isBreak c then .ok (cur, acc, g, stop)
    else if inFlow && c == ':' &&
        (charAt r 0 ',' || charAt r 0 '?' || charAt r 0 '[' || charAt r 0 ']' ||
          charAt r 0 '{' || charAt r 0 '}') then
      .error (cur.fail .plainScalar start .unexpectedColon)
    else if (c == ':' && blankzAt r 0) || (inFlow && isFlowIndicator c) then
      .ok (cur, acc, g, stop)
    else
      let acc := if g.pending then g.foldInto acc else acc
      let next := cur.skip
      plainRun inFlow start next (acc.push c) {} next.mark
termination_by cur.rest.length
decreasing_by exact Cursor.skip_length_lt cur (by simp [_h])

/-- Reads the blanks and breaks after a piece of a plain scalar. A tab among the indentation
of a continuation line is refused. -/
def plainGap (start : Mark) (indent : Int) (cur : Cursor) (g : Gap) :
    Except SyntaxError (Cursor × Gap) :=
  match _h : cur.rest with
  | c :: _ =>
    if isBlank c then
      if g.broken && (cur.mark.column : Int) < indent && c == '\t' then
        .error (cur.fail .plainScalar start .tabViolatesIndentation)
      else plainGap start indent cur.skip (g.addBlank c)
    else
      match _hb : cur.lineBreak? with
      | some (b, cur') => plainGap start indent cur' (g.addBreak b)
      | none => .ok (cur, g)
  | [] => .ok (cur, g)
termination_by cur.rest.length
decreasing_by
  · exact Cursor.skip_length_lt cur (by simp [_h])
  · exact Cursor.lineBreak?_length_lt _hb

/-- Reads a plain scalar: pieces of text separated by folded gaps, ending before a comment, a
document marker, `: `, a flow indicator in flow collections, or a line indented no deeper than
the enclosing block. -/
def plainBody (inFlow : Bool) (indent : Int) (start : Mark) :
    Nat → Cursor → String → Gap → Mark → Except SyntaxError (String × Cursor × Gap × Mark)
  | 0, cur, acc, g, stop => .ok (acc, cur, g, stop)
  | fuel + 1, cur, acc, g, stop =>
    if cur.mark.column == 0 && startsDocumentMarker cur.rest then .ok (acc, cur, g, stop)
    else if cur.headIs (· == '#') then .ok (acc, cur, g, stop)
    else do
      let (cur, acc, g, stop) ← plainRun inFlow start cur acc g stop
      if !cur.headIs (fun c => isBlank c || isBreak c) then return (acc, cur, g, stop)
      let (cur, g) ← plainGap start indent cur g
      if !inFlow && (cur.mark.column : Int) < indent then return (acc, cur, g, stop)
      plainBody inFlow indent start fuel cur acc g stop

def scanPlain (inFlow : Bool) (blockIndent : Int) (cur : Cursor) :
    Except SyntaxError (Token × Cursor × Bool) := do
  let start := cur.mark
  let (text, after, g, stop) ←
    plainBody inFlow (blockIndent + 1) start (cur.rest.length + 1) cur "" {} start
  return (⟨.scalar text .plain, start, stop⟩, after, g.broken)

end Plain

section Block

structure BlockBreaks where
  cur : Cursor
  indent : Nat
  breaks : String
  stop : Mark

/-- Reads indentation spaces and empty lines before the next line of a block scalar. With no
indentation fixed yet (`indent = 0`), the deepest indentation seen fixes it, at least one more
than the enclosing block and at least one. -/
def blockBreaks (start : Mark) (blockIndent : Int) (indent : Nat) :
    Nat → Cursor → String → Mark → Nat → Except SyntaxError BlockBreaks
  | 0, cur, breaks, stop, _ => .ok ⟨cur, indent, breaks, stop⟩
  | fuel + 1, cur, breaks, stop, deepest =>
    let cur := spacesTo indent cur
    let deepest := max deepest cur.mark.column
    if (indent == 0 || cur.mark.column < indent) && cur.headIs (· == '\t') then
      .error (cur.fail .blockScalar start .tabInIndentation)
    else
      match cur.lineBreak? with
      | some (b, next) => blockBreaks start blockIndent indent fuel next (breaks.push b) next.mark deepest
      | none =>
        let fixed :=
          if indent == 0 then max (max deepest (blockIndent + 1).toNat) 1 else indent
        .ok ⟨cur, fixed, breaks, stop⟩
where
  spacesTo (indent : Nat) (cur : Cursor) : Cursor :=
    match _h : cur.rest with
    | ' ' :: _ =>
      if indent == 0 || cur.mark.column < indent then spacesTo indent cur.skip else cur
    | _ => cur
  termination_by cur.rest.length
  decreasing_by exact Cursor.skip_length_lt cur (by simp [_h])

def readLine (cur : Cursor) (acc : String) : Cursor × String :=
  match _h : cur.rest with
  | c :: _ => if isBreak c then (cur, acc) else readLine cur.skip (acc.push c)
  | [] => (cur, acc)
termination_by cur.rest.length
decreasing_by exact Cursor.skip_length_lt cur (by simp [_h])

def blockLines (literal : Bool) (start : Mark) (blockIndent : Int) :
    Nat → BlockBreaks → String → String → Bool → Except SyntaxError (String × BlockBreaks × String)
  | 0, bb, acc, lead, _ => .ok (acc, bb, lead)
  | fuel + 1, bb, acc, lead, leadingBlank =>
    if bb.cur.mark.column == bb.indent && !bb.cur.rest.isEmpty then
      let trailingBlank := bb.cur.headIs isBlank
      let acc :=
        if !literal && lead.startsWith "\n" && !leadingBlank && !trailingBlank then
          (if bb.breaks.isEmpty then acc.push ' ' else acc)
        else acc ++ lead
      let acc := acc ++ bb.breaks
      let leadingBlank := bb.cur.headIs isBlank
      let (cur, acc) := readLine bb.cur acc
      let (lead, cur) := match cur.lineBreak? with
        | some (b, next) => (String.singleton b, next)
        | none => ("", cur)
      match blockBreaks start blockIndent bb.indent (cur.rest.length + 1) cur "" cur.mark 0 with
      | .error e => .error e
      | .ok bb => blockLines literal start blockIndent fuel bb acc lead leadingBlank
    else .ok (acc, bb, lead)

/-- Reads a block scalar starting at its indicator `|` or `>`: the chomping (`+` keeps final
breaks, `-` drops them, none keeps one) and indentation indicators, then the indented lines. -/
def scanBlock (literal : Bool) (blockIndent : Int) (cur : Cursor) :
    Except SyntaxError (Token × Cursor) := do
  let start := cur.mark
  let cur := cur.skip
  let (chomp, increment, cur) ← headerIndicators start cur
  let cur := cur.skipWhile isBlank
  let cur := if cur.headIs (· == '#') then cur.skipWhile (fun c => !isBreak c) else cur
  if !breakzAt cur.rest 0 then
    throw (cur.fail .blockScalar start .missingCommentOrBreak)
  let cur := cur.skipBreak
  let indent : Nat :=
    if increment == 0 then 0
    else if blockIndent ≥ 0 then blockIndent.toNat + increment else increment
  let bb ← blockBreaks start blockIndent indent (cur.rest.length + 1) cur "" cur.mark 0
  let (acc, bb, lead) ← blockLines literal start blockIndent (bb.cur.rest.length + 1) bb "" "" false
  let acc := if chomp != some false then acc ++ lead else acc
  let acc := if chomp == some true then acc ++ bb.breaks else acc
  return (⟨.scalar acc (if literal then .literal else .folded), start, bb.stop⟩, bb.cur)
where
  headerIndicators (start : Mark) (cur : Cursor) :
      Except SyntaxError (Option Bool × Nat × Cursor) :=
    match cur.rest with
    | c :: r =>
      if c == '+' || c == '-' then
        let chomp := some (c == '+')
        let cur := cur.skip
        match r with
        | d :: _ =>
          if '0' ≤ d && d ≤ '9' then
            if d == '0' then .error (cur.fail .blockScalar start .zeroIndentation)
            else .ok (chomp, d.toNat - '0'.toNat, cur.skip)
          else .ok (chomp, 0, cur)
        | [] => .ok (chomp, 0, cur)
      else if '0' ≤ c && c ≤ '9' then
        if c == '0' then .error (cur.fail .blockScalar start .zeroIndentation)
        else
          let n := c.toNat - '0'.toNat
          let cur := cur.skip
          match r with
          | d :: _ =>
            if d == '+' || d == '-' then .ok (some (d == '+'), n, cur.skip) else .ok (none, n, cur)
          | [] => .ok (none, n, cur)
      else .ok (none, 0, cur)
    | [] => .ok (none, 0, cur)

end Block

end ScriptDeploy.Yaml
