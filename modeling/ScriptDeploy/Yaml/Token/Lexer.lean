import ScriptDeploy.Yaml.Token.Scalar

/-!
# Cutting YAML text into tokens

The lexer reads tokens on demand. Indentation opens and closes block collections: a line that
starts deeper than the current block opens one (`blockMappingStart` or `blockSequenceStart`), a
line that starts shallower closes blocks (`blockEnd`). A mapping key written without `?` is only
recognised when its `:` is found; until then the place where it could start is remembered as a
`KeyCandidate`, and the `key` token (with a `blockMappingStart` if needed) is inserted there
afterwards. So a token is handed out only once no remembered candidate can still claim its
place. A candidate must stay on one line and within 1024 characters.
-/

namespace ScriptDeploy.Yaml

/-- A place where a mapping key without `?` may start: whether it still may, whether it must
(a line of a block mapping), the number of the token that would follow it, and its mark. -/
structure KeyCandidate where
  possible : Bool
  required : Bool
  tokenNumber : Nat
  mark : Mark
deriving Repr, Inhabited

def KeyCandidate.none : KeyCandidate := ⟨false, false, 0, {}⟩

def insertAt {α : Type} : Nat → α → List α → List α
  | 0, a, l => a :: l
  | _ + 1, a, [] => [a]
  | n + 1, a, b :: l => b :: insertAt n a l

/-- The state of the lexer: the unread input, the tokens fetched but not yet handed out, how
many were handed out, the indentation of the open blocks, the key candidates of the open flow
levels (innermost first) and whether a key may start here. -/
structure Lexer where
  cur : Cursor
  started : Bool := false
  queue : List Token := []
  taken : Nat := 0
  indent : Int := -1
  indents : List Int := []
  keyAllowed : Bool := false
  keys : List KeyCandidate := []
  flowLevel : Nat := 0

def Cursor.readWord (cur : Cursor) (acc : String) : String × Cursor :=
  match _h : cur.rest with
  | c :: _ => if isWordChar c then Cursor.readWord cur.skip (acc.push c) else (acc, cur)
  | [] => (acc, cur)
termination_by cur.rest.length
decreasing_by exact Cursor.skip_length_lt cur (by simp [_h])

def Cursor.skipBom (cur : Cursor) : Cursor :=
  if cur.mark.column == 0 && cur.headIs (· == '\uFEFF') then cur.skip else cur

def Cursor.skipComment (cur : Cursor) : Cursor :=
  if cur.headIs (· == '#') then cur.skipWhile (fun c => !isBreak c) else cur

theorem Cursor.skipBom_length_le (cur : Cursor) : cur.skipBom.rest.length ≤ cur.rest.length := by
  unfold skipBom; split
  · exact Cursor.skip_length_le cur
  · exact Nat.le_refl _

theorem Cursor.skipComment_length_le (cur : Cursor) :
    cur.skipComment.rest.length ≤ cur.rest.length := by
  unfold skipComment; split
  · exact Cursor.skipWhile_length_le _ cur
  · exact Nat.le_refl _

/-- Skips a byte order mark, blanks and a comment on the current line. Tabs count as blanks
inside flow collections and where no key may start. -/
def Cursor.skipLineGap (inFlow allowed : Bool) (cur : Cursor) : Cursor :=
  ((cur.skipBom).skipWhile (fun c => c == ' ' || ((inFlow || !allowed) && c == '\t'))).skipComment

theorem Cursor.skipLineGap_length_le (inFlow allowed : Bool) (cur : Cursor) :
    (cur.skipLineGap inFlow allowed).rest.length ≤ cur.rest.length := by
  unfold skipLineGap
  exact Nat.le_trans (Cursor.skipComment_length_le _)
    (Nat.le_trans (Cursor.skipWhile_length_le _ _) (Cursor.skipBom_length_le cur))

def skipToToken (inFlow : Bool) (cur : Cursor) (allowed : Bool) : Cursor × Bool :=
  match _h : (cur.skipLineGap inFlow allowed).lineBreak? with
  | some (_, next) => skipToToken inFlow next (if inFlow then allowed else true)
  | none => (cur.skipLineGap inFlow allowed, allowed)
termination_by cur.rest.length
decreasing_by
  exact Nat.lt_of_lt_of_le (Cursor.lineBreak?_length_lt _h) (Cursor.skipLineGap_length_le _ _ cur)

/-- Whether a plain scalar may start here: any character that is no indicator, or `-`, `?`, `:`
followed by a non-blank (`?` and `:` only outside flow collections). -/
def startsPlain (inFlow : Bool) (rest : List Char) : Bool :=
  match rest with
  | c :: r =>
    let indicator := c == '-' || c == '?' || c == ':' || c == ',' || c == '[' || c == ']' ||
      c == '\x7b' || c == '\x7d' || c == '#' || c == '&' || c == '*' || c == '!' ||
      c == '|' || c == '>' || c == '\'' || c == '"' || c == '%' || c == '@' || c == '\x60'
    let blankNext := match r with | d :: _ => isBlank d | [] => false
    !(isBlank c || isBreak c || indicator) || (c == '-' && !blankNext) ||
      (!inFlow && (c == '?' || c == ':') && !blankzAt r 0)
  | [] => false

section Pieces

def Cursor.error (cur : Cursor) (ctx : Option (Context × Mark)) (p : Problem) : SyntaxError :=
  { problem := p, mark := cur.mark, context := ctx }

def scanAnchor (isAlias : Bool) (cur : Cursor) : Except SyntaxError (Token × Cursor) :=
  let start := cur.mark
  let (name, cur) := cur.skip.readWord ""
  let ends := blankzAt cur.rest 0 || cur.headIs (fun c =>
    c == '?' || c == ':' || c == ',' || c == ']' || c == '\x7d' || c == '%' || c == '@' ||
    c == '\x60')
  if name.isEmpty || !ends then
    .error (cur.fail (if isAlias then .alias else .anchor) start .missingAlphanumeric)
  else
    .ok (⟨if isAlias then .alias name else .anchor name, start, cur.mark⟩, cur)

def versionNumber (start : Mark) (cur : Cursor) (value length : Nat) :
    Except SyntaxError (Nat × Cursor) :=
  match h : cur.rest with
  | c :: _ =>
    if '0' ≤ c && c ≤ '9' then
      if length + 1 > 9 then .error (cur.fail .versionDirective start .longVersionNumber)
      else versionNumber start cur.skip (value * 10 + (c.toNat - '0'.toNat)) (length + 1)
    else if length == 0 then .error (cur.fail .versionDirective start .missingVersionNumber)
    else .ok (value, cur)
  | [] =>
    if length == 0 then .error (cur.fail .versionDirective start .missingVersionNumber)
    else .ok (value, cur)
termination_by cur.rest.length
decreasing_by exact Cursor.skip_length_lt cur (by simp [h])

/-- Reads a tag handle: `!`, `!!` or `!word!`. In a tag a lone `!word` is the start of the
suffix; in a `%TAG` directive it is refused. -/
def tagHandle (directive : Bool) (start : Mark) (cur : Cursor) :
    Except SyntaxError (String × Cursor) :=
  if !cur.headIs (· == '!') then
    .error (cur.fail (if directive then .tagDirectiveHandle else .tag) start .missingBang)
  else
    let (word, cur) := cur.skip.readWord "!"
    if cur.headIs (· == '!') then .ok (word.push '!', cur.skip)
    else if directive && word != "!" then
      .error (cur.fail .tagDirectiveHandleEnd start .missingBang)
    else .ok (word, cur)

def isUriChar (wide : Bool) (c : Char) : Bool :=
  isWordChar c || c == ';' || c == '/' || c == '?' || c == ':' || c == '@' || c == '&' ||
    c == '=' || c == '+' || c == '$' || c == '.' || c == '%' || c == '!' || c == '~' ||
    c == '*' || c == '\'' || c == '(' || c == ')' || (wide && (c == ',' || c == '[' || c == ']'))

def utf8Width? (b : Nat) : Option Nat :=
  if b < 0x80 then some 1
  else if b / 32 == 6 then some 2
  else if b / 16 == 14 then some 3
  else if b / 8 == 30 then some 4
  else none

/-- Reads a `%XX` escaped UTF-8 sequence in a tag, giving its bytes. Only the shape of the
sequence is checked: a lead byte, then as many bytes of the form `10xxxxxx` as it announces. -/
def uriEscapes (ctx : Context) (start : Mark) :
    Nat → Cursor → Option Nat → List UInt8 → Except SyntaxError (List UInt8 × Cursor)
  | 0, cur, _, bytes => .ok (bytes.reverse, cur)
  | fuel + 1, cur, width, bytes =>
    match cur.rest with
    | '%' :: h1 :: h2 :: _ =>
      match hexValue? h1, hexValue? h2 with
      | some a, some b =>
        let octet := a * 16 + b
        let next := cur.skipN 3
        match width with
        | none =>
          match utf8Width? octet with
          | none => .error (cur.fail ctx start .badLeadingOctet)
          | some w =>
            if w == 1 then .ok ([octet.toUInt8], next)
            else uriEscapes ctx start fuel next (some (w - 1)) [octet.toUInt8]
        | some w =>
          if octet / 64 != 2 then .error (cur.fail ctx start .badTrailingOctet)
          else if w == 1 then .ok ((octet.toUInt8 :: bytes).reverse, next)
          else uriEscapes ctx start fuel next (some (w - 1)) (octet.toUInt8 :: bytes)
      | _, _ => .error (cur.fail ctx start .missingEscapedOctet)
    | _ => .error (cur.fail ctx start .missingEscapedOctet)

def tagUri (wide directive : Bool) (head : String) (start : Mark) (cur : Cursor) :
    Except SyntaxError (List UInt8 × Cursor) :=
  let ctx := if directive then Context.tagDirectiveUri else .tagUri
  let rec go (fuel : Nat) (cur : Cursor) (acc : List UInt8) (length : Nat) :
      Except SyntaxError (List UInt8 × Cursor × Nat) :=
    match fuel with
    | 0 => .ok (acc, cur, length)
    | fuel + 1 =>
      match cur.rest with
      | c :: _ =>
        if !isUriChar wide c then .ok (acc, cur, length)
        else if c == '%' then
          match uriEscapes ctx start 4 cur none [] with
          | .error e => .error e
          | .ok (bs, cur) => go fuel cur (acc ++ bs) (length + 1)
        else go fuel cur.skip (acc ++ Tag.textBytes c.toString) (length + 1)
      | [] => .ok (acc, cur, length)
  let headBytes := if head.length > 1 then Tag.textBytes (head.drop 1).toString else []
  match go (cur.rest.length + 1) cur headBytes head.length with
  | .error e => .error e
  | .ok (acc, cur, length) =>
    if length == 0 then .error (cur.fail ctx start .missingTagUri) else .ok (acc, cur)

/-- Reads a tag: `!<uri>`, `!handle!suffix`, `!suffix` or a lone `!`. It must be followed by a
blank, a break, the end, or a `,` inside flow collections. A suffix that is empty up to its
first zero byte makes the tag a lone `!`. -/
def scanTag (inFlow : Bool) (cur : Cursor) : Except SyntaxError (Token × Cursor) := do
  let start := cur.mark
  let (handle, suffix, cur) ←
    if charAt cur.rest 1 '<' then do
      let (suffix, cur) ← tagUri true false "" start (cur.skipN 2)
      if !cur.headIs (· == '>') then throw (cur.fail .tag start .missingClosingAngle)
      pure ("", suffix, cur.skip)
    else do
      let (h, cur) ← tagHandle false start cur
      if h.length > 1 && h.endsWith "!" then
        let (suffix, cur) ← tagUri false false "" start cur
        pure (h, suffix, cur)
      else
        let (suffix, cur) ← tagUri false false h start cur
        if (Tag.untilZero suffix).isEmpty then pure ("", [33], cur) else pure ("!", suffix, cur)
  if !blankzAt cur.rest 0 && !(inFlow && cur.headIs (· == ',')) then
    throw (cur.fail .tag start .missingWhitespaceOrBreak)
  return (⟨.tag handle suffix, start, cur.mark⟩, cur)

def scanDirective (cur : Cursor) : Except SyntaxError (Token × Cursor) := do
  let start := cur.mark
  let (name, cur) := cur.skip.readWord ""
  if name.isEmpty then throw (cur.fail .directive start .missingDirectiveName)
  if !blankzAt cur.rest 0 then throw (cur.fail .directive start .nonAlphabeticalInDirectiveName)
  let (kind, cur) ←
    if name == "YAML" then do
      let (major, cur) ← versionNumber start (cur.skipWhile isBlank) 0 0
      if !cur.headIs (· == '.') then throw (cur.fail .versionDirective start .missingDigitOrDot)
      let (minor, cur) ← versionNumber start cur.skip 0 0
      pure (TokenKind.versionDirective major minor, cur)
    else if name == "TAG" then do
      let (handle, cur) ← tagHandle true start (cur.skipWhile isBlank)
      if !cur.headIs isBlank then throw (cur.fail .tagDirective start .missingWhitespace)
      let (uri, cur) ← tagUri true true "" start (cur.skipWhile isBlank)
      if !blankzAt cur.rest 0 then throw (cur.fail .tagDirective start .missingWhitespaceOrBreak)
      pure (TokenKind.tagDirective handle uri, cur)
    else throw (cur.fail .directive start .unknownDirectiveName)
  let stop := cur.mark
  let cur := (cur.skipWhile isBlank).skipComment
  if !breakzAt cur.rest 0 then throw (cur.fail .directive start .missingCommentOrBreak)
  return (⟨kind, start, stop⟩, cur.skipBreak)

end Pieces

namespace Lexer

def init (input : List Char) : Lexer := { cur := ⟨input, {}⟩ }

def fail (lx : Lexer) (ctx : Option (Context × Mark)) (p : Problem) : SyntaxError :=
  lx.cur.error ctx p

def push (lx : Lexer) (t : Token) : Lexer := { lx with queue := lx.queue ++ [t] }

def pushCovering (lx : Lexer) (kind : TokenKind) (n : Nat) : Lexer :=
  let cur := lx.cur.skipN n
  { (lx.push ⟨kind, lx.cur.mark, cur.mark⟩) with cur }

def removeKey (lx : Lexer) : Except SyntaxError Lexer :=
  match lx.keys with
  | k :: ks =>
    if k.possible && k.required then .error (lx.fail (some (.simpleKey, k.mark)) .missingColon)
    else .ok { lx with keys := { k with possible := false } :: ks }
  | [] => .ok lx

/-- Remembers the current position as the candidate of the current flow level, if a key may
start here. In a block it is required when it starts at the block's indentation. -/
def saveKey (lx : Lexer) : Except SyntaxError Lexer := do
  if lx.keyAllowed then
    let required := lx.flowLevel == 0 && lx.indent == (lx.cur.mark.column : Int)
    let key : KeyCandidate := ⟨true, required, lx.taken + lx.queue.length, lx.cur.mark⟩
    let lx ← lx.removeKey
    match lx.keys with
    | _ :: ks => return { lx with keys := key :: ks }
    | [] => return lx
  else return lx

/-- Drops candidates that are no longer on the current line or lie 1024 characters back; a
required one is an error (the outermost first). -/
def staleKeys (lx : Lexer) : Except SyntaxError Lexer :=
  let m := lx.cur.mark
  let stale (k : KeyCandidate) : Bool :=
    k.possible && (k.mark.line < m.line || k.mark.index + 1024 < m.index)
  match lx.keys.reverse.find? (fun k => stale k && k.required) with
  | some k => .error (lx.fail (some (.simpleKey, k.mark)) .missingColon)
  | none => .ok { lx with keys := lx.keys.map (fun k => if stale k then { k with possible := false } else k) }

def rollIndent (lx : Lexer) (column : Nat) (at? : Option Nat) (kind : TokenKind) (mark : Mark) :
    Lexer :=
  if lx.flowLevel == 0 && lx.indent < (column : Int) then
    let t : Token := ⟨kind, mark, mark⟩
    let lx := { lx with indents := lx.indent :: lx.indents, indent := column }
    match at? with
    | none => lx.push t
    | some n => { lx with queue := insertAt (n - lx.taken) t lx.queue }
  else lx

def unrollIndent (lx : Lexer) (column : Int) : Lexer :=
  if lx.flowLevel == 0 then close lx.indent lx.indents lx.queue else lx
where
  close (indent : Int) (indents : List Int) (queue : List Token) : Lexer :=
    match indents with
    | i :: is =>
      if indent > column then
        close i is (queue ++ [⟨.blockEnd, lx.cur.mark, lx.cur.mark⟩])
      else { lx with indent, indents, queue }
    | [] => { lx with indent, indents, queue }

def streamStart (lx : Lexer) : Lexer :=
  { lx.push ⟨.streamStart, lx.cur.mark, lx.cur.mark⟩ with
    indent := -1, keys := KeyCandidate.none :: lx.keys, keyAllowed := true, started := true }

def streamEnd (lx : Lexer) : Except SyntaxError Lexer := do
  let m := lx.cur.mark
  let m := if m.column != 0 then { m with column := 0, line := m.line + 1 } else m
  let lx := { lx with cur := { lx.cur with mark := m } }
  let lx := lx.unrollIndent (-1)
  let lx ← lx.removeKey
  return { lx.push ⟨.streamEnd, m, m⟩ with keyAllowed := false }

def fetchDirective (lx : Lexer) : Except SyntaxError Lexer := do
  let lx ← (lx.unrollIndent (-1)).removeKey
  let (t, cur) ← scanDirective lx.cur
  return { lx.push t with cur, keyAllowed := false }

def fetchDocumentMarker (lx : Lexer) (kind : TokenKind) : Except SyntaxError Lexer := do
  let lx ← (lx.unrollIndent (-1)).removeKey
  return { lx.pushCovering kind 3 with keyAllowed := false }

def fetchCollectionStart (lx : Lexer) (kind : TokenKind) : Except SyntaxError Lexer := do
  let lx ← lx.saveKey
  let lx := { lx with keys := KeyCandidate.none :: lx.keys, flowLevel := lx.flowLevel + 1 }
  return { lx.pushCovering kind 1 with keyAllowed := true }

def fetchCollectionEnd (lx : Lexer) (kind : TokenKind) : Except SyntaxError Lexer := do
  let lx ← lx.removeKey
  let lx := if lx.flowLevel > 0 then { lx with flowLevel := lx.flowLevel - 1, keys := lx.keys.tail }
    else lx
  return { lx.pushCovering kind 1 with keyAllowed := false }

def fetchFlowEntry (lx : Lexer) : Except SyntaxError Lexer := do
  let lx ← lx.removeKey
  return { lx.pushCovering .flowEntry 1 with keyAllowed := true }

def fetchBlockEntry (lx : Lexer) : Except SyntaxError Lexer := do
  let lx ←
    if lx.flowLevel == 0 then
      if !lx.keyAllowed then throw (lx.fail none .sequenceEntryNotAllowed)
      else pure (lx.rollIndent lx.cur.mark.column none .blockSequenceStart lx.cur.mark)
    else pure lx
  let lx ← lx.removeKey
  return { lx.pushCovering .blockEntry 1 with keyAllowed := true }

def fetchKey (lx : Lexer) : Except SyntaxError Lexer := do
  let lx ←
    if lx.flowLevel == 0 then
      if !lx.keyAllowed then throw (lx.fail none .mappingKeyNotAllowed)
      else pure (lx.rollIndent lx.cur.mark.column none .blockMappingStart lx.cur.mark)
    else pure lx
  let lx ← lx.removeKey
  return { lx.pushCovering .key 1 with keyAllowed := lx.flowLevel == 0 }

def fetchValue (lx : Lexer) : Except SyntaxError Lexer := do
  let lx ←
    match lx.keys with
    | k :: ks =>
      if k.possible then
        let keyToken : Token := ⟨.key, k.mark, k.mark⟩
        let lx := { lx with queue := insertAt (k.tokenNumber - lx.taken) keyToken lx.queue }
        let lx := lx.rollIndent k.mark.column (some k.tokenNumber) .blockMappingStart k.mark
        pure { lx with keys := { k with possible := false } :: ks, keyAllowed := false }
      else noCandidate lx
    | [] => noCandidate lx
  return lx.pushCovering .value 1
where
  noCandidate (lx : Lexer) : Except SyntaxError Lexer :=
    if lx.flowLevel == 0 then
      if !lx.keyAllowed then .error (lx.fail none .mappingValueNotAllowed)
      else .ok { lx.rollIndent lx.cur.mark.column none .blockMappingStart lx.cur.mark with
        keyAllowed := true }
    else .ok { lx with keyAllowed := false }

def fetchAnchor (lx : Lexer) (isAlias : Bool) : Except SyntaxError Lexer := do
  let lx ← lx.saveKey
  let (t, cur) ← scanAnchor isAlias lx.cur
  return { lx.push t with cur, keyAllowed := false }

def fetchTag (lx : Lexer) : Except SyntaxError Lexer := do
  let lx ← lx.saveKey
  let (t, cur) ← scanTag (lx.flowLevel > 0) lx.cur
  return { lx.push t with cur, keyAllowed := false }

def fetchBlockScalar (lx : Lexer) (literal : Bool) : Except SyntaxError Lexer := do
  let lx ← lx.removeKey
  let (t, cur) ← scanBlock literal lx.indent lx.cur
  return { lx.push t with cur, keyAllowed := true }

def fetchQuoted (lx : Lexer) (single : Bool) : Except SyntaxError Lexer := do
  let lx ← lx.saveKey
  let (t, cur) ← scanQuoted single lx.cur
  return { lx.push t with cur, keyAllowed := false }

def fetchPlain (lx : Lexer) : Except SyntaxError Lexer := do
  let lx ← lx.saveKey
  let (t, cur, broken) ← scanPlain (lx.flowLevel > 0) lx.indent lx.cur
  return { lx.push t with cur, keyAllowed := broken }

def fetchNext (lx : Lexer) : Except SyntaxError Lexer := do
  if !lx.started then return lx.streamStart
  let (cur, allowed) := skipToToken (lx.flowLevel > 0) lx.cur lx.keyAllowed
  let lx ← ({ lx with cur, keyAllowed := allowed } : Lexer).staleKeys
  let lx := lx.unrollIndent lx.cur.mark.column
  let rest := lx.cur.rest
  let inFlow := lx.flowLevel > 0
  let lineStart := lx.cur.mark.column == 0
  match rest with
  | [] => lx.streamEnd
  | c :: _ =>
    if lineStart && c == '%' then lx.fetchDirective
    else if lineStart && startsDocumentMarker rest && c == '-' then
      lx.fetchDocumentMarker .documentStart
    else if lineStart && startsDocumentMarker rest && c == '.' then
      lx.fetchDocumentMarker .documentEnd
    else if c == '[' then lx.fetchCollectionStart .flowSequenceStart
    else if c == '\x7b' then lx.fetchCollectionStart .flowMappingStart
    else if c == ']' then lx.fetchCollectionEnd .flowSequenceEnd
    else if c == '\x7d' then lx.fetchCollectionEnd .flowMappingEnd
    else if c == ',' then lx.fetchFlowEntry
    else if c == '-' && blankzAt rest 1 then lx.fetchBlockEntry
    else if c == '?' && (inFlow || blankzAt rest 1) then lx.fetchKey
    else if c == ':' && (inFlow || blankzAt rest 1) then lx.fetchValue
    else if c == '*' then lx.fetchAnchor true
    else if c == '&' then lx.fetchAnchor false
    else if c == '!' then lx.fetchTag
    else if c == '|' && !inFlow then lx.fetchBlockScalar true
    else if c == '>' && !inFlow then lx.fetchBlockScalar false
    else if c == '\'' then lx.fetchQuoted true
    else if c == '"' then lx.fetchQuoted false
    else if startsPlain inFlow rest then lx.fetchPlain
    else throw (lx.fail (some (.nextToken, lx.cur.mark)) .cannotStartToken)

/-- Fetches tokens until the first one in the queue can no longer be claimed by a key
candidate. Every fetch reads at least one character, except the first and the last. -/
def fetchMore : Nat → Lexer → Except SyntaxError Lexer
  | 0, lx => .ok lx
  | fuel + 1, lx => do
    let (need, lx) ←
      if lx.queue.isEmpty then pure (true, lx)
      else do
        let lx ← lx.staleKeys
        pure (lx.keys.any (fun k => k.possible && k.tokenNumber == lx.taken), lx)
    if need then fetchMore fuel (← lx.fetchNext) else pure lx

def peek (lx : Lexer) : Except SyntaxError (Token × Lexer) := do
  let lx ← fetchMore (lx.cur.rest.length + 8) lx
  match lx.queue with
  | t :: _ => pure (t, lx)
  | [] => pure (⟨.streamEnd, lx.cur.mark, lx.cur.mark⟩, lx)

def take (lx : Lexer) : Lexer := { lx with queue := lx.queue.tail, taken := lx.taken + 1 }

end Lexer

end ScriptDeploy.Yaml
