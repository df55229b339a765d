import ScriptDeploy.Json
import ScriptDeploy.Decimal.Scaled

/-!
# Reading JSON text

`Json.read?` reads a text that holds one JSON value, with blanks (space, tab, line feed and
carriage return) around it and between its parts.

* A string stands between double quotes. Any character but the quote, the backslash and the
  controls below U+0020 stands for itself. The escapes are `\"`, `\\`, `\/`, `\b`, `\f`, `\n`,
  `\r`, `\t` and `\u` with four hexadecimal digits; a surrogate must be the first half of a
  pair written as two such escapes.
* An object's names are strings. A name given twice keeps its last value, at the place where it
  first stood. At most 127 arrays and objects may be open at once.
* A number is an optional minus, then `0` or digits that do not start with `0`, then an optional
  fraction of at least one digit after a point, then an optional exponent of at least one digit
  after `e` or `E` and an optional sign.

A number with neither fraction nor exponent is whole. It keeps that kind when it fits: below
`2^64`, or when negative not below `-2^63`. Minus zero and the other negative numbers become
doubles.

Any other number becomes a double from its digits. The digits are taken in order into a whole
number while it stays below `2^64`. At the first digit that would carry it past, the rest of
that part (whole or fraction) is dropped, not rounded. A dropped whole digit raises the power of
ten by one, and a taken fraction digit lowers it by one. Then the exponent adds to the power.
The whole number and the power go to `Binary64.ofScaled`, so the double can miss the nearest
one by a unit in the last place. A double past the largest finite one is refused. An exponent
above `2^31 - 1` makes zero, or is refused when it is positive and the digits are not all zero;
otherwise the power stops at the 32-bit bounds.

A text that is not one JSON value is refused with what is wrong and where: the line and the
column, counted in bytes from the start of the line. A fault found in a character just read is
reported at that character (its last byte). One found by looking at the next character without
reading it is reported one byte further: at the first byte of that character, or at the end of
the text. So a text that stops inside a string reports its last byte, and a misplaced character
reports its own first byte.
-/

namespace ScriptDeploy.Json

open ScriptDeploy.Decimal

/-- What is wrong with a text that is not one JSON value. -/
inductive ReadProblem where
  | endInValue
  | endInList
  | endInObject
  | endInString
  | expectedColon
  | expectedListCommaOrEnd
  | expectedObjectCommaOrEnd
  | expectedIdent
  | expectedValue
  | invalidEscape
  | invalidNumber
  | outOfRange
  | controlInString
  | keyMustBeString
  | loneLeadingSurrogate
  | trailingComma
  | trailingCharacters
  | unexpectedEndOfHexEscape
  | tooDeep
deriving Repr, DecidableEq

def ReadProblem.message : ReadProblem → String
  | .endInValue => "EOF while parsing a value"
  | .endInList => "EOF while parsing a list"
  | .endInObject => "EOF while parsing an object"
  | .endInString => "EOF while parsing a string"
  | .expectedColon => "expected `:`"
  | .expectedListCommaOrEnd => "expected `,` or `]`"
  | .expectedObjectCommaOrEnd => "expected `,` or `\x7d`"
  | .expectedIdent => "expected ident"
  | .expectedValue => "expected value"
  | .invalidEscape => "invalid escape"
  | .invalidNumber => "invalid number"
  | .outOfRange => "number out of range"
  | .controlInString => "control character (\\u0000-\\u001F) found while parsing a string"
  | .keyMustBeString => "key must be a string"
  | .loneLeadingSurrogate => "lone leading surrogate in hex escape"
  | .trailingComma => "trailing comma"
  | .trailingCharacters => "trailing characters"
  | .unexpectedEndOfHexEscape => "unexpected end of hex escape"
  | .tooDeep => "recursion limit exceeded"

/-- A problem and how many bytes of the text follow the place where it is reported. -/
structure Stop where
  problem : ReadProblem
  left : Nat
deriving Repr, DecidableEq

/-- A text that is not one JSON value: what is wrong, and the line and column where. -/
structure ReadError where
  problem : ReadProblem
  line : Nat
  column : Nat
deriving Repr, DecidableEq

def ReadError.message (e : ReadError) : String :=
  e.problem.message ++ " at line " ++ toString e.line ++ " column " ++ toString e.column

abbrev Reading (α : Type) := Except Stop (α × List Char)

def utf8Length (cs : List Char) : Nat := cs.foldl (fun n c => n + c.utf8Size) 0

def stopAfter (p : ReadProblem) (rest : List Char) : Stop := ⟨p, utf8Length rest⟩

def stopAt (p : ReadProblem) (rest : List Char) : Stop := ⟨p, utf8Length rest - 1⟩

def isBlank (c : Char) : Bool := c == ' ' || c == '\t' || c == '\n' || c == '\r'

def skipBlanks (cs : List Char) : List Char := cs.dropWhile isBlank

def wordMax : Nat := Nat.pow 2 64 - 1

def powerMax : Nat := Nat.pow 2 31 - 1

/-- Takes digits into a whole number while it stays within 64 bits; the first digit that would
carry it past stops the taking. The number and how many digits were taken. -/
def takeDigits (s : Nat) : List Nat → Nat × Nat
  | [] => (s, 0)
  | d :: rest =>
    if s * 10 + d > wordMax then (s, 0)
    else
      let (t, k) := takeDigits (s * 10 + d) rest
      (t, k + 1)

/-- How many digits are read before the value they write passes `limit`, if it does. -/
def digitsWithin (limit v : Nat) : List Nat → Option Nat
  | [] => none
  | d :: rest =>
    if v * 10 + d > limit then some 0
    else (digitsWithin limit (v * 10 + d) rest).map (· + 1)

def digitRun (cs : List Char) : List Nat × List Char :=
  ((cs.takeWhile Char.isDigit).map (·.toNat - '0'.toNat), cs.dropWhile Char.isDigit)

def digitsValue (ds : List Nat) : Nat := ds.foldl (fun n d => 10 * n + d) 0

def scaled (negative : Bool) (s : Nat) (e : Int) (rest : List Char) : Reading Json :=
  match Binary64.ofScaled s e with
  | some x => .ok (.float (if negative then x.neg else x), rest)
  | none => .error (stopAfter .outOfRange rest)

def wholeNumber (negative : Bool) (s : Nat) : Json :=
  if !negative then .natural s
  else if s == 0 then .float (Binary64.zero true)
  else if s ≤ Nat.pow 2 63 then .negative (-(s : Int))
  else .float (Binary64.ofNat s).neg

def clampPower (e : Int) : Int := max (-Int.pow 2 31) (min e powerMax)

def wholeDigits : List Char → Reading (List Nat)
  | [] => .error (stopAfter .endInValue [])
  | '0' :: r =>
    match r with
    | c :: _ => if c.isDigit then .error (stopAt .invalidNumber r) else .ok ([0], r)
    | [] => .ok ([0], [])
  | c :: r => if c.isDigit then .ok (digitRun (c :: r)) else .error (stopAfter .invalidNumber r)

def fractionPart : List Char → Except Stop (Option (List Nat) × List Char)
  | '.' :: r =>
    match r with
    | c :: _ =>
      if c.isDigit then
        let (ds, r) := digitRun r
        .ok (some ds, r)
      else .error (stopAt .invalidNumber r)
    | [] => .error (stopAt .endInValue [])
  | cs => .ok (none, cs)

def exponentPart : List Char → Except Stop (Option (Bool × List Nat) × List Char)
  | c :: r =>
    if c == 'e' || c == 'E' then
      let (below, r) := match r with
        | '+' :: r => (false, r)
        | '-' :: r => (true, r)
        | r => (false, r)
      match r with
      | [] => .error (stopAfter .endInValue [])
      | d :: r' =>
        if d.isDigit then
          let (ds, r) := digitRun r
          .ok (some (below, ds), r)
        else .error (stopAfter .invalidNumber r')
    else .ok (none, c :: r)
  | [] => .ok (none, [])

def readNumber (negative : Bool) (cs : List Char) : Except Stop (Json × List Char) := do
  let (whole, r) ← wholeDigits cs
  let (fraction, r) ← fractionPart r
  let (exponent, r) ← exponentPart r
  let (s, taken) := takeDigits 0 whole
  let dropped := whole.length - taken
  match fraction, exponent with
  | none, none =>
    if dropped == 0 then return (wholeNumber negative s, r)
    else scaled negative s dropped r
  | _, _ =>
    let (s, takenFraction) := takeDigits s (fraction.getD [])
    let start : Int := (dropped : Int) - takenFraction
    match exponent with
    | none => scaled negative s start r
    | some (below, ds) =>
      match digitsWithin powerMax 0 ds with
      | some k =>
        -- the exponent passes the bound at its digit `k`; the rest is not read for an error
        if s != 0 && !below then throw ⟨.outOfRange, ds.length - (k + 1) + utf8Length r⟩
        else return (.float (Binary64.zero negative), r)
      | none =>
        let e := digitsValue ds
        scaled negative s (clampPower (if below then start - e else start + e)) r

def hexDigit? (c : Char) : Option Nat :=
  if c.isDigit then some (c.toNat - '0'.toNat)
  else if 'a' ≤ c && c ≤ 'f' then some (c.toNat - 'a'.toNat + 10)
  else if 'A' ≤ c && c ≤ 'F' then some (c.toNat - 'A'.toNat + 10)
  else none

def hex4? (a b c d : Char) : Option Nat := do
  return (((← hexDigit? a) * 16 + (← hexDigit? b)) * 16 + (← hexDigit? c)) * 16 + (← hexDigit? d)

/-- Four bytes after `\u` that are not four hexadecimal digits: reported after the four bytes,
or at the end of a text that has fewer. -/
def badHex (rest : List Char) : Stop :=
  if utf8Length rest < 4 then ⟨.endInString, 0⟩ else ⟨.invalidEscape, utf8Length rest - 4⟩

def escaped? : Char → Option Char
  | '"' => some '"'
  | '\\' => some '\\'
  | '/' => some '/'
  | 'b' => some '\x08'
  | 'f' => some '\x0c'
  | 'n' => some '\n'
  | 'r' => some '\r'
  | 't' => some '\t'
  | _ => none

def isTrailing (n : Nat) : Bool := 0xDC00 ≤ n && n < 0xE000

def isLeading (n : Nat) : Bool := 0xD800 ≤ n && n < 0xDC00

def readString (acc : List Char) : List Char → Reading String
  | [] => .error ⟨.endInString, 0⟩
  | '"' :: r => .ok (String.ofList acc.reverse, r)
  | '\\' :: 'u' :: a :: b :: c :: d :: r =>
    match hex4? a b c d with
    | none => .error (badHex (a :: b :: c :: d :: r))
    | some n =>
      if isTrailing n then .error (stopAfter .loneLeadingSurrogate r)
      else if isLeading n then
        match r with
        | '\\' :: 'u' :: e :: f :: g :: h :: r' =>
          match hex4? e f g h with
          | none => .error (badHex (e :: f :: g :: h :: r'))
          | some m =>
            if isTrailing m then
              readString (Char.ofNat (0x10000 + (n - 0xD800) * 0x400 + (m - 0xDC00)) :: acc) r'
            else .error (stopAfter .loneLeadingSurrogate r')
        | '\\' :: 'u' :: s => .error (badHex s)
        | '\\' :: _ :: r' => .error (stopAfter .unexpectedEndOfHexEscape r')
        | _ :: r' => .error (stopAfter .unexpectedEndOfHexEscape r')
        | [] => .error ⟨.endInString, 0⟩
      else readString (Char.ofNat n :: acc) r
  | '\\' :: 'u' :: s => .error (badHex s)
  | '\\' :: c :: r =>
    match escaped? c with
    | some e => readString (e :: acc) r
    | none => .error (stopAfter .invalidEscape r)
  | ['\\'] => .error ⟨.endInString, 0⟩
  | c :: r =>
    if c.toNat < 0x20 then .error (stopAfter .controlInString r) else readString (c :: acc) r

def readWord (value : Json) : List Char → List Char → Reading Json
  | [], cs => .ok (value, cs)
  | _ :: _, [] => .error ⟨.endInValue, 0⟩
  | w :: ws, c :: cs => if c == w then readWord value ws cs else .error (stopAfter .expectedIdent cs)

def maxOpen : Nat := 127

mutual

/-- A value, blanks before it skipped; `depth` arrays and objects are open around it. `fuel`
bounds the steps and is never short when it exceeds the length of the text. -/
def readValue (fuel depth : Nat) (cs : List Char) : Reading Json :=
  match fuel with
  | 0 => .error ⟨.tooDeep, 0⟩
  | fuel + 1 =>
    match skipBlanks cs with
    | [] => .error (stopAt .endInValue [])
    | 'n' :: r => readWord .null ['u', 'l', 'l'] r
    | 't' :: r => readWord (.bool true) ['r', 'u', 'e'] r
    | 'f' :: r => readWord (.bool false) ['a', 'l', 's', 'e'] r
    | '"' :: r => (readString [] r).map fun (s, r) => (.string s, r)
    | '-' :: r => readNumber true r
    | '[' :: r =>
      if depth + 1 > maxOpen then .error (stopAt .tooDeep ('[' :: r))
      else
        match skipBlanks r with
        | [] => .error (stopAt .endInList [])
        | ']' :: r => .ok (.array [], r)
        | r => readItems fuel (depth + 1) r []
    | '{' :: r =>
      if depth + 1 > maxOpen then .error (stopAt .tooDeep ('{' :: r))
      else
        match skipBlanks r with
        | [] => .error (stopAt .endInObject [])
        | '}' :: r => .ok (.object [], r)
        | r => readFields fuel (depth + 1) r []
    | c :: r =>
      if c.isDigit then readNumber false (c :: r) else .error (stopAt .expectedValue (c :: r))

def readItems (fuel depth : Nat) (cs : List Char) (acc : List Json) : Reading Json :=
  match fuel with
  | 0 => .error ⟨.tooDeep, 0⟩
  | fuel + 1 =>
    match readValue fuel depth cs with
    | .error e => .error e
    | .ok (v, r) =>
      match skipBlanks r with
      | ',' :: r =>
        match skipBlanks r with
        | [] => .error (stopAt .endInValue [])
        | ']' :: r => .error (stopAt .trailingComma (']' :: r))
        | r => readItems fuel depth r (v :: acc)
      | ']' :: r => .ok (.array (v :: acc).reverse, r)
      | [] => .error (stopAt .endInList [])
      | r => .error (stopAt .expectedListCommaOrEnd r)

def readFields (fuel depth : Nat) (cs : List Char) (acc : List (String × Json)) :
    Reading Json :=
  match fuel with
  | 0 => .error ⟨.tooDeep, 0⟩
  | fuel + 1 =>
    match skipBlanks cs with
    | '"' :: r =>
      match readString [] r with
      | .error e => .error e
      | .ok (name, r) =>
        match skipBlanks r with
        | ':' :: r =>
          match readValue fuel depth r with
          | .error e => .error e
          | .ok (v, r) =>
            let acc := setField acc name v
            match skipBlanks r with
            | ',' :: r =>
              match skipBlanks r with
              | [] => .error (stopAt .endInValue [])
              | '}' :: r => .error (stopAt .trailingComma ('}' :: r))
              | r => readFields fuel depth r acc
            | '}' :: r => .ok (.object acc, r)
            | [] => .error (stopAt .endInObject [])
            | r => .error (stopAt .expectedObjectCommaOrEnd r)
        | [] => .error (stopAt .endInObject [])
        | r => .error (stopAt .expectedColon r)
    | [] => .error (stopAt .endInObject [])
    | r => .error (stopAt .keyMustBeString r)

end

/-- The line and the column of a place in a text, given by the number of bytes before it. The
column counts the bytes since the last line feed before the place. -/
def position (bytes : List UInt8) (index : Nat) : Nat × Nat :=
  let before := bytes.take index
  (1 + before.count 10, (before.reverse.takeWhile (· != 10)).length)

/-- The one JSON value a text holds, blanks around it allowed. -/
def read? (text : String) : Except ReadError Json :=
  let cs := text.toList
  let stop : Stop → ReadError := fun s =>
    let bytes := text.toUTF8.toList
    let (line, column) := position bytes (bytes.length - s.left)
    ⟨s.problem, line, column⟩
  match readValue (cs.length + 1) 0 cs with
  | .error s => .error (stop s)
  | .ok (v, r) =>
    match skipBlanks r with
    | [] => .ok v
    | r => .error (stop (stopAt .trailingCharacters r))

end ScriptDeploy.Json
