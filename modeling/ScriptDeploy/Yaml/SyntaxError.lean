import ScriptDeploy.Yaml.Cursor

/-!
# Syntax errors of the YAML reader

A syntax error names what went wrong (`Problem`) and where, and usually what was being read
(`Context`) and where that started. Its message is the problem, its position, and then the
context with its own position when that adds something:

`did not find expected ',' or ']' at line 2 column 1, while parsing a flow sequence at line 1 column 10`

A position at the very start of the input is not written. Errors of the character check have no
line position and give the byte offset instead (`at position N`).
-/

namespace ScriptDeploy.Yaml

inductive Problem where
  | controlCharacter
  | missingColon
  | cannotStartToken
  | sequenceEntryNotAllowed
  | mappingKeyNotAllowed
  | mappingValueNotAllowed
  | unknownDirectiveName
  | missingDirectiveName
  | nonAlphabeticalInDirectiveName
  | missingCommentOrBreak
  | missingDigitOrDot
  | longVersionNumber
  | missingVersionNumber
  | missingWhitespace
  | missingWhitespaceOrBreak
  | missingBang
  | missingTagUri
  | missingEscapedOctet
  | badLeadingOctet
  | badTrailingOctet
  | missingAlphanumeric
  | missingClosingAngle
  | zeroIndentation
  | tabInIndentation
  | documentMarkerInScalar
  | endOfStreamInScalar
  | unknownEscape
  | missingHexDigits
  | invalidEscapedCodePoint
  | unexpectedColon
  | tabViolatesIndentation
  | missingStreamStart
  | missingDocumentStart
  | duplicateVersionDirective
  | incompatibleVersion
  | duplicateTagDirective
  | undefinedTagHandle
  | missingNodeContent
  | missingDash
  | missingKey
  | missingCommaOrBracket
  | missingCommaOrBrace
deriving Repr, DecidableEq, Inhabited

inductive Context where
  | simpleKey
  | nextToken
  | directive
  | versionDirective
  | tagDirective
  | tagDirectiveHandle
  | tagDirectiveHandleEnd
  | tagDirectiveUri
  | tag
  | tagUri
  | anchor
  | alias
  | blockScalar
  | quotedScalar
  | quotedScalarEscape
  | plainScalar
  | node
  | blockNode
  | flowNode
  | blockCollection
  | blockMapping
  | flowSequence
  | flowMapping
deriving Repr, DecidableEq, Inhabited

def Problem.text : Problem → String
  | .controlCharacter => "control characters are not allowed"
  | .missingColon => "could not find expected ':'"
  | .cannotStartToken => "found character that cannot start any token"
  | .sequenceEntryNotAllowed => "block sequence entries are not allowed in this context"
  | .mappingKeyNotAllowed => "mapping keys are not allowed in this context"
  | .mappingValueNotAllowed => "mapping values are not allowed in this context"
  | .unknownDirectiveName => "found unknown directive name"
  | .missingDirectiveName => "could not find expected directive name"
  | .nonAlphabeticalInDirectiveName => "found unexpected non-alphabetical character"
  | .missingCommentOrBreak => "did not find expected comment or line break"
  | .missingDigitOrDot => "did not find expected digit or '.' character"
  | .longVersionNumber => "found extremely long version number"
  | .missingVersionNumber => "did not find expected version number"
  | .missingWhitespace => "did not find expected whitespace"
  | .missingWhitespaceOrBreak => "did not find expected whitespace or line break"
  | .missingBang => "did not find expected '!'"
  | .missingTagUri => "did not find expected tag URI"
  | .missingEscapedOctet => "did not find URI escaped octet"
  | .badLeadingOctet => "found an incorrect leading UTF-8 octet"
  | .badTrailingOctet => "found an incorrect trailing UTF-8 octet"
  | .missingAlphanumeric => "did not find expected alphabetic or numeric character"
  | .missingClosingAngle => "did not find the expected '>'"
  | .zeroIndentation => "found an indentation indicator equal to 0"
  | .tabInIndentation => "found a tab character where an indentation space is expected"
  | .documentMarkerInScalar => "found unexpected document indicator"
  | .endOfStreamInScalar => "found unexpected end of stream"
  | .unknownEscape => "found unknown escape character"
  | .missingHexDigits => "did not find expected hexadecimal number"
  | .invalidEscapedCodePoint => "found invalid Unicode character escape code"
  | .unexpectedColon => "found unexpected ':'"
  | .tabViolatesIndentation => "found a tab character that violates indentation"
  | .missingStreamStart => "did not find expected <stream-start>"
  | .missingDocumentStart => "did not find expected <document start>"
  | .duplicateVersionDirective => "found duplicate %YAML directive"
  | .incompatibleVersion => "found incompatible YAML document"
  | .duplicateTagDirective => "found duplicate %TAG directive"
  | .undefinedTagHandle => "found undefined tag handle"
  | .missingNodeContent => "did not find expected node content"
  | .missingDash => "did not find expected '-' indicator"
  | .missingKey => "did not find expected key"
  | .missingCommaOrBracket => "did not find expected ',' or ']'"
  | .missingCommaOrBrace => "did not find expected ',' or '\x7d'"

def Context.text : Context → String
  | .simpleKey => "while scanning a simple key"
  | .nextToken => "while scanning for the next token"
  | .directive => "while scanning a directive"
  | .versionDirective => "while scanning a %YAML directive"
  | .tagDirective => "while scanning a %TAG directive"
  | .tagDirectiveHandle => "while scanning a tag directive"
  | .tagDirectiveHandleEnd => "while parsing a tag directive"
  | .tagDirectiveUri => "while parsing a %TAG directive"
  | .tag => "while scanning a tag"
  | .tagUri => "while parsing a tag"
  | .anchor => "while scanning an anchor"
  | .alias => "while scanning an alias"
  | .blockScalar => "while scanning a block scalar"
  | .quotedScalar => "while scanning a quoted scalar"
  | .quotedScalarEscape => "while parsing a quoted scalar"
  | .plainScalar => "while scanning a plain scalar"
  | .node => "while parsing a node"
  | .blockNode => "while parsing a block node"
  | .flowNode => "while parsing a flow node"
  | .blockCollection => "while parsing a block collection"
  | .blockMapping => "while parsing a block mapping"
  | .flowSequence => "while parsing a flow sequence"
  | .flowMapping => "while parsing a flow mapping"

/-- A syntax error: the problem and its mark, the byte offset for errors of the character
check, and what was being read with the mark where that started. -/
structure SyntaxError where
  problem : Problem
  mark : Mark
  offset : Nat := 0
  context : Option (Context × Mark) := none
deriving Repr, DecidableEq, Inhabited

def SyntaxError.message (e : SyntaxError) : String :=
  let place :=
    if !e.mark.isOrigin then " at " ++ e.mark.describe
    else if e.offset != 0 then " at position " ++ toString e.offset
    else ""
  let context :=
    match e.context with
    | none => ""
    | some (c, m) =>
      let shown := if !m.isOrigin && (m.line != e.mark.line || m.column != e.mark.column)
        then " at " ++ m.describe else ""
      ", " ++ c.text ++ shown
  e.problem.text ++ place ++ context

end ScriptDeploy.Yaml
