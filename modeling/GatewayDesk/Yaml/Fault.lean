import GatewayDesk.Yaml.Glyph

/-!
# Texts that are not YAML

A fault is what is wrong, where, and in the middle of what. `Fault.message` reports it.
-/

namespace GatewayDesk

namespace Yaml

/-- What is wrong with a text. -/
inductive Problem where
  | noToken
  | entryNotAllowed
  | keyNotAllowed
  | valueNotAllowed
  | noColon
  | noDirectiveName
  | badDirectiveName
  | unknownDirective
  | noCommentOrBreak
  | noDigitOrDot
  | longVersion
  | noVersion
  | noSpace
  | noSpaceOrBreak
  | noName
  | noCloseOfTag
  | noBang
  | noAddress
  | noOctet
  | badLeadingOctet
  | badTrailingOctet
  | zeroIndent
  | tabInIndent
  | documentRule
  | endOfText
  | unknownEscape
  | noHexDigit
  | badCodePoint
  | unexpectedColon
  | tabBeforeText
  | noDocumentStart
  | undefinedHandle
  | noContent
  | noDash
  | noKey
  | noCommaInSequence
  | noCommaInMapping
  | secondVersion
  | otherVersion
  | secondHandle
  deriving DecidableEq, Repr

/-- The problem in words. -/
def Problem.message : Problem → String
  | .noToken => "found character that cannot start any token"
  | .entryNotAllowed => "block sequence entries are not allowed in this context"
  | .keyNotAllowed => "mapping keys are not allowed in this context"
  | .valueNotAllowed => "mapping values are not allowed in this context"
  | .noColon => "could not find expected ':'"
  | .noDirectiveName => "could not find expected directive name"
  | .badDirectiveName => "found unexpected non-alphabetical character"
  | .unknownDirective => "found unknown directive name"
  | .noCommentOrBreak => "did not find expected comment or line break"
  | .noDigitOrDot => "did not find expected digit or '.' character"
  | .longVersion => "found extremely long version number"
  | .noVersion => "did not find expected version number"
  | .noSpace => "did not find expected whitespace"
  | .noSpaceOrBreak => "did not find expected whitespace or line break"
  | .noName => "did not find expected alphabetic or numeric character"
  | .noCloseOfTag => "did not find the expected '>'"
  | .noBang => "did not find expected '!'"
  | .noAddress => "did not find expected tag URI"
  | .noOctet => "did not find URI escaped octet"
  | .badLeadingOctet => "found an incorrect leading UTF-8 octet"
  | .badTrailingOctet => "found an incorrect trailing UTF-8 octet"
  | .zeroIndent => "found an indentation indicator equal to 0"
  | .tabInIndent => "found a tab character where an indentation space is expected"
  | .documentRule => "found unexpected document indicator"
  | .endOfText => "found unexpected end of stream"
  | .unknownEscape => "found unknown escape character"
  | .noHexDigit => "did not find expected hexdecimal number"
  | .badCodePoint => "found invalid Unicode character escape code"
  | .unexpectedColon => "found unexpected ':'"
  | .tabBeforeText => "found a tab character that violates indentation"
  | .noDocumentStart => "did not find expected <document start>"
  | .undefinedHandle => "found undefined tag handle"
  | .noContent => "did not find expected node content"
  | .noDash => "did not find expected '-' indicator"
  | .noKey => "did not find expected key"
  | .noCommaInSequence => "did not find expected ',' or ']'"
  | .noCommaInMapping => "did not find expected ',' or '\x7d'"
  | .secondVersion => "found duplicate %YAML directive"
  | .otherVersion => "found incompatible YAML document"
  | .secondHandle => "found duplicate %TAG directive"

/-- What was being read. -/
inductive Activity where
  | nextToken
  | simpleKey
  | directive
  | versionDirective
  | tagDirective
  | tagDirectiveHandle
  | tagDirectiveAddress
  | anchor
  | alias
  | tag
  | tagAddress
  | blockScalar
  | quotedScalar
  | escape
  | plainScalar
  | node
  | blockNode
  | flowNode
  | blockSequence
  | blockMapping
  | flowSequence
  | flowMapping
  deriving DecidableEq, Repr

/-- The activity in words. -/
def Activity.message : Activity → String
  | .nextToken => "while scanning for the next token"
  | .simpleKey => "while scanning a simple key"
  | .directive => "while scanning a directive"
  | .versionDirective => "while scanning a %YAML directive"
  | .tagDirective => "while scanning a %TAG directive"
  | .tagDirectiveHandle => "while parsing a tag directive"
  | .tagDirectiveAddress => "while parsing a %TAG directive"
  | .anchor => "while scanning an anchor"
  | .alias => "while scanning an alias"
  | .tag => "while scanning a tag"
  | .tagAddress => "while parsing a tag"
  | .blockScalar => "while scanning a block scalar"
  | .quotedScalar => "while scanning a quoted scalar"
  | .escape => "while parsing a quoted scalar"
  | .plainScalar => "while scanning a plain scalar"
  | .node => "while parsing a node"
  | .blockNode => "while parsing a block node"
  | .flowNode => "while parsing a flow node"
  | .blockSequence => "while parsing a block collection"
  | .blockMapping => "while parsing a block mapping"
  | .flowSequence => "while parsing a flow sequence"
  | .flowMapping => "while parsing a flow mapping"

/-- Why a text is not YAML. -/
inductive Fault where
  /-- A character that may not stand in a text, after this many bytes. -/
  | stray (offset : Nat)
  /-- A problem, and what was being read and since where. -/
  | problem (what : Problem) (mark : Mark) (during : Option (Activity × Mark))
  /-- An alias of an anchor that is not there. -/
  | unknownAnchor (mark : Mark)
  deriving DecidableEq, Repr

/-- The sentence that reports a fault. -/
def Fault.message : Fault → String
  | .stray offset =>
    if offset == 0 then "control characters are not allowed"
    else s!"control characters are not allowed at position {offset}"
  | .problem what mark during =>
    let here := if mark.isStart then what.message else s!"{what.message} at {mark.describe}"
    match during with
    | none => here
    | some (activity, since) =>
      if since.isStart || (since.line == mark.line && since.column == mark.column) then
        s!"{here}, {activity.message}"
      else s!"{here}, {activity.message} at {since.describe}"
  | .unknownAnchor mark =>
    if mark.isStart then "unknown anchor" else s!"unknown anchor at {mark.describe}"

end Yaml

end GatewayDesk
