import ProviderForge.Document.Fault

/-!
Faults of YAML texts. A fault names a problem and its place, and often what was being read
with the place where that began.
-/

namespace ProviderForge.Yaml

/-- A position in a text. Lines and columns are counted from zero, in characters. -/
structure Mark where
  index : Nat := 0
  line : Nat := 0
  column : Nat := 0
deriving DecidableEq, Repr, Inhabited

namespace Mark

/-- The first place of a text is not shown. -/
def place? (mark : Mark) : Option Place :=
  if mark.line = 0 ∧ mark.column = 0 then none else some ⟨mark.line + 1, mark.column + 1⟩

def suffix (mark : Mark) : String :=
  match mark.place? with
  | none => ""
  | some place => s!" at line {place.line} column {place.column}"

end Mark

inductive Activity
  | simpleKey
  | directive
  | versionDirective
  | tagDirective
  | handleOfDirective
  | endOfHandle
  | leaderOfDirective
  | anchor
  | reference
  | tag
  | partOfTag
  | blockScalar
  | quotedScalar
  | escape
  | plainScalar
  | nextToken
  | node
  | blockNode
  | flowNode
  | blockSequence
  | blockMapping
  | flowSequence
  | flowMapping
deriving DecidableEq, Repr

def Activity.phrase : Activity → String
  | .simpleKey => "while scanning a simple key"
  | .directive => "while scanning a directive"
  | .versionDirective => "while scanning a %YAML directive"
  | .tagDirective => "while scanning a %TAG directive"
  | .handleOfDirective => "while scanning a tag directive"
  | .endOfHandle => "while parsing a tag directive"
  | .leaderOfDirective => "while parsing a %TAG directive"
  | .anchor => "while scanning an anchor"
  | .reference => "while scanning an alias"
  | .tag => "while scanning a tag"
  | .partOfTag => "while parsing a tag"
  | .blockScalar => "while scanning a block scalar"
  | .quotedScalar => "while scanning a quoted scalar"
  | .escape => "while parsing a quoted scalar"
  | .plainScalar => "while scanning a plain scalar"
  | .nextToken => "while scanning for the next token"
  | .node => "while parsing a node"
  | .blockNode => "while parsing a block node"
  | .flowNode => "while parsing a flow node"
  | .blockSequence => "while parsing a block collection"
  | .blockMapping => "while parsing a block mapping"
  | .flowSequence => "while parsing a flow sequence"
  | .flowMapping => "while parsing a flow mapping"

inductive Problem
  /-- It has the number of bytes in front of it instead of a place. -/
  | controlCharacter (offset : Nat)
  | noColon
  | unknownDirective
  | noDirectiveName
  | nonAlphabetic
  | noCommentOrBreak
  | noDigitOrPoint
  | longVersion
  | noVersion
  | noWhitespace
  | noWhitespaceOrBreak
  | noAlphanumeric
  | noExclamation
  | noTagEnd
  | noTagText
  | noEscapedOctet
  | badLeadingOctet
  | badTrailingOctet
  | zeroIndentation
  | tabForIndentation
  | documentIndicator
  | endOfStream
  | unknownEscape
  | noHexadecimal
  | badCharacterCode
  | unexpectedColon
  | tabInIndentation
  | entryNotAllowed
  | keyNotAllowed
  | valueNotAllowed
  | badTokenStart
  | noDocumentStart
  | noNodeContent
  | undefinedHandle
  | noDash
  | noKey
  | noCommaOrBracket
  | noCommaOrBrace
  | repeatedVersion
  | incompatibleVersion
  | repeatedHandle
deriving DecidableEq, Repr

def Problem.message : Problem → String
  | .controlCharacter 0 => "control characters are not allowed"
  | .controlCharacter offset => s!"control characters are not allowed at position {offset}"
  | .noColon => "could not find expected ':'"
  | .unknownDirective => "found unknown directive name"
  | .noDirectiveName => "could not find expected directive name"
  | .nonAlphabetic => "found unexpected non-alphabetical character"
  | .noCommentOrBreak => "did not find expected comment or line break"
  | .noDigitOrPoint => "did not find expected digit or '.' character"
  | .longVersion => "found extremely long version number"
  | .noVersion => "did not find expected version number"
  | .noWhitespace => "did not find expected whitespace"
  | .noWhitespaceOrBreak => "did not find expected whitespace or line break"
  | .noAlphanumeric => "did not find expected alphabetic or numeric character"
  | .noExclamation => "did not find expected '!'"
  | .noTagEnd => "did not find the expected '>'"
  | .noTagText => "did not find expected tag URI"
  | .noEscapedOctet => "did not find URI escaped octet"
  | .badLeadingOctet => "found an incorrect leading UTF-8 octet"
  | .badTrailingOctet => "found an incorrect trailing UTF-8 octet"
  | .zeroIndentation => "found an indentation indicator equal to 0"
  | .tabForIndentation => "found a tab character where an indentation space is expected"
  | .documentIndicator => "found unexpected document indicator"
  | .endOfStream => "found unexpected end of stream"
  | .unknownEscape => "found unknown escape character"
  | .noHexadecimal => "did not find expected hexdecimal number"
  | .badCharacterCode => "found invalid Unicode character escape code"
  | .unexpectedColon => "found unexpected ':'"
  | .tabInIndentation => "found a tab character that violates indentation"
  | .entryNotAllowed => "block sequence entries are not allowed in this context"
  | .keyNotAllowed => "mapping keys are not allowed in this context"
  | .valueNotAllowed => "mapping values are not allowed in this context"
  | .badTokenStart => "found character that cannot start any token"
  | .noDocumentStart => "did not find expected <document start>"
  | .noNodeContent => "did not find expected node content"
  | .undefinedHandle => "found undefined tag handle"
  | .noDash => "did not find expected '-' indicator"
  | .noKey => "did not find expected key"
  | .noCommaOrBracket => "did not find expected ',' or ']'"
  | .noCommaOrBrace => "did not find expected ',' or '\x7d'"
  | .repeatedVersion => "found duplicate %YAML directive"
  | .incompatibleVersion => "found incompatible YAML document"
  | .repeatedHandle => "found duplicate %TAG directive"

structure SyntaxFault where
  problem : Problem
  mark : Mark
  context : Option (Activity × Mark) := none
deriving DecidableEq, Repr

namespace SyntaxFault

/-- The place of the context is shown if it is not that of the problem. -/
def message (fault : SyntaxFault) : String :=
  fault.problem.message ++ fault.mark.suffix ++
    match fault.context with
    | none => ""
    | some (activity, start) =>
        ", " ++ activity.phrase ++
          if start.line = fault.mark.line ∧ start.column = fault.mark.column then ""
          else start.suffix

def toFault (fault : SyntaxFault) : Fault :=
  ⟨.malformed fault.message, some ⟨"", none⟩⟩

end SyntaxFault

end ProviderForge.Yaml
