import SchemaPress.Document.Complaint
import SchemaPress.Yaml.Mark

/-!
# What can be wrong with YAML

A text may be no YAML. Then a problem is named with its mark, and mostly also what was being read
and where that began. Or a text is YAML but not what is read from it; then the complaint goes with
the path to the part in question. A place at the very start of a text is not shown.
-/

set_option autoImplicit false

namespace SchemaPress.Yaml

/-- What is wrong with a text that should be YAML. -/
inductive Problem where
  | controlCharacter
  | startlessToken
  | sequenceNotAllowed
  | keyNotAllowed
  | valueNotAllowed
  | colonMissing
  | unknownDirective
  | commentOrBreakExpected
  | directiveNameMissing
  | strangeDirectiveName
  | versionDotMissing
  | versionTooLong
  | versionMissing
  | whitespaceExpected
  | whitespaceOrBreakExpected
  | nameExpected
  | closingBracketExpected
  | exclamationExpected
  | uriExpected
  | octetExpected
  | badLeadingOctet
  | badTrailingOctet
  | zeroIndentation
  | tabInBlock
  | tabInPlain
  | colonInFlow
  | documentMarkInQuotes
  | endInQuotes
  | unknownEscape
  | hexadecimalExpected
  | badCodePoint
  | documentStartExpected
  | repeatedVersion
  | unsupportedVersion
  | repeatedHandle
  | unknownHandle
  | contentExpected
  | dashExpected
  | keyExpected
  | commaOrBracketExpected
  | commaOrBraceExpected
  deriving DecidableEq, Repr, Inhabited

/-- The text of a problem. -/
def Problem.message : Problem → String
  | controlCharacter => "control characters are not allowed"
  | startlessToken => "found character that cannot start any token"
  | sequenceNotAllowed => "block sequence entries are not allowed in this context"
  | keyNotAllowed => "mapping keys are not allowed in this context"
  | valueNotAllowed => "mapping values are not allowed in this context"
  | colonMissing => "could not find expected ':'"
  | unknownDirective => "found unknown directive name"
  | commentOrBreakExpected => "did not find expected comment or line break"
  | directiveNameMissing => "could not find expected directive name"
  | strangeDirectiveName => "found unexpected non-alphabetical character"
  | versionDotMissing => "did not find expected digit or '.' character"
  | versionTooLong => "found extremely long version number"
  | versionMissing => "did not find expected version number"
  | whitespaceExpected => "did not find expected whitespace"
  | whitespaceOrBreakExpected => "did not find expected whitespace or line break"
  | nameExpected => "did not find expected alphabetic or numeric character"
  | closingBracketExpected => "did not find the expected '>'"
  | exclamationExpected => "did not find expected '!'"
  | uriExpected => "did not find expected tag URI"
  | octetExpected => "did not find URI escaped octet"
  | badLeadingOctet => "found an incorrect leading UTF-8 octet"
  | badTrailingOctet => "found an incorrect trailing UTF-8 octet"
  | zeroIndentation => "found an indentation indicator equal to 0"
  | tabInBlock => "found a tab character where an indentation space is expected"
  | tabInPlain => "found a tab character that violates indentation"
  | colonInFlow => "found unexpected ':'"
  | documentMarkInQuotes => "found unexpected document indicator"
  | endInQuotes => "found unexpected end of stream"
  | unknownEscape => "found unknown escape character"
  | hexadecimalExpected => "did not find expected hexadecimal number"
  | badCodePoint => "found invalid Unicode character escape code"
  | documentStartExpected => "did not find expected <document start>"
  | repeatedVersion => "found duplicate %YAML directive"
  | unsupportedVersion => "found incompatible YAML document"
  | repeatedHandle => "found duplicate %TAG directive"
  | unknownHandle => "found undefined tag handle"
  | contentExpected => "did not find expected node content"
  | dashExpected => "did not find expected '-' indicator"
  | keyExpected => "did not find expected key"
  | commaOrBracketExpected => "did not find expected ',' or ']'"
  | commaOrBraceExpected => "did not find expected ',' or '\x7d'"

/-- What was being read when a problem was seen. -/
inductive Activity where
  | nextToken
  | simpleKey
  | directive
  | versionDirective
  | handleDirective
  | handleOfDirective
  | handleOfDirectiveEnd
  | uriOfDirective
  | anchorName
  | aliasName
  | tag
  | uriOfTag
  | blockScalar
  | quotedScalar
  | escapeSequence
  | plainScalar
  | node
  | blockNode
  | flowNode
  | blockCollection
  | blockMapping
  | flowSequence
  | flowMapping
  deriving DecidableEq, Repr, Inhabited

/-- The words for an activity. -/
def Activity.words : Activity → String
  | nextToken => "while scanning for the next token"
  | simpleKey => "while scanning a simple key"
  | directive => "while scanning a directive"
  | versionDirective => "while scanning a %YAML directive"
  | handleDirective => "while scanning a %TAG directive"
  | handleOfDirective => "while scanning a tag directive"
  | handleOfDirectiveEnd => "while parsing a tag directive"
  | uriOfDirective => "while parsing a %TAG directive"
  | anchorName => "while scanning an anchor"
  | aliasName => "while scanning an alias"
  | tag => "while scanning a tag"
  | uriOfTag => "while parsing a tag"
  | blockScalar => "while scanning a block scalar"
  | quotedScalar => "while scanning a quoted scalar"
  | escapeSequence => "while parsing a quoted scalar"
  | plainScalar => "while scanning a plain scalar"
  | node => "while parsing a node"
  | blockNode => "while parsing a block node"
  | flowNode => "while parsing a flow node"
  | blockCollection => "while parsing a block collection"
  | blockMapping => "while parsing a block mapping"
  | flowSequence => "while parsing a flow sequence"
  | flowMapping => "while parsing a flow mapping"

/-- A problem in a text with its mark, and what was being read from which mark on. -/
structure SyntaxFault where
  problem : Problem
  mark : Mark
  activity : Option (Activity × Mark) := none
  /-- The number of bytes in front of the problem, for one that has no mark. -/
  offset : Nat := 0
  deriving DecidableEq, Repr, Inhabited

namespace SyntaxFault

/-- A problem and what was being read. -/
def during (activity : Activity) (since : Mark) (problem : Problem) (mark : Mark) :
    SyntaxFault where
  problem := problem
  mark := mark
  activity := some (activity, since)

def placeWords (fault : SyntaxFault) : String :=
  if !fault.mark.isFirst then " at " ++ fault.mark.describe
  else if fault.offset ≠ 0 then " at position " ++ toString fault.offset
  else ""

/-- The words for what was being read; its place is left out if it is that of the problem. -/
def activityWords (fault : SyntaxFault) : String :=
  match fault.activity with
  | none => ""
  | some (activity, since) =>
    ", " ++ activity.words ++
      if since.isFirst || since.samePlace fault.mark then "" else " at " ++ since.describe

/-- The text of a problem with its place and what was being read. -/
def message (fault : SyntaxFault) : String :=
  fault.problem.message ++ fault.placeWords ++ fault.activityWords

end SyntaxFault

/-- A step from a part of a document to one inside it. -/
inductive Step where
  | item (index : Nat)
  | member (key : String)
  /-- To the value of a key that is no text of its own. -/
  | nameless
  deriving DecidableEq, Repr, Inhabited

/-- The way from a part of a document out to the whole. -/
abbrev Path := List Step

/-- The words for a path. -/
def Path.describe : Path → String
  | [] => ""
  | .item index :: path => describe path ++ "[" ++ toString index ++ "]"
  | [.member key] => key
  | .member key :: path => describe path ++ "." ++ key
  | [.nameless] => "?"
  | .nameless :: path => describe path ++ ".?"

/-- Why a text cannot be read. -/
inductive Fault where
  | notYaml (fault : SyntaxFault)
  | unknownAnchor (mark : Mark)
  | severalDocuments
  /-- There is nothing where a value is due. -/
  | nothingThere
  /-- More aliases are followed than the size of the document allows. -/
  | tooManyAliases
  | refused (complaint : Document.Complaint) (path : Path) (mark : Mark)
  deriving DecidableEq, Repr, Inhabited

/-- The words for a mark at the end of a message; the very first mark has none. -/
def Mark.closing (mark : Mark) : String :=
  if mark.isFirst then "" else " at " ++ mark.describe

/-- The text of a fault. -/
def Fault.message : Fault → String
  | notYaml fault => fault.message
  | unknownAnchor mark => "unknown anchor" ++ mark.closing
  | severalDocuments =>
    "deserializing from YAML containing more than one document is not supported"
  | nothingThere => "EOF while parsing a value"
  | tooManyAliases => "repetition limit exceeded"
  | refused complaint path mark =>
    (if path.isEmpty then "" else Path.describe path ++ ": ") ++ complaint.message ++ mark.closing

end SchemaPress.Yaml
