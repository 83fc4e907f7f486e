import SchemaPress.Document.Complaint
import SchemaPress.Text.Place

/-!
# What can be wrong with JSON

A fault is a problem in a place: the text is no JSON, or it is JSON but not what is read from it.
-/

set_option autoImplicit false

namespace SchemaPress.Json

/-- What is wrong with a text that should hold JSON. -/
inductive Problem where
  | endInValue
  | endInList
  | endInRecord
  | endInText
  | colonExpected
  | listCommaExpected
  | recordCommaExpected
  | valueExpected
  | keyExpected
  | literalMisspelt
  | trailingComma
  | trailingCharacters
  | badNumber
  | numberTooLarge
  | unknownEscape
  | badCodeUnit
  | loneSurrogate
  | surrogateCutShort
  | controlCharacter
  | refused (complaint : Document.Complaint)
  deriving DecidableEq, Repr, Inhabited

/-- The text of a problem. -/
def Problem.message : Problem → String
  | endInValue => "EOF while parsing a value"
  | endInList => "EOF while parsing a list"
  | endInRecord => "EOF while parsing an object"
  | endInText => "EOF while parsing a string"
  | colonExpected => "expected `:`"
  | listCommaExpected => "expected `,` or `]`"
  | recordCommaExpected => "expected `,` or `\x7d`"
  | valueExpected => "expected value"
  | keyExpected => "key must be a string"
  | literalMisspelt => "expected ident"
  | trailingComma => "trailing comma"
  | trailingCharacters => "trailing characters"
  | badNumber => "invalid number"
  | numberTooLarge => "number out of range"
  | unknownEscape => "invalid escape"
  | badCodeUnit => "invalid escape"
  | loneSurrogate => "lone leading surrogate in hex escape"
  | surrogateCutShort => "unexpected end of hex escape"
  | controlCharacter => "control character (\\u0000-\\u001F) found while parsing a string"
  | refused complaint => complaint.message

/-- A problem and where it was seen. -/
structure Fault where
  problem : Problem
  place : Text.Place
  deriving DecidableEq, Repr, Inhabited

def Fault.message (fault : Fault) : String :=
  fault.problem.message ++ " at " ++ fault.place.describe

/-- A form that no number or text has: how it is reported where a value is read, and where one is
skipped. -/
structure Malformed where
  strict : Fault
  loose : Fault
  deriving DecidableEq, Repr, Inhabited

/-- A form that is reported in one way. -/
def Malformed.of (problem : Problem) (place : Text.Place) : Malformed :=
  ⟨⟨problem, place⟩, ⟨problem, place⟩⟩

end SchemaPress.Json
