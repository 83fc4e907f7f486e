import SchemaPress.Text.Join
import SchemaPress.Text.Quoted

/-!
# Complaints about a document

A document that is well formed can still hold something else than what is read from it. A complaint
names what was found and what was expected, or the field that is missing, repeated or unknown.
-/

set_option autoImplicit false

namespace SchemaPress.Document

/-- What a complaint found in a document. -/
inductive Found where
  /-- No value, in the words of the notation. -/
  | nothing (words : String)
  | flag (value : Bool)
  | whole (value : Int)
  /-- A whole number that needs more than 64 bits. -/
  | wide (value : Int)
  /-- A number with a fraction, as the notation writes it. -/
  | fraction (digits : String)
  | text (value : String)
  | list
  | record
  deriving DecidableEq, Repr, Inhabited

/-- The words for what was found. -/
def Found.describe : Found → String
  | nothing words => words
  | flag value => "boolean `" ++ toString value ++ "`"
  | whole value => "integer `" ++ toString value ++ "`"
  | wide value => "integer `" ++ toString value ++ "` as " ++ (if value < 0 then "i128" else "u128")
  | fraction digits => "floating point `" ++ digits ++ "`"
  | text value => "string " ++ Text.shown value
  | list => "sequence"
  | record => "map"

/-- Why a well-formed part of a document cannot be read. -/
inductive Complaint where
  | wrongType (found : Found) (expected : String)
  | wrongValue (found : Found) (expected : String)
  | missingField (name : String)
  | repeatedField (name : String)
  | wrongLength (length : Nat) (expected : String)
  | unknownWord (word : String) (known : List String)
  deriving DecidableEq, Repr, Inhabited

namespace Complaint

/-- The words that are known in a place. -/
def knownWords : List String → String
  | [] => "there are no variants"
  | [word] => "expected `" ++ word ++ "`"
  | [first, second] => "expected `" ++ first ++ "` or `" ++ second ++ "`"
  | words => "expected one of " ++ Text.joined ", " (words.map fun word => "`" ++ word ++ "`")

/-- The text of a complaint. -/
def message : Complaint → String
  | wrongType found expected => "invalid type: " ++ found.describe ++ ", expected " ++ expected
  | wrongValue found expected => "invalid value: " ++ found.describe ++ ", expected " ++ expected
  | missingField name => "missing field `" ++ name ++ "`"
  | repeatedField name => "duplicate field `" ++ name ++ "`"
  | wrongLength length expected =>
    "invalid length " ++ toString length ++ ", expected " ++ expected
  | unknownWord word known => "unknown variant `" ++ word ++ "`, " ++ knownWords known

end Complaint

end SchemaPress.Document
