import SchemaPress.Decimal.FloatText
import SchemaPress.Decimal.Reading
import SchemaPress.Yaml.Node

/-!
# What scalars stand for

A scalar is a text, but a plain one can also be read as no value, a truth value or a number. A tag
can say which of these it has to be. This is how a scalar is called in a complaint.
-/

set_option autoImplicit false

namespace SchemaPress.Yaml

open SchemaPress.Document (Found Complaint)

namespace Resolution

/-- Says whether a text is a word for no value. -/
def isNull (text : String) : Bool :=
  ["null", "Null", "NULL", "~"].contains text

/-- The truth value that a text is a word for. -/
def flag? (text : String) : Option Bool :=
  if ["true", "True", "TRUE"].contains text then some true
  else if ["false", "False", "FALSE"].contains text then some false
  else none

/-- The bases that a number may be written in, with what stands in front of its digits. -/
def bases : List (List Char × Nat) :=
  [("0x".toList, 16), ("0o".toList, 8), ("0b".toList, 2)]

def digit? (base : Nat) (c : Char) : Option Nat :=
  (QuotedScalar.digitValue? c).filter (· < base)

def digits? (base : Nat) (digits : List Char) : Option Nat :=
  if digits.isEmpty then none
  else digits.foldlM (fun value c => do return base * value + (← digit? base c)) 0

/-- The number that digits spell behind the mark of their base. -/
def marked? (text : List Char) : Option Nat :=
  bases.findSome? fun (mark, base) =>
    if mark.isPrefixOf text then digits? base (text.drop mark.length) else none

/-- Says whether a text is digits that begin with a needless zero. -/
def isPadded (text : List Char) : Bool :=
  let digits := match text with
    | '+' :: digits | '-' :: digits => digits
    | digits => digits
  1 < digits.length && digits.head? == some '0' && digits.all Char.isDigit

/-- The whole number that a text is, whatever its size. -/
def whole? (text : List Char) : Option Int :=
  let (negative, digits) := Decimal.Numerals.takeSign text
  let size := (marked? digits).or (if isPadded text then none else digits? 10 digits)
  size.map fun size => if negative then -(size : Int) else size

/-- Says whether a whole number fits some bits, with a sign or without one. -/
def fits (bits : Nat) (value : Int) : Bool :=
  -(Nat.pow 2 (bits - 1) : Int) ≤ value && value < (Nat.pow 2 bits : Int)

/-- A whole number as it is found: in 64 bits, or in 128. -/
def foundWhole? (value : Int) : Option Found :=
  if fits 64 value then some (.whole value)
  else if fits 128 value then some (.wide value)
  else none

/-- The whole number that a text is found to be. -/
def integer? (text : String) : Option Found :=
  (whole? text.toList).bind foundWhole?

/-- The words for infinite numbers and for no number. -/
def floatWords : List (List String × Float) :=
  [([".inf", ".Inf", ".INF", "+.inf", "+.Inf", "+.INF"], 1 / 0),
    (["-.inf", "-.Inf", "-.INF"], -1 / 0), ([".nan", ".NaN", ".NAN"], 0 / 0)]

def float? (text : String) : Option Float :=
  match floatWords.find? (·.1.contains text) with
  | some (_, value) => some value
  | none => ((Decimal.Numerals.ofChars? text.toList).map (·.nearest)).filter Float.isFinite

def foundFloat (value : Float) : Found :=
  .fraction (Decimal.floatText .writtenOut value)

def foundNull : Found := .nothing "unit value"

/-- What a plain text without a tag is found to be. -/
def foundPlain (text : String) : Found :=
  if text.isEmpty || isNull text then foundNull
  else
    match flag? text, integer? text with
    | some value, _ => .flag value
    | none, some found => found
    | none, none =>
      if isPadded text.toList then .text text
      else ((float? text).map foundFloat).getD (.text text)

/-- The complaint about a text that a tag says is something else than it is. -/
def tagged (found : Option Found) (text kind expected : String) : Complaint :=
  match found with
  | some found => .wrongType found expected
  | none => .wrongValue (.text text) kind

/-- The complaint about a scalar where something else is expected. -/
def mismatch (tag : Option Tag) (style : Style) (text expected : String) : Complaint :=
  let plain := if style = .plain then foundPlain text else .text text
  match tag with
  | none => .wrongType plain expected
  | some tag =>
    if tag = Tag.standard "bool" then tagged ((flag? text).map .flag) text "a boolean" expected
    else if tag = Tag.standard "int" then tagged (integer? text) text "an integer" expected
    else if tag = Tag.standard "float" then
      tagged ((float? text).map foundFloat) text "a float" expected
    else if tag = Tag.standard "null" then
      tagged (if isNull text then some foundNull else none) text "null" expected
    else .wrongType (if tag.isLocal then plain else .text text) expected

end Resolution

end SchemaPress.Yaml
