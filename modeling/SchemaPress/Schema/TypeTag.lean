import SchemaPress.Text.Blank
import SchemaPress.Text.DecimalDigit

/-!
# Type tags

A column's type is a tag that no dialect owns, such as `VARCHAR(255)` or `DECIMAL(5,2)`: a base
name and, from the first opening parenthesis on, a suffix. The base counts without the blanks
around it and in capital letters of ASCII. Numbers are searched in the whole tag. The first
parenthesis that opens one number between blanks gives the length, and the first that opens two
numbers with a comma between them gives precision and scale. A number has to be written in ASCII
digits and to fit 32 bits; if it does not, there is none, and no later parenthesis is looked at.
-/

set_option autoImplicit false

namespace SchemaPress

/-- A type as a column carries it, in no dialect's spelling. -/
structure TypeTag where
  text : String
  deriving DecidableEq, Repr, Inhabited

namespace TypeTag

/-- The characters of a tag before its first opening parenthesis. -/
def stem (tag : TypeTag) : List Char :=
  tag.text.toList.takeWhile (· != '(')

/-- The name of a type, without blanks around it and in capital letters. -/
def base (tag : TypeTag) : String :=
  String.ofList ((Text.trim tag.stem).map Char.toUpper)

/-- A tag from its first opening parenthesis on. -/
def suffix (tag : TypeTag) : String :=
  String.ofList (tag.text.toList.dropWhile (· != '('))

/-- Numbers in a tag are below this bound. -/
def numberBound : Nat := Nat.pow 2 32

/-- Reads digits with blanks on both sides: the digits, and what follows. -/
def digitsBetweenBlanks? (cs : List Char) : Option (List Char × List Char) :=
  let inner := cs.dropWhile Text.isBlank
  let digits := inner.takeWhile Text.isDecimalDigit
  if digits.isEmpty then none
  else some (digits, (inner.dropWhile Text.isDecimalDigit).dropWhile Text.isBlank)

def oneNumber? (cs : List Char) : Option (List Char) :=
  match digitsBetweenBlanks? cs with
  | some (digits, ')' :: _) => some digits
  | _ => none

/-- Reads two numbers with a comma between them and a closing parenthesis. -/
def twoNumbers? (cs : List Char) : Option (List Char × List Char) :=
  match digitsBetweenBlanks? cs with
  | some (first, ',' :: rest) =>
    match digitsBetweenBlanks? rest with
    | some (second, ')' :: _) => some (first, second)
    | _ => none
  | _ => none

/-- What can be read behind the first opening parenthesis behind which something can be read. -/
def firstParenthesis? {α : Type} (read? : List Char → Option α) : List Char → Option α
  | [] => none
  | c :: cs => if c = '(' then (read? cs).or (firstParenthesis? read? cs)
      else firstParenthesis? read? cs

/-- The one number of a tag, such as the 255 of `VARCHAR(255)`. -/
def length? (tag : TypeTag) : Option Nat :=
  (firstParenthesis? oneNumber? tag.text.toList).bind (Text.numeral? numberBound)

/-- The two numbers of a tag, such as the 5 and the 2 of `DECIMAL(5,2)`. -/
def precisionScale? (tag : TypeTag) : Option (Nat × Nat) := do
  let (first, second) ← firstParenthesis? twoNumbers? tag.text.toList
  let precision ← Text.numeral? numberBound first
  let scale ← Text.numeral? numberBound second
  return (precision, scale)

end TypeTag

end SchemaPress
