/-!
# Reading decimals

A decimal is digits, perhaps with a point among them, and perhaps a power of ten behind them. It
is read as the floating point number nearest to it.
-/

set_option autoImplicit false

namespace SchemaPress.Decimal

/-- A decimal as it is written. -/
structure Numerals where
  negative : Bool
  whole : List Char
  fraction : List Char
  /-- The power of ten: its digits, and whether a minus sign stands before them. -/
  power : Option (Bool × List Char)
  deriving DecidableEq, Repr, Inhabited

namespace Numerals

def natural (digits : List Char) : Nat :=
  digits.foldl (fun value c => 10 * value + (c.toNat - '0'.toNat)) 0

/-- Reads a sign, if there is one: whether it is a minus sign, and what follows. -/
def takeSign : List Char → Bool × List Char
  | '+' :: cs => (false, cs)
  | '-' :: cs => (true, cs)
  | cs => (false, cs)

/-- Reads a power of ten up to the end of a text, if there is one. -/
def power? : List Char → Option (Option (Bool × List Char))
  | [] => some none
  | c :: cs =>
    let (negative, digits) := takeSign cs
    if (c == 'e' || c == 'E') && !digits.isEmpty && digits.all Char.isDigit then
      some (some (negative, digits))
    else none

/-- The decimal that a text is, if it is one. Digits may be missing on one side of the point. -/
def ofChars? (text : List Char) : Option Numerals := do
  let (negative, text) := takeSign text
  let whole := text.takeWhile Char.isDigit
  let (fraction, rest) := match text.dropWhile Char.isDigit with
    | '.' :: rest => (rest.takeWhile Char.isDigit, rest.dropWhile Char.isDigit)
    | rest => ([], rest)
  if whole.isEmpty && fraction.isEmpty then none
  else return { negative, whole, fraction, power := ← power? rest }

/-- A power of ten that no floating point number reaches. -/
def farPower : Nat := 400

/-- The floating point number nearest to a decimal. Far powers of ten are infinite or nothing. -/
def nearest (numerals : Numerals) : Float :=
  let digits := natural (numerals.whole ++ numerals.fraction)
  let power : Int := match numerals.power with
    | none => 0
    | some (negative, digits) => if negative then -(natural digits : Int) else natural digits
  let exponent := power - numerals.fraction.length
  let size :=
    if digits = 0 then 0
    else if exponent > farPower then 1 / 0
    else if exponent + (numerals.whole ++ numerals.fraction).length < -(farPower : Int) then 0
    else Float.ofScientific digits (exponent < 0) exponent.natAbs
  if numerals.negative then -size else size

end Numerals

end SchemaPress.Decimal
