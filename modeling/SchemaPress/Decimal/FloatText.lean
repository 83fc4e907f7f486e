import SchemaPress.Decimal.Shortest

/-!
# Floating point numbers as text

A number is written with the fewest digits that read back. A style says which numbers are written
with a power of ten; all others are written out, with at least one digit behind the point.
-/

set_option autoImplicit false

namespace SchemaPress.Decimal

/-- Which numbers are written out: those whose first digit has a power of ten in these bounds; and
which of two equally near decimals is written. -/
structure FloatStyle where
  lowest : Option Int
  highest : Option Int
  tie : Tie

namespace FloatStyle

/-- Every number is written out, and ties go up. -/
def writtenOut : FloatStyle := ⟨none, none, .up⟩

/-- Numbers from `0.00001` up to sixteen digits are written out, and ties go to the even digit. -/
def compact : FloatStyle := ⟨some (-5), some 15, .toEven⟩

/-- Says whether a number with this power of ten at its first digit is written out. -/
def writesOut (style : FloatStyle) (power : Int) : Bool :=
  style.lowest.all (· ≤ power) && style.highest.all (power ≤ ·)

end FloatStyle

/-- Digits with a point behind the digit of the power zero. -/
def pointed (digits : List Char) (power : Int) : String :=
  if power < 0 then "0." ++ String.ofList (List.replicate (-power - 1).toNat '0' ++ digits)
  else
    let whole := digits.take (power.toNat + 1)
    let rest := digits.drop (power.toNat + 1)
    String.ofList (whole ++ List.replicate (power.toNat + 1 - whole.length) '0') ++ "."
      ++ (if rest.isEmpty then "0" else String.ofList rest)

/-- Digits with a point behind the first one, times a power of ten. -/
def powered (digits : List Char) (power : Int) : String :=
  String.ofList (digits.take 1)
    ++ (if digits.length ≤ 1 then "" else "." ++ String.ofList (digits.drop 1))
    ++ (if power < 0 then "e-" else "e+") ++ toString power.natAbs

/-- A floating point number as text. -/
def floatText (style : FloatStyle) (x : Float) : String :=
  if x.isNaN then "NaN"
  else
    let sign := if x.toBits.toNat / Nat.pow 2 63 = 1 then "-" else ""
    let size := x.abs
    if size.isInf then sign ++ "inf"
    else if size == 0 then sign ++ "0.0"
    else
      let decimal := shortest style.tie size
      let digits := Nat.toDigits 10 decimal.digits
      let power := decimal.exponent + digits.length - 1
      sign ++ if style.writesOut power then pointed digits power else powered digits power

end SchemaPress.Decimal
