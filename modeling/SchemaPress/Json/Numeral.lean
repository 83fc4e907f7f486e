import SchemaPress.Json.Fault

/-!
# Numbers in JSON

A number is written as digits with perhaps a minus sign, a fraction and an exponent. Its value is
a whole number where it has neither fraction nor exponent and fits 64 bits, and a floating point
number otherwise. Of the digits only as many count as fit 64 bits. A number that is not read needs
no value, so only its form is checked then.
-/

set_option autoImplicit false

namespace SchemaPress.Json

/-- A number as it is written. -/
structure Numeral where
  negative : Bool
  whole : List Char
  fraction : Option (List Char)
  /-- The digits of the exponent, and whether a minus sign stands before them. -/
  exponent : Option (Bool × List Char)
  deriving DecidableEq, Repr, Inhabited

/-- The value of a number. -/
inductive Number where
  | whole (value : Int)
  | fraction (value : Float)
  deriving Repr, Inhabited

namespace Numeral

/-- The report about something else than a digit, or about the end of the text. -/
def malformed (place : Text.Place) (rest : List Char) : Malformed :=
  let seen := place.afterByte rest
  { strict := ⟨if rest.isEmpty then .endInValue else .badNumber, seen⟩
    loose := ⟨.badNumber, seen⟩ }

def pastDigits (place : Text.Place) (digits : List Char) : Text.Place :=
  ⟨place.line, place.column + digits.length⟩

/-- Reads a row of at least one digit: the digits, the place behind them and what follows. -/
def scanDigits (place : Text.Place) (cs : List Char) :
    Except Malformed (List Char × Text.Place × List Char) :=
  let digits := cs.takeWhile Char.isDigit
  if digits.isEmpty then .error (malformed place cs)
  else .ok (digits, pastDigits place digits, cs.dropWhile Char.isDigit)

/-- Reads the digits before a point; a zero in front stands alone. -/
def scanWhole (place : Text.Place) (cs : List Char) :
    Except Malformed (List Char × Text.Place × List Char) := do
  match cs with
  | '0' :: rest =>
    let past := pastDigits place ['0']
    match rest with
    | c :: _ => if c.isDigit then .error (malformed past rest) else .ok (['0'], past, rest)
    | [] => .ok (['0'], past, rest)
  | _ => scanDigits place cs

/-- Reads a fraction, if there is one. -/
def scanFraction (place : Text.Place) (cs : List Char) :
    Except Malformed (Option (List Char) × Text.Place × List Char) := do
  match cs with
  | '.' :: rest =>
    let (digits, place, rest) ← scanDigits (place.after '.') rest
    return (some digits, place, rest)
  | _ => return (none, place, cs)

/-- Reads an exponent, if there is one. -/
def scanExponent (place : Text.Place) (cs : List Char) :
    Except Malformed (Option (Bool × List Char) × Text.Place × List Char) := do
  match cs with
  | c :: rest =>
    if c = 'e' ∨ c = 'E' then
      let place := place.after c
      let (negative, place, rest) := match rest with
        | '+' :: rest => (false, place.after '+', rest)
        | '-' :: rest => (true, place.after '-', rest)
        | _ => (false, place, rest)
      let (digits, place, rest) ← scanDigits place rest
      return (some (negative, digits), place, rest)
    else return (none, place, cs)
  | [] => return (none, place, cs)

/-- Reads a number: the number, the place behind it and what follows. -/
def scan (place : Text.Place) (cs : List Char) :
    Except Malformed (Numeral × Text.Place × List Char) := do
  let (negative, place, cs) := match cs with
    | '-' :: rest => (true, place.after '-', rest)
    | _ => (false, place, cs)
  let (whole, place, cs) ← scanWhole place cs
  let (fraction, place, cs) ← scanFraction place cs
  let (exponent, place, cs) ← scanExponent place cs
  return ({ negative, whole, fraction, exponent }, place, cs)

/-- The bound of the whole numbers of 64 bits. -/
def wholeBound : Nat := Nat.pow 2 64

/-- Takes digits into a number as long as it stays below a bound: the number, and the digits left.
-/
def absorb (bound : Nat) : Nat → List Char → Nat × List Char
  | value, [] => (value, [])
  | value, c :: cs =>
    let more := 10 * value + (c.toNat - '0'.toNat)
    if more < bound then absorb bound more cs else (value, c :: cs)

/-- A power of ten as a floating point number. -/
def powerOfTen (exponent : Nat) : Float :=
  Float.ofScientific 1 false exponent

/-- The largest exponent of a power of ten that is a finite floating point number. -/
def largestPower : Nat := 308

/-- A significand times a power of ten, or nothing if that is too large. Where the power is too
small for one division, `rounds` more divisions are made, after which nothing is left of any
significand. -/
def scaled? : (rounds : Nat) → Float → Int → Option Float
  | rounds, significand, exponent =>
    if exponent.natAbs ≤ largestPower then
      if 0 ≤ exponent then
        let value := significand * powerOfTen exponent.natAbs
        if value.isInf then none else some value
      else some (significand / powerOfTen exponent.natAbs)
    else if significand == 0 then some significand
    else if 0 ≤ exponent then none
    else
      match rounds with
      | 0 => some 0
      | rounds + 1 =>
        scaled? rounds (significand / powerOfTen largestPower) (exponent + largestPower)

/-- The bound of exponents. -/
def exponentBound : Nat := Nat.pow 2 31

/-- The value of a number that ends in a place. -/
def value (numeral : Numeral) (place : Text.Place) : Except Fault Number :=
  let (significand, dropped) := absorb wholeBound 0 numeral.whole
  if numeral.fraction.isNone && numeral.exponent.isNone && dropped.isEmpty then
    if !numeral.negative then .ok (.whole significand)
    else if 0 < significand ∧ significand ≤ Nat.pow 2 63 then .ok (.whole (-significand))
    else .ok (.fraction (-Float.ofNat significand))
  else
    let digits := numeral.fraction.getD []
    let (significand, ignored) := absorb wholeBound significand digits
    let shift : Int := dropped.length - (digits.length - ignored.length : Nat)
    let signed (value : Float) : Number := .fraction (if numeral.negative then -value else value)
    let scale (exponent : Int) : Except Fault Number :=
      match scaled? 4 (Float.ofNat significand) exponent with
      | some value => .ok (signed value)
      | none => .error ⟨.numberTooLarge, place⟩
    match numeral.exponent with
    | none => scale shift
    | some (negative, exponent) =>
      match absorb exponentBound 0 exponent with
      | (size, []) => scale (if negative then shift - size else shift + size)
      | (_, _ :: left) =>
        if significand ≠ 0 ∧ !negative then
          .error ⟨.numberTooLarge, ⟨place.line, place.column - left.length⟩⟩
        else .ok (signed 0)

end Numeral

end SchemaPress.Json
