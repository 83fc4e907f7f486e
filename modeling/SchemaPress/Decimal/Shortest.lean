/-!
# The shortest decimal that reads back

A floating point number stands for all reals that round to it. Among the decimals in that interval
the shortest one has the coarsest grid of powers of ten on which a point of the interval lies; of
two such points the nearer one is taken, and between equally near ones a rule for ties decides. All
of this is exact arithmetic on natural numbers.
-/

set_option autoImplicit false

namespace SchemaPress.Decimal

/-- The number `digits * 10 ^ exponent`. -/
structure Scientific where
  digits : Nat
  exponent : Int
  deriving DecidableEq, Repr, Inhabited

/-- Which of two points is taken if they are equally near. -/
inductive Tie where
  /-- The one with an even last digit. -/
  | toEven
  /-- The larger one. -/
  | up
  deriving DecidableEq, Repr, Inhabited

/-- Says whether the smaller point is taken, given its digits. -/
def Tie.takesBelow (tie : Tie) (below : Nat) : Bool :=
  tie = .toEven && below % 2 == 0

/-- A positive number and the interval around it, over a common denominator. -/
structure Interval where
  low : Nat
  value : Nat
  high : Nat
  denominator : Nat
  /-- Whether the two ends belong to the interval. -/
  closed : Bool
  deriving Repr, Inhabited

namespace Interval

/-- Says whether `numerator / scale` over the denominator lies in the interval. -/
def contains (interval : Interval) (scale numerator : Nat) : Bool :=
  if interval.closed then
    interval.low * scale ≤ numerator && numerator ≤ interval.high * scale
  else interval.low * scale < numerator && numerator < interval.high * scale

/-- The point of the grid of `10 ^ exponent` that lies in the interval, if there is one: the
nearer of the two neighbours of the value. -/
def onGrid? (tie : Tie) (interval : Interval) (exponent : Int) : Option Scientific :=
  let scale := Nat.pow 10 (-exponent).toNat
  let step := interval.denominator * Nat.pow 10 exponent.toNat
  let value := interval.value * scale
  let below := value / step
  let above := below + 1
  let inside (digits : Nat) := digits ≠ 0 && interval.contains scale (digits * step)
  let toBelow := value - below * step
  let toAbove := above * step - value
  match inside below, inside above with
  | true, true =>
    if toBelow < toAbove || (toBelow == toAbove && tie.takesBelow below) then
      some ⟨below, exponent⟩
    else some ⟨above, exponent⟩
  | true, false => some ⟨below, exponent⟩
  | false, true => some ⟨above, exponent⟩
  | false, false => none

/-- The first point found on one of `count` grids, each ten times as fine as the one before. -/
def firstOnGrids? (tie : Tie) (interval : Interval) : Nat → Int → Option Scientific
  | 0, _ => none
  | count + 1, exponent =>
    (interval.onGrid? tie exponent).or (firstOnGrids? tie interval count (exponent - 1))

/-- The interval of the reals that round to `m * 2 ^ q`. The interval is half as wide below a
power of two that is `tight`, since the numbers below it are twice as dense. -/
def ofBinary (m : Nat) (q : Int) (tight : Bool) : Interval :=
  let up := Nat.pow 2 (q - 2).toNat
  { low := (4 * m - if tight then 1 else 2) * up
    value := 4 * m * up
    high := (4 * m + 2) * up
    denominator := Nat.pow 2 (2 - q).toNat
    closed := m % 2 == 0 }

end Interval

/-- The coarsest grid that can hold a point near a floating point number. -/
def coarsest : Int := 309

/-- The number of grids down to the finest that is ever needed. -/
def gridCount : Nat := 660

/-- The shortest decimal that reads back as a positive finite number. -/
def shortest (tie : Tie) (x : Float) : Scientific :=
  let bits : Nat := x.toBits.toNat
  let implied := Nat.pow 2 52
  let power : Nat := bits / implied % Nat.pow 2 11
  let fraction : Nat := bits % implied
  let interval :=
    if power = 0 then Interval.ofBinary fraction (-1074) false
    else Interval.ofBinary (fraction + implied) ((power : Int) - 1075) (fraction == 0 && power > 1)
  (interval.firstOnGrids? tie gridCount coarsest).getD ⟨0, 0⟩

end SchemaPress.Decimal
