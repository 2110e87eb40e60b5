/-
The shortest decimal digits of a binary number.

A magnitude is the rounding of every real in an interval around it. Its digits are those of a
decimal in that interval on the coarsest grid of powers of ten that meets it, and of two such
decimals the nearer one.

* `Magnitude.interval`: the interval, counted in quarters of the least unit;
* `Scientific`: a coefficient and a power of ten;
* `Magnitude.shortest`: the digits, with a rule for a decimal below and one above equally near.
-/
import RowQuery.Number.Binary64

namespace RowQuery.Number

/-- The number `coefficient * 10 ^ exponent`. -/
structure Scientific where
  coefficient : Nat
  exponent : Int
deriving DecidableEq, Repr

/-- Which of two equally near decimals is taken. -/
inductive Tie
  | up
  | even
deriving DecidableEq, Repr

/-- The reals that round to a magnitude, counted in quarters of the least unit: the bounds, the
magnitude itself, and whether the bounds belong to them. -/
structure Interval where
  low : Nat
  centre : Nat
  high : Nat
  closed : Bool
deriving DecidableEq, Repr

namespace Interval

/-- Whether a point, `point * weight` quarters, is in the interval. -/
def holds (interval : Interval) (point : Nat) : Bool :=
  if interval.closed then interval.low ≤ point && point ≤ interval.high
  else interval.low < point && point < interval.high

/-- The interval of all numbers `factor` times as large. -/
def scale (interval : Interval) (factor : Nat) : Interval :=
  { interval with
    low := interval.low * factor
    centre := interval.centre * factor
    high := interval.high * factor }

/-- The multiple of `weight` in the interval that is nearest to its centre, if one is there. -/
def gridPoint? (interval : Interval) (tie : Tie) (weight : Nat) : Option Nat :=
  let below := interval.centre / weight
  let above := below + 1
  let toBelow := interval.centre - below * weight
  let toAbove := above * weight - interval.centre
  match interval.holds (below * weight), interval.holds (above * weight) with
  | false, false => none
  | true, false => some below
  | false, true => some above
  | true, true =>
    if toBelow < toAbove then some below
    else if toAbove < toBelow then some above
    else match tie with
      | .up => some above
      | .even => some (if below % 2 = 0 then below else above)

end Interval

namespace Magnitude

/-- The reals that round to a magnitude. The gap below a power of two is half the one above it,
the least powers excepted. -/
def interval (magnitude : Magnitude) : Interval :=
  let units := magnitude.units
  let shift := shiftOf units
  let gap := Nat.pow 2 shift
  let narrow := decide (0 < shift) && units == Nat.pow 2 units.log2
  { low := 4 * units - (if narrow then gap else 2 * gap)
    centre := 4 * units
    high := 4 * units + 2 * gap
    closed := units / gap % 2 == 0 }

/-- Quarters of the least unit that make one. -/
def quartersOfOne : Nat := 4 * unitsOfOne

/-- The decimal of an interval on the grid of one power of ten. -/
def onGrid? (interval : Interval) (tie : Tie) (exponent : Int) : Option Nat :=
  if 0 ≤ exponent then
    interval.gridPoint? tie (Nat.pow 10 exponent.toNat * quartersOfOne)
  else
    (interval.scale (Nat.pow 10 (-exponent).toNat)).gridPoint? tie quartersOfOne

/-- Tries the grids of ever smaller powers of ten, `tries` of them at most. -/
def firstOnGrid (interval : Interval) (tie : Tie) : Nat → Int → Scientific
  | 0, exponent => ⟨0, exponent⟩
  | tries + 1, exponent =>
    match onGrid? interval tie exponent with
    | some coefficient => ⟨coefficient, exponent⟩
    | none => firstOnGrid interval tie tries (exponent - 1)

/-- A power of ten above every number of the interval of `units` least units. -/
def topExponent (units : Nat) : Int :=
  ((units.log2 : Int) - 1072) * 30103 / 100000 + 1

/-- The shortest decimal that rounds to the magnitude, and of those the nearest to it. Seventeen
digits always suffice, and the first grid is at most three too coarse. -/
def shortest (magnitude : Magnitude) (tie : Tie) : Scientific :=
  firstOnGrid magnitude.interval tie 24 (topExponent magnitude.units)

end Magnitude

end RowQuery.Number
