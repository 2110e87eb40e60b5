/-
Binary floating point numbers of 64 bits.

A finite number is a sign and a whole number of the least positive number, 2^(-1074), in which
at most 53 bits are significant.

* `Representable`: the numbers of least units that 53 significant bits hold;
* `Binary64`: the finite numbers, the two infinities, and one that is not a number;
* `Binary64.ofRatio`: rounds a ratio to the nearest number, ties to even;
* `Binary64.compare?`: the order of numbers; the one that is not a number has none.
-/
import RowQuery.Number.Rounding

namespace RowQuery.Number

/-! ### Magnitudes -/

/-- One, counted in least units. -/
def unitsOfOne : Nat := Nat.pow 2 1074

/-- The first power of two beyond all finite magnitudes, counted in least units. -/
def unitsOfOverflow : Nat := Nat.pow 2 2098

/-- The whole numbers of least units with at most 53 significant bits, below overflow. -/
def Representable (units : Nat) : Prop :=
  units < unitsOfOverflow
    ∧ ∃ mantissa shift, mantissa ≤ Nat.pow 2 53 ∧ units = mantissa * Nat.pow 2 shift

/-- The magnitude of a finite number. -/
structure Magnitude where
  /-- How many least units it has. -/
  units : Nat
  representable : Representable units
deriving DecidableEq

namespace Magnitude

/-- Nothing. -/
def zero : Magnitude := ⟨0, by decide +kernel, 0, 0, by decide, by decide⟩

/-- How many low bits of a whole number of least units lie below its 53 leading ones. -/
def shiftOf (units : Nat) : Nat := units.log2 - 52

/-- The least units of the 53-bit number nearest to `num / den`, were there no overflow. -/
def nearestUnits (num den : Nat) : Nat :=
  let scaled := num * unitsOfOne
  let shift := shiftOf (scaled / den)
  roundToEven scaled (den * Nat.pow 2 shift) * Nat.pow 2 shift

/-- Rounding leaves at most 53 significant bits. -/
theorem nearestUnits_significant (num den : Nat) :
    ∃ mantissa shift, mantissa ≤ Nat.pow 2 53 ∧
      nearestUnits num den = mantissa * Nat.pow 2 shift := by
  refine ⟨_, shiftOf (num * unitsOfOne / den), ?_, rfl⟩
  generalize num * unitsOfOne = scaled
  have hround := roundToEven_le scaled (den * 2 ^ shiftOf (scaled / den))
  have hlog : scaled / den < 2 ^ (53 + shiftOf (scaled / den)) := by
    have hlt := Nat.lt_log2_self (n := scaled / den)
    have hpow : 2 ^ ((scaled / den).log2 + 1) ≤ 2 ^ (53 + shiftOf (scaled / den)) :=
      Nat.pow_le_pow_right (by decide) (by unfold shiftOf; omega)
    exact Nat.lt_of_lt_of_le hlt hpow
  have hdiv : scaled / (den * 2 ^ shiftOf (scaled / den)) < 2 ^ 53 := by
    rw [← Nat.div_div_eq_div_mul, Nat.div_lt_iff_lt_mul (Nat.two_pow_pos _), ← Nat.pow_add]
    exact hlog
  show roundToEven scaled (den * 2 ^ shiftOf (scaled / den)) ≤ 2 ^ 53
  omega

/-- The magnitude nearest to `num / den`; none when it overflows. -/
def nearest? (num den : Nat) : Option Magnitude :=
  if h : nearestUnits num den < unitsOfOverflow then
    some ⟨nearestUnits num den, h, nearestUnits_significant num den⟩
  else none

end Magnitude

/-! ### Numbers -/

/-- The numbers of the format. -/
inductive Binary64
  | nan
  | infinite (negative : Bool)
  | finite (negative : Bool) (magnitude : Magnitude)
deriving DecidableEq

namespace Binary64

/-- The zero of either sign. -/
def zero (negative : Bool) : Binary64 := .finite negative .zero

/-- The number nearest to `num / den` with the given sign; infinite when it overflows. -/
def ofRatio (negative : Bool) (num den : Nat) : Binary64 :=
  (Magnitude.nearest? num den).elim (.infinite negative) (.finite negative)

/-- The number nearest to an integer. -/
def ofInt (n : Int) : Binary64 := ofRatio (n < 0) n.natAbs 1

/-- The number nearest to `coefficient * 10 ^ exponent`, read from any number of digits. Far
outside the range of the format only the first digit's place counts. -/
def ofScientific (negative : Bool) (coefficient : Nat) (exponent : Int) : Binary64 :=
  if coefficient = 0 then zero negative
  else if exponent > 400 then .infinite negative
  else if exponent + (Nat.toDigits 10 coefficient).length < -400 then zero negative
  else if 0 ≤ exponent then ofRatio negative (coefficient * Nat.pow 10 exponent.toNat) 1
  else ofRatio negative coefficient (Nat.pow 10 (-exponent).toNat)

/-- Finite numbers are neither infinite nor the one that is not a number. -/
def isFinite : Binary64 → Bool
  | .finite .. => true
  | _ => false

/-- The number of the opposite sign. -/
def negate : Binary64 → Binary64
  | .nan => .nan
  | .infinite negative => .infinite (!negative)
  | .finite negative magnitude => .finite (!negative) magnitude

/-- The value of a finite number, counted in least units. -/
def units? : Binary64 → Option Int
  | .finite negative magnitude =>
    some (if negative then -(magnitude.units : Int) else magnitude.units)
  | _ => none

/-- The order of two finite numbers; zeros of either sign are equal. -/
def compare? (a b : Binary64) : Option Ordering := do
  let a ← a.units?
  let b ← b.units?
  return compare a b

/-! ### Scaling by powers of ten -/

/-- The product of a magnitude and the number nearest to `10 ^ power`, rounded once; none when
it overflows. -/
def timesPowerOfTen? (magnitude : Magnitude) (power : Nat) : Option Magnitude := do
  let factor ← Magnitude.nearest? (Nat.pow 10 power) 1
  Magnitude.nearest? (magnitude.units * factor.units) (unitsOfOne * unitsOfOne)

/-- The quotient of a magnitude by the number nearest to `10 ^ power`, rounded once; none when
the power overflows. -/
def overPowerOfTen? (magnitude : Magnitude) (power : Nat) : Option Magnitude := do
  let factor ← Magnitude.nearest? (Nat.pow 10 power) 1
  Magnitude.nearest? magnitude.units factor.units

end Binary64

end RowQuery.Number
