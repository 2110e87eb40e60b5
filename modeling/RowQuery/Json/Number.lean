/-
Numbers in JSON text.

A number without fraction and exponent is kept exactly if 64 bits hold it. The digits of any
other number go into a coefficient for as long as 64 bits hold it; later ones count before the
point and are dropped after it. The coefficient is rounded, and so is its product with a power of
ten or its quotient by one, or by two of them.

* `NumberWord`, `NumberWord.ofText?`: the parts of a number, and the grammar;
* `gather`: the coefficient of digits;
* `scaled?`: the magnitude of a coefficient and an exponent; none if it overflows;
* `NumberWord.value?`: the number.
-/
import RowQuery.Json.Basic
import RowQuery.Number.Reading

namespace RowQuery.Json

open Number

/-! ### The parts of a number -/

/-- The parts of a number. -/
structure NumberWord where
  negative : Bool
  whole : List Char
  /-- The digits after a point, if there is one. -/
  fraction : Option (List Char)
  /-- The power of ten, if one is written. -/
  exponent : Option Int
deriving DecidableEq, Repr

/-- Whether digits are those of a whole number: there is one, and a zero stands alone. -/
def isWhole : List Char → Bool
  | [] => false
  | digit :: rest => digit != '0' || rest.isEmpty

/-- The digits after a point, if there is one, and the rest; none if the point has no digits. -/
def splitFraction? : List Char → Option (Option (List Char) × List Char)
  | '.' :: rest =>
    let (digits, rest) := splitDigits rest
    if digits.isEmpty then none else some (some digits, rest)
  | rest => some (none, rest)

/-- A minus at the front, if there is one, and the rest. -/
def splitMinus : List Char → Bool × List Char
  | '-' :: rest => (true, rest)
  | text => (false, text)

/-- The parts of the number that a text writes. -/
def NumberWord.ofText? (text : List Char) : Option NumberWord := do
  let (negative, rest) := splitMinus text
  let (whole, rest) := splitDigits rest
  if !isWhole whole then none
  let (fraction, rest) ← splitFraction? rest
  if rest.isEmpty then return ⟨negative, whole, fraction, none⟩
  return ⟨negative, whole, fraction, some (← Binary64.readExponent? rest)⟩

/-! ### The value of a number -/

/-- The first whole number that 64 bits do not hold. -/
def coefficientLimit : Nat := Nat.pow 2 64

/-- Takes digits into a coefficient for as long as 64 bits hold it; those that are left come
with it. -/
def gather : Nat → List Char → Nat × List Char
  | coefficient, [] => (coefficient, [])
  | coefficient, digit :: rest =>
    let next := Nat.ofDigitChars 10 [digit] coefficient
    if next < coefficientLimit then gather next rest else (coefficient, digit :: rest)

/-- The greatest power of ten that is finite. -/
def greatestPower : Int := 308

/-- A magnitude times ten to an exponent. Below the least power of ten it is divided by that
first; below the square of it nothing is left. -/
def scaled? (magnitude : Magnitude) (exponent : Int) : Option Magnitude :=
  if magnitude.units = 0 then some magnitude
  else if exponent > greatestPower then none
  else if 0 ≤ exponent then Binary64.timesPowerOfTen? magnitude exponent.toNat
  else if -greatestPower ≤ exponent then Binary64.overPowerOfTen? magnitude (-exponent).toNat
  else if -(2 * greatestPower) ≤ exponent then do
    Binary64.overPowerOfTen? (← Binary64.overPowerOfTen? magnitude greatestPower.toNat)
      (-(exponent + greatestPower)).toNat
  else some .zero

/-- The number that a coefficient and an exponent make; none if it overflows. -/
def floatOf? (negative : Bool) (coefficient : Nat) (exponent : Int) : Option Json := do
  let magnitude ← Magnitude.nearest? coefficient 1
  return .float (.finite negative (← scaled? magnitude exponent))

namespace NumberWord

/-- The number as an integer, if it is written as one and 64 bits hold it with its sign. A zero
with a minus is no integer. -/
def integer? (w : NumberWord) : Option Int :=
  let n := digitValue w.whole
  if w.fraction.isSome || w.exponent.isSome then none
  else if w.negative then if 0 < n ∧ n ≤ Nat.pow 2 63 then some (-n) else none
  else if n < coefficientLimit then some n else none

/-- The number with a fraction, an exponent, or more than 64 bits. -/
def float? (w : NumberWord) : Option Json :=
  let (coefficient, later) := gather 0 w.whole
  let fraction := w.fraction.getD []
  let (coefficient, dropped) := gather coefficient fraction
  let places : Int := fraction.length - dropped.length
  floatOf? w.negative coefficient (w.exponent.getD 0 + later.length - places)

/-- The value of a number; none if it overflows. -/
def value? (w : NumberWord) : Option Json :=
  match w.integer? with
  | some n => some (.integer n)
  | none => w.float?

end NumberWord

end RowQuery.Json
