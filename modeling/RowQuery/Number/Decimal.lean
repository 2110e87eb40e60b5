/-
Decimal numbers with a coefficient of 96 bits and up to 28 places.

* `Decimal`: sign, coefficient and number of places;
* `Decimal.compare`: the order by value, in which `1.5` and `1.50` are equal;
* `Decimal.text`: all places are written;
* `Decimal.ofText?`: reads a text, the places that do not fit being rounded away;
* `Conversion`: how a binary number is converted whose text is not read.
-/
import RowQuery.Number.Reading

namespace RowQuery.Number

/-- The first coefficient that does not fit. -/
def coefficientLimit : Nat := Nat.pow 2 96

/-- The greatest number of places. -/
def maxPlaces : Nat := 28

/-- The number `coefficient / 10 ^ places` with a sign. -/
structure Decimal where
  negative : Bool
  coefficient : Nat
  places : Nat
  coefficient_lt : coefficient < coefficientLimit
  places_le : places ≤ maxPlaces
deriving DecidableEq

namespace Decimal

/-! ### Making and comparing decimals -/

/-- The decimal of these parts, if they fit. -/
def make? (negative : Bool) (coefficient places : Nat) : Option Decimal :=
  if h : coefficient < coefficientLimit ∧ places ≤ maxPlaces then
    some ⟨negative, coefficient, places, h.1, h.2⟩
  else none

/-- The decimal of an integer, if it fits. -/
def ofInt? (n : Int) : Option Decimal := make? (n < 0) n.natAbs 0

/-- The coefficient with its sign. -/
def signedCoefficient (d : Decimal) : Int :=
  if d.negative then -(d.coefficient : Int) else d.coefficient

/-- The order of decimals by value. -/
def compare (a b : Decimal) : Ordering :=
  Ord.compare (a.signedCoefficient * Nat.pow 10 b.places)
    (b.signedCoefficient * Nat.pow 10 a.places)

/-! ### Writing -/

/-- The digits of a coefficient, with at least one before the point. -/
def paddedDigits (coefficient places : Nat) : List Char :=
  let digits := Nat.toDigits 10 coefficient
  List.replicate (places + 1 - digits.length) '0' ++ digits

/-- The text of a decimal, with exactly as many places as it has. -/
def text (d : Decimal) : String :=
  let digits := paddedDigits d.coefficient d.places
  let whole := digits.length - d.places
  String.ofList ((if d.negative then ['-'] else []) ++ digits.take whole
    ++ (if d.places = 0 then [] else '.' :: digits.drop whole))

/-! ### Reading without an exponent -/

/-- What has been read of a number: its coefficient, the digits after the point, and whether
there was a point, and a digit. -/
structure Progress where
  coefficient : Nat
  places : Nat
  pointed : Bool
  started : Bool
deriving DecidableEq, Repr

/-- The value of a decimal digit. -/
def digit (c : Char) : Nat := c.toNat - '0'.toNat

/-- Rounds a coefficient that has no room for one more digit: up if that digit is five or more,
and with one place less if the coefficient then no longer fits. -/
def roundOff? (negative : Bool) (p : Progress) (next : Nat) : Option Decimal :=
  let rounded := if next < 5 then p.coefficient else p.coefficient + 1
  if rounded < coefficientLimit then make? negative rounded p.places
  else if p.places = 0 then none
  else make? negative ((rounded + 4) / 10) (p.places - 1)

/-- The coefficients before the last digit with which reading still goes by words of 64 bits. -/
def shortLimit : Nat := 1844674407370954906

/-- Whether an underscore after what has been read ends the number, as if a zero followed: all
places are taken, and the coefficient is short. -/
def Progress.endsAtUnderscore (p : Progress) : Bool :=
  p.pointed && p.places = maxPlaces && p.coefficient / 10 < shortLimit

/-- Reads the digits of a number, with a point and underscores among them. Digits after the
point are taken as long as they fit. -/
def readDigits? (negative : Bool) : Progress → List Char → Option Decimal
  | p, [] => if p.started then make? negative p.coefficient p.places else none
  | p, c :: rest =>
    if c.isDigit then
      let coefficient := p.coefficient * 10 + digit c
      if !p.pointed then
        if coefficient < coefficientLimit then
          readDigits? negative { p with coefficient, started := true } rest
        else none
      else if p.places < maxPlaces && coefficient < coefficientLimit then
        readDigits? negative { p with coefficient, places := p.places + 1, started := true } rest
      else if rest.all fun c => c.isDigit || c == '_' then roundOff? negative p (digit c)
      else none
    else if c == '_' && p.started then
      if !p.endsAtUnderscore then readDigits? negative p rest
      else if rest.all fun c => c.isDigit || c == '_' then roundOff? negative p 0
      else none
    else if c == '.' && !p.pointed then readDigits? negative { p with pointed := true } rest
    else none

/-- A zero has no sign. -/
def unsignZero (d : Decimal) : Decimal :=
  if d.coefficient = 0 then { d with negative := false } else d

/-- Reads a number without an exponent. -/
def readPlain? (text : List Char) : Option Decimal :=
  let (negative, rest) := splitSign text
  (readDigits? negative ⟨0, 0, false, false⟩ rest).map unsignZero

/-! ### Reading with an exponent -/

/-- The digits of an exponent, after an optional plus. -/
def readPower? (text : List Char) : Option Nat :=
  let digits := match text with
    | '+' :: rest => rest
    | text => text
  if digits.isEmpty || !digits.all Char.isDigit then none else some (digitValue digits)

/-- Moves the point to the left. Places beyond the last are rounded away first, a half going
away from zero. -/
def shiftLeft? (d : Decimal) (power : Nat) : Option Decimal :=
  if d.places + power ≤ maxPlaces then make? d.negative d.coefficient (d.places + power)
  else
    let dropped := Nat.pow 10 (d.places + power - maxPlaces)
    make? d.negative ((d.coefficient + dropped / 2) / dropped) maxPlaces

/-- Moves the point to the right; the result may be too large. -/
def shiftRight? (d : Decimal) (power : Nat) : Option Decimal :=
  if power ≤ d.places then make? d.negative d.coefficient (d.places - power)
  else make? d.negative (d.coefficient * Nat.pow 10 (power - d.places)) 0

/-- Reads a number with an exponent of at most 28, split at the first mark. -/
def readScientific? (text : List Char) : Option Decimal := do
  let isMark := fun c => c == 'e' || c == 'E'
  let base ← readPlain? (text.takeWhile (!isMark ·))
  match text.dropWhile (!isMark ·) with
  | _ :: '-' :: rest =>
    let power ← readPower? rest
    if power ≤ maxPlaces then base.shiftLeft? power else none
  | _ :: rest =>
    let power ← readPower? rest
    if power ≤ maxPlaces then base.shiftRight? power else none
  | [] => none

/-- The decimal that a text writes, without an exponent or with one. -/
def ofText? (text : String) : Option Decimal :=
  (readPlain? text.toList).orElse fun _ => readScientific? text.toList

/-! ### Converting binary numbers -/

/-- The decimal of the whole part of a finite number, if it fits. -/
def ofBinary? : Binary64 → Option Decimal
  | .finite negative magnitude => make? negative (magnitude.units / unitsOfOne) 0
  | _ => none

end Decimal

/-- How binary numbers are converted to decimals where their texts write none. The conversion is
not part of the program, and what is proved about the order of values and rows holds for any. -/
class Conversion where
  /-- The decimal that a binary number is converted to, if there is one. -/
  toDecimal? : Binary64 → Option Decimal

/-- The conversion with which the program runs. It is asked only for numbers whose texts write no
decimal. These are not finite, or whole and `2 ^ 96` at least, which is more than every decimal, and
so it finds none. -/
instance : Conversion := ⟨Decimal.ofBinary?⟩

end RowQuery.Number
