/-
How the digits of a binary number are laid out.

* `Layout`: which exponents are written positionally, whether a whole number keeps a zero after
  the point, and the rule for ties;
* `Layout.plain`: always positional, whole numbers without a point;
* `Layout.nested`: positional in the middle of the range, with a point in every number;
* `Layout.text`: the text of a number.
-/
import RowQuery.Number.Shortest

namespace RowQuery.Number

/-- How many digits stand before the point, for which a number is written positionally. -/
inductive PositionalRange
  | always
  | between (least greatest : Int)
deriving DecidableEq, Repr

/-- Whether a number with that many digits before the point is written positionally. -/
def PositionalRange.holds : PositionalRange → Int → Bool
  | .always, _ => true
  | .between least greatest, digits => least ≤ digits && digits ≤ greatest

/-- The layout of a number. -/
structure Layout where
  tie : Tie
  positional : PositionalRange
  /-- A whole number written positionally ends in a point and a zero. -/
  wholePoint : Bool
deriving DecidableEq, Repr

namespace Layout

/-- Every digit of the number in its place, and no point in a whole number. -/
def plain : Layout := ⟨.up, .always, false⟩

/-- Positional from `10 ^ (-5)` to `10 ^ 16`, scientific beyond, a point in every number written
positionally. -/
def nested : Layout := ⟨.even, .between (-4) 16, true⟩

/-- Digits with the point after the first `place` of them. -/
def positionalDigits (layout : Layout) (digits : List Char) (place : Int) : List Char :=
  if place ≤ 0 then
    '0' :: '.' :: List.replicate (-place).toNat '0' ++ digits
  else if place < digits.length then
    digits.take place.toNat ++ '.' :: digits.drop place.toNat
  else
    digits ++ List.replicate (place.toNat - digits.length) '0'
      ++ (if layout.wholePoint then ['.', '0'] else [])

/-- The first digit, the others after a point, and the exponent with its sign. -/
def scientificDigits (digits : List Char) (place : Int) : List Char :=
  let exponent := place - 1
  let power := (if exponent < 0 then '-' else '+') :: Nat.toDigits 10 exponent.natAbs
  match digits with
  | [] => []
  | [digit] => digit :: 'e' :: power
  | digit :: rest => digit :: '.' :: rest ++ 'e' :: power

/-- The digits of a magnitude. -/
def magnitudeDigits (layout : Layout) (magnitude : Magnitude) : List Char :=
  if magnitude.units = 0 then
    '0' :: (if layout.wholePoint then ['.', '0'] else [])
  else
    let decimal := magnitude.shortest layout.tie
    let digits := Nat.toDigits 10 decimal.coefficient
    let place := digits.length + decimal.exponent
    if layout.positional.holds place then layout.positionalDigits digits place
    else scientificDigits digits place

/-- The text of a number: the sign of a zero is kept, and so is the one of an infinity. -/
def text (layout : Layout) : Binary64 → String
  | .nan => "NaN"
  | .infinite negative => if negative then "-inf" else "inf"
  | .finite negative magnitude =>
    String.ofList ((if negative then ['-'] else []) ++ layout.magnitudeDigits magnitude)

end Layout

end RowQuery.Number
