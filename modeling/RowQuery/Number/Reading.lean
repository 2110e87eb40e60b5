/-
Binary numbers from text.

A number is a sign, digits with at most one point and at least one digit, and a power of ten; or
one of the words for an infinity and for the one that is not a number, in any case.

* `digitValue`: the number that a list of digits writes;
* `Binary64.ofText?`: reads a text, rounding once.
-/
import RowQuery.Number.Binary64

namespace RowQuery.Number

/-- The number that a list of decimal digits writes. -/
def digitValue (digits : List Char) : Nat := Nat.ofDigitChars 10 digits 0

/-- A sign at the front of a text, if there is one, and the rest: `true` for a minus. -/
def splitSign : List Char → Bool × List Char
  | '-' :: rest => (true, rest)
  | '+' :: rest => (false, rest)
  | text => (false, text)

/-- Digits at the front of a text, and the rest. -/
def splitDigits (text : List Char) : List Char × List Char :=
  (text.takeWhile Char.isDigit, text.dropWhile Char.isDigit)

/-- The digits after a point at the front of a text, and the rest; none without a point. -/
def splitFraction : List Char → List Char × List Char
  | '.' :: rest => splitDigits rest
  | text => ([], text)

namespace Binary64

/-- The power of ten after the digits of a number: none, or a mark, a sign and digits. -/
def readExponent? : List Char → Option Int
  | [] => some 0
  | mark :: rest =>
    if mark == 'e' || mark == 'E' then
      let (negative, digits) := splitSign rest
      if digits.isEmpty || !digits.all Char.isDigit then none
      else some (if negative then -(digitValue digits : Int) else digitValue digits)
    else none

/-- A number without its sign. -/
def readUnsigned? (negative : Bool) (text : List Char) : Option Binary64 := do
  let (whole, rest) := splitDigits text
  let (fraction, rest) := splitFraction rest
  if whole.isEmpty && fraction.isEmpty then none
  let exponent ← readExponent? rest
  return ofScientific negative (digitValue (whole ++ fraction)) (exponent - fraction.length)

/-- The word for an infinity or for the one that is not a number. -/
def readWord? (negative : Bool) (text : List Char) : Option Binary64 :=
  let word := text.map Char.toLower
  if word == "inf".toList || word == "infinity".toList then some (.infinite negative)
  else if word == "nan".toList then some .nan
  else none

/-- The number nearest to the one that a text writes. -/
def ofText? (text : String) : Option Binary64 :=
  let (negative, rest) := splitSign text.toList
  (readWord? negative rest).orElse fun _ => readUnsigned? negative rest

end Binary64

end RowQuery.Number
