/-
Quoted texts: quotation marks around a text, and escapes inside it.

An escape is a backslash and a letter, or a backslash, a `u` and the four digits of a unit of
sixteen bits. A character beyond sixteen bits takes two units, a leading and a trailing surrogate.

* `Escaping`, `Escaping.quote`: the characters that are escaped, and a text in quotation marks;
* `Piece`, `pieces?`: the characters and units that stand between quotation marks;
* `join?`: the text that they make;
* `unescape?`: both steps.
-/
import RowQuery.Number.Hexadecimal

namespace RowQuery.Json

open Number

/-- The characters that have a letter, and the letters. -/
def letterEscapes : List (Char × Char) :=
  [('"', '"'), ('\\', '\\'), ('\n', 'n'), ('\r', 'r'), ('\t', 't'), ('\x08', 'b'), ('\x0c', 'f'),
    ('/', '/')]

/-- The character that a letter stands for after a backslash. -/
def ofLetter? (letter : Char) : Option Char :=
  (letterEscapes.find? (·.2 == letter)).map (·.1)

/-- Whether a character has to be escaped in every text. -/
def isRawControl (c : Char) : Bool := c.toNat < 0x20

/-! ### Writing -/

/-- Which characters are escaped in a text that is written. -/
structure Escaping where
  /-- The characters that are written by a letter, and the letters. -/
  letters : List (Char × Char)
  /-- The others that are written by their number. -/
  numbered : Char → Bool

namespace Escaping

/-- A character as it stands between quotation marks. -/
def char (e : Escaping) (c : Char) : List Char :=
  match e.letters.find? (·.1 == c) with
  | some (_, letter) => ['\\', letter]
  | none => if e.numbered c then '\\' :: 'u' :: hexText c.toNat else [c]

/-- A text in quotation marks. -/
def quote (e : Escaping) (s : String) : String :=
  String.ofList ('"' :: s.toList.flatMap e.char ++ ['"'])

end Escaping

/-! ### Reading -/

/-- What stands at one place between quotation marks. -/
inductive Piece
  | char (c : Char)
  /-- A unit of sixteen bits, by its number. -/
  | unit (n : Nat)
deriving DecidableEq, Repr

/-- The characters and units between quotation marks; none if an escape is not well formed or a
control character stands there as it is. -/
def pieces? : List Char → Option (List Piece)
  | [] => some []
  | '\\' :: 'u' :: a :: b :: c :: d :: rest => do
    return .unit (← hexValue? [a, b, c, d]) :: (← pieces? rest)
  | '\\' :: letter :: rest => do
    return .char (← ofLetter? letter) :: (← pieces? rest)
  | c :: rest => if c == '\\' || isRawControl c then none else (pieces? rest).map (.char c :: ·)

/-- The first unit of a character beyond sixteen bits. -/
def isLeading (n : Nat) : Bool := 0xD800 ≤ n && n < 0xDC00

/-- The second unit of a character beyond sixteen bits. -/
def isTrailing (n : Nat) : Bool := 0xDC00 ≤ n && n < 0xE000

/-- The character of a leading and a trailing unit. -/
def pairChar (leading trailing : Nat) : Char :=
  Char.ofNat (0x10000 + (leading - 0xD800) * 0x400 + (trailing - 0xDC00))

/-- The text that pieces make; none if a unit is left without the other one of its character. A
leading unit waits for the next piece. -/
def join? : Option Nat → List Piece → Option (List Char)
  | none, [] => some []
  | some _, [] => none
  | none, .char c :: rest => (join? none rest).map (c :: ·)
  | some _, .char _ :: _ => none
  | none, .unit n :: rest =>
    if isLeading n then join? (some n) rest
    else if isTrailing n then none
    else (join? none rest).map (Char.ofNat n :: ·)
  | some leading, .unit n :: rest =>
    if isTrailing n then (join? none rest).map (pairChar leading n :: ·) else none

/-- The text that stands between quotation marks. -/
def unescape? (raw : List Char) : Option String := do
  return String.ofList (← join? none (← pieces? raw))

end RowQuery.Json
