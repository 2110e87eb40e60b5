/-
Arithmetic progressions of code points, the rows of the character tables.

* `CodeRange`: the code points from `first` to `last`, every `step`-th of them;
* `CodeRange.contains`, `CodeRange.holds`: membership in one row, and in a table of rows.
-/

namespace RowQuery.Text

/-- The code points `first`, `first + step`, and so on up to `last`. -/
structure CodeRange where
  first : Nat
  last : Nat
  step : Nat
deriving DecidableEq, Repr

namespace CodeRange

/-- Membership of a code point in one row. -/
def contains (row : CodeRange) (code : Nat) : Bool :=
  row.first ≤ code && code ≤ row.last && (code - row.first) % row.step == 0

/-- Membership of a character in a table of rows. -/
def holds (table : List CodeRange) (c : Char) : Bool :=
  table.any (·.contains c.toNat)

end CodeRange

end RowQuery.Text
