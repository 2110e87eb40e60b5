/-
Tables from JSON.

A list of objects is a table: every object is a row, and the columns are the names of all
objects, in the order in which they first occur.

* `Value.ofJson`: the cell that a value becomes; lists and objects become their text;
* `RowsError`: why a value is no list of rows;
* `Table.ofJson`: the table of a value.
-/
import RowQuery.Json.Reading
import RowQuery.Json.Writing
import RowQuery.Table

namespace RowQuery

open Number

/-- The integer of a cell, if 64 bits hold it. -/
def cellInteger? (n : Int) : Option Int64 :=
  if Int64.minValue.toInt ≤ n ∧ n ≤ Int64.maxValue.toInt then some (Int64.ofInt n) else none

/-- The cell that a value becomes. -/
def Value.ofJson : Json → Value
  | .null => .null
  | .boolean b => .boolean b
  | .integer n => ((cellInteger? n).map Value.integer).getD (.float (Binary64.ofInt n))
  | .float x => .float x
  | .string s => .string s
  | .array items => .string (Json.array items).text
  | .object members => .string (Json.object members).text

/-- Why a value is no list of rows. -/
inductive RowsError
  | noArray (found : Json.Kind)
  /-- The item at an index is no object. -/
  | noObject (index : Nat) (found : Json.Kind)
deriving DecidableEq, Repr

/-- The wording of an error. -/
def RowsError.message : RowsError → String
  | noArray found => s!"got {found.described}"
  | noObject index found => s!"element {index} is {found.described}"

/-- The cells of an object. -/
def objectCells? : Json → Option (List Cell)
  | .object members => some (members.map fun m => (m.1, Value.ofJson m.2))
  | _ => none

/-- The cells of objects, the first of which has the given index. -/
def objectsCells : Nat → List Json → Except RowsError (List (List Cell))
  | _, [] => .ok []
  | index, item :: rest =>
    match objectCells? item with
    | none => .error (.noObject index item.kind)
    | some cells => do return cells :: (← objectsCells (index + 1) rest)

/-- The names of all cells, in the order in which they first occur. -/
def columnsOf (objects : List (List Cell)) : List String :=
  (objects.flatMap fun cells => cells.map (·.1)).eraseDups

/-- The table of a value. -/
def Table.ofJson (name : String) : Json → Except RowsError Table
  | .array items => do
    let objects ← objectsCells 0 items
    return { name, columns := columnsOf objects, rows := objects.map Row.ofList }
  | other => .error (.noArray other.kind)

end RowQuery
