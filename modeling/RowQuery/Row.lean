/-
Rows: values under the names of columns.

A row keeps its cells in ascending order of their names, so rows with the same cells are equal.

* `Row.get?`: the value under a name;
* `Row.insert`, `Row.erase`: a row with one cell more or less;
* `get?_insert_self`, `get?_insert_of_ne`, `get?_erase_self`, `get?_erase_of_ne`: what the two
  do to every name.
-/
import RowQuery.Entry
import RowQuery.Value

namespace RowQuery

/-- A cell: the name of its column and its value. -/
abbrev Cell := Entry Value

/-- The cells of a row, in ascending order of their names. -/
structure Row where
  cells : List Cell
  ascending : Ascending cells
deriving DecidableEq

namespace Row

/-- A row without cells. -/
def empty : Row := ⟨[], List.Pairwise.nil⟩

/-- The value under a name. -/
def get? (r : Row) (name : String) : Option Value := Entry.lookup name r.cells

/-- The row with a value under a name, in place of the one that was there. -/
def insert (r : Row) (name : String) (value : Value) : Row :=
  ⟨Entry.insertEntry name value r.cells, Entry.ascending_insertEntry name value r.ascending⟩

/-- The row without the cell of a name. -/
def erase (r : Row) (name : String) : Row :=
  ⟨r.cells.filter (·.1 != name), r.ascending.filter _⟩

/-- The row of given cells; of two with one name the later one counts. -/
def ofList (cells : List Cell) : Row := cells.foldl (fun r c => r.insert c.1 c.2) empty

/-- The names of a row in ascending order. -/
def names (r : Row) : List String := r.cells.map (·.1)

/-! ### Lookup after a change -/

/-- An inserted value is found. -/
@[simp] theorem get?_insert_self (r : Row) (name : String) (value : Value) :
    (r.insert name value).get? name = some value :=
  Entry.lookup_insertEntry_self name value r.cells

/-- An insertion leaves other names alone. -/
theorem get?_insert_of_ne (r : Row) {name other : String} (value : Value) (hne : other ≠ name) :
    (r.insert name value).get? other = r.get? other :=
  Entry.lookup_insertEntry_of_ne value r.cells hne

/-- An erased name has no value. -/
@[simp] theorem get?_erase_self (r : Row) (name : String) : (r.erase name).get? name = none := by
  refine Entry.lookup_eq_none fun c hc => ?_
  simpa using (List.mem_filter.1 hc).2

/-- An erasure leaves other names alone. -/
theorem get?_erase_of_ne (r : Row) {name other : String} (hne : other ≠ name) :
    (r.erase name).get? other = r.get? other :=
  Entry.lookup_filter_of_ne r.cells hne

end Row

end RowQuery
