/-
Tables grouped by columns.

Rows with the same texts in the columns form a group; a missing cell has the empty text. The
groups are in the order of their first rows. A grouped row has the cells of the first row in the
columns, a text made of all of them, and the number of rows.

* `Table.groupedColumns`: the columns that count, those that exist, each once;
* `groupTexts`, `groupKeyText`: the texts of a row, and the text made of them;
* `Grouping`, `Grouping.add`: the groups of the rows that have been read, and one row more;
* `Table.groupBy`: one row for every group.
-/
import RowQuery.Key
import RowQuery.Table

namespace RowQuery

/-- The texts of a row in columns. -/
def groupTexts (columns : List String) (r : Row) : List String :=
  columns.map fun c => (r.get? c).elim "" Value.text

/-- The text made of the texts of a group. -/
def groupKeyText (texts : List String) : String :=
  String.join (texts.map fun t => "$" ++ t ++ "$")

/-- The cells of a row in columns; a missing one has the null value. -/
def groupCells (columns : List String) (r : Row) : Row :=
  .ofList (columns.map fun c => (c, (r.get? c).getD .null))

/-- The row of a group before its size is known, from its texts and its first row. -/
def groupHead (columns : List String) (texts : List String) (first : Row) : Row :=
  (groupCells columns first).insert groupKeyColumn (.string (groupKeyText texts))

/-- The row of a group with its size. -/
def withSize (head : Row) (size : Nat) : Row :=
  head.insert groupCountColumn (.integer (Int64.ofInt size))

/-- The groups of the rows that have been read, numbered in the order of their first rows. -/
structure Grouping where
  /-- The number of the group of all rows with given texts. -/
  positions : List (List String × Nat)
  /-- The row of every group before its size is known. -/
  heads : List Row
  /-- How many rows every group has. -/
  sizes : List Nat
deriving DecidableEq

namespace Grouping

/-- No rows have been read. -/
def empty : Grouping := ⟨[], [], []⟩

/-- One row more: it is counted in the group of its texts, or begins a new one. -/
def add (columns : List String) (g : Grouping) (r : Row) : Grouping :=
  let texts := groupTexts columns r
  match g.positions.lookup texts with
  | some i => { g with sizes := g.sizes.modify i (· + 1) }
  | none =>
    { positions := (texts, g.heads.length) :: g.positions
      heads := g.heads ++ [groupHead columns texts r]
      sizes := g.sizes ++ [1] }

/-- The groups of rows. -/
def ofRows (columns : List String) (rows : List Row) : Grouping := rows.foldl (add columns) empty

/-- The rows of the groups. -/
def rows (g : Grouping) : List Row := List.zipWith withSize g.heads g.sizes

end Grouping

namespace Table

/-- The columns of a request that the table has, each once, in the order of the request. -/
def groupedColumns (t : Table) (requested : List String) : List String :=
  (requested.filter t.columns.contains).eraseDups

/-- The table grouped by columns. A table with fewer than two rows is left as it is, and so is
one that has none of the columns. -/
def groupBy (t : Table) (requested : List String) : Table :=
  let columns := t.groupedColumns requested
  if t.count ≤ 1 || columns.isEmpty then t
  else { t with columns, rows := (Grouping.ofRows columns t.rows).rows }

/-- The table grouped by the columns that a text spells. -/
def groupByText (t : Table) (text : String) : Table := t.groupBy (groupColumnsOfText text)

end Table

end RowQuery
