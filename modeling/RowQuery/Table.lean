/-
Tables: rows under a list of columns.

* `Table`: a name, the columns in order, the rows in order, and the mode of the last filter;
* `groupKeyColumn`, `groupCountColumn`: the columns that grouping adds to rows.
-/
import RowQuery.Matching

namespace RowQuery

/-- A table. Rows may lack columns, and may have cells beside them. -/
structure Table where
  name : String
  columns : List String
  rows : List Row
  /-- How the filter matched that made the table. -/
  mode : MatchMode := .exact
deriving DecidableEq

/-- The column under which a grouped row has the key of its group. -/
def groupKeyColumn : String := "$GroupKey$"

/-- The column under which a grouped row has the size of its group. -/
def groupCountColumn : String := "$GroupCount$"

namespace Table

/-- The number of rows. -/
def count (t : Table) : Nat := t.rows.length

/-- The table with one row more. -/
def push (t : Table) (r : Row) : Table := { t with rows := t.rows ++ [r] }

/-- The table without the columns that grouping adds to rows. -/
def stripAnnotations (t : Table) : Table :=
  { t with rows := t.rows.map fun r => (r.erase groupKeyColumn).erase groupCountColumn }

end Table

end RowQuery
