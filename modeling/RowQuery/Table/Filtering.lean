/-
Tables filtered by conditions.

* `Table.select`: the rows that a condition selects;
* `Table.filter`: the same for a text; one that spells no condition selects all rows;
* `Table.filterStrict`: the same, but such a text is an error.
-/
import RowQuery.Condition.Reading
import RowQuery.Table

namespace RowQuery

namespace Table

/-- The rows that a condition selects, in the order of the selection. -/
def select (t : Table) (c : Condition) (mode : MatchMode) : Table :=
  let selection := c.select mode t.rows (noColumns t.rows)
  { t with rows := selection.indices.filterMap (t.rows[·]?), mode }

/-- The table without the rows that a condition leaves out, if there is one. -/
def selectIfGiven (t : Table) (c : Option Condition) (mode : MatchMode) : Table :=
  match c with
  | none => t
  | some c => t.select c mode

/-- The rows for which a text holds; all of them if it spells no condition. -/
def filter (t : Table) (text : String) (mode : MatchMode) : Table :=
  match Condition.ofText text with
  | .ok c => t.selectIfGiven c mode
  | .error _ => t

/-- The rows for which a text holds, which has to spell a condition. -/
def filterStrict (t : Table) (text : String) (mode : MatchMode) : Except ParseError Table := do
  return t.selectIfGiven (← Condition.ofTextResolved text) mode

end Table

end RowQuery
