/-
Tables sorted by columns.

Two cells are compared as numbers if both are numbers, and by their texts otherwise. That is no
order on a column of both kinds, so which rows are compared matters: neighbouring runs are merged,
of length one at first, and a row goes before an earlier one only if it is less.

* `compareRows`: by the first column in which two rows differ;
* `mergePairs`, `mergeRuns`, `sortBy`: merging runs until one is left;
* `Table.sortBy`: the table with its rows sorted.
-/
import RowQuery.Key
import RowQuery.Table

namespace RowQuery

open Number (Conversion)

/-! ### Comparing rows -/

/-- The order of two values: as numbers if both are, or else by their texts. -/
def Value.compare [Conversion] (a b : Value) : Ordering :=
  (a.compareNumbers? b).getD (Ord.compare a.text b.text)

/-- The order of two rows in a column, where a missing cell has the null value. -/
def SortKey.compare [Conversion] (key : SortKey) (a b : Row) : Ordering :=
  let o := ((a.get? key.column).getD .null).compare ((b.get? key.column).getD .null)
  match key.direction with
  | .ascending => o
  | .descending => o.swap

/-- The order of two rows in the first column in which they differ. -/
def compareRows [Conversion] : List SortKey → Row → Row → Ordering
  | [], _, _ => .eq
  | key :: rest, a, b => (key.compare a b).then (compareRows rest a b)

/-! ### Merging -/

/-- Every two neighbouring runs merged; an item of the second goes first only if it is less. -/
def mergePairs {α : Type} (compare : α → α → Ordering) : List (List α) → List (List α)
  | a :: b :: rest => a.merge b (fun x y => compare y x != .lt) :: mergePairs compare rest
  | runs => runs

/-- Merges runs until one is left, in a number of rounds. -/
def mergeRuns {α : Type} (compare : α → α → Ordering) : Nat → List (List α) → List α
  | _, [] => []
  | _, [run] => run
  | 0, runs => runs.flatten
  | rounds + 1, runs => mergeRuns compare rounds (mergePairs compare runs)

/-- The items sorted; there are never more rounds than items. -/
def sortBy {α : Type} (compare : α → α → Ordering) (items : List α) : List α :=
  mergeRuns compare items.length (items.map fun a => [a])

/-- The rows sorted by keys. -/
def sortRows [Conversion] (keys : List SortKey) (rows : List Row) : List Row :=
  if rows.length ≤ 1 || keys.isEmpty then rows else sortBy (compareRows keys) rows

namespace Table

/-- The table with its rows sorted. -/
def sortBy (t : Table) (keys : List SortKey) : Table := { t with rows := sortRows keys t.rows }

/-- The table sorted by the keys that a text spells. -/
def sortByText (t : Table) (text : String) : Table := t.sortBy (sortKeysOfText text)

end Table

end RowQuery
