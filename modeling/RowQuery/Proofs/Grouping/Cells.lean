/-
The cells of grouped rows.

A grouped row has a cell in every column that the rows are grouped by, and two more with its key
and its size. In a column of another name than these two it has the value of the first row of its
group; a column of one of these two names, as a table has that was grouped before, loses its values.

* `get?_groupCells`, `get?_groupedRow`: what is found in a grouped row;
* `mem_names_groupedRow`: the names in it;
* `groupedRow?`, `Grouping.rows_ofRows`, `Grouping.forall₂_rows_ofRows`: the rows of all groups, by
  the texts of the groups;
* `Grouping.exists_first_of_mem_rows`: every grouped row has a first row;
* `groupBy_cells_of_first`: the rows of a grouped table, group by group;
* `not_forall_groupBy_cells`: a table that was grouped before is grouped by the sizes.
-/
import RowQuery.Proofs.Grouping
import RowQuery.Proofs.Row

namespace RowQuery

variable {columns : List String} {rows : List Row} {first : Row} {name : String}

/-- In the columns that count there is the value of the row, a missing one being null. -/
lemma get?_groupCells (columns : List String) (r : Row) (name : String) :
    (groupCells columns r).get? name
      = if name ∈ columns then some ((r.get? name).getD .null) else none := by
  have hitem : ∀ c ∈ columns.map (fun c => (c, (r.get? c).getD .null)),
      some ((r.get? c.1).getD .null) = some c.2 := by
    intro c hc
    obtain ⟨column, -, rfl⟩ := List.mem_map.mp hc
    rfl
  have hnames : (columns.map fun c => (c, (r.get? c).getD .null)).map (·.1) = columns := by
    rw [List.map_map]
    exact List.map_id columns
  rw [Row.get?, groupCells, Row.ofList, Row.cells_foldl_insert,
    Entry.lookup_foldl_insertEntry (fun name => some ((r.get? name).getD .null)) hitem, hnames]
  rfl

/-- In a column of another name than the two annotations a grouped row has the value of its first
row. -/
lemma get?_groupedRow {texts : List String} {size : Nat} (hcolumn : name ∈ columns)
    (hkey : name ≠ groupKeyColumn) (hcount : name ≠ groupCountColumn) :
    (withSize (groupHead columns texts first) size).get? name
      = some ((first.get? name).getD .null) := by
  rw [withSize, Row.get?_insert_of_ne _ _ hcount, groupHead, Row.get?_insert_of_ne _ _ hkey,
    get?_groupCells, if_pos hcolumn]

/-- Under the name of the first annotation a grouped row has its key. -/
lemma get?_groupedRow_key (columns texts : List String) (first : Row) (size : Nat) :
    (withSize (groupHead columns texts first) size).get? groupKeyColumn
      = some (.string (groupKeyText texts)) := by
  rw [withSize, Row.get?_insert_of_ne _ _ (by decide), groupHead, Row.get?_insert_self]

/-- The names in a grouped row are the columns that count and the two annotations. -/
lemma mem_names_groupedRow {texts : List String} {size : Nat} :
    name ∈ (withSize (groupHead columns texts first) size).names
      ↔ name = groupCountColumn ∨ name = groupKeyColumn ∨ name ∈ columns := by
  rw [withSize, Row.mem_names_insert, groupHead, Row.mem_names_insert, Row.mem_names_iff,
    get?_groupCells]
  by_cases hcolumn : name ∈ columns <;> simp [hcolumn]

/-! ### The rows of all groups -/

/-- The row of the group with given texts, if a row has them. -/
def groupedRow? (columns : List String) (rows : List Row) (texts : List String) : Option Row :=
  (firstWithTexts? columns rows texts).map fun first =>
    withSize (groupHead columns texts first) (countWithTexts columns rows texts)

namespace Grouping

/-- The rows of the groups, in the order of their texts. -/
lemma rows_ofRows (columns : List String) (rows : List Row) :
    (ofRows columns rows).rows
      = (distinctTexts columns rows).filterMap (groupedRow? columns rows) := by
  have hrows : (ofRows columns rows).rows.map some
      = (distinctTexts columns rows).map (groupedRow? columns rows) :=
    (describes_ofRows columns rows).rows_eq
  simpa [List.filterMap_map] using congrArg (List.filterMap id) hrows

/-- Every grouped row has the texts and the cells of a row. -/
lemma exists_first_of_mem_rows {r : Row} (h : r ∈ (ofRows columns rows).rows) :
    ∃ first ∈ rows, r = withSize (groupHead columns (groupTexts columns first) first)
      (countWithTexts columns rows (groupTexts columns first)) := by
  rw [rows_ofRows, List.mem_filterMap] at h
  obtain ⟨texts, -, hrow⟩ := h
  obtain ⟨first, hfirst, rfl⟩ := Option.map_eq_some_iff.mp hrow
  obtain rfl : groupTexts columns first = texts := by simpa using List.find?_some hfirst
  exact ⟨first, List.mem_of_find?_eq_some hfirst, rfl⟩

/-- The groups and their rows are in line. -/
lemma forall₂_rows_ofRows (columns : List String) (rows : List Row) :
    List.Forall₂ (fun texts r => groupedRow? columns rows texts = some r)
      (distinctTexts columns rows) (ofRows columns rows).rows := by
  have hrows : (ofRows columns rows).rows.map some
      = (distinctTexts columns rows).map (groupedRow? columns rows) :=
    (describes_ofRows columns rows).rows_eq
  have hline : List.Forall₂ Eq ((distinctTexts columns rows).map (groupedRow? columns rows))
      ((ofRows columns rows).rows.map some) := by
    rw [List.forall₂_eq_eq_eq, hrows]
  rwa [List.forall₂_map_left_iff, List.forall₂_map_right_iff] at hline

end Grouping

/-! ### Grouped tables -/

/-- **The cells of grouped rows.** A table with two rows or more, grouped by columns of which it has
one at least, has the rows of its groups in their order. In every column that it is grouped by,
unless the column is called like one of the two annotations, the row of a group has the value of the
first row of the group, a missing one being null. Under the names of the annotations it has the key
and the size of the group, also if it is grouped by columns of these names. -/
theorem groupBy_cells_of_first (t : Table) (requested : List String) (hrows : 2 ≤ t.count)
    (hcolumn : ∃ c ∈ requested, c ∈ t.columns) :
    let columns := t.groupedColumns requested
    (t.groupBy requested).columns = columns
    ∧ List.Forall₂ (fun texts r =>
        ∃ first, firstWithTexts? columns t.rows texts = some first
          ∧ (∀ c ∈ columns, c ≠ groupKeyColumn → c ≠ groupCountColumn →
              r.get? c = some ((first.get? c).getD .null))
          ∧ r.get? groupKeyColumn = some (.string (groupKeyText texts))
          ∧ r.get? groupCountColumn
              = some (.integer (Int64.ofInt (countWithTexts columns t.rows texts))))
        (distinctTexts columns t.rows) (t.groupBy requested).rows := by
  intro columns
  rw [groupBy_eq hrows hcolumn]
  refine ⟨rfl, (Grouping.forall₂_rows_ofRows columns t.rows).imp fun texts r hr => ?_⟩
  obtain ⟨first, hfirst, rfl⟩ := Option.map_eq_some_iff.mp hr
  exact ⟨first, hfirst, fun c hc hkey hcount => get?_groupedRow hc hkey hcount,
    get?_groupedRow_key columns texts first _, Row.get?_insert_self _ _ _⟩

/-- A number and its text are in one group, which keeps the number of its first row; a column that
this row lacks has the null value, and the size takes the place of the one that was there. -/
theorem groupBy_cells_regrouped :
    let t : Table :=
      { name := "t", columns := ["a", "b", groupCountColumn]
        rows := [.ofList [("a", .integer 1), (groupCountColumn, .integer 7)],
          .ofList [("a", .integer 2), ("b", .string "x"), (groupCountColumn, .integer 7)],
          .ofList [("a", .string "1"), ("b", .string ""), (groupCountColumn, .string "7")]] }
    let requested := ["b", "a", groupCountColumn]
    2 ≤ t.count ∧ (∃ c ∈ requested, c ∈ t.columns)
    ∧ distinctTexts (t.groupedColumns requested) t.rows = [["", "1", "7"], ["x", "2", "7"]]
    ∧ List.Forall₂ (fun texts r =>
        ∃ first, firstWithTexts? (t.groupedColumns requested) t.rows texts = some first
          ∧ r.get? "a" = some ((first.get? "a").getD .null)
          ∧ r.get? "b" = some ((first.get? "b").getD .null))
        (distinctTexts (t.groupedColumns requested) t.rows) (t.groupBy requested).rows
    ∧ (t.groupBy requested).rows.map (fun r => (r.get? "a", r.get? "b", r.get? groupCountColumn))
        = [(some (.integer 1), some .null, some (.integer 2)),
          (some (.integer 2), some (.string "x"), some (.integer 1))] := by
  intro t requested
  have hrows : 2 ≤ t.count := by decide
  have hcolumn : ∃ c ∈ requested, c ∈ t.columns := by decide
  obtain ⟨-, hgroups⟩ := groupBy_cells_of_first t requested hrows hcolumn
  refine ⟨hrows, hcolumn, by decide +kernel, hgroups.imp fun texts r hr => ?_, by decide +kernel⟩
  obtain ⟨first, hfirst, hcells, -⟩ := hr
  exact ⟨first, hfirst, hcells "a" (by decide +kernel) (by decide) (by decide),
    hcells "b" (by decide +kernel) (by decide) (by decide)⟩

/-- Not every column keeps its values: when a table that was grouped before is grouped by the sizes,
its rows have the sizes of the new groups in the place of the old ones. -/
theorem not_forall_groupBy_cells :
    ¬ ∀ (t : Table) (requested : List String), 2 ≤ t.count → (∃ c ∈ requested, c ∈ t.columns) →
      List.Forall₂ (fun texts r =>
        ∃ first, firstWithTexts? (t.groupedColumns requested) t.rows texts = some first
          ∧ ∀ c ∈ t.groupedColumns requested, r.get? c = some ((first.get? c).getD .null))
        (distinctTexts (t.groupedColumns requested) t.rows) (t.groupBy requested).rows := by
  intro h
  let row := fun (name : String) (size : Int64) =>
    Row.ofList [("name", .string name), (groupCountColumn, .integer size)]
  let t : Table := ⟨"t", ["name", groupCountColumn], [row "CN" 3, row "US" 1, row "FR" 1], .exact⟩
  have hcolumns : t.groupedColumns [groupCountColumn] = [groupCountColumn] := by decide
  have hgroups : distinctTexts [groupCountColumn] t.rows = [["3"], ["1"]] := by decide +kernel
  have hsizes : (t.groupBy [groupCountColumn]).rows.map (·.get? groupCountColumn)
      = [some (.integer 1), some (.integer 2)] := by decide +kernel
  have hfirst : (firstWithTexts? [groupCountColumn] t.rows ["3"]).map (·.get? groupCountColumn)
      = some (some (.integer 3)) := by decide +kernel
  have hcells := h t [groupCountColumn] (by decide) (by decide)
  rw [hcolumns, hgroups] at hcells
  obtain ⟨r, rows, hr, -, hrows⟩ := List.forall₂_cons_left_iff.mp hcells
  obtain ⟨first, hfirst', hcell⟩ := hr
  rw [hrows, List.map_cons] at hsizes
  rw [hfirst', Option.map_some, Option.some_inj] at hfirst
  have hlost := hcell groupCountColumn List.mem_cons_self
  rw [hfirst, (List.cons.inj hsizes).1] at hlost
  exact absurd hlost (by decide)

end RowQuery
