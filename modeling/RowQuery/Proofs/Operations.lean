/-
Operations one after the other.

A table that JSON text holds has each of its columns once, and no other names in its rows. Whatever
is done to it then, filtering, grouping, sorting or stripping, columns can only be lost, and the
only names that can come up in rows beside the columns are the two annotations. So when the table
is written every cell of a row has one place: those in columns in the order of the columns, and the
annotations after them.

* `Operation`, `Operation.apply`, `Operation.run`: what can be done to a table, and done in turn;
* `Table.Tidy`: what is kept of the columns and the names in rows;
* `Table.Tidy.apply`, `Table.Tidy.run`: one operation keeps it, and so do any operations in turn;
* `JsonLayout.objectText`, `JsonLayout.arrayText`: the text around members, and around rows;
* `Operation.run_columns_and_names`: columns, names and text of a table after any operations.
-/
import RowQuery.Proofs.Filtering.Idempotence
import RowQuery.Proofs.Grouping.Cells
import RowQuery.Proofs.Json.Table
import RowQuery.Proofs.Sorting.Rows
import RowQuery.Proofs.Table.Reading

namespace RowQuery

/-! ### Operations -/

/-- What can be done to a table. The columns to group or to sort by may be any, not only those that
a text can spell. -/
inductive Operation
  | filter (text : String) (mode : MatchMode)
  /-- A filter that has to spell a condition. -/
  | filterStrict (text : String) (mode : MatchMode)
  | groupBy (requested : List String)
  | sortBy (keys : List SortKey)
  | stripAnnotations

namespace Operation

/-- The table after an operation, if there is one. -/
def apply (t : Table) : Operation → Except ParseError Table
  | filter text mode => .ok (t.filter text mode)
  | filterStrict text mode => t.filterStrict text mode
  | groupBy requested => .ok (t.groupBy requested)
  | sortBy keys => .ok (t.sortBy keys)
  | stripAnnotations => .ok t.stripAnnotations

/-- The table after operations in turn, if all of them succeed. -/
def run : Table → List Operation → Except ParseError Table
  | t, [] => .ok t
  | t, operation :: rest => do run (← operation.apply t) rest

end Operation

/-! ### What every operation keeps -/

namespace Table

/-- Every column is one of those given and stands once, and a row has no other names than columns
and annotations. -/
structure Tidy (known : List String) (t : Table) : Prop where
  nodup : t.columns.Nodup
  subset : t.columns ⊆ known
  names : ∀ r ∈ t.rows, ∀ name ∈ r.names,
    name ∈ t.columns ∨ name = groupKeyColumn ∨ name = groupCountColumn

variable {known : List String} {t t' : Table}

/-- The columns and the names stay if rows are left out, moved, repeated, or lose cells. -/
lemma Tidy.of_names (h : t.Tidy known) (hcolumns : t'.columns = t.columns)
    (hrows : ∀ r' ∈ t'.rows, ∃ r ∈ t.rows, r'.names ⊆ r.names) : t'.Tidy known where
  nodup := hcolumns ▸ h.nodup
  subset := hcolumns ▸ h.subset
  names := by
    intro r' hr' name hname
    obtain ⟨r, hr, hsubset⟩ := hrows r' hr'
    exact hcolumns ▸ h.names r hr name (hsubset hname)

/-- A condition selects rows of the table. -/
lemma Tidy.select (h : t.Tidy known) (e : Condition) (mode : MatchMode) :
    (t.select e mode).Tidy known := by
  refine h.of_names rfl fun r hr => ?_
  rw [rows_select, List.mem_flatMap] at hr
  obtain ⟨n, -, hn⟩ := hr
  exact ⟨r, (List.mem_filter.mp hn).1, List.Subset.refl _⟩

lemma Tidy.selectIfGiven (h : t.Tidy known) (e : Option Condition) (mode : MatchMode) :
    (t.selectIfGiven e mode).Tidy known := by
  cases e with
  | none => exact h
  | some e => exact h.select e mode

/-- A text that spells no condition leaves the table as it is. -/
lemma Tidy.filter (h : t.Tidy known) (text : String) (mode : MatchMode) :
    (t.filter text mode).Tidy known := by
  rw [Table.filter]
  split
  · exact h.selectIfGiven _ mode
  · exact h

lemma Tidy.filterStrict (h : t.Tidy known) {text : String} {mode : MatchMode}
    (ht' : t.filterStrict text mode = .ok t') : t'.Tidy known := by
  obtain ⟨e, -, he⟩ := bind_eq_ok_iff.mp ht'
  cases he
  exact h.selectIfGiven e mode

/-- Grouping leaves some of the columns, and rows with these and both annotations. -/
lemma Tidy.groupBy (h : t.Tidy known) (requested : List String) :
    (t.groupBy requested).Tidy known := by
  rw [Table.groupBy]
  split
  · exact h
  · refine ⟨nodup_eraseDups _, fun c hc => ?_, fun r hr name hname => ?_⟩
    · have hc := (List.mem_filter.mp (List.mem_eraseDups.mp hc)).2
      exact h.subset (List.contains_iff_mem.mp hc)
    · obtain ⟨first, -, rfl⟩ := Grouping.exists_first_of_mem_rows hr
      rcases mem_names_groupedRow.mp hname with hcount | hkey | hcolumn
      · exact .inr (.inr hcount)
      · exact .inr (.inl hkey)
      · exact .inl hcolumn

/-- Sorting moves rows. -/
lemma Tidy.sortBy (h : t.Tidy known) (keys : List SortKey) : (t.sortBy keys).Tidy known := by
  refine h.of_names rfl fun r hr => ?_
  rw [Table.sortBy, sortRows_eq] at hr
  exact ⟨r, (perm_sortBy _ _).mem_iff.mp hr, List.Subset.refl _⟩

/-- Without annotations a row has fewer names. -/
lemma Tidy.stripAnnotations (h : t.Tidy known) : t.stripAnnotations.Tidy known := by
  refine h.of_names rfl fun r' hr' => ?_
  obtain ⟨r, hr, rfl⟩ := List.mem_map.mp hr'
  exact ⟨r, hr, fun name hname => Row.mem_names_of_erase (Row.mem_names_of_erase hname)⟩

/-- One operation keeps the columns and the names. -/
lemma Tidy.apply (h : t.Tidy known) {operation : Operation}
    (happly : operation.apply t = .ok t') : t'.Tidy known := by
  cases operation with
  | filter text mode =>
      cases happly
      exact h.filter text mode
  | filterStrict text mode => exact h.filterStrict happly
  | groupBy requested =>
      cases happly
      exact h.groupBy requested
  | sortBy keys =>
      cases happly
      exact h.sortBy keys
  | stripAnnotations =>
      cases happly
      exact h.stripAnnotations

/-- And so do any operations in turn. -/
lemma Tidy.run (h : t.Tidy known) {operations : List Operation}
    (hrun : Operation.run t operations = .ok t') : t'.Tidy known := by
  induction operations generalizing t with
  | nil =>
      cases hrun
      exact h
  | cons operation rest ih =>
      obtain ⟨between, happly, hrest⟩ := bind_eq_ok_iff.mp hrun
      exact ih (h.apply happly) hrest

/-- A table that a value holds has its columns once each, and no annotations. -/
lemma tidy_of_ofJson {name : String} {v : Json} (h : ofJson name v = .ok t) :
    t.Tidy t.columns :=
  ⟨nodup_columns_of_ofJson h, List.Subset.refl _,
    fun _ hr _ hcolumn => .inl (mem_columns_of_ofJson h hr hcolumn)⟩

end Table

/-! ### The text of a table -/

namespace JsonLayout

/-- The text of an object whose members have given texts. -/
def objectText (layout : JsonLayout) (members : List String) : String :=
  if members.isEmpty then "\x7b\x7d"
  else
    match layout with
    | .compact => "\x7b" ++ ",".intercalate members ++ "\x7d"
    | .pretty => "\x7b\n" ++ ",\n".intercalate (members.map ("    " ++ ·)) ++ "\n  \x7d"

/-- The text of a list of objects that have given texts. -/
def arrayText (layout : JsonLayout) (rows : List String) : String :=
  if rows.isEmpty then "[]"
  else
    match layout with
    | .compact => "[" ++ ",".intercalate rows ++ "]"
    | .pretty => "[\n" ++ ",\n".intercalate (rows.map ("  " ++ ·)) ++ "\n]"

end JsonLayout

/-- The text of a row is made of the texts of its cells. -/
lemma rowText_eq_objectText (layout : JsonLayout) (columns : List String) (r : Row) :
    rowText layout columns r
      = layout.objectText ((writtenNames columns r).map (cellText layout r)) := by
  unfold rowText JsonLayout.objectText
  cases writtenNames columns r <;> cases layout <;> rfl

/-- The text of a table is made of the texts of its rows. -/
lemma jsonText_eq_arrayText (t : Table) (layout : JsonLayout) :
    t.jsonText layout = layout.arrayText (t.rows.map (rowText layout t.columns)) := by
  unfold Table.jsonText JsonLayout.arrayText
  cases t.rows <;> cases layout <;> rfl

/-- The names that are written are those in columns, in the order of the columns, and the others in
ascending order. -/
lemma writtenNames_eq (columns : List String) (r : Row) :
    writtenNames columns r = columns.filter (· ∈ r.names) ++ r.names.filter (· ∉ columns) := by
  refine congrArg₂ (· ++ ·) (List.filter_congr fun c _ => ?_) (List.filter_congr fun name _ => ?_)
  · simp [Row.mem_names_iff]
  · simp

/-- If no column stands twice, no name is written twice. -/
lemma nodup_writtenNames {columns : List String} (h : columns.Nodup) (r : Row) :
    (writtenNames columns r).Nodup := by
  rw [writtenNames_eq]
  refine List.Nodup.append (h.filter _) (r.nodup_names.filter _) fun name hcolumn hother => ?_
  simp_all

/-- **Columns, names and text after any operations.** A table that a value holds is filtered,
grouped, sorted and stripped, any number of times in any order, filters that have to spell a
condition being successful. Then no column stands twice and all of them were columns at the
beginning; a row has no names but columns and annotations; and in the text of the table the cells of
a row stand once each, first those in columns in the order of the columns, and after them the
annotations that are no columns, in ascending order. -/
theorem Operation.run_columns_and_names {name : String} {v : Json} {source t : Table}
    {operations : List Operation} (hsource : Table.ofJson name v = .ok source)
    (hrun : run source operations = .ok t) :
    let inColumns := fun r : Row => t.columns.filter (· ∈ r.names)
    let others := fun r : Row => r.names.filter (· ∉ t.columns)
    t.columns.Nodup ∧ t.columns ⊆ source.columns
    ∧ (∀ r ∈ t.rows, ∀ column ∈ r.names,
        column ∈ t.columns ∨ column = groupKeyColumn ∨ column = groupCountColumn)
    ∧ (∀ r ∈ t.rows, (inColumns r ++ others r).Nodup
        ∧ (∀ column, column ∈ inColumns r ++ others r ↔ column ∈ r.names)
        ∧ (others r).Pairwise (· < ·)
        ∧ ∀ column ∈ others r, column = groupKeyColumn ∨ column = groupCountColumn)
    ∧ ∀ layout, t.jsonText layout = layout.arrayText (t.rows.map fun r =>
        layout.objectText ((inColumns r ++ others r).map (cellText layout r))) := by
  intro inColumns others
  have htidy : t.Tidy source.columns := (Table.tidy_of_ofJson hsource).run hrun
  have hwritten : ∀ r, writtenNames t.columns r = inColumns r ++ others r := writtenNames_eq _
  refine ⟨htidy.nodup, htidy.subset, htidy.names, fun r hr => ⟨?_, fun column => ?_, ?_, ?_⟩,
    fun layout => ?_⟩
  · rw [← hwritten]
    exact nodup_writtenNames htidy.nodup r
  · rw [← hwritten, mem_writtenNames, Row.mem_names_iff]
  · exact r.pairwise_names.filter _
  · intro column hcolumn
    obtain ⟨hmem, hother⟩ := List.mem_filter.mp hcolumn
    exact (htidy.names r hr column hmem).resolve_left (of_decide_eq_true hother)
  · rw [jsonText_eq_arrayText]
    refine congrArg layout.arrayText (List.map_congr_left fun r _ => ?_)
    rw [rowText_eq_objectText, hwritten]

/-- Rows that a filter repeats are counted twice; a column that is called like an annotation keeps
its place among the columns, though grouping puts the key there, and the size comes after them. -/
theorem Operation.run_columns_and_names_grouped :
    let v := Json.array [.object [("$GroupKey$", .boolean true), ("a", .integer 1)],
      .object [("a", .string "1"), ("b", .null)], .object [("b", .integer 2)]]
    let source : Table := ⟨"t", ["$GroupKey$", "a", "b"],
      [.ofList [("$GroupKey$", .boolean true), ("a", .integer 1)],
        .ofList [("a", .string "1"), ("b", .null)], .ofList [("b", .integer 2)]], .exact⟩
    let operations := [Operation.filter "a=1 or a='1'" .exact,
      .groupBy ["a", "$GroupKey$", "c", "a"], .filterStrict "a=1%" .wildcard]
    let t : Table := ⟨"t", ["a", "$GroupKey$"],
      [.ofList [("a", .integer 1), ("$GroupKey$", .string "$1$$true$"),
          ("$GroupCount$", .integer 2)],
        .ofList [("a", .string "1"), ("$GroupKey$", .string "$1$$$"),
          ("$GroupCount$", .integer 2)]], .wildcard⟩
    Table.ofJson "t" v = .ok source ∧ run source operations = .ok t
    ∧ t.columns.Nodup ∧ t.columns ⊆ source.columns
    ∧ (∀ r ∈ t.rows, ∀ column ∈ r.names,
        column ∈ t.columns ∨ column = groupKeyColumn ∨ column = groupCountColumn)
    ∧ t.jsonText .compact
        = "[\x7b\"a\":1,\"$GroupKey$\":\"$1$$true$\",\"$GroupCount$\":2\x7d,"
          ++ "\x7b\"a\":\"1\",\"$GroupKey$\":\"$1$$$\",\"$GroupCount$\":2\x7d]" := by
  intro v source operations t
  have hsource : Table.ofJson "t" v = .ok source := by decide +kernel
  have hrun : run source operations = .ok t := by decide +kernel
  obtain ⟨hnodup, hsubset, hnames, -, htext⟩ := run_columns_and_names hsource hrun
  exact ⟨hsource, hrun, hnodup, hsubset, hnames, (htext .compact).trans (by decide +kernel)⟩

end RowQuery
