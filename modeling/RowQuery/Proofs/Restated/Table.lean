/-
Tables restated as texts.

When cells of a table are replaced by their texts, those with binary numbers excepted, nothing can
be told from the rows that a condition selects, from the order in which the rows are sorted, or
from the groups of the rows. For each of the three looks at a cell only through its text and its
numeric forms, and these stay the same.

* `Row.Restated`, `Table.Restated`: cells replaced by their texts in a row, or in a table;
* `Row.Restated.passes_eq`, `compareRows_eq_of_restated`, `Row.Restated.groupTexts_eq`: what
  selecting, sorting and grouping see of rows stays the same;
* `exists_order_of_compareRows_eq`: rows between which no comparison is different are sorted by one
  permutation;
* `Table.Restated.unobservable`: the three together.
-/
import RowQuery.Proofs.Grouping
import RowQuery.Proofs.Restated.Value
import RowQuery.Proofs.Sorting.Rows
import RowQuery.Table.Filtering

namespace RowQuery

open List (Forall₂)

/-! ### Rows -/

/-- The same row with cells replaced by their texts. -/
def Row.Restated (r r' : Row) : Prop :=
  ∀ column, Option.Rel Value.Restated (r.get? column) (r'.get? column)

/-- The same table with cells replaced by their texts. -/
structure Table.Restated (t t' : Table) : Prop where
  name : t'.name = t.name
  columns : t'.columns = t.columns
  mode : t'.mode = t.mode
  rows : Forall₂ Row.Restated t.rows t'.rows

namespace Row.Restated

variable {r r' : Row}

/-- A row is restated by itself. -/
lemma refl (r : Row) : r.Restated r := by
  intro column
  cases r.get? column with
  | none => exact .none
  | some v => exact .some (.same v)

/-- In a column both rows have no value, or both have one. -/
lemma get?_cases (h : r.Restated r') (column : String) :
    r.get? column = none ∧ r'.get? column = none
      ∨ ∃ v v', r.get? column = some v ∧ r'.get? column = some v' ∧ v.Restated v' := by
  have hcolumn := h column
  generalize r.get? column = o, r'.get? column = o' at hcolumn ⊢
  cases hcolumn with
  | some hv => exact .inr ⟨_, _, rfl, rfl, hv⟩
  | none => exact .inl ⟨rfl, rfl⟩

/-- The value of a restated row in a column, a missing one being null, is the value restated. -/
lemma cell (h : r.Restated r') (column : String) :
    ((r.get? column).getD .null).Restated ((r'.get? column).getD .null) := by
  rcases h.get?_cases column with ⟨hr, hr'⟩ | ⟨v, v', hr, hr', hv⟩
  · rw [hr, hr']
    exact .same .null
  · rw [hr, hr']
    exact hv

/-- A restated row passes the same tests. -/
lemma passes_eq (h : r.Restated r') (column : String) (test : CellTest) :
    r'.passes column test = r.passes column test := by
  rw [Row.passes, Row.passes]
  rcases h.get?_cases column with ⟨hr, hr'⟩ | ⟨v, v', hr, hr', hv⟩
  · rw [hr, hr']
  · rw [hr, hr']
    exact hv.accepts_eq test

/-- A restated row has the same texts in columns. -/
lemma groupTexts_eq (h : r.Restated r') (columns : List String) :
    groupTexts columns r' = groupTexts columns r := by
  refine List.map_congr_left fun column _ => ?_
  rcases h.get?_cases column with ⟨hr, hr'⟩ | ⟨v, v', hr, hr', hv⟩
  · rw [hr, hr']
  · rw [hr, hr']
    exact hv.text_eq

/-- Values under the same name are restated in a restated row. -/
lemma insert (h : r.Restated r') (name : String) {v v' : Value} (hv : v.Restated v') :
    (r.insert name v).Restated (r'.insert name v') := by
  intro column
  by_cases hname : column = name
  · subst hname
    rw [get?_insert_self, get?_insert_self]
    exact .some hv
  · rw [get?_insert_of_ne r v hname, get?_insert_of_ne r' v' hname]
    exact h column

/-- The row of a group is restated with its first row. -/
lemma groupRow (h : r.Restated r') (columns texts : List String) (size : ℕ) :
    (withSize (groupHead columns texts r) size).Restated
      (withSize (groupHead columns texts r') size) := by
  have hcells : ∀ (columns : List String) (base base' : Row), base.Restated base' →
      ((columns.map fun c => (c, (r.get? c).getD .null)).foldl
        (fun row c => row.insert c.1 c.2) base).Restated
      ((columns.map fun c => (c, (r'.get? c).getD .null)).foldl
        (fun row c => row.insert c.1 c.2) base') := by
    intro columns
    induction columns with
    | nil => exact fun _ _ hbase => hbase
    | cons column columns ih =>
        exact fun base base' hbase => ih _ _ (hbase.insert column (h.cell column))
  have hhead := (hcells columns .empty .empty (refl _)).insert groupKeyColumn
    (.same (.string (groupKeyText texts)))
  exact hhead.insert groupCountColumn (.same (.integer (Int64.ofInt size)))

end Row.Restated

/-- Restated rows are in the same order. -/
lemma compareRows_eq_of_restated {r r' s s' : Row} (hr : r.Restated r') (hs : s.Restated s')
    (keys : List SortKey) : compareRows keys r' s' = compareRows keys r s := by
  induction keys with
  | nil => rfl
  | cons key rest ih =>
      have hcell := (hr.cell key.column).compare_eq (hs.cell key.column)
      rw [compareRows, compareRows, ih, SortKey.compare, SortKey.compare, hcell]

/-! ### Selecting, sorting and grouping -/

variable {rows rows' : List Row}

/-- What is seen of every restated row is seen of restated rows. -/
lemma map_eq_of_restated {α : Type} {f : Row → α} (hrows : Forall₂ Row.Restated rows rows')
    (hf : ∀ {r r' : Row}, r.Restated r' → f r' = f r) : rows'.map f = rows.map f := by
  induction hrows with
  | nil => rfl
  | cons hr _ ih => rw [List.map_cons, List.map_cons, hf hr, ih]

/-- A condition selects the same rows, whatever they remember. -/
lemma select_eq_of_restated (hrows : Forall₂ Row.Restated rows rows') (mode : MatchMode)
    (c : Condition) (lastColumns : List (Option String)) :
    c.select mode rows' lastColumns = c.select mode rows lastColumns := by
  induction c generalizing lastColumns with
  | comparison column relation literal =>
      have hhits := map_eq_of_restated hrows fun hr =>
        hr.passes_eq column (.ofComparison mode relation literal)
      simp only [Condition.select, selectCell, hhits]
  | unresolved => rfl
  | join connective left right ihleft ihright =>
      simp only [Condition.select, ihleft, ihright]

/-- Restated rows stand at the same positions, and beyond them empty rows stand for both. -/
lemma restated_getD (hrows : Forall₂ Row.Restated rows rows') (i : ℕ) :
    (rows.getD i .empty).Restated (rows'.getD i .empty) := by
  by_cases hi : i < rows.length
  · have hi' : i < rows'.length := hrows.length_eq ▸ hi
    have hget := hrows.get hi hi'
    simpa [List.getElem?_eq_getElem hi, List.getElem?_eq_getElem hi'] using hget
  · have hi' : ¬ i < rows'.length := hrows.length_eq ▸ hi
    simpa [List.getElem?_eq_none (not_lt.mp hi), List.getElem?_eq_none (not_lt.mp hi')]
      using Row.Restated.refl .empty

/-- Rows are at their positions. -/
lemma map_getD_range (rows : List Row) :
    (List.range rows.length).map (fun i => rows.getD i .empty) = rows := by
  refine List.ext_getElem (by simp) fun i _ hi => ?_
  simp [List.getElem?_eq_getElem hi]

/-- Rows between which no comparison is different are sorted by one permutation. -/
lemma exists_order_of_compareRows_eq {keys : List SortKey} (hlength : rows'.length = rows.length)
    (hcompare : ∀ i j, compareRows keys (rows'.getD i .empty) (rows'.getD j .empty)
      = compareRows keys (rows.getD i .empty) (rows.getD j .empty)) :
    ∃ order : List ℕ, order.Perm (List.range rows.length)
      ∧ (sortRows keys rows).map some = order.map (rows[·]?)
      ∧ (sortRows keys rows').map some = order.map (rows'[·]?) := by
  have hsorted : ∀ rows : List Row, (sortRows keys rows).map some
      = (sortBy (fun i j => compareRows keys (rows.getD i .empty) (rows.getD j .empty))
          (List.range rows.length)).map (rows[·]?) := by
    intro rows
    have hmap := sortBy_map (compareRows keys) (fun i => rows.getD i .empty)
      (List.range rows.length)
    rw [map_getD_range] at hmap
    rw [sortRows_eq, hmap, List.map_map]
    refine List.map_congr_left fun i hi => ?_
    have hlt : i < rows.length := List.mem_range.mp ((perm_sortBy _ _).subset hi)
    simp [List.getElem?_eq_getElem hlt]
  refine ⟨_, perm_sortBy _ _, hsorted rows, ?_⟩
  rw [hsorted rows', hlength]
  simp only [hcompare]

/-- The first of restated rows with given texts is restated. -/
lemma firstWithTexts?_of_restated (hrows : Forall₂ Row.Restated rows rows') (columns : List String)
    (texts : List String) :
    Option.Rel Row.Restated (firstWithTexts? columns rows texts)
      (firstWithTexts? columns rows' texts) := by
  induction hrows with
  | nil => exact .none
  | cons hr _ ih =>
      rw [firstWithTexts?, firstWithTexts?, List.find?_cons, List.find?_cons,
        hr.groupTexts_eq columns]
      split
      · exact .some hr
      · exact ih

/-- Restated rows have the same lists of texts. -/
lemma distinctTexts_of_restated (hrows : Forall₂ Row.Restated rows rows') (columns : List String) :
    distinctTexts columns rows' = distinctTexts columns rows := by
  rw [distinctTexts, distinctTexts,
    map_eq_of_restated hrows fun hr => hr.groupTexts_eq columns]

/-- As many restated rows have given texts. -/
lemma countWithTexts_of_restated (hrows : Forall₂ Row.Restated rows rows') (columns : List String)
    (texts : List String) :
    countWithTexts columns rows' texts = countWithTexts columns rows texts := by
  rw [countWithTexts, countWithTexts,
    map_eq_of_restated hrows fun hr => hr.groupTexts_eq columns]

/-- The rows of the groups of restated rows are restated. -/
lemma restated_rows_ofRows (hrows : Forall₂ Row.Restated rows rows') (columns : List String) :
    Forall₂ Row.Restated (Grouping.ofRows columns rows).rows
      (Grouping.ofRows columns rows').rows := by
  -- both have a row for every list of texts, made of its first row
  have hgroups : Forall₂ (Option.Rel Row.Restated)
      ((Grouping.ofRows columns rows).rows.map some)
      ((Grouping.ofRows columns rows').rows.map some) := by
    rw [(Grouping.describes_ofRows columns rows).rows_eq,
      (Grouping.describes_ofRows columns rows').rows_eq, distinctTexts_of_restated hrows,
      List.forall₂_map_left_iff, List.forall₂_map_right_iff]
    refine List.forall₂_same.mpr fun texts _ => ?_
    rw [countWithTexts_of_restated hrows]
    have hfirst := firstWithTexts?_of_restated hrows columns texts
    generalize firstWithTexts? columns rows texts = o,
      firstWithTexts? columns rows' texts = o' at hfirst
    cases hfirst with
    | some hr => exact .some (hr.groupRow columns texts _)
    | none => exact .none
  rw [List.forall₂_map_left_iff, List.forall₂_map_right_iff] at hgroups
  exact hgroups.imp fun r r' h => by cases h with | some hr => exact hr

/-! ### Restated tables -/

namespace Table

/-- A table grouped by columns is restated with the table. -/
lemma Restated.groupBy {t t' : Table} (h : t.Restated t') (requested : List String) :
    (t.groupBy requested).Restated (t'.groupBy requested) := by
  have hcolumns : t'.groupedColumns requested = t.groupedColumns requested := by
    rw [groupedColumns, groupedColumns, h.columns]
  have hcount : t'.count = t.count := h.rows.length_eq.symm
  rw [Table.groupBy, Table.groupBy, hcolumns, hcount]
  split
  · exact h
  · exact ⟨h.name, rfl, h.mode, restated_rows_ofRows h.rows _⟩

/-- **Cells and their texts.** Of a table and the same table with cells replaced by their texts,
where no cell that is replaced is a binary number, every condition selects the same rows in every
mode, and leaves every row with the same memory; any keys sort the rows by one permutation; and
grouped by any columns, rows are grouped by the same texts, so that the groups have the same keys
and sizes. For the text of such a value has the numeric forms of the value, and is in the same
order as a number with every other one. -/
theorem Restated.unobservable (t t' : Table) (h : t.Restated t') :
    (∀ (c : Condition) (mode : MatchMode) (lastColumns : List (Option String)),
        c.select mode t'.rows lastColumns = c.select mode t.rows lastColumns)
    ∧ noColumns t'.rows = noColumns t.rows
    ∧ (∀ keys : List SortKey, ∃ order : List ℕ, order.Perm (List.range t.count)
        ∧ (t.sortBy keys).rows.map some = order.map (t.rows[·]?)
        ∧ (t'.sortBy keys).rows.map some = order.map (t'.rows[·]?))
    ∧ (∀ requested : List String,
        let columns := t.groupedColumns requested
        t'.groupedColumns requested = columns
        ∧ t'.rows.map (groupTexts columns) = t.rows.map (groupTexts columns)
        ∧ (t.groupBy requested).Restated (t'.groupBy requested)
        ∧ (2 ≤ t.count → (∃ c ∈ requested, c ∈ t.columns) →
            (t'.groupBy requested).rows.map (·.get? groupKeyColumn)
                = (t.groupBy requested).rows.map (·.get? groupKeyColumn)
            ∧ (t'.groupBy requested).rows.map (·.get? groupCountColumn)
                = (t.groupBy requested).rows.map (·.get? groupCountColumn)))
    ∧ (∀ v : Value, (∀ x, v ≠ .float x) →
        (Value.string v.text).decimal? = v.decimal? ∧ (Value.string v.text).float? = v.float?
        ∧ ∀ w : Value, (Value.string v.text).compareNumbers? w = v.compareNumbers? w
          ∧ w.compareNumbers? (.string v.text) = w.compareNumbers? v) := by
  have hlength : t'.rows.length = t.rows.length := h.rows.length_eq.symm
  refine ⟨fun c mode => select_eq_of_restated h.rows mode c, ?_, fun keys => ?_,
    fun requested => ?_, fun v hv => ?_⟩
  · exact map_eq_of_restated h.rows fun _ => rfl
  · exact exists_order_of_compareRows_eq hlength fun i j =>
      compareRows_eq_of_restated (restated_getD h.rows i) (restated_getD h.rows j) keys
  · intro columns
    have hcolumns : t'.groupedColumns requested = columns := by
      rw [groupedColumns, h.columns]
      rfl
    refine ⟨hcolumns, map_eq_of_restated h.rows fun hr => hr.groupTexts_eq columns,
      h.groupBy requested, fun hrows hcolumn => ?_⟩
    have hcolumn' : ∃ c ∈ requested, c ∈ t'.columns := by rwa [h.columns]
    have hrows' : 2 ≤ t'.count := by rwa [count, hlength]
    rw [groupBy_eq hrows hcolumn, groupBy_eq hrows' hcolumn', hcolumns]
    have hgroups := Grouping.describes_ofRows columns t.rows
    have hgroups' := Grouping.describes_ofRows columns t'.rows
    constructor
    · rw [hgroups.keys_rows, hgroups'.keys_rows, distinctTexts_of_restated h.rows]
    · rw [hgroups.sizes_rows, hgroups'.sizes_rows, distinctTexts_of_restated h.rows]
      simp only [countWithTexts_of_restated h.rows]
  · have hvalue := Value.Restated.text v hv
    exact ⟨hvalue.decimal?_eq, hvalue.float?_eq, fun w =>
      ⟨hvalue.compareNumbers?_eq (.same w), Value.Restated.compareNumbers?_eq (.same w) hvalue⟩⟩

/-- Bytes that spell no text, an integer and a boolean in place of which their texts stand. -/
theorem restated_two_rows :
    let t : Table :=
      { name := "t", columns := ["a", "b"]
        rows := [.ofList [("a", .bytes [0x31, 0xFF]), ("b", .integer (-12))],
          .ofList [("a", .boolean false), ("b", .null)]] }
    let t' : Table :=
      { t with
        rows := [.ofList [("a", .string "1\ufffd"), ("b", .string "-12")],
          .ofList [("a", .string "false"), ("b", .null)]] }
    let below := Condition.comparison "b" .less "-1.19e1"
    t.Restated t' ∧ 2 ≤ t.count
    ∧ (below.select .exact t'.rows (noColumns t'.rows)).indices = [0]
    ∧ (t'.groupBy ["a"]).rows.map (·.get? groupKeyColumn)
        = [some (.string "$1\ufffd$"), some (.string "$false$")]
    ∧ (Value.string (Value.bytes [0x31, 0xFF]).text).decimal? = none := by
  intro t t' below
  have hbytes : (Value.bytes [0x31, 0xFF]).Restated (.string "1\ufffd") :=
    .of_text_eq (by decide +kernel) (fun _ h => Value.noConfusion h)
  have hinteger : (Value.integer (-12)).Restated (.string "-12") :=
    .of_text_eq (by decide +kernel) (fun _ h => Value.noConfusion h)
  have hboolean : (Value.boolean false).Restated (.string "false") :=
    .of_text_eq (by decide +kernel) (fun _ h => Value.noConfusion h)
  have hrestated : t.Restated t' :=
    ⟨rfl, rfl, rfl, .cons (((Row.Restated.refl .empty).insert "a" hbytes).insert "b" hinteger)
      (.cons (((Row.Restated.refl .empty).insert "a" hboolean).insert "b" (.same .null)) .nil)⟩
  have hcount : 2 ≤ t.count := by decide
  obtain ⟨hselect, hmemory, -, hgroups, hvalue⟩ := Restated.unobservable t t' hrestated
  refine ⟨hrestated, hcount, ?_, ?_, ?_⟩
  · rw [hmemory, hselect]
    decide +kernel
  · obtain ⟨-, -, -, hgrouped⟩ := hgroups ["a"]
    rw [(hgrouped hcount (by decide)).1]
    decide +kernel
  · rw [(hvalue (.bytes [0x31, 0xFF]) (fun _ h => Value.noConfusion h)).1]
    decide +kernel

end Table

end RowQuery
