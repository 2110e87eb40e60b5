/-
Filtering before and after grouping.

A comparison that asks for equal or different texts sees nothing else of a cell. Where the columns
of a condition are among those that rows are grouped by, the rows of a group have the same texts
there, so they are selected together, and the grouped row with them. Then filtering and grouping
can change places, as long as the condition has no `or` that puts rows in another order.

* `Condition.comparesTexts`, `Condition.joinsOnlyAnd`: comparisons of texts only, and no `or`;
* `emitted_congr`: such comparisons do not tell apart rows with the same texts;
* `Table.rows_select_of_joinsOnlyAnd`: without `or` the selected rows stay in their order;
* `Table.groupBy_select`: a filtered table grouped is the grouped table filtered.
-/
import RowQuery.Proofs.Filtering.Idempotence
import RowQuery.Proofs.Grouping.Selection
import RowQuery.Proofs.Matching.Boolean

namespace RowQuery

/-! ### Comparisons of texts -/

/-- Asking for equal or for different texts, a comparison accepts values with the same text alike,
in every mode. -/
lemma CellTest.accepts_congr {relation : Relation} (hrelation : relation.isOrdering = false)
    (mode : MatchMode) (literal : String) {v v' : Value} (htext : v.text = v'.text) :
    (ofComparison mode relation literal).accepts v
      = (ofComparison mode relation literal).accepts v' := by
  rw [ofComparison, hrelation, if_neg Bool.false_ne_true]
  split
  · rw [accepts, accepts, htext]
  · rw [accepts, accepts, htext]
  · rfl

/-- In given columns two rows have the same texts, or both have none. -/
def Row.SameTexts (columns : List String) (r r' : Row) : Prop :=
  ∀ c ∈ columns, (r.get? c).map Value.text = (r'.get? c).map Value.text

namespace Condition

/-- Whether the comparisons of a condition ask only for equal texts, or for different ones. -/
def comparesTexts : Condition → Bool
  | comparison _ relation _ => !relation.isOrdering
  | unresolved .. => true
  | join _ left right => left.comparesTexts && right.comparesTexts

/-- Whether no two parts of a condition are joined by `or`. -/
def joinsOnlyAnd : Condition → Bool
  | comparison .. => true
  | unresolved .. => true
  | join .and left right => left.joinsOnlyAnd && right.joinsOnlyAnd
  | join .or _ _ => false

variable {mode : MatchMode} {row row' : Row}

/-- Such a comparison holds alike for rows with the same text in its column. -/
lemma passes_congr {column literal : String} {relation : Relation}
    (hrelation : relation.isOrdering = false) (h : row.SameTexts [column] row') :
    row.passes column (.ofComparison mode relation literal)
      = row'.passes column (.ofComparison mode relation literal) := by
  have hcolumn := h column (List.mem_singleton_self column)
  rw [Row.passes, Row.passes]
  generalize row.get? column = o, row'.get? column = o' at hcolumn ⊢
  cases o with
  | none => rw [Option.map_eq_none_iff.mp hcolumn.symm]
  | some v =>
      obtain ⟨v', rfl, htext⟩ := Option.map_eq_some_iff.mp hcolumn.symm
      exact CellTest.accepts_congr hrelation mode literal htext.symm

/-- Of two rows with the same texts the last comparison that holds is the same. -/
lemma lastHit_congr {e : Condition} (htexts : e.comparesTexts = true)
    (h : row.SameTexts e.columns row') : e.lastHit mode row = e.lastHit mode row' := by
  induction e with
  | comparison column relation literal =>
      have hrelation : relation.isOrdering = false := by simpa [comparesTexts] using htexts
      rw [lastHit, passes_congr hrelation h, lastHit]
  | unresolved column operator literal => rfl
  | join connective left right ihl ihr =>
      obtain ⟨hleft, hright⟩ := Bool.and_eq_true_iff.mp htexts
      rw [lastHit, ihl hleft fun c hc => h c (List.mem_append_left _ hc),
        ihr hright fun c hc => h c (List.mem_append_right _ hc), lastHit]

/-- Rows with the same texts are selected under the same leaves. -/
lemma emitted_congr {e : Condition} (htexts : e.comparesTexts = true)
    (h : row.SameTexts e.columns row') : e.emitted mode row = e.emitted mode row' := by
  have hlast : e.lastHit mode row = e.lastHit mode row' := lastHit_congr htexts h
  induction e with
  | comparison column relation literal =>
      have hrelation : relation.isOrdering = false := by simpa [comparesTexts] using htexts
      rw [emitted, passes_congr hrelation h, emitted]
  | unresolved column operator literal => rfl
  | join connective left right ihl ihr =>
      obtain ⟨hleft, hright⟩ := Bool.and_eq_true_iff.mp htexts
      have hl : row.SameTexts left.columns row' := fun c hc => h c (List.mem_append_left _ hc)
      have hr : row.SameTexts right.columns row' := fun c hc => h c (List.mem_append_right _ hc)
      have hleft' := ihl hleft hl (lastHit_congr hleft hl)
      have hright' := ihr hright hr (lastHit_congr hright hr)
      cases connective with
      | and => rw [emitted, emitted, hlast, hleft']
      | or => rw [emitted, emitted, hleft', hright']

/-- Without `or` a row is selected under the left-most leaf only. -/
lemma eq_zero_of_mem_emitted {e : Condition} (hand : e.joinsOnlyAnd = true) {n : ℕ}
    (hn : n ∈ e.emitted mode row) : n = 0 := by
  induction e with
  | comparison column relation literal =>
      rw [emitted] at hn
      split at hn <;> simp_all
  | unresolved column operator literal => cases hn
  | join connective left right ihl ihr =>
      cases connective with
      | and =>
          rw [emitted] at hn
          split at hn
          · cases hn
          · exact ihl (Bool.and_eq_true_iff.mp hand).1 hn
      | or => cases hand

/-- A condition has a leaf. -/
lemma leafCount_pos (e : Condition) : 0 < e.leafCount := by
  induction e with
  | comparison column relation literal => exact Nat.one_pos
  | unresolved column operator literal => exact Nat.one_pos
  | join connective left right ihl ihr => exact Nat.add_pos_left ihl _

/-- A condition compares a column. -/
lemma leadingColumn_mem_columns (e : Condition) : e.leadingColumn ∈ e.columns := by
  induction e with
  | comparison column relation literal => exact List.mem_singleton_self column
  | unresolved column operator literal => exact List.mem_singleton_self column
  | join connective left right ihl ihr => exact List.mem_append_left _ ihl

end Condition

/-! ### Rows of one group -/

section Groups

variable {columns : List String} {rows : List Row} {e : Condition} {mode : MatchMode}

/-- Rows of one group that have the columns of a condition are selected together. -/
lemma uniform_emitted (htexts : e.comparesTexts = true) (hsubset : e.columns ⊆ columns)
    (hpresent : ∀ r ∈ rows, ∀ c ∈ e.columns, (r.get? c).isSome) :
    Uniform columns rows fun row => (e.emitted mode row).contains 0 := by
  intro r hr r' hr' hgroup
  have hsame : r.SameTexts e.columns r' := by
    intro c hc
    obtain ⟨v, hv⟩ := Option.isSome_iff_exists.mp (hpresent r hr c hc)
    obtain ⟨v', hv'⟩ := Option.isSome_iff_exists.mp (hpresent r' hr' c hc)
    have htext := List.map_inj_left.mp hgroup c (hsubset hc)
    rw [hv, hv'] at htext ⊢
    exact congrArg some htext
  exact congrArg (·.contains 0) (Condition.emitted_congr htexts hsame)

/-- A grouped row is selected under the same leaves as its first row, if this has the columns of
the condition and none of them is called like an annotation. -/
lemma emitted_groupedRow (htexts : e.comparesTexts = true) (hsubset : e.columns ⊆ columns)
    (hkey : groupKeyColumn ∉ e.columns) (hcount : groupCountColumn ∉ e.columns) {first : Row}
    (hpresent : ∀ c ∈ e.columns, (first.get? c).isSome) (texts : List String) (size : ℕ) :
    e.emitted mode (withSize (groupHead columns texts first) size) = e.emitted mode first := by
  refine Condition.emitted_congr htexts fun c hc => ?_
  obtain ⟨v, hv⟩ := Option.isSome_iff_exists.mp (hpresent c hc)
  have hne : ∀ {name}, name ∉ e.columns → c ≠ name := fun hname heq => hname (heq ▸ hc)
  rw [get?_groupedRow (hsubset hc) (hne hkey) (hne hcount), hv, Option.getD_some]

end Groups

/-! ### Tables -/

namespace Table

variable {t : Table} {e : Condition} {mode : MatchMode}

/-- Without `or` the selected rows are those of the left-most leaf. -/
lemma rows_select_of_joinsOnlyAnd (hand : e.joinsOnlyAnd = true) :
    (t.select e mode).rows = t.rows.filter fun row => (e.emitted mode row).contains 0 := by
  obtain ⟨k, hk⟩ : ∃ k, e.leafCount = k + 1 := Nat.exists_eq_add_one.mpr e.leafCount_pos
  have hnone : ∀ n ∈ (List.range k).map Nat.succ,
      t.rows.filter (fun row => (e.emitted mode row).contains n) = [] := by
    intro n hn
    obtain ⟨m, -, rfl⟩ := List.mem_map.mp hn
    refine List.filter_eq_nil_iff.mpr fun row _ hmem => ?_
    cases Condition.eq_zero_of_mem_emitted hand (List.contains_iff_mem.mp hmem)
  rw [rows_select, hk, List.range_succ_eq_map, List.flatMap_cons,
    List.flatMap_eq_nil_iff.mpr hnone, List.append_nil]

/-- A column that is asked for and that a table has is one by which it is grouped. -/
lemma mem_groupedColumns {requested : List String} {c : String} (hrequested : c ∈ requested)
    (hcolumn : c ∈ t.columns) : c ∈ t.groupedColumns requested :=
  List.mem_eraseDups.mpr (List.mem_filter.mpr ⟨hrequested, List.contains_iff_mem.mpr hcolumn⟩)

/-- **Filtering below grouping.** A condition without `or` asks only for equal or different texts in
columns that rows are grouped by, none of them called like an annotation and all of them present in
every row. If it leaves two rows at least, then grouping these gives what it selects of the grouped
table, with the same rows in the same order, the same columns, name and mode. -/
theorem groupBy_select (t : Table) (requested : List String) (e : Condition) (mode : MatchMode)
    (hand : e.joinsOnlyAnd = true) (htexts : e.comparesTexts = true)
    (hcolumns : ∀ c ∈ e.columns, c ∈ requested ∧ c ∈ t.columns)
    (hkey : groupKeyColumn ∉ e.columns) (hcount : groupCountColumn ∉ e.columns)
    (hpresent : ∀ r ∈ t.rows, ∀ c ∈ e.columns, (r.get? c).isSome)
    (htwo : 2 ≤ (t.select e mode).count) :
    (t.select e mode).groupBy requested = (t.groupBy requested).select e mode := by
  let columns := t.groupedColumns requested
  have hsubset : e.columns ⊆ columns :=
    fun c hc => mem_groupedColumns (hcolumns c hc).1 (hcolumns c hc).2
  have hsome : ∃ c ∈ requested, c ∈ t.columns := ⟨_, hcolumns _ e.leadingColumn_mem_columns⟩
  have hrows : (t.select e mode).rows
      = t.rows.filter fun row => (e.emitted mode row).contains 0 := rows_select_of_joinsOnlyAnd hand
  have htwo' : 2 ≤ t.count := by
    rw [count, hrows] at htwo
    exact htwo.trans (List.length_filter_le _ _)
  have hgroups : (Grouping.ofRows columns (t.select e mode).rows).rows
      = ((t.groupBy requested).select e mode).rows := by
    rw [hrows, rows_select_of_joinsOnlyAnd hand, groupBy_eq htwo' hsome]
    refine Grouping.rows_ofRows_filter (uniform_emitted htexts hsubset hpresent) fun r hr size => ?_
    rw [emitted_groupedRow htexts hsubset hkey hcount (hpresent r hr)]
  calc (t.select e mode).groupBy requested
      = ⟨t.name, columns, (Grouping.ofRows columns (t.select e mode).rows).rows, mode⟩ :=
        groupBy_eq htwo hsome
    _ = ⟨t.name, columns, ((t.groupBy requested).select e mode).rows, mode⟩ := by rw [hgroups]
    _ = (t.groupBy requested).select e mode := by
        rw [groupBy_eq htwo' hsome]
        rfl

/-- A number and its text are in one group, which is selected as a whole; its first row is the one
with the number, and the comparison on another column than the leading one is a `!=`. -/
theorem groupBy_select_four_rows :
    let row := fun (a b : Value) => Row.ofList [("a", a), ("b", b), ("c", .null)]
    let t : Table := ⟨"t", ["a", "b", "c"], [row (.string "2") .null, row (.integer 1) .null,
      row (.string "1") (.string "x"), row (.string "1") (.bytes [])], .exact⟩
    let e := Condition.join .and (.comparison "a" .equal "%1") (.comparison "b" .notEqual "x")
    let requested := ["b", "d", "a"]
    (e.joinsOnlyAnd = true ∧ e.comparesTexts = true
      ∧ (∀ c ∈ e.columns, c ∈ requested ∧ c ∈ t.columns)
      ∧ groupKeyColumn ∉ e.columns ∧ groupCountColumn ∉ e.columns
      ∧ (∀ r ∈ t.rows, ∀ c ∈ e.columns, (r.get? c).isSome) ∧ 2 ≤ (t.select e .wildcard).count)
    ∧ ((t.select e .wildcard).groupBy requested).rows
        = [.ofList [("a", .integer 1), ("b", .null), (groupKeyColumn, .string "$$$1$"),
            (groupCountColumn, .integer 2)]]
    ∧ (t.select e .wildcard).groupBy requested = (t.groupBy requested).select e .wildcard := by
  intro row t e requested
  have hcolumns : ∀ c ∈ e.columns, c ∈ requested ∧ c ∈ t.columns := by decide
  have hkey : groupKeyColumn ∉ e.columns := by decide
  have hcount : groupCountColumn ∉ e.columns := by decide
  have hpresent : ∀ r ∈ t.rows, ∀ c ∈ e.columns, (r.get? c).isSome := by decide +kernel
  have htwo : 2 ≤ (t.select e .wildcard).count := by decide +kernel
  exact ⟨⟨rfl, rfl, hcolumns, hkey, hcount, hpresent, htwo⟩, by decide +kernel,
    groupBy_select t requested e .wildcard rfl rfl hcolumns hkey hcount hpresent htwo⟩

end Table

end RowQuery
