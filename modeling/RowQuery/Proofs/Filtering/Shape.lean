/-
The shape of filtered tables.

A condition selects rows by their indices. Every comparison finds its rows in ascending order, `or`
puts what one side finds after what the other does, and `and` only leaves out rows of its left side.
So how often a row can be selected, and whether the rows stay in their order, depends on where `or`
stands in the condition, and on nothing else.

* `AscendingRuns`: a list made of so many strictly ascending ones;
* `Condition.width`, `Condition.orOnlyRight`: how many there are for a condition, and the conditions
  for which there is one;
* `Condition.ascendingRuns_select`: the selected indices, by induction on the condition;
* `Table.rows_select_map_some`: the row of every selected index is there;
* `Table.select_shape`: indices, rows, columns, name and mode of a filtered table.
-/
import RowQuery.Proofs.Filtering.Idempotence
import RowQuery.Proofs.Matching.Reuse

namespace RowQuery

open scoped List

/-! ### Ascending runs -/

/-- A list is made of strictly ascending lists one after the other, of so many at most. -/
def AscendingRuns (width : ℕ) (l : List ℕ) : Prop :=
  ∃ runs : List (List ℕ), runs.length ≤ width ∧ (∀ run ∈ runs, run.Pairwise (· < ·))
    ∧ runs.flatten = l

namespace AscendingRuns

variable {width width' : ℕ} {l l' : List ℕ}

/-- A strictly ascending list is one run. -/
lemma of_pairwise (h : l.Pairwise (· < ·)) : AscendingRuns 1 l :=
  ⟨[l], le_rfl, by simpa using h, by simp⟩

/-- The runs of two lists, one list after the other. -/
lemma append (h : AscendingRuns width l) (h' : AscendingRuns width' l') :
    AscendingRuns (width + width') (l ++ l') := by
  obtain ⟨runs, hlength, hruns, rfl⟩ := h
  obtain ⟨runs', hlength', hruns', rfl⟩ := h'
  refine ⟨runs ++ runs', ?_, ?_, List.flatten_append⟩
  · rw [List.length_append]
    exact Nat.add_le_add hlength hlength'
  · exact List.forall_mem_append.mpr ⟨hruns, hruns'⟩

/-- Leaving out items leaves as many runs. -/
lemma filter (h : AscendingRuns width l) (p : ℕ → Bool) : AscendingRuns width (l.filter p) := by
  obtain ⟨runs, hlength, hruns, rfl⟩ := h
  refine ⟨runs.map (List.filter p), ?_, ?_, List.filter_flatten.symm⟩
  · rwa [List.length_map]
  · intro run hrun
    obtain ⟨run, hmem, rfl⟩ := List.mem_map.mp hrun
    exact (hruns run hmem).filter p

/-- An item stands once at most in every run. -/
lemma count_le (h : AscendingRuns width l) (i : ℕ) : l.count i ≤ width := by
  obtain ⟨runs, hlength, hruns, rfl⟩ := h
  have honce : ∀ k ∈ runs.map (List.count i), k ≤ 1 := by
    intro k hk
    obtain ⟨run, hrun, rfl⟩ := List.mem_map.mp hk
    exact List.nodup_iff_count_le_one.mp ((hruns run hrun).imp fun hlt => hlt.ne) i
  calc runs.flatten.count i = (runs.map (List.count i)).sum := List.count_flatten
    _ ≤ (runs.map (List.count i)).length • 1 := List.sum_le_card_nsmul _ 1 honce
    _ = runs.length := by simp
    _ ≤ width := hlength

/-- One run is strictly ascending. -/
lemma pairwise (h : AscendingRuns 1 l) : l.Pairwise (· < ·) := by
  obtain ⟨runs, hlength, hruns, rfl⟩ := h
  cases runs with
  | nil => exact .nil
  | cons run rest =>
      obtain rfl : rest = [] := List.length_eq_zero_iff.mp (by simpa using hlength)
      simpa using hruns run List.mem_cons_self

end AscendingRuns

/-! ### Selected indices -/

namespace Condition

/-- In how many ascending runs a condition selects rows at most. -/
def width : Condition → ℕ
  | comparison .. => 1
  | unresolved .. => 1
  | join .or left right => left.width + right.width
  | join .and left _ => left.width

/-- Whether `or` joins two parts of a condition only on the right side of an `and`. -/
def orOnlyRight : Condition → Bool
  | comparison .. => true
  | unresolved .. => true
  | join .or _ _ => false
  | join .and left _ => left.orOnlyRight

variable {mode : MatchMode} {rows : List Row} {lastColumns : List (Option String)}

/-- With `or` on the right side of an `and` only, there is one run. -/
lemma width_of_orOnlyRight {e : Condition} (h : e.orOnlyRight = true) : e.width = 1 := by
  induction e with
  | comparison column relation literal => rfl
  | unresolved column operator literal => rfl
  | join connective left right ihl _ =>
      cases connective with
      | and => exact ihl h
      | or => cases h

/-- The indices of the rows with a property ascend. -/
lemma pairwise_indicesWhere (rows : List Row) (p : Row → Bool) :
    (indicesWhere rows p).Pairwise (· < ·) :=
  List.pairwise_lt_range.filter _

/-- A conjunction leaves out rows of its left side. -/
lemma indices_select_and_sublist (left right : Condition) :
    ((join .and left right).select mode rows lastColumns).indices
      <+ (left.select mode rows lastColumns).indices := by
  rw [select]
  exact List.filter_sublist

/-- A condition selects rows in as many ascending runs as it is wide. -/
lemma ascendingRuns_select (e : Condition) (lastColumns : List (Option String)) :
    AscendingRuns e.width (e.select mode rows lastColumns).indices := by
  induction e generalizing lastColumns with
  | comparison column relation literal =>
      rw [select, selectCell, indicesOf_map]
      exact .of_pairwise (pairwise_indicesWhere rows _)
  | unresolved column operator literal => exact .of_pairwise .nil
  | join connective left right ihl ihr =>
      cases connective with
      | and =>
          rw [select]
          exact (ihl lastColumns).filter _
      | or =>
          rw [select]
          exact (ihl lastColumns).append (ihr _)

end Condition

/-! ### Filtered tables -/

/-- Indices that ascend strictly and are in range are some of all indices, in their order. -/
lemma sublist_range_of_pairwise {l : List ℕ} {n : ℕ} (h : l.Pairwise (· < ·))
    (hrange : ∀ i ∈ l, i < n) : l <+ List.range n := by
  have hnodup : l.Nodup := h.imp fun hlt => hlt.ne
  have hsubset : l ⊆ List.range n := fun i hi => List.mem_range.mpr (hrange i hi)
  exact List.sublist_of_subperm_of_pairwise (hnodup.subperm hsubset) h List.pairwise_lt_range

/-- The rows at all indices are the rows. -/
lemma filterMap_range_getElem? (rows : List Row) :
    (List.range rows.length).filterMap (rows[·]?) = rows := by
  have hall : indicesWhere rows (fun _ => true) = List.range rows.length := by
    refine List.filter_eq_self.mpr fun i hi => ?_
    simp [List.getElem?_eq_getElem (List.mem_range.mp hi)]
  rw [← hall, filterMap_indicesWhere, List.filter_true]

namespace Table

variable {t : Table} {e : Condition} {mode : MatchMode}

/-- A condition selects rows that are there. -/
lemma lt_count_of_mem_select {i : ℕ} (h : i ∈ (e.select mode t.rows (noColumns t.rows)).indices) :
    i < t.count := by
  rw [Condition.mem_indices_select (Condition.length_noColumns t.rows)] at h
  obtain ⟨row, hrow, -⟩ := h
  exact (List.getElem?_eq_some_iff.mp hrow).1

/-- The row of every selected index is there, however often it is selected. -/
lemma rows_select_map_some (t : Table) (e : Condition) (mode : MatchMode) :
    (t.select e mode).rows.map some
      = (e.select mode t.rows (noColumns t.rows)).indices.map (t.rows[·]?) := by
  rw [select, List.map_filterMap_some_eq_filter_map_isSome]
  refine List.filter_eq_self.mpr fun o ho => ?_
  obtain ⟨i, hi, rfl⟩ := List.mem_map.mp ho
  rw [List.getElem?_eq_getElem (lt_count_of_mem_select hi), Option.isSome_some]

/-- The rows of a filtered table are rows of the table. -/
lemma mem_rows_of_mem_select {r : Row} (h : r ∈ (t.select e mode).rows) : r ∈ t.rows := by
  obtain ⟨i, -, hi⟩ := List.mem_filterMap.mp h
  exact List.mem_of_getElem? hi

/-- Rows that are selected in ascending order stay in their order, none of them twice. -/
lemma rows_select_sublist
    (h : (e.select mode t.rows (noColumns t.rows)).indices.Pairwise (· < ·)) :
    (t.select e mode).rows <+ t.rows := by
  have hsub := (sublist_range_of_pairwise h fun i hi => lt_count_of_mem_select hi).filterMap
    (t.rows[·]?)
  rwa [count, filterMap_range_getElem?] at hsub

/-- **The shape of filtered tables.** A condition selects rows of the table that are there, and the
filtered table has these rows, one for every selected index. What the rows remember from before does
not change the selection. A conjunction selects some of what its left side does, in the same order.
The indices ascend in as many runs as the condition is wide, so no row is selected more often; with
`or` on the right side of an `and` only, they ascend, and the rows stay in their order without
repetition. Name and columns stay, and the mode is that of the filter. -/
theorem select_shape (t : Table) (e : Condition) (mode : MatchMode) :
    let selected := fun e : Condition => ((Matcher.fresh t.rows mode).evaluate e).1
    (∀ i ∈ selected e, i < t.count)
    ∧ (t.select e mode).rows.map some = (selected e).map (t.rows[·]?)
    ∧ (∀ m : Matcher, m.rows = t.rows → m.mode = mode → (m.evaluate e).1 = selected e)
    ∧ (∀ r ∈ (t.select e mode).rows, r ∈ t.rows)
    ∧ (∀ left right, selected (.join .and left right) <+ selected left)
    ∧ AscendingRuns e.width (selected e)
    ∧ (∀ i, (selected e).count i ≤ e.width)
    ∧ (e.orOnlyRight = true →
        (selected e).Pairwise (· < ·) ∧ (t.select e mode).rows <+ t.rows)
    ∧ (t.select e mode).name = t.name
    ∧ (t.select e mode).columns = t.columns
    ∧ (t.select e mode).mode = mode := by
  intro selected
  have hruns : AscendingRuns e.width (selected e) := e.ascendingRuns_select (noColumns t.rows)
  refine ⟨fun i hi => lt_count_of_mem_select hi, t.rows_select_map_some e mode,
    fun m hrows hmode => by rw [m.evaluate_eq_fresh e, hrows, hmode],
    fun r hr => mem_rows_of_mem_select hr, Condition.indices_select_and_sublist, hruns,
    hruns.count_le, fun hor => ?_, rfl, rfl, rfl⟩
  rw [Condition.width_of_orOnlyRight hor] at hruns
  exact ⟨hruns.pairwise, rows_select_sublist hruns.pairwise⟩

/-- With `or` on the right side of an `and`, rows stay in their order, and one for which both sides
of the `or` hold is there once; with the same `or` alone it is there twice. -/
theorem select_shape_three_rows :
    let t : Table := ⟨"t", ["a", "b", "c"],
      [.ofList [("a", .string "1"), ("b", .string "2"), ("c", .string "3")],
        .ofList [("a", .string "1")], .ofList [("a", .string "1"), ("c", .string "3")]], .exact⟩
    let either := Condition.join .or (.comparison "c" .equal "3") (.comparison "b" .equal "2")
    let e := Condition.join .and (.comparison "a" .equal "1%") either
    e.orOnlyRight = true ∧ e.width = 1 ∧ either.width = 2
    ∧ ((Matcher.fresh t.rows .exact).evaluate either).1 = [0, 2, 0]
    ∧ ((Matcher.fresh t.rows .wildcard).evaluate e).1 = [0, 2]
    ∧ (t.select e .wildcard).rows <+ t.rows
    ∧ (t.select e .wildcard).mode = .wildcard := by
  intro t either e
  have hor : e.orOnlyRight = true := rfl
  obtain ⟨-, -, -, -, -, -, -, hsublist, -, -, hmode⟩ := select_shape t e .wildcard
  exact ⟨hor, rfl, rfl, by decide +kernel, by decide +kernel, (hsublist hor).2, hmode⟩

end Table

end RowQuery
