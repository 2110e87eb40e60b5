/-
The selection of a condition, row by row.

Conditions are tried on all rows at once, and what a row remembers is overwritten by every
comparison that holds for it. Yet the rows do not see each other: what happens to a row depends
on the row alone.

* `Condition.lastHit`: the column of the right-most comparison that holds for a row;
* `Condition.emitted`: the leaves under which a row is selected, numbered from the left;
* `indicesWhere`: the indices of the rows with a property, in ascending order;
* `select_eq_row_by_row`: the selected indices, leaf by leaf, and what every row remembers
  afterwards.
-/
import Mathlib.Tactic
import RowQuery.Matching

namespace RowQuery

/-! ### One row -/

namespace Condition

/-- How many leaves a condition has. -/
def leafCount : Condition → Nat
  | comparison .. => 1
  | unresolved .. => 1
  | join _ left right => left.leafCount + right.leafCount

variable (mode : MatchMode) (row : Row)

/-- The column of the right-most comparison that holds for a row, if one does. -/
def lastHit : Condition → Option String
  | comparison column relation literal =>
    if row.passes column (.ofComparison mode relation literal) then some column else none
  | unresolved .. => none
  | join _ left right => right.lastHit.or left.lastHit

/-- The leaves under which a row is selected, numbered from the left. Joined by `and`, a condition
selects a row under the leaves of its left side, unless the last comparison that holds is on the
leading column there. -/
def emitted : Condition → List Nat
  | comparison column relation literal =>
    if row.passes column (.ofComparison mode relation literal) then [0] else []
  | unresolved .. => []
  | join .or left right => left.emitted ++ right.emitted.map (left.leafCount + ·)
  | join .and left right =>
    if (join .and left right).lastHit mode row = some left.leadingColumn then [] else left.emitted

variable {mode row}

/-- Only leaves of the condition are emitted. -/
lemma lt_leafCount_of_emitted {e : Condition} {n : Nat} (h : n ∈ e.emitted mode row) :
    n < e.leafCount := by
  induction e generalizing n with
  | comparison column relation literal =>
      rw [emitted] at h
      split at h <;> simp_all [leafCount]
  | unresolved column operator literal => simp [emitted] at h
  | join connective left right ihl ihr =>
      cases connective with
      | and =>
          rw [emitted] at h
          split at h
          · simp at h
          · exact Nat.lt_add_right _ (ihl h)
      | or =>
          rw [emitted, List.mem_append, List.mem_map] at h
          rcases h with h | ⟨m, h, rfl⟩
          · exact Nat.lt_add_right _ (ihl h)
          · exact Nat.add_lt_add_left (ihr h) _

/-- The leaves on the right of a condition are none of its left side. -/
lemma leafCount_add_not_mem_emitted (left : Condition) (n : Nat) :
    left.leafCount + n ∉ left.emitted mode row := by
  intro h
  have hlt := lt_leafCount_of_emitted h
  omega

/-- Joined by `or`, the leaves on the left emit what they emit alone. -/
lemma contains_emitted_or_left {left right : Condition} {n : Nat} (h : n < left.leafCount) :
    ((join .or left right).emitted mode row).contains n
      = (left.emitted mode row).contains n := by
  have hne : ∀ m, left.leafCount + m ≠ n := by omega
  rw [emitted, Bool.eq_iff_iff]
  simp [hne]

/-- Joined by `or`, the leaves on the right emit what they emit alone. -/
lemma contains_emitted_or_right {left right : Condition} {n : Nat} :
    ((join .or left right).emitted mode row).contains (left.leafCount + n)
      = (right.emitted mode row).contains n := by
  rw [emitted, Bool.eq_iff_iff]
  simp [leafCount_add_not_mem_emitted left n]

/-- Joined by `and`, the leaves on the left emit what they emit alone, if the last comparison
that holds is not on the leading column there. -/
lemma contains_emitted_and {left right : Condition} {n : Nat} :
    ((join .and left right).emitted mode row).contains n
      = ((left.emitted mode row).contains n
        && (join .and left right).lastHit mode row != some left.leadingColumn) := by
  rw [emitted]
  split <;> simp_all

/-- Joined by `and`, the leaves on the right emit nothing. -/
lemma contains_emitted_and_right {left right : Condition} {n : Nat} :
    ((join .and left right).emitted mode row).contains (left.leafCount + n) = false := by
  rw [contains_emitted_and]
  simp [leafCount_add_not_mem_emitted left n]

/-- A row that is selected has a comparison that holds for it. -/
lemma lastHit_ne_none {e : Condition} (h : e.emitted mode row ≠ []) :
    e.lastHit mode row ≠ none := by
  induction e with
  | comparison column relation literal =>
      rw [emitted] at h
      rw [lastHit]
      split at h <;> simp_all
  | unresolved column operator literal => simp [emitted] at h
  | join connective left right ihl ihr =>
      rw [lastHit]
      cases connective with
      | and =>
          rw [emitted] at h
          split at h
          · simp at h
          · simp [Option.or_eq_none_iff, ihl h]
      | or =>
          by_cases hl : left.emitted mode row = []
          · have hr : right.emitted mode row ≠ [] := by simpa [emitted, hl] using h
            simp [Option.or_eq_none_iff, ihr hr]
          · simp [Option.or_eq_none_iff, ihl hl]

end Condition

/-! ### Indices -/

/-- The indices of the rows with a property, in ascending order. -/
def indicesWhere (rows : List Row) (p : Row → Bool) : List Nat :=
  (List.range rows.length).filter fun i => rows[i]?.any p

lemma mem_indicesWhere {rows : List Row} {p : Row → Bool} {i : Nat} :
    i ∈ indicesWhere rows p ↔ ∃ row, rows[i]? = some row ∧ p row = true := by
  rw [indicesWhere, List.mem_filter, List.mem_range, Option.any_eq_true]
  constructor
  · exact fun h => h.2
  · rintro ⟨row, hrow, hp⟩
    exact ⟨(List.getElem?_eq_some_iff.mp hrow).1, row, hrow, hp⟩

lemma indicesWhere_congr {rows : List Row} {p q : Row → Bool} (h : ∀ row, p row = q row) :
    indicesWhere rows p = indicesWhere rows q := by
  rw [funext h]

/-- The indices at which the property of the rows is true. -/
lemma indicesOf_map (rows : List Row) (p : Row → Bool) :
    indicesOf (rows.map p) = indicesWhere rows p := by
  have hfilter : (rows.map p).zipIdx.filter (·.1)
      = (rows.map p).zipIdx.filter ((fun i => rows[i]?.any p) ∘ Prod.snd) := by
    refine List.filter_congr fun x hx => ?_
    obtain ⟨row, hrow, hp⟩ : ∃ row, rows[x.2]? = some row ∧ p row = x.1 := by
      simpa using List.mem_zipIdx_iff_getElem?.mp hx
    simp [hrow, hp]
  rw [indicesOf, hfilter, ← List.filter_map, List.zipIdx_map_snd, ← List.range_eq_range',
    List.length_map, indicesWhere]

/-- A test of indices that is one of rows leaves the rows that have both properties. -/
lemma filter_indicesWhere {rows : List Row} {p q : Row → Bool} {keep : Nat → Bool}
    (h : ∀ i row, rows[i]? = some row → p row = true → keep i = q row) :
    (indicesWhere rows p).filter keep = indicesWhere rows fun row => p row && q row := by
  rw [indicesWhere, List.filter_filter, indicesWhere]
  refine List.filter_congr fun i _ => ?_
  cases hrow : rows[i]? with
  | none => simp
  | some row =>
      cases hp : p row with
      | false => simp [hp]
      | true => simp [hp, h i row hrow hp]

/-! ### What the rows remember -/

namespace Condition

variable {mode : MatchMode} {rows : List Row} {lastColumns : List (Option String)}

/-- After a condition a row remembers the column of the last comparison that holds for it, or
what it remembered before if none does. -/
lemma lastColumns_select (e : Condition) (hlength : lastColumns.length = rows.length) :
    (e.select mode rows lastColumns).lastColumns
      = List.zipWith (fun row last => (e.lastHit mode row).or last) rows lastColumns := by
  induction e generalizing lastColumns with
  | comparison column relation literal =>
      rw [select, selectCell, List.zipWith_map_left]
      refine congrArg (List.zipWith · rows lastColumns) (funext₂ fun row last => ?_)
      rw [lastHit]
      split <;> rfl
  | unresolved column operator literal =>
      rw [select]
      refine List.ext_getElem (by simp [hlength]) fun i _ _ => ?_
      simp [lastHit]
  | join connective left right ihl ihr =>
      have hleft := ihl hlength
      have hbetween : (left.select mode rows lastColumns).lastColumns.length = rows.length := by
        simp [hleft, hlength]
      have hright := ihr hbetween
      have hjoin : ((join connective left right).select mode rows lastColumns).lastColumns
          = (right.select mode rows
              (left.select mode rows lastColumns).lastColumns).lastColumns := by
        cases connective <;> rfl
      rw [hjoin, hright, hleft]
      refine List.ext_getElem (by simp) fun i _ _ => ?_
      simp [lastHit, Option.or_assoc]

/-- After a condition the test of a conjunction asks a selected row for its last comparison. -/
lemma lastColumns_getElem? {e : Condition} (hlength : lastColumns.length = rows.length) {i : Nat}
    {row : Row} (hrow : rows[i]? = some row) (hhit : e.lastHit mode row ≠ none) :
    ((e.select mode rows lastColumns).lastColumns[i]?).join = e.lastHit mode row := by
  obtain ⟨column, hcolumn⟩ := Option.ne_none_iff_exists'.mp hhit
  have hi : i < rows.length := (List.getElem?_eq_some_iff.mp hrow).1
  obtain ⟨last, hlast⟩ : ∃ last, lastColumns[i]? = some last :=
    ⟨_, List.getElem?_eq_getElem (hlength ▸ hi)⟩
  rw [e.lastColumns_select hlength, List.getElem?_zipWith, hrow, hlast]
  simp [hcolumn]

/-! ### Which rows are selected -/

/-- The selected indices, leaf by leaf from the left. -/
lemma indices_select (e : Condition) (hlength : lastColumns.length = rows.length) :
    (e.select mode rows lastColumns).indices
      = (List.range e.leafCount).flatMap fun n =>
          indicesWhere rows fun row => (e.emitted mode row).contains n := by
  induction e generalizing lastColumns with
  | comparison column relation literal =>
      rw [select, selectCell, indicesOf_map, leafCount, List.range_one, List.flatMap_singleton]
      refine indicesWhere_congr fun row => ?_
      rw [emitted]
      split <;> simp_all
  | unresolved column operator literal =>
      rw [select, leafCount, List.range_one, List.flatMap_singleton]
      simp [emitted, indicesWhere]
  | join connective left right ihl ihr =>
      have hleft := ihl hlength
      have hbetween : (left.select mode rows lastColumns).lastColumns.length = rows.length := by
        simp [left.lastColumns_select hlength, hlength]
      have hright := ihr hbetween
      rw [leafCount, List.range_add, List.flatMap_append, List.flatMap_map]
      cases connective with
      | and =>
          have hnone : ∀ n ∈ List.range right.leafCount, indicesWhere rows (fun row =>
              ((join .and left right).emitted mode row).contains (left.leafCount + n)) = [] := by
            intro n _
            rw [indicesWhere_congr fun row => contains_emitted_and_right]
            simp [indicesWhere]
          rw [List.flatMap_eq_nil_iff.mpr hnone, List.append_nil]
          have hselect : ((join .and left right).select mode rows lastColumns).indices
              = (left.select mode rows lastColumns).indices.filter fun i =>
                (((join .and left right).select mode rows lastColumns).lastColumns[i]?).join
                  != some left.leadingColumn := rfl
          rw [hselect, hleft, List.filter_flatMap]
          refine List.flatMap_congr fun n _ => ?_
          rw [indicesWhere_congr fun row => contains_emitted_and]
          -- a row that the left side emits has a comparison that holds, so the row remembers it
          refine filter_indicesWhere fun i row hrow hemitted => ?_
          have hhit : left.lastHit mode row ≠ none :=
            lastHit_ne_none fun hnil => by simp [hnil] at hemitted
          have hhit' : (join .and left right).lastHit mode row ≠ none := by
            simp [lastHit, Option.or_eq_none_iff, hhit]
          rw [lastColumns_getElem? hlength hrow hhit']
      | or =>
          rw [select, hleft, hright]
          refine congrArg₂ (· ++ ·) ?_ ?_
          · refine List.flatMap_congr fun n hn => indicesWhere_congr fun row => ?_
            rw [contains_emitted_or_left (List.mem_range.mp hn)]
          · refine List.flatMap_congr fun n hn => indicesWhere_congr fun row => ?_
            rw [contains_emitted_or_right]

/-- An index is selected if its row is emitted under some leaf. -/
lemma mem_indices_select {e : Condition} (hlength : lastColumns.length = rows.length) {i : Nat} :
    i ∈ (e.select mode rows lastColumns).indices
      ↔ ∃ row, rows[i]? = some row ∧ e.emitted mode row ≠ [] := by
  rw [e.indices_select hlength, List.mem_flatMap]
  constructor
  · rintro ⟨n, -, hn⟩
    obtain ⟨row, hrow, hemitted⟩ := mem_indicesWhere.mp hn
    exact ⟨row, hrow, fun hnil => by simp [hnil] at hemitted⟩
  · rintro ⟨row, hrow, hne⟩
    obtain ⟨n, hn⟩ := List.exists_mem_of_ne_nil _ hne
    refine ⟨n, List.mem_range.mpr (lt_leafCount_of_emitted hn), ?_⟩
    exact mem_indicesWhere.mpr ⟨row, hrow, List.contains_iff_mem.mpr hn⟩

/-- **The selection, row by row.** Leaf by leaf from the left, the indices of the rows that the
leaf emits are selected in ascending order; and afterwards every row remembers the column of the
right-most comparison that holds for it, or what it remembered before if none does. -/
theorem select_eq_row_by_row (mode : MatchMode) (rows : List Row) (e : Condition)
    (lastColumns : List (Option String)) (hlength : lastColumns.length = rows.length) :
    e.select mode rows lastColumns
      = { indices := (List.range e.leafCount).flatMap fun n =>
            (List.range rows.length).filter fun i =>
              rows[i]?.any fun row => (e.emitted mode row).contains n
          lastColumns := List.zipWith (fun row last => (e.lastHit mode row).or last)
            rows lastColumns } := by
  have hindices : (e.select mode rows lastColumns).indices = _ := e.indices_select hlength
  have hlast : (e.select mode rows lastColumns).lastColumns = _ := e.lastColumns_select hlength
  cases hselect : e.select mode rows lastColumns with
  | mk indices columns =>
      rw [hselect] at hindices hlast
      exact congrArg₂ Selection.mk hindices hlast

/-- A row that both sides of an `or` emit is selected twice, one whose last comparison is on the
leading column not at all, and one for which nothing holds remembers what it did before. -/
theorem select_row_by_row_three_rows :
    [none, none, some "z"].length = 3
    ∧ (join .and (join .or (comparison "a" .equal "1") (comparison "b" .equal "2"))
          (comparison "c" .equal "3")).select .exact
        [.ofList [("a", .string "1"), ("b", .string "2")], .ofList [("a", .string "1")],
          .ofList [("c", .string "4")]]
        [none, none, some "z"]
      = ⟨[0, 0], [some "b", some "a", some "z"]⟩ :=
  ⟨rfl, (select_eq_row_by_row _ _ _ _ rfl).trans (by decide +kernel)⟩

end Condition

end RowQuery
