/-
Sorted rows.

Rows sorted by homogeneous columns are the stable sort of the rows. On a column of numbers and
other texts the order of rows may go round in a circle, and then sorting again may move rows that
were sorted before.

* `sortRows_eq`: the rows are sorted by merging, also where there is nothing to do;
* `isStableSort_iff_eq_sortRows`: on homogeneous columns the sorted rows are the stable sort, and
  the only one;
* `sortRows_sortRows_eq`: sorting sorted rows leaves them as they are if none of them is less than
  one before it, hence wherever the order of rows is transitive;
* `not_forall_sortRows_sortRows`: three rows that are moved round whenever they are sorted.
-/
import RowQuery.Proofs.Sorting.Comparison

namespace RowQuery

open Number (Conversion)

variable {keys : List SortKey} {rows : List Row}

/-- Rows are sorted by merging, also if there is one row at most, or no key. -/
lemma sortRows_eq [Conversion] (keys : List SortKey) (rows : List Row) :
    sortRows keys rows = sortBy (compareRows keys) rows := by
  rw [sortRows]
  split
  · next h =>
    refine (sortBy_of_pairwise ?_).symm
    rcases Bool.or_eq_true_iff.mp h with hlength | hkeys
    · match rows, (by simpa using hlength : rows.length ≤ 1) with
      | [], _ => exact List.Pairwise.nil
      | [r], _ => exact List.pairwise_singleton _ r
    · obtain rfl : keys = [] := by simpa using hkeys
      exact List.pairwise_of_forall fun _ _ => by simp [compareRows]
  · rfl

/-- Where the order of rows is transitive, the sorted rows are a stable sort. -/
lemma isStableSort_sortRows [Conversion] (htrans : TransOn (compareRows keys) rows) :
    IsStableSort (compareRows keys) rows (sortRows keys rows) := by
  rw [sortRows_eq]
  exact isStableSort_sortBy htrans

/-- **The stable sort.** If in every column that is sorted by all cells have decimal forms, or none
is a number, then the sorted rows are the stable sort of the rows, and no other list is one. -/
theorem isStableSort_iff_eq_sortRows [Conversion] (keys : List SortKey) (rows : List Row)
    (h : ∀ key ∈ keys, Homogeneous rows key.column) (sorted : List Row) :
    IsStableSort (compareRows keys) rows sorted ↔ sorted = sortRows keys rows := by
  have hsort := isStableSort_sortRows (transOn_compareRows h)
  constructor
  · exact fun hsorted => hsorted.unique hsort
  · rintro rfl
    exact hsort

/-- Rows sorted by numbers, and downwards by texts where these are equal: a number counts the same
however it is written, and rows that are equal keep their order. -/
theorem sortRows_four_rows :
    let row := fun (n : Value) (s : String) => Row.ofList [("n", n), ("s", .string s)]
    let keys := [SortKey.mk "n" .ascending, SortKey.mk "s" .descending]
    let rows := [row (.integer 10) "a", row (.string "9.50") "b", row (.string "9.5") "b",
      row (.string "9.5") "c"]
    let sorted := [row (.string "9.5") "c", row (.string "9.50") "b", row (.string "9.5") "b",
      row (.integer 10) "a"]
    (∀ key ∈ keys, Homogeneous rows key.column)
    ∧ IsStableSort (compareRows keys) rows sorted ∧ sorted = sortRows keys rows := by
  intro row keys rows sorted
  have hcolumns : ∀ key ∈ keys, Homogeneous rows key.column := by decide +kernel
  have hsorted : IsStableSort (compareRows keys) rows sorted :=
    ⟨by decide +kernel, by decide +kernel, by decide +kernel⟩
  exact ⟨hcolumns, hsorted, (isStableSort_iff_eq_sortRows keys rows hcolumns sorted).mp hsorted⟩

/-- **Sorting twice.** Sorted rows none of which is less than a row before it stay as they are when
they are sorted again. No sorted row is less than one before it where the order of rows is
transitive, and it is transitive on homogeneous columns. -/
theorem sortRows_sortRows_eq [Conversion] (keys : List SortKey) (rows : List Row) :
    (((sortRows keys rows).Pairwise fun a b => compareRows keys b a ≠ .lt) →
        sortRows keys (sortRows keys rows) = sortRows keys rows)
    ∧ (TransOn (compareRows keys) rows →
        (sortRows keys rows).Pairwise fun a b => compareRows keys b a ≠ .lt)
    ∧ ((∀ key ∈ keys, Homogeneous rows key.column) → TransOn (compareRows keys) rows) := by
  refine ⟨fun hordered => ?_, fun htrans => ?_, transOn_compareRows⟩
  · rw [sortRows_eq keys (sortRows keys rows)]
    exact sortBy_of_pairwise hordered
  · exact (isStableSort_sortRows htrans).ordered.imp fun h => isLE_iff_not_lt.mp h

/-- Numbers written as texts are sorted once for all. -/
theorem sortRows_sortRows_three_numbers :
    let keys := [SortKey.mk "v" .ascending]
    let rows := ["10", "1e1", "9"].map fun s => Row.ofList [("v", .string s)]
    (∀ key ∈ keys, Homogeneous rows key.column)
    ∧ TransOn (compareRows keys) rows
    ∧ ((sortRows keys rows).Pairwise fun a b => compareRows keys b a ≠ .lt)
    ∧ sortRows keys (sortRows keys rows) = sortRows keys rows := by
  intro keys rows
  have hcolumns : ∀ key ∈ keys, Homogeneous rows key.column := by decide +kernel
  obtain ⟨hstay, hordered, htrans⟩ := sortRows_sortRows_eq keys rows
  exact ⟨hcolumns, htrans hcolumns, hordered (htrans hcolumns),
    hstay (hordered (htrans hcolumns))⟩

/-- Three items are merged in two rounds. -/
lemma sortBy_three {α : Type} (compare : α → α → Ordering) (a b c : α) :
    sortBy compare [a, b, c] = merged compare (merged compare [a] [b]) [c] := by
  simp [sortBy, mergeRuns, mergePairs]

/-- Sorting rows twice need not be sorting them once: as texts `10` is less than `5a` and `5a` less
than `9`, but as numbers `9` is less than `10`. -/
theorem not_forall_sortRows_sortRows :
    ¬ ∀ (keys : List SortKey) (rows : List Row),
      sortRows keys (sortRows keys rows) = sortRows keys rows := by
  intro h
  let keys := [SortKey.mk "v" .ascending]
  let row := fun s => Row.ofList [("v", .string s)]
  have htext : compareRows keys (row "5a") (row "10") ≠ .lt := by decide +kernel
  have hnumber : compareRows keys (row "9") (row "10") = .lt := by decide +kernel
  have hnumber' : compareRows keys (row "10") (row "9") ≠ .lt := by decide +kernel
  have htext' : compareRows keys (row "5a") (row "9") = .lt := by decide +kernel
  have hfirst : sortRows keys [row "10", row "5a", row "9"] = [row "9", row "10", row "5a"] := by
    rw [sortRows_eq, sortBy_three, merged_of_not_lt htext, nil_merged,
      merged_of_lt hnumber, merged_nil]
  have hsecond : sortRows keys [row "9", row "10", row "5a"] = [row "5a", row "9", row "10"] := by
    rw [sortRows_eq, sortBy_three, merged_of_not_lt hnumber', nil_merged,
      merged_of_lt htext', merged_nil]
  have hsame := h keys [row "10", row "5a", row "9"]
  rw [hfirst, hsecond] at hsame
  exact absurd hsame (by decide +kernel)

end RowQuery
