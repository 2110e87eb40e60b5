/-
Neighbours among sorted rows.

Where numbers and other texts are mixed, the order of rows may go round in a circle, and sorted rows
need not be in order. But no row is less than the one just before it: when two runs are merged,
neighbours come from one run, or have been compared with each other.

* `isChain_merged`, `isChain_sortBy`: neighbours in merged runs, and in sorted items;
* `SortKey.exists_circle`: for any key there are rows in a circle;
* `isChain_sortRows`: neighbours among sorted rows.
-/
import RowQuery.Proofs.Sorting.Rows

namespace RowQuery

open Number (Conversion)
open Std (OrientedCmp)

variable {α : Type} {compare : α → α → Ordering}

/-! ### Merging -/

/-- The first item of two merged runs is the first one of either. -/
lemma head?_merged {a b : List α} {z : α} (h : z ∈ (merged compare a b).head?) :
    z ∈ a.head? ∨ z ∈ b.head? := by
  induction a, b using merged_induction compare with
  | left a => exact .inl (by simpa using h)
  | right b => exact .inr (by simpa using h)
  | fromRight x y a b hlt _ =>
      rw [merged_of_lt hlt] at h
      exact .inr h
  | fromLeft x y a b hge _ =>
      rw [merged_of_not_lt hge] at h
      exact .inl h

/-- If no item of two runs is less than the one just before it, none of the merged run is. -/
lemma isChain_merged [OrientedCmp compare] {a b : List α}
    (ha : a.IsChain fun x y => compare y x ≠ .lt) (hb : b.IsChain fun x y => compare y x ≠ .lt) :
    (merged compare a b).IsChain fun x y => compare y x ≠ .lt := by
  induction a, b using merged_induction compare with
  | left a => simpa using ha
  | right b => simpa using hb
  | fromRight x y a b hlt ih =>
      obtain ⟨hy, hb'⟩ := List.isChain_cons.mp hb
      rw [merged_of_lt hlt, List.isChain_cons]
      refine ⟨fun z hz => ?_, ih ha hb'⟩
      rcases head?_merged hz with hz | hz
      · -- the left run goes on with the item that was just found greater
        obtain rfl : x = z := by simpa using hz
        rw [OrientedCmp.gt_of_lt hlt]
        exact Ordering.noConfusion
      · exact hy z hz
  | fromLeft x y a b hge ih =>
      obtain ⟨hx, ha'⟩ := List.isChain_cons.mp ha
      rw [merged_of_not_lt hge, List.isChain_cons]
      refine ⟨fun z hz => ?_, ih ha' hb⟩
      rcases head?_merged hz with hz | hz
      · exact hx z hz
      · obtain rfl : y = z := by simpa using hz
        exact hge

/-- No sorted item is less than the one just before it. -/
lemma isChain_sortBy [OrientedCmp compare] (items : List α) :
    (sortBy compare items).IsChain fun x y => compare y x ≠ .lt :=
  sortBy_induction (P := fun _ sorted => sorted.IsChain fun x y => compare y x ≠ .lt)
    .nil .singleton (fun _ _ _ _ => isChain_merged) items

/-! ### Rows -/

/-- Three items in a circle are in no transitive order. -/
lemma not_transOn_of_circle [OrientedCmp compare] {a b c : α} (hab : compare a b = .lt)
    (hbc : compare b c = .lt) (hca : compare c a = .lt) : ¬ TransOn compare [a, b, c] := by
  intro htrans
  have hac := htrans a (by simp) b (by simp) c (by simp) (by simp [hab]) (by simp [hbc])
  exact OrientedCmp.not_isLE_of_lt hca hac

/-- A row with a text in one column. -/
def Row.single (column s : String) : Row := Row.empty.insert column (.string s)

/-- In any column, upwards or downwards, there are rows in a circle: as texts `10` is less than `5a`
and `5a` less than `9`, but as numbers `9` is less than `10`. -/
lemma SortKey.exists_circle [Conversion] (key : SortKey) :
    ∃ a b c, key.compare a b = .lt ∧ key.compare b c = .lt ∧ key.compare c a = .lt := by
  have hconversion := Value.compare_string_congr inferInstance ⟨Number.Decimal.ofBinary?⟩
  have htext : (Value.string "10").compare (.string "5a") = .lt :=
    (hconversion "10" "5a").trans (by decide +kernel)
  have htext' : (Value.string "5a").compare (.string "9") = .lt :=
    (hconversion "5a" "9").trans (by decide +kernel)
  have hnumber : (Value.string "9").compare (.string "10") = .lt :=
    (hconversion "9" "10").trans (by decide +kernel)
  cases hdirection : key.direction with
  | ascending =>
      refine ⟨.single key.column "10", .single key.column "5a", .single key.column "9", ?_⟩
      simp [SortKey.compare, hdirection, Row.single, htext, htext', hnumber]
  | descending =>
      refine ⟨.single key.column "9", .single key.column "5a", .single key.column "10", ?_⟩
      simp [SortKey.compare, hdirection, Row.single, OrientedCmp.gt_of_lt htext,
        OrientedCmp.gt_of_lt htext', OrientedCmp.gt_of_lt hnumber]

/-- **Neighbours are in order.** No row of the sorted rows is less than the row just before it,
whatever the rows are, although for any keys there are rows on which the order is not transitive. -/
theorem isChain_sortRows [Conversion] (key : SortKey) (rest : List SortKey) :
    (∀ rows, (sortRows (key :: rest) rows).IsChain fun a b => compareRows (key :: rest) b a ≠ .lt)
    ∧ ∃ rows, ¬ TransOn (compareRows (key :: rest)) rows := by
  constructor
  · intro rows
    rw [sortRows_eq]
    exact isChain_sortBy rows
  · obtain ⟨a, b, c, hab, hbc, hca⟩ := key.exists_circle
    refine ⟨[a, b, c], not_transOn_of_circle ?_ ?_ ?_⟩
    · simp [compareRows, hab]
    · simp [compareRows, hbc]
    · simp [compareRows, hca]

end RowQuery
