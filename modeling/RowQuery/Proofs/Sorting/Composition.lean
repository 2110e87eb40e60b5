/-
Sorting by several keys.

Sorting keeps the order of items that are equal, so what an earlier sorting has put in order stays
in order among them. Items that are sorted by one comparison and then by another are therefore
sorted by the second one, and by the first where the second finds them equal. Rows can be sorted by
one key after the other, the last key first.

* `IsStableSort.then`: a stable sort of a stable sort is one for both comparisons in turn;
* `Homogeneous.perm`: a column stays homogeneous when the rows are put in another order;
* `sortRows_cons`: the first key sorts what the other keys have sorted;
* `sortRows_eq_foldr`: rows sorted by one key after the other.
-/
import RowQuery.Proofs.Sorting.Rows

namespace RowQuery

open Number (Conversion)
open Std (OrientedCmp ReflCmp)
open scoped List

/-! ### Two comparisons in turn -/

section Stable

variable {α : Type} {first second : α → α → Ordering} {items middle sorted : List α}

/-- Items that stand one before the other and are equal stood in that order before they were
sorted. -/
lemma IsStableSort.sublist_of_eq [OrientedCmp first] (h : IsStableSort first items sorted)
    {a b : α} (hsub : [a, b].Sublist sorted) (heq : first a b = .eq) : [a, b].Sublist items := by
  have ha : a ∈ items := h.perm.subset (hsub.subset List.mem_cons_self)
  have hpair : [a, b].filter (first a · == .eq) = [a, b] := by
    simp [ReflCmp.compare_self, heq]
  calc [a, b] = [a, b].filter (first a · == .eq) := hpair.symm
    _ <+ sorted.filter (first a · == .eq) := hsub.filter _
    _ = items.filter (first a · == .eq) := h.stable a ha
    _ <+ items := List.filter_sublist

/-- The items that are equal to a given one for two comparisons. -/
lemma filter_then_eq (c : α) (l : List α) :
    l.filter (fun x => (first c x).then (second c x) == .eq)
      = (l.filter (second c · == .eq)).filter (first c · == .eq) := by
  rw [List.filter_filter]
  refine List.filter_congr fun x _ => ?_
  cases first c x <;> rfl

/-- Items that are stably sorted by one comparison, and then by another, are stably sorted by the
second one and, where it finds them equal, by the first. -/
lemma IsStableSort.then [OrientedCmp first] (h : IsStableSort second items middle)
    (h' : IsStableSort first middle sorted) :
    IsStableSort (fun a b => (first a b).then (second a b)) items sorted := by
  refine ⟨h'.perm.trans h.perm, ?_, fun c hc => ?_⟩
  · refine List.pairwise_iff_forall_sublist.mpr fun {a b} hsub => ?_
    have hle := List.pairwise_iff_forall_sublist.mp h'.ordered hsub
    rcases Ordering.isLE_iff_eq_lt_or_eq_eq.mp hle with hlt | heq
    · simp [hlt]
    · -- the second comparison decides, and for it the two are in order already
      rw [heq, Ordering.eq_then]
      exact List.pairwise_iff_forall_sublist.mp h.ordered (h'.sublist_of_eq hsub heq)
  · have hc' : c ∈ middle := h.perm.symm.subset hc
    rw [filter_then_eq, List.filter_comm, h'.stable c hc', List.filter_comm, h.stable c hc,
      filter_then_eq]

end Stable

/-! ### Keys in turn -/

variable {key : SortKey} {keys rest : List SortKey} {rows rows' : List Row}

/-- A column stays homogeneous when the rows are put in another order. -/
lemma Homogeneous.perm [Conversion] {column : String} (hperm : rows'.Perm rows)
    (h : Homogeneous rows column) : Homogeneous rows' column :=
  h.imp (fun h r hr => h r (hperm.subset hr)) fun h r hr => h r (hperm.subset hr)

/-- Sorting only changes the order of the rows. -/
lemma perm_sortRows [Conversion] (keys : List SortKey) (rows : List Row) :
    (sortRows keys rows).Perm rows := by
  rw [sortRows_eq]
  exact perm_sortBy (compareRows keys) rows

/-- The first of several keys sorts what the others have sorted, if all columns are homogeneous. -/
lemma sortRows_cons [Conversion] (h : ∀ k ∈ key :: rest, Homogeneous rows k.column) :
    sortRows (key :: rest) rows = sortRows [key] (sortRows rest rows) := by
  have hrest : ∀ k ∈ rest, Homogeneous rows k.column :=
    fun k hk => h k (List.mem_cons_of_mem key hk)
  have hkey : ∀ k ∈ [key], Homogeneous (sortRows rest rows) k.column := fun k hk =>
    (h k (List.mem_singleton.mp hk ▸ List.mem_cons_self)).perm (perm_sortRows rest rows)
  have hsorted := isStableSort_sortRows (transOn_compareRows hrest)
  have hfirst : IsStableSort key.compare (sortRows rest rows)
      (sortRows [key] (sortRows rest rows)) := by
    rw [← compareRows_singleton]
    exact isStableSort_sortRows (transOn_compareRows hkey)
  exact (isStableSort_sortRows (transOn_compareRows h)).unique (hsorted.then hfirst)

/-- Rows sorted by homogeneous columns are sorted by one key after the other, the last one first. -/
lemma sortRows_eq_foldr [Conversion] (h : ∀ k ∈ keys, Homogeneous rows k.column) :
    sortRows keys rows = keys.foldr (fun k sorted => sortRows [k] sorted) rows := by
  induction keys with
  | nil => simp [sortRows]
  | cons key rest ih =>
      rw [sortRows_cons h, List.foldr_cons, ih fun k hk => h k (List.mem_cons_of_mem key hk)]

/-- **Keys in turn.** If in every column that is sorted by all cells have decimal forms, or none is
a number, then sorting by a key and further ones is sorting by the further ones and then by the key;
so it is sorting by one key after the other, the last one first. -/
theorem sortRows_cons_and_foldr [Conversion] (key : SortKey) (rest : List SortKey) (rows : List Row)
    (h : ∀ k ∈ key :: rest, Homogeneous rows k.column) :
    sortRows (key :: rest) rows = sortRows [key] (sortRows rest rows)
    ∧ sortRows (key :: rest) rows
        = (key :: rest).foldr (fun k sorted => sortRows [k] sorted) rows :=
  ⟨sortRows_cons h, sortRows_eq_foldr h⟩

/-- Rows with the same number stay as the texts have put them, the greatest text first. The texts
`1` and `1.0` are the same number. -/
theorem sortRows_text_then_number :
    let row := fun (n : Value) (s : String) => Row.ofList [("n", n), ("s", .string s)]
    let number := SortKey.mk "n" .ascending
    let text := SortKey.mk "s" .descending
    let rows := [row (.integer 10) "a", row (.string "1") "b", row (.integer 10) "c",
      row (.string "1.0") "d"]
    (∀ k ∈ [number, text], Homogeneous rows k.column)
    ∧ sortRows [number] (sortRows [text] rows)
        = [row (.string "1.0") "d", row (.string "1") "b", row (.integer 10) "c",
            row (.integer 10) "a"] := by
  intro row number text rows
  have hcolumns : ∀ k ∈ [number, text], Homogeneous rows k.column := by decide +kernel
  have hturn := (sortRows_cons_and_foldr number [text] rows hcolumns).1
  have hsorted := isStableSort_sortRows (transOn_compareRows hcolumns)
  refine ⟨hcolumns, hturn.symm.trans (hsorted.unique ⟨?_, ?_, ?_⟩)⟩
  · decide +kernel
  · decide +kernel
  · decide +kernel

end RowQuery
