/-
Sorting by merging runs, for any comparison.

Sorting begins with runs of one item and merges neighbouring runs until one is left. What two
runs hand on when they are merged, the sorted list therefore has (`sortBy_induction`), whatever
the comparison is. Where the comparison is transitive on the items, the result is the stable
sort, and there is only one.

* `TransOn`: on the given items the comparison is transitive;
* `merged`: two runs merged; an item of the right one goes first only if it is less;
* `IsStableSort`: the same items in the order of the comparison, those that are equal in the
  order in which they stood;
* `isStableSort_sortBy`, `IsStableSort.unique`: sorting gives the stable sort, and no other list
  is one;
* `sortBy_of_pairwise`: items that are in order already are left as they are;
* `perm_sortBy`, `sortBy_map`: sorting only changes the order of the items, and items that are
  compared by what they stand for are sorted as these are.
-/
import Mathlib.Tactic
import RowQuery.Table.Sorting

namespace RowQuery

open Std

variable {α : Type} {compare : α → α → Ordering}

/-- On the given items a comparison is transitive. -/
def TransOn (compare : α → α → Ordering) (items : List α) : Prop :=
  ∀ a ∈ items, ∀ b ∈ items, ∀ c ∈ items,
    (compare a b).isLE → (compare b c).isLE → (compare a c).isLE

/-- One item is less than or equal to another exactly if the other is not less. -/
lemma isLE_iff_not_lt [OrientedCmp compare] {a b : α} :
    (compare a b).isLE ↔ compare b a ≠ .lt :=
  ⟨fun h hlt => OrientedCmp.not_isLE_of_lt hlt h,
    fun h => by_contra fun hle => h (OrientedCmp.lt_of_not_isLE hle)⟩

/-! ### Merging two runs -/

/-- Two runs merged; an item of the right one goes first only if it is less. -/
abbrev merged (compare : α → α → Ordering) (a b : List α) : List α :=
  a.merge b fun x y => compare y x != .lt

@[simp] lemma merged_nil (a : List α) : merged compare a [] = a := List.merge_right a

@[simp] lemma nil_merged (b : List α) : merged compare [] b = b := List.nil_merge b

/-- The right run gives the next item if it is less. -/
lemma merged_of_lt {x y : α} {a b : List α} (h : compare y x = .lt) :
    merged compare (x :: a) (y :: b) = y :: merged compare (x :: a) b := by
  rw [merged, List.cons_merge_cons]
  simp [h]

/-- The left run gives the next item if the one on the right is not less. -/
lemma merged_of_not_lt {x y : α} {a b : List α} (h : compare y x ≠ .lt) :
    merged compare (x :: a) (y :: b) = x :: merged compare a (y :: b) := by
  rw [merged, List.cons_merge_cons]
  simp [h]

/-- What holds of runs one of which is empty, and is handed on with the next item of either
run, holds of any two runs. -/
lemma merged_induction (compare : α → α → Ordering) {motive : List α → List α → Prop}
    (left : ∀ a, motive a []) (right : ∀ b, motive [] b)
    (fromRight : ∀ x y a b, compare y x = .lt → motive (x :: a) b → motive (x :: a) (y :: b))
    (fromLeft : ∀ x y a b, compare y x ≠ .lt → motive a (y :: b) → motive (x :: a) (y :: b)) :
    ∀ a b, motive a b := by
  intro a
  induction a with
  | nil => exact right
  | cons x a iha =>
      intro b
      induction b with
      | nil => exact left _
      | cons y b ihb =>
          by_cases h : compare y x = .lt
          · exact fromRight x y a b h ihb
          · exact fromLeft x y a b h (iha _)

variable {items a b : List α}

/-- Two runs in order are merged into one that is in order. -/
lemma pairwise_merged [OrientedCmp compare] (htrans : TransOn compare items) (ha : a ⊆ items)
    (hb : b ⊆ items) (hleft : a.Pairwise fun x y => (compare x y).isLE)
    (hright : b.Pairwise fun x y => (compare x y).isLE) :
    (merged compare a b).Pairwise fun x y => (compare x y).isLE := by
  induction a, b using merged_induction compare with
  | left a => simpa using hleft
  | right b => simpa using hright
  | fromRight x y a b hlt ih =>
      obtain ⟨hy, hb'⟩ := List.cons_subset.mp hb
      obtain ⟨hx, -⟩ := List.cons_subset.mp ha
      obtain ⟨hyb, hright'⟩ := List.pairwise_cons.mp hright
      obtain ⟨hxa, -⟩ := List.pairwise_cons.mp hleft
      have hyx : (compare y x).isLE := by simp [hlt]
      rw [merged_of_lt hlt, List.pairwise_cons]
      refine ⟨fun z hz => ?_, ih ha hb' hleft hright'⟩
      rcases List.mem_merge.mp hz with hz | hz
      · rcases List.mem_cons.mp hz with rfl | hz
        · exact hyx
        · exact htrans y hy x hx z (ha (List.mem_cons_of_mem x hz)) hyx (hxa z hz)
      · exact hyb z hz
  | fromLeft x y a b hge ih =>
      obtain ⟨hx, ha'⟩ := List.cons_subset.mp ha
      obtain ⟨hy, -⟩ := List.cons_subset.mp hb
      obtain ⟨hyb, -⟩ := List.pairwise_cons.mp hright
      obtain ⟨hxa, hleft'⟩ := List.pairwise_cons.mp hleft
      have hxy : (compare x y).isLE := isLE_iff_not_lt.mpr hge
      rw [merged_of_not_lt hge, List.pairwise_cons]
      refine ⟨fun z hz => ?_, ih ha' hb hleft' hright⟩
      rcases List.mem_merge.mp hz with hz | hz
      · exact hxa z hz
      · rcases List.mem_cons.mp hz with rfl | hz
        · exact hxy
        · exact htrans x hx y hy z (hb (List.mem_cons_of_mem y hz)) hxy (hyb z hz)

/-- Of the items equal to a given one, a merged run has first those of the left run and then
those of the right one. -/
lemma filter_merged [OrientedCmp compare] (htrans : TransOn compare items) (ha : a ⊆ items)
    (hb : b ⊆ items) (hleft : a.Pairwise fun x y => (compare x y).isLE) {c : α} (hc : c ∈ items) :
    (merged compare a b).filter (compare c · == .eq)
      = a.filter (compare c · == .eq) ++ b.filter (compare c · == .eq) := by
  induction a, b using merged_induction compare with
  | left a => simp
  | right b => simp
  | fromRight x y a b hlt ih =>
      obtain ⟨hy, hb'⟩ := List.cons_subset.mp hb
      obtain ⟨hx, -⟩ := List.cons_subset.mp ha
      obtain ⟨hxa, -⟩ := List.pairwise_cons.mp hleft
      rw [merged_of_lt hlt, List.filter_cons, ih ha hb' hleft, List.filter_cons (x := y)]
      by_cases hcy : compare c y = .eq
      · -- nothing on the left is equal to an item that is less than all of it
        have hnone : (x :: a).filter (compare c · == .eq) = [] := by
          refine List.filter_eq_nil_iff.mpr fun z hz hcz => ?_
          have hz' : z ∈ items := ha hz
          have hxz : (compare x z).isLE := by
            rcases List.mem_cons.mp hz with rfl | hz
            · simp [ReflCmp.compare_self]
            · exact hxa z hz
          have hzc : (compare z c).isLE := by
            simp [OrientedCmp.eq_comm.mp (by simpa using hcz : compare c z = .eq)]
          have hzy := htrans z hz' c hc y hy hzc (by simp [hcy])
          exact OrientedCmp.not_isLE_of_lt hlt (htrans x hx z hz' y hy hxz hzy)
        simp [hcy, hnone]
      · simp [hcy]
  | fromLeft x y a b hge ih =>
      obtain ⟨-, ha'⟩ := List.cons_subset.mp ha
      obtain ⟨-, hleft'⟩ := List.pairwise_cons.mp hleft
      rw [merged_of_not_lt hge, List.filter_cons, ih ha' hb hleft', List.filter_cons (x := x)]
      split <;> rfl

/-! ### What merging hands on -/

section Induction

variable {P : List α → List α → Prop}

/-- Merging neighbours halves the number of runs. -/
lemma length_mergePairs : ∀ runs : List (List α),
    (mergePairs compare runs).length = (runs.length + 1) / 2
  | [] => by simp [mergePairs]
  | [_] => by simp [mergePairs]
  | _ :: _ :: rest => by
      have ih := length_mergePairs rest
      simp only [mergePairs, List.length_cons, ih]
      omega

/-- Merging neighbours only changes the order of the items. -/
lemma perm_flatten_mergePairs (compare : α → α → Ordering) :
    ∀ runs : List (List α), (mergePairs compare runs).flatten.Perm runs.flatten
  | [] => .refl _
  | [_] => .refl _
  | a :: b :: rest => by
      have hrest := perm_flatten_mergePairs compare rest
      have hpair : (merged compare a b).Perm (a ++ b) := List.merge_perm_append _
      simpa [mergePairs] using hpair.append hrest

/-- One run is left as it is. -/
lemma mergeRuns_of_length_le (compare : α → α → Ordering) (rounds : ℕ) :
    ∀ {runs : List (List α)}, runs.length ≤ 1 → mergeRuns compare rounds runs = runs.flatten
  | [], _ => by simp [mergeRuns]
  | [_], _ => by simp [mergeRuns]

/-- More runs than one are merged in pairs in the next round. -/
lemma mergeRuns_succ (compare : α → α → Ordering) (rounds : ℕ) :
    ∀ {runs : List (List α)}, 1 < runs.length →
      mergeRuns compare (rounds + 1) runs = mergeRuns compare rounds (mergePairs compare runs)
  | _ :: _ :: _, _ => by simp [mergeRuns]

/-- What two runs hand on when they are merged is kept when neighbours are merged. -/
lemma exists_blocks_mergePairs
    (hmerge : ∀ x y a b, P x a → P y b → P (x ++ y) (merged compare a b)) :
    ∀ {blocks runs : List (List α)}, List.Forall₂ P blocks runs →
      ∃ larger, larger.flatten = blocks.flatten
        ∧ List.Forall₂ P larger (mergePairs compare runs)
  | _, _, .nil => ⟨[], rfl, .nil⟩
  | _, _, .cons h .nil => ⟨_, rfl, .cons h .nil⟩
  | _, _, .cons (a := x) (b := a) hx (.cons (a := y) (b := b) hy hrest) => by
      obtain ⟨larger, hflatten, hruns⟩ := exists_blocks_mergePairs hmerge hrest
      exact ⟨(x ++ y) :: larger, by simp [hflatten], .cons (hmerge x y a b hx hy) hruns⟩

/-- What two runs hand on when they are merged, the last run has. -/
lemma mergeRuns_induction (hnil : P [] [])
    (hmerge : ∀ x y a b, P x a → P y b → P (x ++ y) (merged compare a b)) (rounds : ℕ)
    {blocks runs : List (List α)} (hruns : List.Forall₂ P blocks runs)
    (hrounds : runs.length ≤ rounds + 1) :
    P blocks.flatten (mergeRuns compare rounds runs) := by
  induction rounds generalizing blocks runs with
  | zero =>
      cases hruns with
      | nil => exact hnil
      | cons h hrest =>
          cases hrest with
          | nil => simpa [mergeRuns] using h
          | cons => simp at hrounds
  | succ rounds ih =>
      cases hruns with
      | nil => exact hnil
      | cons h hrest =>
          cases hrest with
          | nil => simpa [mergeRuns] using h
          | @cons y b ys bs hy hrest =>
              obtain ⟨larger, hflatten, hlarger⟩ :=
                exists_blocks_mergePairs hmerge (.cons h (.cons hy hrest))
              rw [← hflatten, mergeRuns]
              · refine ih hlarger ?_
                rw [length_mergePairs]
                omega
              · exact List.cons_ne_nil _ _
              · simp

/-- What single items have, and two runs hand on when they are merged, the sorted items have. -/
lemma sortBy_induction (hnil : P [] []) (hsingle : ∀ x, P [x] [x])
    (hmerge : ∀ x y a b, P x a → P y b → P (x ++ y) (merged compare a b)) (items : List α) :
    P items (sortBy compare items) := by
  have hruns : List.Forall₂ P (items.map fun x => [x]) (items.map fun x => [x]) :=
    List.forall₂_same.mpr fun run hrun => by
      obtain ⟨x, -, rfl⟩ := List.mem_map.mp hrun
      exact hsingle x
  have hflatten : (items.map fun x => [x]).flatten = items := by
    rw [← List.flatMap_def, List.flatMap_singleton']
  have h := mergeRuns_induction hnil hmerge items.length hruns (by simp)
  rwa [hflatten] at h

end Induction

/-- Items that are in order already are left as they are. -/
lemma sortBy_of_pairwise (h : items.Pairwise fun x y => compare y x ≠ .lt) :
    sortBy compare items = items := by
  refine sortBy_induction (P := fun x a => (x.Pairwise fun u v => compare v u ≠ .lt) → a = x)
    (fun _ => rfl) (fun _ _ => rfl) ?_ items h
  intro x y a b hx hy hxy
  obtain ⟨hleft, hright, hcross⟩ := List.pairwise_append.mp hxy
  obtain rfl := hx hleft
  obtain rfl := hy hright
  exact List.merge_of_le fun u v hu hv => by simpa using hcross u hu v hv

/-- The sorted items are the items in another order. -/
lemma perm_sortBy (compare : α → α → Ordering) (items : List α) :
    (sortBy compare items).Perm items := by
  refine sortBy_induction (P := fun x a => a.Perm x) (.refl []) (fun x => .refl [x]) ?_ items
  exact fun x y a b hx hy => (List.merge_perm_append _).trans (hx.append hy)

/-! ### Items that stand for others -/

section Map

variable {β : Type} (compare : α → α → Ordering) (f : β → α)

/-- Items that are compared by what they stand for are merged as these are. -/
lemma mergePairs_map : ∀ runs : List (List β),
    mergePairs compare (runs.map (List.map f))
      = (mergePairs (fun x y => compare (f x) (f y)) runs).map (List.map f)
  | [] => rfl
  | [_] => rfl
  | a :: b :: rest => by
      have hhead : (merged (fun x y => compare (f x) (f y)) a b).map f
          = merged compare (a.map f) (b.map f) := List.map_merge fun _ _ _ _ => rfl
      have htail := mergePairs_map rest
      simp only [List.map_cons, mergePairs, hhead, htail]

/-- Items that are compared by what they stand for are merged as these are, in any number of
rounds. -/
lemma mergeRuns_map (rounds : ℕ) (runs : List (List β)) :
    mergeRuns compare rounds (runs.map (List.map f))
      = (mergeRuns (fun x y => compare (f x) (f y)) rounds runs).map f := by
  induction rounds generalizing runs with
  | zero =>
      match runs with
      | [] => rfl
      | [_] => rfl
      | _ :: _ :: _ => simp [mergeRuns, List.map_flatten]
  | succ rounds ih =>
      match runs with
      | [] => rfl
      | [_] => rfl
      | a :: b :: rest =>
          have hpairs := mergePairs_map compare f (a :: b :: rest)
          have hrounds := ih (mergePairs (fun x y => compare (f x) (f y)) (a :: b :: rest))
          rw [← hpairs] at hrounds
          exact hrounds

/-- Items that are compared by what they stand for are sorted as these are. -/
lemma sortBy_map (items : List β) :
    sortBy compare (items.map f) = (sortBy (fun x y => compare (f x) (f y)) items).map f := by
  have hruns : (items.map f).map (fun a => [a]) = (items.map fun a => [a]).map (List.map f) := by
    simp
  rw [sortBy, hruns, mergeRuns_map, List.length_map]
  rfl

end Map

/-! ### The stable sort -/

/-- A list is the stable sort of items: it has the same items, every one less than or equal to
those after it, and those that are equal to one another stand in the order in which they stood
before. -/
structure IsStableSort (compare : α → α → Ordering) (items sorted : List α) : Prop where
  perm : sorted.Perm items
  ordered : sorted.Pairwise fun x y => (compare x y).isLE
  stable : ∀ c ∈ items, sorted.filter (compare c · == .eq) = items.filter (compare c · == .eq)

/-- Where the comparison is transitive on the items, sorting gives a stable sort. -/
lemma isStableSort_sortBy [OrientedCmp compare] (htrans : TransOn compare items) :
    IsStableSort compare items (sortBy compare items) := by
  -- the comparison is transitive on all items, so the runs are compared with all of them
  have hruns : items ⊆ items → (sortBy compare items).Perm items
      ∧ ((sortBy compare items).Pairwise fun x y => (compare x y).isLE)
      ∧ ∀ c ∈ items, (sortBy compare items).filter (compare c · == .eq)
          = items.filter (compare c · == .eq) := by
    refine sortBy_induction (P := fun x a => x ⊆ items → a.Perm x
      ∧ (a.Pairwise fun u v => (compare u v).isLE)
      ∧ ∀ c ∈ items, a.filter (compare c · == .eq) = x.filter (compare c · == .eq)) ?_ ?_ ?_ items
    · simp
    · simp
    · intro x y a b hx hy hsub
      obtain ⟨hxsub, hysub⟩ := List.append_subset.mp hsub
      obtain ⟨hxperm, hxordered, hxstable⟩ := hx hxsub
      obtain ⟨hyperm, hyordered, hystable⟩ := hy hysub
      have ha : a ⊆ items := fun z hz => hxsub (hxperm.subset hz)
      have hb : b ⊆ items := fun z hz => hysub (hyperm.subset hz)
      refine ⟨(List.merge_perm_append _).trans (hxperm.append hyperm),
        pairwise_merged htrans ha hb hxordered hyordered, fun c hc => ?_⟩
      rw [filter_merged htrans ha hb hxordered hc, hxstable c hc, hystable c hc,
        List.filter_append]
  obtain ⟨hperm, hordered, hstable⟩ := hruns (List.Subset.refl items)
  exact ⟨hperm, hordered, hstable⟩

/-- Two lists in order with the same items are one if those that are equal to one another stand
in the same order in both. -/
lemma eq_of_perm_of_filter_eq [OrientedCmp compare] {s t : List α} (hperm : s.Perm t)
    (hs : s.Pairwise fun x y => (compare x y).isLE)
    (ht : t.Pairwise fun x y => (compare x y).isLE)
    (hfilter : ∀ c ∈ s, s.filter (compare c · == .eq) = t.filter (compare c · == .eq)) :
    s = t := by
  induction s generalizing t with
  | nil => exact hperm.nil_eq
  | cons x s ih =>
      cases t with
      | nil => exact absurd hperm.eq_nil (List.cons_ne_nil x s)
      | cons y t =>
          obtain ⟨hxs, hs'⟩ := List.pairwise_cons.mp hs
          obtain ⟨hyt, ht'⟩ := List.pairwise_cons.mp ht
          have hle : ∀ {u v : α} {l : List α}, v ∈ u :: l → (∀ w ∈ l, (compare u w).isLE) →
              (compare u v).isLE := by
            intro u v l hv hl
            rcases List.mem_cons.mp hv with rfl | hv
            · simp [ReflCmp.compare_self]
            · exact hl v hv
          have hxy : compare x y = .eq :=
            OrientedCmp.isLE_antisymm (hle (hperm.symm.subset List.mem_cons_self) hxs)
              (hle (hperm.subset List.mem_cons_self) hyt)
          -- both heads are the first of the items that are equal to the head
          have hhead := hfilter x List.mem_cons_self
          obtain rfl : x = y := by
            simpa [List.filter_cons, hxy, ReflCmp.compare_self] using congrArg List.head? hhead
          refine congrArg (x :: ·) (ih hperm.cons_inv hs' ht' fun c hc => ?_)
          have hboth := hfilter c (List.mem_cons_of_mem x hc)
          rw [List.filter_cons, List.filter_cons] at hboth
          split at hboth
          · exact List.tail_eq_of_cons_eq hboth
          · exact hboth

/-- There is only one stable sort of items. -/
lemma IsStableSort.unique [OrientedCmp compare] {s t : List α}
    (hs : IsStableSort compare items s) (ht : IsStableSort compare items t) : s = t := by
  refine eq_of_perm_of_filter_eq (hs.perm.trans ht.perm.symm) hs.ordered ht.ordered
    fun c hc => ?_
  have hc' : c ∈ items := hs.perm.subset hc
  rw [hs.stable c hc', ht.stable c hc']

/-- A stable sort is one for every comparison that is the same on the items. -/
lemma IsStableSort.congr {compare' : α → α → Ordering} {sorted : List α}
    (h : IsStableSort compare items sorted)
    (hsame : ∀ x ∈ items, ∀ y ∈ items, compare x y = compare' x y) :
    IsStableSort compare' items sorted where
  perm := h.perm
  ordered := h.ordered.imp_of_mem fun hx hy hle =>
    hsame _ (h.perm.subset hx) _ (h.perm.subset hy) ▸ hle
  stable c hc := by
    have hsorted : ∀ x ∈ sorted, (compare c x == .eq) = (compare' c x == .eq) := by
      intro x hx
      rw [hsame c hc x (h.perm.subset hx)]
    have hitems : ∀ x ∈ items, (compare c x == .eq) = (compare' c x == .eq) := by
      intro x hx
      rw [hsame c hc x hx]
    rw [← List.filter_congr hsorted, ← List.filter_congr hitems]
    exact h.stable c hc

end RowQuery
