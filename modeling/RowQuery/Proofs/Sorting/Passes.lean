/-
Passes over runs of positions.

A pass over runs of a width merges every two neighbours, also where the last run is shorter or has
no neighbour, and leaves runs of twice the width. So passes sort the positions of the items as
lists are sorted, and each item is taken once.

* `Runs`: runs of a width, but for the last one, which may be shorter;
* `Pass.step?_eq`, `mergePass?_eq`, `Runs.doubled`: a step of a pass, all of it, and what it leaves;
* `repeatWhile_buffers`, `sortedPositions?_eq`: all passes;
* `takeAt?_eq`: items are taken once each;
* `sortInBuffers?_eq_some_sortBy`: sorting loses and repeats nothing, whatever the comparison.
-/
import RowQuery.Proofs.Sorting.Buffers

namespace RowQuery

variable {α : Type}

/-! ### A pass -/

/-- Runs of a width, but for the last one, which may be shorter. -/
inductive Runs (width : ℕ) : List (List ℕ) → Prop
  | nil : Runs width []
  | last {run : List ℕ} (hne : run ≠ []) (hle : run.length ≤ width) : Runs width [run]
  | cons {run next : List ℕ} {rest : List (List ℕ)} (hlength : run.length = width)
      (h : Runs width (next :: rest)) : Runs width (run :: next :: rest)

section Pass

variable {width : ℕ} {a : List ℕ} {runs rest : List (List ℕ)}

lemma Runs.tail (h : Runs width (a :: rest)) : Runs width rest := by
  cases h with
  | last => exact .nil
  | cons _ h => exact h

/-- Only the last run is shorter than the width. -/
lemma Runs.length_head (h : Runs width (a :: rest)) :
    a.length ≤ width ∧ (rest = [] ∨ a.length = width) := by
  cases h with
  | last _ hle => exact ⟨hle, .inl rfl⟩
  | cons hlength _ => exact ⟨hlength.le, .inr hlength⟩

lemma Runs.head_ne_nil (hwidth : 0 < width) (h : Runs width (a :: rest)) : a ≠ [] := by
  cases h with
  | last hne _ => exact hne
  | cons hlength _ => exact List.ne_nil_of_length_pos (hlength ▸ hwidth)

/-- Single positions are runs of one. -/
lemma runs_one : ∀ positions : List ℕ, Runs 1 (positions.map fun x => [x])
  | [] => .nil
  | [x] => .last (List.cons_ne_nil x []) le_rfl
  | _ :: y :: rest => .cons rfl (runs_one (y :: rest))

/-- Merging neighbours doubles the width. -/
lemma Runs.doubled (compare : ℕ → ℕ → Ordering) (hwidth : 0 < width) :
    ∀ {runs : List (List ℕ)}, Runs width runs → Runs (width * 2) (mergePairs compare runs)
  | [], _ => .nil
  | [a], h => .last (h.head_ne_nil hwidth) (by have hle := h.length_head.1; omega)
  | a :: b :: rest, .cons hlength h => by
      have hrest := h.tail.doubled compare hwidth
      have hmerged : (merged compare a b).length = a.length + b.length := List.length_merge _ _ _
      obtain ⟨hle, hlast⟩ := h.length_head
      show Runs (width * 2) (merged compare a b :: mergePairs compare rest)
      cases rest with
      | nil => exact .last (List.ne_nil_of_length_pos (by omega)) (by omega)
      | cons c rest =>
          have hb := hlast.resolve_left (List.cons_ne_nil c rest)
          obtain ⟨next, others, hnext⟩ : ∃ next others,
              mergePairs compare (c :: rest) = next :: others := by
            refine List.exists_cons_of_length_pos ?_
            rw [length_mergePairs, List.length_cons]
            omega
          rw [hnext] at hrest ⊢
          exact .cons (by omega) hrest

variable {compare : α → α → Ordering} {items : List α} {order before old done : List ℕ}

/-- One step merges the next two runs. -/
lemma Pass.step?_eq {b after rest : List ℕ} (horder : order = before ++ (a ++ b) ++ after)
    (hbounds : ∀ x ∈ order, x < items.length) (hlength : order.length = items.length)
    (hdone : done.length = before.length) (hold : old.length = a.length + b.length)
    (hmid : min (before.length + width) items.length = before.length + a.length)
    (hstop : min (before.length + 2 * width) items.length
      = before.length + a.length + b.length) :
    Pass.step? compare items order width ⟨done ++ old ++ rest, before.length⟩
      = some ⟨done ++ merged (compareAt compare items) a b ++ rest,
          (before ++ (a ++ b)).length⟩ := by
  rw [Pass.step?, hmid, hstop, mergeInto?_eq horder hbounds hlength hdone hold rfl rfl rfl]
  simp [Nat.add_assoc]

/-- From a run on, a pass merges every two neighbours. -/
lemma repeatWhile_pass (hbounds : ∀ x ∈ order, x < items.length)
    (hlength : order.length = items.length) (hwidth : 0 < width) :
    ∀ {runs : List (List ℕ)} {before done old : List ℕ} {steps : ℕ}, Runs width runs →
      order = before ++ runs.flatten → done.length = before.length →
      old.length = runs.flatten.length → runs.flatten.length ≤ steps →
      repeatWhile (fun p => p.start < items.length) (Pass.step? compare items order width)
          steps ⟨done ++ old, before.length⟩
        = some ⟨done ++ (mergePairs (compareAt compare items) runs).flatten, items.length⟩
  | [], before, done, old, _, _, horder, hdone, hold, _ => by
      obtain rfl : old = [] := by simpa using hold
      have hend : before.length = items.length := by simpa [horder] using hlength
      rw [repeatWhile_of_not (by simp [hend]), hend]
      rfl
  | [a], before, done, old, steps, hruns, horder, hdone, hold, hsteps => by
      have hpos := List.length_pos_iff.mpr (hruns.head_ne_nil hwidth)
      have hle := hruns.length_head.1
      obtain ⟨steps, rfl⟩ : ∃ others, steps = others + 1 := by
        simp only [List.flatten_singleton] at hsteps
        exact ⟨steps - 1, by omega⟩
      have hend : before.length + a.length = items.length := by simpa [horder] using hlength
      have horder' : order = before ++ (a ++ []) ++ [] := by simpa using horder
      have hstep : Pass.step? compare items order width ⟨done ++ old ++ [], before.length⟩
          = some ⟨done ++ merged (compareAt compare items) a [] ++ [],
              (before ++ (a ++ [])).length⟩ :=
        Pass.step?_eq horder' hbounds hlength hdone (by simpa using hold) (by omega)
          (by rw [List.length_nil]; omega)
      simp only [List.append_nil, merged_nil] at hstep
      rw [repeatWhile_of_step (by simp only [decide_eq_true_eq]; omega) hstep,
        repeatWhile_of_not (by simp [hend])]
      simp [mergePairs, hend]
  | a :: b :: rest, before, done, old, steps, .cons ha hruns, horder, hdone, hold, hsteps => by
      have hpos := List.length_pos_iff.mpr (hruns.head_ne_nil hwidth)
      obtain ⟨hle, hlast⟩ := hruns.length_head
      simp only [List.flatten_cons, List.length_append] at hsteps
      obtain ⟨steps, rfl⟩ : ∃ others, steps = others + 1 := ⟨steps - 1, by omega⟩
      have hsum : old.length = a.length + b.length + rest.flatten.length := by
        rw [hold]
        simp [Nat.add_assoc]
      obtain ⟨old₁, old₂, rfl, h₁, h₂⟩ := exists_append_of_length_eq_add hsum
      have hend : before.length + (a.length + b.length + rest.flatten.length) = items.length := by
        rw [← hlength, horder]
        simp [Nat.add_assoc]
      have hshort : rest.flatten.length = 0 ∨ b.length = width :=
        hlast.imp_left fun hnil => by rw [hnil]; rfl
      have horder' : order = before ++ (a ++ b) ++ rest.flatten := by simpa using horder
      have hstep : Pass.step? compare items order width ⟨done ++ old₁ ++ old₂, before.length⟩
          = some ⟨done ++ merged (compareAt compare items) a b ++ old₂,
              (before ++ (a ++ b)).length⟩ :=
        Pass.step?_eq horder' hbounds hlength hdone h₁ (by omega) (by omega)
      rw [← List.append_assoc, repeatWhile_of_step (by simp only [decide_eq_true_eq]; omega) hstep,
        repeatWhile_pass hbounds hlength hwidth hruns.tail horder' ?_ h₂ (by omega)]
      · simp [mergePairs]
      · simp [hdone]

/-- A pass merges every two neighbours. -/
lemma mergePass?_eq {spare : List ℕ} (hbounds : ∀ x ∈ runs.flatten, x < items.length)
    (hlength : runs.flatten.length = items.length) (hwidth : 0 < width) (hruns : Runs width runs)
    (hspare : spare.length = items.length) :
    mergePass? compare items runs.flatten spare width
      = some (mergePairs (compareAt compare items) runs).flatten := by
  have hpass : repeatWhile (fun p => p.start < items.length)
      (Pass.step? compare items runs.flatten width) items.length
      ⟨[] ++ spare, ([] : List ℕ).length⟩
        = some ⟨[] ++ (mergePairs (compareAt compare items) runs).flatten, items.length⟩ :=
    repeatWhile_pass hbounds hlength hwidth hruns rfl rfl (hspare.trans hlength.symm) hlength.le
  rw [List.nil_append, List.length_nil] at hpass
  rw [mergePass?, hpass]
  rfl

end Pass

/-! ### All passes -/

section Passes

variable {compare : α → α → Ordering} {items : List α}

/-- One run is no longer than the width, and more runs are. -/
lemma Runs.length_flatten_le_iff {width : ℕ} (hwidth : 0 < width) :
    ∀ {runs : List (List ℕ)}, Runs width runs →
      (runs.flatten.length ≤ width ↔ runs.length ≤ 1)
  | [], _ => by simp
  | [a], h => by simpa using h.length_head.1
  | a :: b :: rest, .cons ha h => by
      have hpos := List.length_pos_iff.mpr (h.head_ne_nil hwidth)
      simp only [List.flatten_cons, List.length_append, List.length_cons]
      omega

/-- Passes over runs merge them until one is left. -/
lemma repeatWhile_buffers (compare : α → α → Ordering) (rounds : ℕ) {runs : List (List ℕ)}
    {spare : List ℕ} {width : ℕ} (hruns : Runs width runs) (hwidth : 0 < width)
    (hperm : runs.flatten.Perm (List.range items.length)) (hspare : spare.length = items.length)
    (hrounds : runs.length ≤ rounds + 1) :
    (repeatWhile (fun b => b.width < items.length) (Buffers.step? compare items)
        rounds ⟨runs.flatten, spare, width⟩).map Buffers.order
      = some (mergeRuns (compareAt compare items) rounds runs) := by
  induction rounds generalizing runs spare width with
  | zero =>
      have hlength : runs.flatten.length = items.length := by simpa using hperm.length_eq
      have hend := (hruns.length_flatten_le_iff hwidth).mpr hrounds
      rw [repeatWhile_of_not (by simpa [← hlength] using hend), mergeRuns_of_length_le _ _ hrounds]
      rfl
  | succ rounds ih =>
      have hlength : runs.flatten.length = items.length := by simpa using hperm.length_eq
      by_cases hone : runs.length ≤ 1
      · have hend := (hruns.length_flatten_le_iff hwidth).mpr hone
        rw [repeatWhile_of_not (by simpa [← hlength] using hend), mergeRuns_of_length_le _ _ hone]
        rfl
      · have hmore := (hruns.length_flatten_le_iff hwidth).not.mpr hone
        have hbounds : ∀ x ∈ runs.flatten, x < items.length := fun x hx =>
          List.mem_range.mp (hperm.subset hx)
        have hstep : Buffers.step? compare items ⟨runs.flatten, spare, width⟩
            = some ⟨(mergePairs (compareAt compare items) runs).flatten, runs.flatten,
                width * 2⟩ := by
          rw [Buffers.step?, mergePass?_eq hbounds hlength hwidth hruns hspare]
          rfl
        rw [repeatWhile_of_step (by simp only [decide_eq_true_eq]; omega) hstep,
          mergeRuns_succ _ _ (not_le.mp hone)]
        refine ih (hruns.doubled _ hwidth) (by omega)
          ((perm_flatten_mergePairs _ runs).trans hperm) hlength ?_
        rw [length_mergePairs]
        omega

/-- The positions are sorted as lists are. -/
lemma sortedPositions?_eq (compare : α → α → Ordering) (items : List α) :
    sortedPositions? compare items
      = some (sortBy (compareAt compare items) (List.range items.length)) := by
  have hflatten : ((List.range items.length).map fun x => [x]).flatten
      = List.range items.length := by
    rw [← List.flatMap_def, List.flatMap_singleton']
  have hspare : (List.replicate items.length 0).length = items.length := List.length_replicate
  have hpasses := repeatWhile_buffers compare items.length (runs_one (List.range items.length))
    one_pos (.of_eq hflatten) hspare (by simp)
  rw [hflatten] at hpasses
  rw [sortedPositions?, hpasses, sortBy, List.length_range]

/-- Items are taken from places that still hold them, if none is taken twice. -/
lemma takeAt?_eq {places : List (Option α)} {order : List ℕ} {taken : List α}
    (htaken : order.map (items[·]?) = taken.map some) (hnodup : order.Nodup)
    (hplaces : ∀ i ∈ order, places[i]? = some items[i]?) : takeAt? places order = some taken := by
  induction order generalizing places taken with
  | nil =>
      obtain rfl : taken = [] := by simpa using htaken.symm
      rfl
  | cons i rest ih =>
      obtain ⟨a, taken, rfl⟩ : ∃ a others, taken = a :: others := by
        cases taken with
        | nil => cases htaken
        | cons a others => exact ⟨a, others, rfl⟩
      obtain ⟨ha, hrest⟩ := List.cons_eq_cons.mp htaken
      obtain ⟨hi, hnodup'⟩ := List.nodup_cons.mp hnodup
      have hplace := hplaces i List.mem_cons_self
      have hothers : ∀ j ∈ rest, (places.set i none)[j]? = some items[j]? := fun j hj => by
        have hij : i ≠ j := by
          rintro rfl
          exact hi hj
        rw [List.getElem?_set_ne hij]
        exact hplaces j (List.mem_cons_of_mem i hj)
      have hrest' := ih hrest hnodup' hothers
      simp [takeAt?, hplace, show items[i]? = some a from ha, hrest']

/-- The items at the sorted positions are the sorted items. -/
lemma map_sortBy_compareAt (compare : α → α → Ordering) (items : List α) :
    (sortBy (compareAt compare items) (List.range items.length)).map (items[·]?)
      = (sortBy compare items).map some := by
  have hrange : (List.range items.length).map (items[·]?) = items.map some := by
    refine List.ext_getElem (by simp) fun i _ _ => ?_
    simp
  let lifted : Option α → Option α → Ordering := fun x y => (Option.map₂ compare x y).getD .eq
  calc (sortBy (compareAt compare items) (List.range items.length)).map (items[·]?)
      = sortBy lifted ((List.range items.length).map (items[·]?)) :=
        (sortBy_map lifted (items[·]?) (List.range items.length)).symm
    _ = sortBy lifted (items.map some) := by rw [hrange]
    _ = (sortBy compare items).map some := sortBy_map lifted some items

/-- **Nothing is lost in sorting.** Whatever the comparison is, sorting within two buffers comes to
an end, no loop taking more steps than there are items, with every index and slice in bounds and
every copy of equal lengths. The positions of the items are sorted, each once, and the result is
what merging lists gives: the items in another order. -/
theorem sortInBuffers?_eq_some_sortBy (compare : α → α → Ordering) (items : List α) :
    (∃ order, sortedPositions? compare items = some order ∧ order.Perm (List.range items.length))
    ∧ sortInBuffers? compare items = some (sortBy compare items)
    ∧ (sortBy compare items).Perm items := by
  have hperm := perm_sortBy (compareAt compare items) (List.range items.length)
  have horder := sortedPositions?_eq compare items
  have hnodup := hperm.nodup_iff.mpr List.nodup_range
  have hplaces : ∀ i ∈ sortBy (compareAt compare items) (List.range items.length),
      (items.map some)[i]? = some items[i]? := fun i hi => by
    have hlt := List.mem_range.mp (hperm.subset hi)
    simp [List.getElem?_eq_getElem hlt]
  refine ⟨⟨_, horder, hperm⟩, ?_, perm_sortBy compare items⟩
  rw [sortInBuffers?, horder]
  exact takeAt?_eq (map_sortBy_compareAt compare items) hnodup hplaces

end Passes

end RowQuery
