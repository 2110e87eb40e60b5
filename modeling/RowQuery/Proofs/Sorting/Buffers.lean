/-
Sorting within two buffers.

The items stay where they are until the end, and their positions are sorted. A pass merges every
two neighbouring runs of positions from one buffer into the other; then the buffers change places,
and the runs are twice as long. At last every item is taken from its position. Reads, writes,
slices and copies have no result outside the bounds or at different lengths, and a loop has none
if it takes more steps than there are items.

* `repeatWhile`: a step repeated as long as a test holds;
* `writeAt?`, `slice?`, `copyOver?`: what may be done with a buffer;
* `mergeInto?`, `mergePass?`, `sortedPositions?`: two runs merged, a pass over all runs, and passes
  until there is one run;
* `takeAt?`, `sortInBuffers?`: the items at positions, and the items sorted;
* `Merging.step?_eq`, `Merging.repeatWhile_step?`, `repeatWhile_step?_bind_rest?`: one step of
  merging two runs, the loop after it, and all of both runs;
* `mergeInto?_eq`: two runs are merged as lists are.
-/
import RowQuery.Proofs.Sorting.Merge

namespace RowQuery

/-! ### Loops -/

section Loops

variable {σ : Type}

/-- A step repeated as long as a test holds. There is no result if a step has none, nor if the test
still holds after as many steps as are allowed. -/
def repeatWhile (test : σ → Bool) (step : σ → Option σ) : ℕ → σ → Option σ
  | 0, s => if test s then none else some s
  | steps + 1, s => if test s then step s >>= repeatWhile test step steps else some s

variable {test : σ → Bool} {step : σ → Option σ} {steps : ℕ} {s t : σ}

lemma repeatWhile_of_not (h : test s = false) : repeatWhile test step steps s = some s := by
  cases steps <;> simp [repeatWhile, h]

lemma repeatWhile_of_step (h : test s) (hstep : step s = some t) :
    repeatWhile test step (steps + 1) s = repeatWhile test step steps t := by
  rw [repeatWhile, if_pos h, hstep]
  rfl

end Loops

/-! ### Buffers -/

/-- A buffer with a position written. -/
def writeAt? (buffer : List ℕ) (k position : ℕ) : Option (List ℕ) :=
  if k < buffer.length then some (buffer.set k position) else none

/-- What a buffer holds from one index to another. -/
def slice? (buffer : List ℕ) (i m : ℕ) : Option (List ℕ) :=
  if i ≤ m ∧ m ≤ buffer.length then some ((buffer.take m).drop i) else none

/-- A buffer with positions copied over those from one index to another, which are as many. -/
def copyOver? (buffer : List ℕ) (k l : ℕ) (positions : List ℕ) : Option (List ℕ) :=
  if k ≤ l ∧ l ≤ buffer.length ∧ l - k = positions.length then
    some (buffer.take k ++ positions ++ buffer.drop l)
  else none

section Buffers

variable {before old after a b : List ℕ} {i m : ℕ}

lemma exists_append_of_length_eq_add (h : b.length = i + m) :
    ∃ b₁ b₂, b = b₁ ++ b₂ ∧ b₁.length = i ∧ b₂.length = m := by
  refine ⟨b.take i, b.drop i, (List.take_append_drop i b).symm, ?_, ?_⟩
  · simp [h]
  · simp [h]

lemma writeAt?_append (before old after : List ℕ) (x y : ℕ) :
    writeAt? (before ++ x :: old ++ after) before.length y
      = some (before ++ [y] ++ old ++ after) := by
  simp [writeAt?]

lemma copyOver?_append (h : old.length = a.length) :
    copyOver? (before ++ old ++ after) before.length (before.length + old.length) a
      = some (before ++ a ++ after) := by
  simp [copyOver?, h]

/-- A slice is what stands in a buffer between what is before it and what is after it. -/
lemma slice?_eq_some_iff :
    slice? b i m = some a
      ↔ ∃ before after, b = before ++ a ++ after ∧ i = before.length ∧ m = i + a.length := by
  rw [slice?]
  constructor
  · intro h
    split_ifs at h with hbounds
    obtain rfl := Option.some.inj h
    have hsplit : b.take i ++ (b.take m).drop i = b.take m := by
      have htake := List.take_append_drop i (b.take m)
      rwa [List.take_take, min_eq_left hbounds.1] at htake
    refine ⟨b.take i, b.drop m, by rw [hsplit, List.take_append_drop], ?_, ?_⟩
    · rw [List.length_take]
      omega
    · rw [List.length_drop, List.length_take]
      omega
  · rintro ⟨before, after, rfl, rfl, rfl⟩
    rw [if_pos (by simp), List.take_left' (by simp), List.drop_left]

lemma length_of_slice? (h : slice? b i m = some a) : m = i + a.length := by
  obtain ⟨-, -, -, -, hm⟩ := slice?_eq_some_iff.mp h
  exact hm

/-- The first position of a slice, and the slice behind it. -/
lemma slice?_cons {x : ℕ} (h : slice? b i m = some (x :: a)) :
    i < m ∧ b[i]? = some x ∧ slice? b (i + 1) m = some a := by
  obtain ⟨before, after, rfl, rfl, rfl⟩ := slice?_eq_some_iff.mp h
  refine ⟨by simp, by simp, ?_⟩
  refine slice?_eq_some_iff.mpr ⟨before ++ [x], after, by simp, by simp, ?_⟩
  rw [List.length_cons]
  omega

end Buffers

/-! ### Sorting positions -/

section Sorting

variable {α : Type}

/-- Two runs while they are merged: how far each has been read, and how far they have been written
into the other buffer. -/
structure Merging where
  spare : List ℕ
  left : ℕ
  right : ℕ
  next : ℕ

/-- The next position is that of the item on the left, unless the item on the right is less. -/
def Merging.step? (compare : α → α → Ordering) (items : List α) (order : List ℕ) (m : Merging) :
    Option Merging := do
  let y ← order[m.right]?
  let x ← order[m.left]?
  if compare (← items[y]?) (← items[x]?) = .lt then
    return { m with spare := ← writeAt? m.spare m.next y, right := m.right + 1, next := m.next + 1 }
  else
    return { m with spare := ← writeAt? m.spare m.next x, left := m.left + 1, next := m.next + 1 }

/-- What is left of both runs is copied behind what has been merged. -/
def Merging.rest? (order : List ℕ) (mid stop : ℕ) (m : Merging) : Option (List ℕ) := do
  let next := m.next + (mid - m.left)
  let spare ← copyOver? m.spare m.next next (← slice? order m.left mid)
  copyOver? spare next (next + (stop - m.right)) (← slice? order m.right stop)

/-- Two neighbouring runs merged from one buffer into the other. -/
def mergeInto? (compare : α → α → Ordering) (items : List α) (order spare : List ℕ)
    (start mid stop : ℕ) : Option (List ℕ) :=
  repeatWhile (fun m => m.left < mid && m.right < stop) (Merging.step? compare items order)
    items.length ⟨spare, start, mid, start⟩ >>= Merging.rest? order mid stop

/-- A pass over all runs: how far the other buffer has been written. -/
structure Pass where
  spare : List ℕ
  start : ℕ

/-- The next two runs are merged. The last runs may be shorter than the others, or missing. -/
def Pass.step? (compare : α → α → Ordering) (items : List α) (order : List ℕ) (width : ℕ)
    (p : Pass) : Option Pass := do
  let mid := min (p.start + width) items.length
  let stop := min (p.start + 2 * width) items.length
  return ⟨← mergeInto? compare items order p.spare p.start mid stop, stop⟩

/-- Every two neighbouring runs of a width merged from one buffer into the other. -/
def mergePass? (compare : α → α → Ordering) (items : List α) (order spare : List ℕ) (width : ℕ) :
    Option (List ℕ) :=
  (repeatWhile (fun p => p.start < items.length) (Pass.step? compare items order width)
    items.length ⟨spare, 0⟩).map Pass.spare

/-- The positions in runs of a width, and the other buffer, in which the order before is left. -/
structure Buffers where
  order : List ℕ
  spare : List ℕ
  width : ℕ

/-- A pass, after which the buffers change places. -/
def Buffers.step? (compare : α → α → Ordering) (items : List α) (b : Buffers) :
    Option Buffers := do
  return ⟨← mergePass? compare items b.order b.spare b.width, b.order, b.width * 2⟩

/-- The positions of the items, sorted. -/
def sortedPositions? (compare : α → α → Ordering) (items : List α) : Option (List ℕ) :=
  (repeatWhile (fun b => b.width < items.length) (Buffers.step? compare items)
    items.length ⟨List.range items.length, List.replicate items.length 0, 1⟩).map Buffers.order

/-- The items at the positions, each taken from its place; an empty place gives none. -/
def takeAt? : List (Option α) → List ℕ → Option (List α)
  | _, [] => some []
  | places, i :: rest => do
    let place ← places[i]?
    return place.toList ++ (← takeAt? (places.set i none) rest)

/-- The items sorted by their positions. -/
def sortInBuffers? (compare : α → α → Ordering) (items : List α) : Option (List α) := do
  takeAt? (items.map some) (← sortedPositions? compare items)

/-! ### Two runs -/

section Merging

variable {compare : α → α → Ordering} {items : List α} {order : List ℕ}

/-- The order of the items at two positions. -/
def compareAt (compare : α → α → Ordering) (items : List α) (x y : ℕ) : Ordering :=
  (Option.map₂ compare items[x]? items[y]?).getD .eq

lemma compareAt_eq {x y : ℕ} (hx : x < items.length) (hy : y < items.length) :
    compareAt compare items x y = compare items[x] items[y] := by
  simp [compareAt, List.getElem?_eq_getElem hx, List.getElem?_eq_getElem hy]

variable {mid stop : ℕ} {a b before old after : List ℕ} {m : Merging}

/-- One step writes the position of an item of either run. -/
lemma Merging.step?_eq (compare : α → α → Ordering) {x y z : ℕ} (hleft : order[m.left]? = some x)
    (hright : order[m.right]? = some y) (hx : x < items.length) (hy : y < items.length)
    (hspare : m.spare = before ++ z :: old ++ after) (hnext : m.next = before.length) :
    m.step? compare items order
      = if compareAt compare items y x = .lt then
          some ⟨before ++ [y] ++ old ++ after, m.left, m.right + 1, m.next + 1⟩
        else some ⟨before ++ [x] ++ old ++ after, m.left + 1, m.right, m.next + 1⟩ := by
  have hwrite (v : ℕ) : writeAt? m.spare m.next v = some (before ++ [v] ++ old ++ after) := by
    rw [hspare, hnext, writeAt?_append]
  rw [step?, compareAt_eq hy hx]
  simp only [hleft, hright, List.getElem?_eq_getElem hx, List.getElem?_eq_getElem hy, hwrite,
    Option.bind_eq_bind, Option.bind_some]
  split <;> rfl

/-- The rest of two runs is copied as it is. -/
lemma Merging.rest?_eq (hleft : slice? order m.left mid = some a)
    (hright : slice? order m.right stop = some b) (hspare : m.spare = before ++ old ++ after)
    (hnext : m.next = before.length) (hold : old.length = a.length + b.length) :
    m.rest? order mid stop = some (before ++ (a ++ b) ++ after) := by
  obtain ⟨old₁, old₂, rfl, h₁, h₂⟩ := exists_append_of_length_eq_add hold
  have hcopyLeft : copyOver? (before ++ old₁ ++ (old₂ ++ after)) before.length
      (before.length + old₁.length) a = some (before ++ a ++ (old₂ ++ after)) := copyOver?_append h₁
  have hcopyRight : copyOver? ((before ++ a) ++ old₂ ++ after) (before ++ a).length
      ((before ++ a).length + old₂.length) b = some ((before ++ a) ++ b ++ after) :=
    copyOver?_append h₂
  rw [rest?, hleft, hright, hspare, hnext, length_of_slice? hleft, length_of_slice? hright,
    Nat.add_sub_cancel_left, Nat.add_sub_cancel_left]
  simp only [h₁, h₂, List.append_assoc, List.length_append] at hcopyLeft hcopyRight
  simp [hcopyLeft, hcopyRight]

/-- As long as both runs go on, the smaller of their first items goes behind what has been merged,
the left one if neither is. -/
lemma Merging.repeatWhile_step? (compare : α → α → Ordering) {steps x y : ℕ}
    (hleft : slice? order m.left mid = some (x :: a))
    (hright : slice? order m.right stop = some (y :: b)) (hx : x < items.length)
    (hy : y < items.length) (hspare : m.spare = before ++ old ++ after)
    (hnext : m.next = before.length) (hold : 0 < old.length) (hsteps : 0 < steps) :
    repeatWhile (fun m => m.left < mid && m.right < stop) (step? compare items order) steps m
      = repeatWhile (fun m => m.left < mid && m.right < stop) (step? compare items order)
          (steps - 1)
          (if compareAt compare items y x = .lt then
            ⟨before ++ [y] ++ old.tail ++ after, m.left, m.right + 1, m.next + 1⟩
          else ⟨before ++ [x] ++ old.tail ++ after, m.left + 1, m.right, m.next + 1⟩) := by
  obtain ⟨hmid, hfirst, -⟩ := slice?_cons hleft
  obtain ⟨hstop, hfirst', -⟩ := slice?_cons hright
  obtain ⟨z, old, rfl⟩ := List.exists_cons_of_length_pos hold
  obtain ⟨steps, rfl⟩ := Nat.exists_eq_add_of_lt hsteps
  rw [Nat.zero_add, Nat.add_sub_cancel]
  refine repeatWhile_of_step (by simp [hmid, hstop]) ?_
  rw [step?_eq compare hfirst hfirst' hx hy hspare hnext, List.tail_cons]
  split <;> rfl

/-- What is left of two runs is merged behind what has been merged. -/
lemma repeatWhile_step?_bind_rest? {steps : ℕ} (hleft : slice? order m.left mid = some a)
    (hright : slice? order m.right stop = some b) (hbounds : ∀ x ∈ a ++ b, x < items.length)
    (hspare : m.spare = before ++ old ++ after) (hnext : m.next = before.length)
    (hold : old.length = a.length + b.length) (hsteps : a.length + b.length ≤ steps) :
    repeatWhile (fun m => m.left < mid && m.right < stop) (Merging.step? compare items order)
        steps m >>= Merging.rest? order mid stop
      = some (before ++ merged (compareAt compare items) a b ++ after) := by
  induction a, b using merged_induction (compareAt compare items)
    generalizing m before old steps with
  | left a =>
      have hstop := length_of_slice? hright
      rw [repeatWhile_of_not (by simp [hstop])]
      simpa using Merging.rest?_eq hleft hright hspare hnext hold
  | right b =>
      have hmid := length_of_slice? hleft
      rw [repeatWhile_of_not (by simp [hmid])]
      simpa using Merging.rest?_eq hleft hright hspare hnext hold
  | fromRight x y a b hlt ih =>
      simp only [List.length_cons] at hold hsteps
      rw [Merging.repeatWhile_step? compare hleft hright (hbounds x (by simp))
        (hbounds y (by simp)) hspare hnext (by omega) (by omega), if_pos hlt, merged_of_lt hlt]
      have hrest := ih
        (m := ⟨before ++ [y] ++ old.tail ++ after, m.left, m.right + 1, m.next + 1⟩)
        hleft (slice?_cons hright).2.2 (fun v hv => hbounds v (by grind)) rfl (by simp [hnext])
        (by simp only [List.length_tail, List.length_cons]; omega)
        (by rw [List.length_cons]; omega : _ ≤ steps - 1)
      simpa using hrest
  | fromLeft x y a b hge ih =>
      simp only [List.length_cons] at hold hsteps
      rw [Merging.repeatWhile_step? compare hleft hright (hbounds x (by simp))
        (hbounds y (by simp)) hspare hnext (by omega) (by omega), if_neg hge, merged_of_not_lt hge]
      have hrest := ih
        (m := ⟨before ++ [x] ++ old.tail ++ after, m.left + 1, m.right, m.next + 1⟩)
        (slice?_cons hleft).2.2 hright (fun v hv => hbounds v (by grind)) rfl (by simp [hnext])
        (by simp only [List.length_tail, List.length_cons]; omega)
        (by rw [List.length_cons]; omega : _ ≤ steps - 1)
      simpa using hrest

/-- Two neighbouring runs are merged as lists are, and what is behind them stays as it is. -/
lemma mergeInto?_eq {start : ℕ} {done rest : List ℕ} (horder : order = before ++ (a ++ b) ++ after)
    (hbounds : ∀ x ∈ order, x < items.length) (hlength : order.length = items.length)
    (hdone : done.length = before.length) (hold : old.length = a.length + b.length)
    (hstart : start = before.length) (hmid : mid = start + a.length)
    (hstop : stop = mid + b.length) :
    mergeInto? compare items order (done ++ old ++ rest) start mid stop
      = some (done ++ merged (compareAt compare items) a b ++ rest) := by
  have hleft : slice? order start mid = some a :=
    slice?_eq_some_iff.mpr ⟨before, b ++ after, by simp [horder], hstart, hmid⟩
  have hright : slice? order mid stop = some b :=
    slice?_eq_some_iff.mpr ⟨before ++ a, after, by simp [horder], by simp [hmid, hstart], hstop⟩
  have hruns : ∀ x ∈ a ++ b, x < items.length := fun x hx =>
    hbounds x (by rw [horder]; exact List.mem_append_left _ (List.mem_append_right _ hx))
  have hsteps : a.length + b.length ≤ items.length := by
    rw [← hlength, horder, List.length_append, List.length_append, List.length_append]
    omega
  exact repeatWhile_step?_bind_rest? (m := ⟨done ++ old ++ rest, start, mid, start⟩)
    hleft hright hruns rfl (hstart.trans hdone.symm) hold hsteps

end Merging

end Sorting

end RowQuery
