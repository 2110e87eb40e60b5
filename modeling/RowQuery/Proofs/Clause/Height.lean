/-
Heights of clauses.

A clause counts its height anew whenever an operand is added to it. It counts right if the heights
in its slots and that of the operand are right.

* `Slot.nesting`: how many clauses really stand inside each other;
* `Clause.Counted`: a clause whose height is counted right;
* `Clause.Counted.appendOperator`, `Clause.Counted.push`, `Clause.Counted.pushConnective`: adding
  to a clause keeps that;
* `Clause.Counted.height_push_le`, `Clause.Counted.nesting_le`: how high it is.
-/
import RowQuery.Proofs.Clause

namespace RowQuery

/-- How many clauses stand inside each other in a slot, whatever they have counted. -/
def Slot.nesting : Slot → ℕ
  | clause left _ right _ => 1 + max left.nesting right.nesting
  | _ => 0

namespace Clause

/-- The height of a clause and of all clauses in it is how many stand inside each other. A clause
with nothing in it counts as none, or as one once a connective has been read. -/
structure Counted (c : Clause) : Prop where
  left_eq : c.left.height = c.left.nesting
  right_eq : c.right.height = c.right.nesting
  height_eq : c.isEmpty = true ∨ c.height = 1 + max c.left.height c.right.height

variable {c : Clause} {s : Slot}

lemma counted_new : new.Counted := ⟨rfl, rfl, .inl rfl⟩

/-- Counted anew, the height is right if it is right in the slots. -/
lemma counted_measured (hleft : c.left.height = c.left.nesting)
    (hright : c.right.height = c.right.nesting) : c.measured.Counted :=
  ⟨hleft, hright, .inr rfl⟩

/-- As a slot, a clause counted anew has its real height. -/
lemma Counted.height_measured (h : c.Counted) :
    c.measured.asSlot.height = c.measured.asSlot.nesting := by
  show 1 + max c.left.height c.right.height = 1 + max c.left.nesting c.right.nesting
  rw [h.left_eq, h.right_eq]

/-- As an operand, a clause has its real height. -/
lemma Counted.height_operand (h : c.Counted) : c.operand.height = c.operand.nesting := by
  rw [operand]
  split_ifs with hempty
  · rfl
  · have hheight := h.height_eq.resolve_left hempty
    show c.height = 1 + max c.left.nesting c.right.nesting
    rw [hheight, h.left_eq, h.right_eq]

/-- Marks do not change the height. -/
lemma Counted.appendOperator (h : c.Counted) (mark : Char) : (c.appendOperator mark).Counted :=
  ⟨h.left_eq, h.right_eq, h.height_eq⟩

/-- The clause around one counted right is counted right. -/
lemma Counted.under (h : c.Counted) (hs : s.height = s.nesting) (operator : String) :
    (c.under operator s).Counted :=
  counted_measured h.height_measured hs

/-- An operand of its real height leaves a clause counted right. -/
lemma Counted.place (h : c.Counted) (hs : s.height = s.nesting) (pending : Option Connective) :
    (c.place s pending).Counted := by
  rw [Clause.place]
  split
  · exact h.under hs _
  · have hfilled : (measured (if c.left == .vacant then { c with left := s }
        else { c with right := s })).Counted := by
      split
      · exact counted_measured hs h.right_eq
      · exact counted_measured h.left_eq hs
    cases pending with
    | none => exact hfilled
    | some connective => exact hfilled.under rfl _

lemma Counted.push (h : c.Counted) (hs : s.height = s.nesting) : (c.push s).Counted :=
  h.place hs none

lemma Counted.pushConnective (h : c.Counted) (hs : s.height = s.nesting) (k : Connective) :
    (c.pushConnective s k).Counted := by
  rw [Clause.pushConnective]
  split_ifs
  · have hrenamed : Counted { c with operator := k.text } := ⟨h.left_eq, h.right_eq, h.height_eq⟩
    exact hrenamed.place hs none
  · exact h.place hs (some k)

/-- What stands in a clause is no higher than the clause. -/
lemma Counted.height_slots_le (h : c.Counted) : max c.left.height c.right.height ≤ c.height := by
  obtain hempty | hheight := h.height_eq
  · obtain ⟨hleft, hright⟩ := isEmpty_iff.mp hempty
    rw [hleft, hright]
    exact Nat.zero_le _
  · omega

/-- An operand adds at most one level around it and the clause. -/
lemma Counted.height_push_le (h : c.Counted) (s : Slot) :
    (c.push s).height ≤ 1 + max c.height s.height := by
  have hslots := h.height_slots_le
  rw [Clause.push, Clause.place]
  split
  · next hfull =>
    -- with both slots taken the clause has counted itself
    have hheight : c.height = 1 + max c.left.height c.right.height := by
      refine h.height_eq.resolve_left fun hempty => ?_
      simp [(isEmpty_iff.mp hempty).1] at hfull
    show 1 + max (1 + max c.left.height c.right.height) s.height ≤ _
    omega
  · split
    · show 1 + max s.height c.right.height ≤ _
      omega
    · show 1 + max c.left.height s.height ≤ _
      omega

lemma height_operand_le (c : Clause) : c.operand.height ≤ c.height := by
  rw [operand]
  split_ifs
  · exact Nat.zero_le _
  · exact le_rfl

/-- A clause counted right is no more than one level when it has counted none. -/
lemma Counted.nesting_le (h : c.Counted) : c.asSlot.nesting ≤ max 1 c.height := by
  show 1 + max c.left.nesting c.right.nesting ≤ _
  rw [← h.left_eq, ← h.right_eq]
  obtain hempty | hheight := h.height_eq
  · obtain ⟨hleft, hright⟩ := isEmpty_iff.mp hempty
    rw [hleft, hright]
    exact le_max_left _ _
  · omega

end Clause

end RowQuery
