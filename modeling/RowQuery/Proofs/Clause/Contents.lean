/-
What is in a clause.

An operand goes into the left slot as long as this is free, then into the right one, and behind all
that is there when both are taken. So from left to right the texts in a clause stand in the order
in which they were added, whatever marks and connectives came between them; and the condition that
a clause spells has the same texts. The height of a clause is none until the first operand is
added, and is counted right from then on.

* `Slot.LeftFirst`, `Clause.LeftFirst`: the right slot is taken only after the left one;
* `Clause.LeftFirst.texts_add`, `Clause.LeftFirst.add`: an operand comes behind the texts that are
  there, and leaves the right slot to the last;
* `Slot.texts_of_condition`: a condition has the texts of the slot that spells it;
* `Additions.texts`, `Additions.hasOperand`: what is added;
* `Additions.contents_made`: what is in the clause that is made, and how high it is.
-/
import RowQuery.Proofs.Clause.Additions
import RowQuery.Proofs.Clause.Height

namespace RowQuery

/-! ### Slots taken from the left -/

/-- In every clause, however deep, the right slot is taken only if the left one is. -/
def Slot.LeftFirst : Slot → Prop
  | clause left _ right _ =>
      (right ≠ .vacant → left ≠ .vacant) ∧ left.LeftFirst ∧ right.LeftFirst
  | _ => True

namespace Clause

/-- In a clause, and in every clause in it, the right slot is taken only if the left one is. -/
def LeftFirst (c : Clause) : Prop := c.asSlot.LeftFirst

variable {c : Clause} {s : Slot}

lemma leftFirst_new : new.LeftFirst := ⟨fun h => absurd rfl h, trivial, trivial⟩

/-- Where the left slot is free, the right one is. -/
lemma LeftFirst.right_eq (h : c.LeftFirst) (hleft : c.left = .vacant) : c.right = .vacant := by
  by_contra hright
  exact h.1 hright hleft

/-- The texts of an operand that is left out are none. -/
lemma texts_operand (c : Clause) : c.operand.texts = c.asSlot.texts := by
  rw [operand]
  split_ifs with hempty
  · obtain ⟨hleft, hright⟩ := isEmpty_iff.mp hempty
    rw [asSlot, hleft, hright]
    rfl
  · rfl

lemma LeftFirst.operand (h : c.LeftFirst) : c.operand.LeftFirst := by
  rw [Clause.operand]
  split_ifs
  · trivial
  · exact h

/-- An operand in the first free slot comes behind the texts that are there. -/
lemma LeftFirst.texts_filled (h : c.LeftFirst) (hfree : c.left = .vacant ∨ c.right = .vacant)
    (s : Slot) : (c.filled s).asSlot.texts = c.asSlot.texts ++ s.texts := by
  rw [filled]
  split_ifs with hleft
  · simp [asSlot, Slot.texts, hleft, h.right_eq hleft]
  · simp [asSlot, Slot.texts, hfree.resolve_left hleft]

lemma LeftFirst.filled (h : c.LeftFirst) (hs : s.LeftFirst) : (c.filled s).LeftFirst := by
  rw [Clause.filled]
  split_ifs with hleft
  · exact ⟨fun hright => absurd (h.right_eq hleft) hright, hs, h.2.2⟩
  · exact ⟨fun _ => hleft, h.2.1, hs⟩

/-- A clause around another one has it on the left. -/
lemma LeftFirst.under (h : c.LeftFirst) (hs : s.LeftFirst) (operator : String) :
    (c.under operator s).LeftFirst :=
  ⟨fun _ => Slot.noConfusion, h, hs⟩

/-- Wherever an operand finds its place, it comes behind the texts that are there. -/
lemma LeftFirst.texts_place (h : c.LeftFirst) (s : Slot) (pending : Option Connective) :
    (c.place s pending).asSlot.texts = c.asSlot.texts ++ s.texts := by
  by_cases hfree : c.left = .vacant ∨ c.right = .vacant
  · rw [place_of_free hfree]
    cases pending with
    | none => exact h.texts_filled hfree s
    | some k =>
        -- nothing stands on the right of the new clause yet
        calc ((c.filled s).under k.text .vacant).asSlot.texts
            = (c.filled s).asSlot.texts ++ [] := rfl
          _ = c.asSlot.texts ++ s.texts := by rw [List.append_nil, h.texts_filled hfree]
  · obtain ⟨hleft, hright⟩ := not_or.mp hfree
    rw [place_of_full hleft hright]
    rfl

lemma LeftFirst.place (h : c.LeftFirst) (hs : s.LeftFirst) (pending : Option Connective) :
    (c.place s pending).LeftFirst := by
  by_cases hfree : c.left = .vacant ∨ c.right = .vacant
  · rw [place_of_free hfree]
    cases pending with
    | none => exact h.filled hs
    | some k => exact (h.filled hs).under (s := .vacant) trivial k.text
  · obtain ⟨hleft, hright⟩ := not_or.mp hfree
    rw [place_of_full hleft hright]
    exact h.under hs _

/-- What is added comes behind the texts that are there. -/
lemma LeftFirst.texts_add (h : c.LeftFirst) (s : Slot) (after : Option Connective) :
    (c.add s after).asSlot.texts = c.asSlot.texts ++ s.texts := by
  obtain ⟨operator, pending, hplace⟩ := c.exists_add_eq_place s after
  have hrenamed : LeftFirst { c with operator } := h
  rw [hplace, hrenamed.texts_place]
  rfl

lemma LeftFirst.add (h : c.LeftFirst) (hs : s.LeftFirst) (after : Option Connective) :
    (c.add s after).LeftFirst := by
  obtain ⟨operator, pending, hplace⟩ := c.exists_add_eq_place s after
  have hrenamed : LeftFirst { c with operator } := h
  rw [hplace]
  exact hrenamed.place hs pending

/-! ### Heights of what is added -/

lemma Counted.add (h : c.Counted) (hs : s.height = s.nesting) (after : Option Connective) :
    (c.add s after).Counted := by
  obtain ⟨operator, pending, hplace⟩ := c.exists_add_eq_place s after
  have hrenamed : Counted { c with operator } := ⟨h.left_eq, h.right_eq, h.height_eq⟩
  rw [hplace]
  exact hrenamed.place hs pending

/-- Once an operand is added, a clause has counted itself, even if the operand was left out. -/
lemma height_add (c : Clause) (s : Slot) (after : Option Connective) :
    (c.add s after).height
      = 1 + max (c.add s after).left.height (c.add s after).right.height := by
  obtain ⟨operator, pending, hplace⟩ := c.exists_add_eq_place s after
  rw [hplace, place]
  split_ifs
  · rfl
  · cases pending <;> rfl
  · cases pending <;> rfl

end Clause

/-! ### Conditions -/

/-- A condition has the texts of the slot that spells it. -/
lemma Slot.texts_of_condition {s : Slot} {x : Condition} (h : s.condition = .ok x) :
    x.texts = s.texts := by
  refine condition_induction (motive := fun s x => x.texts = s.texts) ?_ ?_ ?_ ?_ h
  · intro column relation operator literal height
    rfl
  · intro column operator literal height
    rfl
  · intro c operator height x hc
    rw [hc, Slot.texts]
    exact (List.append_nil _).symm
  · intro c d k operator height x y hc hd
    rw [Condition.texts, hc, hd]
    rfl

/-! ### What is added -/

namespace Additions

/-- The texts that are added, in this order; those of a clause come where the clause does. -/
def texts : Additions → List String
  | start => []
  | mark before _ => before.texts
  | text before s _ => before.texts ++ [s]
  | clause before inner _ => before.texts ++ inner.texts

/-- An operand is among the additions to the clause itself, be it one that is left out. -/
def hasOperand : Additions → Bool
  | start => false
  | mark before _ => before.hasOperand
  | text .. => true
  | clause .. => true

lemma leftFirst_made (a : Additions) : a.made.LeftFirst := by
  induction a with
  | start => exact Clause.leftFirst_new
  | mark before c ih => exact ih
  | text before s after ih => exact ih.add (s := .text s) trivial after
  | clause before inner after ihbefore ihinner => exact ihbefore.add ihinner.operand after

/-- No text is lost, and none is moved. -/
lemma texts_made (a : Additions) : a.made.asSlot.texts = a.texts := by
  induction a with
  | start => rfl
  | mark before c ih => exact ih
  | text before s after ih =>
      rw [made, before.leftFirst_made.texts_add, ih]
      rfl
  | clause before inner after ihbefore ihinner =>
      rw [made, before.leftFirst_made.texts_add, Clause.texts_operand, ihbefore, ihinner]
      rfl

lemma counted_made (a : Additions) : a.made.Counted := by
  induction a with
  | start => exact Clause.counted_new
  | mark before c ih => exact ih.appendOperator c
  | text before s after ih => exact ih.add rfl after
  | clause before inner after ihbefore ihinner => exact ihbefore.add ihinner.height_operand after

/-- A clause is without height until the first operand, and has counted itself from then on. -/
lemma height_made (a : Additions) :
    a.made.height
      = if a.hasOperand then 1 + max a.made.left.height a.made.right.height else 0 := by
  induction a with
  | start => rfl
  | mark before c ih => exact ih
  | text before s after => exact Clause.height_add _ _ after
  | clause before inner after => exact Clause.height_add _ _ after

/-- **What is in a clause.** Whatever is added to a new clause, its texts from left to right are
those that were added, in this order; a right slot is taken only if the left one is; the height is
none exactly if no operand was added, and otherwise one more than that of the higher slot, which is
how many clauses stand inside each other; and a condition that is spelled has these texts. -/
theorem contents_made (a : Additions) :
    a.made.asSlot.texts = a.texts
    ∧ a.made.LeftFirst
    ∧ (a.made.height = 0 ↔ a.hasOperand = false)
    ∧ (a.hasOperand → a.made.height = 1 + max a.made.left.height a.made.right.height
        ∧ a.made.height = a.made.asSlot.nesting)
    ∧ ∀ x, a.made.condition = .ok x → x.texts = a.texts := by
  have hheight := a.height_made
  refine ⟨a.texts_made, a.leftFirst_made, ?_, fun hoperand => ?_, fun x hx => ?_⟩
  · cases hoperand : a.hasOperand with
    | false => simpa [hoperand] using hheight
    | true =>
        rw [hheight, hoperand]
        simp
  · rw [if_pos hoperand] at hheight
    refine ⟨hheight, ?_⟩
    calc a.made.height = 1 + max a.made.left.height a.made.right.height := hheight
      _ = 1 + max a.made.left.nesting a.made.right.nesting := by
          rw [a.counted_made.left_eq, a.counted_made.right_eq]
      _ = a.made.asSlot.nesting := rfl
  · calc x.texts = a.made.asSlot.texts := Slot.texts_of_condition hx
      _ = a.texts := a.texts_made

/-- Three comparisons with connectives after two of them, and before the last one a clause with
nothing in it but a mark. -/
theorem contents_made_three_comparisons :
    let comparison := fun column literal : String =>
      Additions.text (.mark (.text .start column none) '=') literal none
    let a := Additions.clause
      (.clause
        (.clause (.clause .start (comparison "a" "1") (some .and)) (comparison "b" "2") (some .or))
        (.mark .start '>') none)
      (comparison "c" "3") none
    let x := Condition.join .or
      (.join .and (.comparison "a" .equal "1") (.comparison "b" .equal "2"))
      (.comparison "c" .equal "3")
    a.made.asSlot.texts = ["a", "1", "b", "2", "c", "3"]
    ∧ a.made.LeftFirst
    ∧ a.hasOperand ∧ a.made.height = 1 + max a.made.left.height a.made.right.height
    ∧ a.made.height = a.made.asSlot.nesting ∧ a.made.height = 3
    ∧ a.made.condition = .ok x ∧ x.texts = ["a", "1", "b", "2", "c", "3"] := by
  intro comparison a x
  have hoperand : a.hasOperand := rfl
  have hcondition : a.made.condition = .ok x := by decide +kernel
  obtain ⟨htexts, hleft, -, hheight, hspelled⟩ := contents_made a
  obtain ⟨hslots, hnesting⟩ := hheight hoperand
  exact ⟨htexts, hleft, hoperand, hslots, hnesting, by decide +kernel, hcondition,
    hspelled x hcondition⟩

end Additions

end RowQuery
