/-
Clauses made by any calls.

A clause begins as new and is added to: marks of its operator, and operands that are texts or
clauses made the same way, with or without a connective after them. An operand with nothing in it
is left out. But a clause in which neither slot is taken yet, and which has an operator already,
goes into the left slot of a new one when a connective comes without an operand.

* `Additions`: what is added to a new clause, call after call, and the clause that is `made`;
* `Clause.Solid`: no clause in its slots, however deep, has both of its own slots free;
* `solid_place_iff`, `solid_push_iff`, `solid_pushConnective_iff`: which additions keep that;
* `Additions.strays`: somewhere a connective comes without an operand after an operator and no
  text;
* `Slot.solid_of_condition`: what spells a condition is solid;
* `Additions.solid_made_iff`: the clause that is made is solid unless the additions stray, and
  otherwise spells no condition.
-/
import RowQuery.Proofs.Clause

namespace RowQuery

/-! ### Solid clauses -/

/-- No clause in a slot, however deep, has both of its own slots free. -/
def Slot.Solid : Slot → Prop
  | clause left _ right _ => (left ≠ .vacant ∨ right ≠ .vacant) ∧ left.Solid ∧ right.Solid
  | _ => True

namespace Clause

/-- No clause in the slots of a clause, however deep, has both of its own slots free. -/
def Solid (c : Clause) : Prop := c.left.Solid ∧ c.right.Solid

variable {c : Clause} {s : Slot}

lemma solid_new : new.Solid := ⟨trivial, trivial⟩

lemma not_isEmpty_iff : c.isEmpty = false ↔ c.left ≠ .vacant ∨ c.right ≠ .vacant := by
  rw [Bool.eq_false_iff, ne_eq, isEmpty_iff, not_and_or]

/-- As the content of a slot, a clause has to have a slot taken. -/
lemma solid_asSlot_iff : c.asSlot.Solid ↔ c.isEmpty = false ∧ c.Solid := by
  rw [not_isEmpty_iff]
  exact Iff.rfl

/-- As an operand, an empty clause is none. -/
lemma solid_operand_iff : c.operand.Solid ↔ c.Solid := by
  rw [operand]
  split_ifs with hempty
  · obtain ⟨hleft, hright⟩ := isEmpty_iff.mp hempty
    simp [Solid, hleft, hright, Slot.Solid]
  · simp [solid_asSlot_iff, hempty]

/-- A clause around another one needs something in that one. -/
lemma solid_under_iff (operator : String) :
    (c.under operator s).Solid ↔ (c.isEmpty = false ∧ c.Solid) ∧ s.Solid :=
  and_congr_left' solid_asSlot_iff

/-- An operand in the first free slot, if one is free. -/
def filled (c : Clause) (s : Slot) : Clause :=
  if c.left = .vacant then { c with left := s } else { c with right := s }

lemma place_of_free (h : c.left = .vacant ∨ c.right = .vacant) (s : Slot)
    (pending : Option Connective) :
    c.place s pending
      = pending.elim (c.filled s).measured fun k => (c.filled s).under k.text .vacant := by
  have hfree : (c.left != .vacant && c.right != .vacant) = false := by
    rcases h with h | h <;> simp [h]
  rw [place, filled, hfree]
  cases pending <;> simp

lemma place_of_full (hleft : c.left ≠ .vacant) (hright : c.right ≠ .vacant) (s : Slot)
    (pending : Option Connective) :
    c.place s pending = c.under (pending.elim "" Connective.text) s := by
  simp [place, hleft, hright]

/-- An operand in a free slot keeps a clause solid if it is solid itself. -/
lemma solid_filled_iff (h : c.left = .vacant ∨ c.right = .vacant) :
    (c.filled s).Solid ↔ c.Solid ∧ s.Solid := by
  rw [filled]
  split_ifs with hleft
  · simp [Solid, hleft, Slot.Solid, and_comm]
  · simp [Solid, h.resolve_left hleft, Slot.Solid]

/-- Only without an operand there is nothing in a clause that is filled. -/
lemma isEmpty_filled (c : Clause) (s : Slot) :
    (c.filled s).isEmpty = (c.isEmpty && s == .vacant) := by
  rw [filled]
  split_ifs with hleft
  · simp [isEmpty, hleft, Bool.and_comm]
  · have hne : (c.left == .vacant) = false := by simpa using hleft
    simp [isEmpty, hne]

/-- The only addition that puts an empty clause into a slot: no operand, but a connective that
goes around a clause with nothing in it. -/
lemma solid_place_iff (c : Clause) (s : Slot) (pending : Option Connective) :
    (c.place s pending).Solid
      ↔ (c.Solid ∧ s.Solid) ∧ ¬ (pending.isSome ∧ c.isEmpty ∧ s = .vacant) := by
  by_cases h : c.left = .vacant ∨ c.right = .vacant
  · rw [place_of_free h]
    cases pending with
    | none =>
        have hmeasured : (c.filled s).measured.Solid ↔ (c.filled s).Solid := Iff.rfl
        rw [Option.elim_none, hmeasured, solid_filled_iff h]
        simp
    | some k =>
        rw [Option.elim_some, solid_under_iff, solid_filled_iff h, isEmpty_filled]
        simp only [Slot.Solid, Option.isSome_some, and_true, true_and, Bool.and_eq_false_iff,
          beq_eq_false_iff_ne, not_and_or, Bool.not_eq_true, ne_eq]
        exact and_comm
  · obtain ⟨hleft, hright⟩ := not_or.mp h
    have hempty : c.isEmpty = false := not_isEmpty_iff.mpr (.inl hleft)
    rw [place_of_full hleft hright, solid_under_iff]
    simp [hempty]

/-- A clause is empty only where nothing has been added to an empty one. -/
lemma isEmpty_place (c : Clause) (s : Slot) (pending : Option Connective) :
    (c.place s pending).isEmpty = (c.isEmpty && s == .vacant && pending.isNone) := by
  have hunder (d : Clause) (operator : String) (t : Slot) : (d.under operator t).isEmpty = false :=
    not_isEmpty_iff.mpr (.inl Slot.noConfusion)
  by_cases h : c.left = .vacant ∨ c.right = .vacant
  · rw [place_of_free h]
    cases pending with
    | none =>
        have hmeasured : (c.filled s).measured.isEmpty = (c.filled s).isEmpty := rfl
        rw [Option.elim_none, hmeasured, isEmpty_filled]
        simp
    | some k => simp [hunder]
  · obtain ⟨hleft, hright⟩ := not_or.mp h
    have hempty : c.isEmpty = false := not_isEmpty_iff.mpr (.inl hleft)
    rw [place_of_full hleft hright, hunder, hempty]
    rfl

lemma operand_eq_vacant_iff : c.operand = .vacant ↔ c.isEmpty := by
  rw [operand]
  split_ifs with hempty
  · simp [hempty]
  · simp [hempty, asSlot]

lemma solid_push_iff (c : Clause) (s : Slot) : (c.push s).Solid ↔ c.Solid ∧ s.Solid := by
  simp [push, solid_place_iff]

/-- A connective becomes the operator of a clause without one; else it may have to go around a
clause with nothing in it. -/
lemma solid_pushConnective_iff (c : Clause) (s : Slot) (k : Connective) :
    (c.pushConnective s k).Solid
      ↔ (c.Solid ∧ s.Solid) ∧ ¬ (c.operator ≠ "" ∧ c.isEmpty ∧ s = .vacant) := by
  have hrenamed : Solid { c with operator := k.text } ↔ c.Solid := Iff.rfl
  rw [pushConnective]
  split_ifs with hoperator
  · simp [solid_place_iff, hrenamed, hoperator]
  · simp [solid_place_iff, hoperator]

/-- Adds an operand, and the connective after it if there is one. -/
def add (c : Clause) (s : Slot) : Option Connective → Clause
  | none => c.push s
  | some k => c.pushConnective s k

/-- Whatever comes with an operand, it finds its place in the clause, which may have got another
operator. -/
lemma exists_add_eq_place (c : Clause) (s : Slot) (after : Option Connective) :
    ∃ operator pending, c.add s after = place { c with operator } s pending := by
  cases after with
  | none => exact ⟨c.operator, none, rfl⟩
  | some k =>
      rw [add, pushConnective]
      split_ifs
      · exact ⟨k.text, none, rfl⟩
      · exact ⟨c.operator, some k, rfl⟩

/-- Every addition but one keeps a clause solid if its operand is solid: a connective without an
operand, after an operator, in a clause with nothing else in it. -/
lemma solid_add_iff (c : Clause) (s : Slot) (after : Option Connective) :
    (c.add s after).Solid ↔ (c.Solid ∧ s.Solid)
      ∧ ¬ (after.isSome ∧ c.operator ≠ "" ∧ c.isEmpty ∧ s = .vacant) := by
  cases after with
  | none => simp [add, solid_push_iff]
  | some k => simp [add, solid_pushConnective_iff]

/-- What is in a clause stays in it, and so does an operand. -/
lemma isEmpty_add_eq_false (h : c.isEmpty = false ∨ s ≠ .vacant) (after : Option Connective) :
    (c.add s after).isEmpty = false := by
  obtain ⟨operator, pending, hplace⟩ := c.exists_add_eq_place s after
  have hrenamed : isEmpty { c with operator } = c.isEmpty := rfl
  rw [hplace, isEmpty_place, hrenamed]
  rcases h with h | h <;> simp [h]

/-- A connective becomes the operator of a clause without one. -/
lemma pushConnective_eq_push (h : c.operator = "") (s : Slot) (k : Connective) :
    c.pushConnective s k = push { c with operator := k.text } s := by
  rw [pushConnective, if_pos h, push]

/-- Without an operand an empty clause keeps its operator. -/
lemma push_vacant_of_isEmpty (h : c.isEmpty) :
    (c.push .vacant).isEmpty ∧ (c.push .vacant).operator = c.operator := by
  have hleft := (isEmpty_iff.mp h).1
  refine ⟨by simp [push, isEmpty_place, h], ?_⟩
  simp [push, place_of_free (.inl hleft), filled, hleft, measured]

end Clause

/-! ### Additions -/

/-- What is added to a clause that begins as new, call after call. -/
inductive Additions
  | start
  /-- A mark of the operator. -/
  | mark (before : Additions) (c : Char)
  /-- A text, and the connective after it if there is one. -/
  | text (before : Additions) (s : String) (after : Option Connective)
  /-- A clause made the same way, and the connective after it if there is one. -/
  | clause (before inner : Additions) (after : Option Connective)
deriving DecidableEq, Repr

namespace Additions

/-- The clause that the additions make. -/
def made : Additions → Clause
  | start => .new
  | mark before c => before.made.appendOperator c
  | text before s after => before.made.add (.text s) after
  | clause before inner after => before.made.add inner.made.operand after

/-- No text is among the additions, however deep. -/
def isBlank : Additions → Bool
  | start => true
  | mark before _ => before.isBlank
  | text .. => false
  | clause before inner _ => before.isBlank && inner.isBlank

/-- A mark or a connective is among the additions to the clause itself. -/
def hasOperator : Additions → Bool
  | start => false
  | mark .. => true
  | text before _ after => before.hasOperator || after.isSome
  | clause before _ after => before.hasOperator || after.isSome

/-- Somewhere a connective comes without an operand, after an operator and before any text. -/
def strays : Additions → Bool
  | start => false
  | mark before _ => before.strays
  | text before _ _ => before.strays
  | clause before inner after => before.strays || inner.strays
      || (after.isSome && before.hasOperator && before.isBlank && inner.isBlank)

variable {a : Additions}

/-- With a text among the additions there is something in the clause. -/
lemma isEmpty_made_eq_false (h : a.isBlank = false) : a.made.isEmpty = false := by
  induction a with
  | start => cases h
  | mark before c ih => exact ih h
  | text before s after => exact Clause.isEmpty_add_eq_false (.inr Slot.noConfusion) after
  | clause before inner after ihbefore ihinner =>
      refine Clause.isEmpty_add_eq_false ?_ after
      rcases Bool.and_eq_false_iff.mp h with h | h
      · exact .inl (ihbefore h)
      · right
        rw [ne_eq, Clause.operand_eq_vacant_iff, ihinner h]
        exact Bool.false_ne_true

/-- Without a text, and where no connective has gone around an empty clause, there is nothing in
the clause but an operator, if there is one. -/
lemma made_of_isBlank (hblank : a.isBlank) (hstrays : a.strays = false) :
    a.made.isEmpty ∧ (a.made.operator ≠ "" ↔ a.hasOperator) := by
  induction a with
  | start => exact ⟨rfl, by simp [made, hasOperator, Clause.new]⟩
  | mark before c ih =>
      refine ⟨(ih hblank hstrays).1, ?_⟩
      simp [made, hasOperator, Clause.appendOperator]
  | text before s after => cases hblank
  | clause before inner after ihbefore ihinner =>
      obtain ⟨hbefore, hinner⟩ := Bool.and_eq_true_iff.mp hblank
      simp only [strays, Bool.or_eq_false_iff] at hstrays
      obtain ⟨⟨hbeforeStrays, hinnerStrays⟩, hlast⟩ := hstrays
      obtain ⟨hempty, hoperator⟩ := ihbefore hbefore hbeforeStrays
      have hoperand : inner.made.operand = .vacant :=
        Clause.operand_eq_vacant_iff.mpr (ihinner hinner hinnerStrays).1
      rw [made, hoperand]
      cases after with
      | none =>
          obtain ⟨hpushed, hsame⟩ := Clause.push_vacant_of_isEmpty hempty
          refine ⟨hpushed, ?_⟩
          rw [Clause.add, hsame, hoperator]
          simp [hasOperator]
      | some k =>
          -- the operator is still free, and the connective becomes the operator
          have hfree : before.made.operator = "" := by
            by_contra hne
            simp [hoperator.mp hne, hbefore, hinner] at hlast
          have hrenamed : Clause.isEmpty { before.made with operator := k.text } := hempty
          obtain ⟨hpushed, hsame⟩ := Clause.push_vacant_of_isEmpty hrenamed
          rw [Clause.add, Clause.pushConnective_eq_push hfree, hsame]
          exact ⟨hpushed, by simp [hasOperator, k.text_ne_empty]⟩

/-- Where no connective has gone around an empty clause, a clause is empty exactly if no text is
among its additions. -/
lemma isEmpty_made (h : a.strays = false) : a.made.isEmpty = a.isBlank := by
  cases hblank : a.isBlank with
  | false => exact isEmpty_made_eq_false hblank
  | true => exact (made_of_isBlank hblank h).1

/-- The clause that is made is solid exactly if the additions do not stray. -/
lemma solid_made_iff_not_strays (a : Additions) : a.made.Solid ↔ ¬ a.strays := by
  induction a with
  | start => simp [made, strays, Clause.solid_new]
  | mark before c ih => exact ih
  | text before s after ih =>
      rw [made, Clause.solid_add_iff, ih]
      simp [Slot.Solid, strays]
  | clause before inner after ihbefore ihinner =>
      rw [made, Clause.solid_add_iff, Clause.solid_operand_iff, ihbefore, ihinner]
      by_cases hstrays : before.strays ∨ inner.strays
      · rcases hstrays with h | h <;> simp [strays, h]
      · simp only [not_or, Bool.not_eq_true] at hstrays
        obtain ⟨hbefore, hinner⟩ := hstrays
        rw [Clause.operand_eq_vacant_iff, isEmpty_made hbefore, isEmpty_made hinner]
        by_cases hblank : before.isBlank
        · simp [strays, hbefore, hinner, hblank, (made_of_isBlank hblank hbefore).2]
        · simp [strays, hbefore, hinner, hblank]

end Additions

/-! ### What is not solid -/

/-- What spells a condition is solid. -/
lemma Slot.solid_of_condition {s : Slot} {x : Condition} (h : s.condition = .ok x) : s.Solid := by
  refine condition_induction (motive := fun s _ => s.Solid) ?_ ?_ ?_ ?_ h
  · intro column relation operator literal height
    exact ⟨.inl Slot.noConfusion, trivial, trivial⟩
  · intro column operator literal height
    exact ⟨.inl Slot.noConfusion, trivial, trivial⟩
  · intro c operator height x hc
    exact ⟨.inl Slot.noConfusion, hc, trivial⟩
  · intro c d k operator height x y hc hd
    exact ⟨.inl Slot.noConfusion, hc, hd⟩

namespace Additions

/-- **Vacant clauses in slots.** Whatever is added to a new clause, no clause in its slots, however
deep, has both of its own slots free, unless somewhere, before any text, a connective comes without
an operand after an operator. Then there is such a clause; and where there is one, no condition is
spelled. -/
theorem solid_made_iff (a : Additions) :
    (a.made.Solid ↔ ¬ a.strays) ∧ (a.made.Solid ∨ ∃ e, a.made.condition = .error e) := by
  refine ⟨a.solid_made_iff_not_strays, ?_⟩
  cases h : a.made.condition with
  | error e => exact .inr ⟨e, rfl⟩
  | ok x => exact .inl (Slot.solid_of_condition (s := a.made.asSlot) h).2

/-- A clause that is empty but for its operator goes into a slot when a connective comes. -/
theorem not_forall_solid_made : ¬ ∀ a : Additions, a.made.Solid := by
  intro h
  have hsolid := h (.clause (.mark .start '=') .start (some .and))
  exact (solid_made_iff_not_strays _).mp hsolid rfl

end Additions

end RowQuery
