/-
Clauses that fill from the left.

While conditions are read that connectives join, the clause around them is in one of four forms:
new, one condition alone, conditions with a connective after them, or conditions with both sides
of their last connective taken. These are the moves between the forms.

* `Clause.joining`: a slot and a connective, with nothing on the right of it yet;
* `push_new`, `push_joining`: a condition is added on the right;
* `pushConnective_new`, `pushConnective_joining`: a condition is added, and the connective after
  it;
* `pushConnective_alone`, `pushConnective_joined`: the condition is there already, and only the
  connective is added;
* `Clause.apart`: two slots side by side, which happens where a connective is missing, with the
  moves from and to it;
* `Slot.condition_induction`: induction on what spells a condition.
-/
import Mathlib.Tactic
import RowQuery.Clause

namespace RowQuery

namespace Clause

/-- A slot and a connective, with nothing on the right of it yet. -/
def joining (left : Slot) (k : Connective) : Clause := measured ⟨left, k.text, .vacant, 0⟩

/-- A condition alone. -/
def alone (s : Slot) : Clause := measured ⟨s, "", .vacant, 0⟩

/-- Two conditions and the connective between them. -/
def joined (left : Slot) (k : Connective) (right : Slot) : Clause :=
  measured ⟨left, k.text, right, 0⟩

variable {left s : Slot} {k : Connective}

@[simp] lemma height_new : new.height = 0 := rfl

@[simp] lemma height_joining : (joining left k).height = 1 + left.height := by
  simp [joining, measured, Slot.height]

@[simp] lemma height_alone : (alone s).height = 1 + s.height := by
  simp [alone, measured, Slot.height]

@[simp] lemma height_joined : (joined left k s).height = 1 + max left.height s.height := rfl

@[simp] lemma height_asSlot (c : Clause) : c.asSlot.height = c.height := rfl

/-- A clause with both slots free takes a condition on the left. -/
lemma push_vacant (operator : String) (n : Nat) :
    (⟨.vacant, operator, .vacant, n⟩ : Clause).push s = measured ⟨s, operator, .vacant, 0⟩ := by
  simp [push, place, measured]

/-- A new clause takes a condition on the left. -/
lemma push_new : new.push s = alone s := push_vacant "" 0

/-- A clause with a connective takes a condition on the right. -/
lemma push_joining (hleft : left ≠ .vacant) : (joining left k).push s = joined left k s := by
  simp [push, place, joining, joined, measured, hleft]

/-- The first condition and the connective after it, whatever height has been counted. -/
lemma pushConnective_vacant (n : Nat) :
    (⟨.vacant, "", .vacant, n⟩ : Clause).pushConnective s k = joining s k := by
  simp [pushConnective, place, joining, measured]

/-- The first condition and the connective after it. -/
lemma pushConnective_new : new.pushConnective s k = joining s k := pushConnective_vacant 0

/-- The next connective finds its place around a clause that has one already. -/
lemma pushConnective_joining (hleft : left ≠ .vacant) (next : Connective) :
    (joining left k).pushConnective s next = joining (joined left k s).asSlot next := by
  simp [pushConnective, place, joining, joined, measured, under, k.text_ne_empty, hleft]

/-- A condition beside one that stands alone, and the connective after both. -/
lemma pushConnective_alone_right (hs : s ≠ .vacant) (right : Slot) :
    (alone s).pushConnective right k = joined s k right := by
  simp [pushConnective, place, alone, joined, measured, hs]

/-- The connective after a condition that stands alone. -/
lemma pushConnective_alone (hs : s ≠ .vacant) :
    (alone s).pushConnective .vacant k = joining s k :=
  pushConnective_alone_right hs .vacant

/-- A condition beside a clause with both sides taken, and the connective after it. -/
lemma pushConnective_joined_right (hleft : left ≠ .vacant) (hs : s ≠ .vacant) (right : Slot)
    (next : Connective) :
    (joined left k s).pushConnective right next = joined (joined left k s).asSlot next right := by
  simp [pushConnective, place, joined, measured, under, k.text_ne_empty, hleft, hs]

/-- The connective after a clause with both sides taken. -/
lemma pushConnective_joined (hleft : left ≠ .vacant) (hs : s ≠ .vacant) (next : Connective) :
    (joined left k s).pushConnective .vacant next = joining (joined left k s).asSlot next :=
  pushConnective_joined_right hleft hs .vacant next

lemma isEmpty_iff {c : Clause} : c.isEmpty = true ↔ c.left = .vacant ∧ c.right = .vacant := by
  rw [isEmpty, Bool.and_eq_true, beq_iff_eq, beq_iff_eq]

/-- A clause with something on the left is an operand. -/
lemma operand_of_left {c : Clause} (h : c.left ≠ .vacant) : c.operand = c.asSlot := by
  simp [operand, isEmpty, h]

/-! ### Where an operand or a connective is missing -/

/-- A connective before the first condition stays with it; the next one finds its place around
both. -/
lemma pushConnective_led (n : Nat) (next : Connective) :
    (⟨.vacant, k.text, .vacant, n⟩ : Clause).pushConnective s next
      = joining (joining s k).asSlot next := by
  simp [pushConnective, place, joining, measured, under, k.text_ne_empty]

/-- Two conditions with no connective between them. -/
def apart (left right : Slot) : Clause := measured ⟨left, "", right, 0⟩

/-- A condition beside one that stands alone. -/
lemma push_alone (hs : s ≠ .vacant) (right : Slot) : (alone s).push right = apart s right := by
  simp [push, place, alone, apart, measured, hs]

/-- A condition beside a clause with both sides taken. -/
lemma push_joined (hleft : left ≠ .vacant) (hs : s ≠ .vacant) (right : Slot) :
    (joined left k s).push right = apart (joined left k s).asSlot right := by
  simp [push, place, joined, apart, measured, under, hleft, hs]

/-- A condition beside a clause with both sides taken and no connective. -/
lemma push_apart (hleft : left ≠ .vacant) (hs : s ≠ .vacant) (right : Slot) :
    (apart left s).push right = apart (apart left s).asSlot right := by
  simp [push, place, apart, measured, under, hleft, hs]

/-- A connective takes its place between two conditions side by side; what comes before it
stands beside them. -/
lemma pushConnective_apart (hleft : left ≠ .vacant) (hs : s ≠ .vacant) (right : Slot) :
    (apart left s).pushConnective right k = apart (joined left k s).asSlot right := by
  simp [pushConnective, place, apart, joined, measured, under, hleft, hs]

/-! ### What the forms spell -/

/-- A clause with nothing on its right spells what the clause on its left spells. -/
lemma condition_vacant (c : Clause) (operator : String) (height : Nat) :
    (Slot.clause c.asSlot operator .vacant height).condition = c.condition := by
  simp only [condition, asSlot]
  rw [Slot.condition]

/-- A clause that stands alone spells what its slot spells. -/
lemma condition_alone (c : Clause) : (alone c.asSlot).condition = c.condition :=
  condition_vacant c "" _

/-- A clause beside a text spells no condition. -/
lemma exists_condition_text (c : Clause) (operator text : String) (height : Nat) :
    ∃ e, (Slot.clause c.asSlot operator (.text text) height).condition = .error e := by
  simp only [asSlot]
  rw [Slot.condition]
  · cases Connective.ofWord? operator with
    | some k => exact ⟨_, rfl⟩
    | none => by_cases hempty : operator = "" <;> simp [hempty]
  all_goals simp

/-- A text before a clause spells no condition. -/
lemma exists_condition_clause_behind_text (text operator : String) (c : Clause) (height : Nat) :
    ∃ e, (Slot.clause (.text text) operator c.asSlot height).condition = .error e := by
  simp only [asSlot]
  rw [Slot.condition]
  · cases Connective.ofWord? operator with
    | some k => exact ⟨_, rfl⟩
    | none => by_cases hempty : operator = "" <;> simp [hempty]
  all_goals simp

/-- Two clauses spell a condition exactly if a connective joins them and each spells one. -/
lemma condition_clauses (c d : Clause) (operator : String) (height : Nat) :
    (Slot.clause c.asSlot operator d.asSlot height).condition
      = match Connective.ofWord? operator with
        | some k => do return .join k (← c.condition) (← d.condition)
        | none =>
          if operator = "" then .error .missingOperator else .error (.operatorOperand operator) := by
  simp only [condition, asSlot]
  rewrite [Slot.condition]
  · cases Connective.ofWord? operator <;> rfl
  all_goals simp

/-- Two clauses spell no condition if one of them spells none. -/
lemma exists_condition_clauses {c d : Clause}
    (h : (∃ e, c.condition = .error e) ∨ ∃ e, d.condition = .error e) (operator : String)
    (height : Nat) :
    ∃ e, (Slot.clause c.asSlot operator d.asSlot height).condition = .error e := by
  rw [condition_clauses]
  cases Connective.ofWord? operator with
  | none => by_cases hempty : operator = "" <;> simp [hempty]
  | some k =>
      obtain ⟨e, he⟩ | ⟨e, he⟩ := h
      · rw [he]
        exact ⟨e, rfl⟩
      · rw [he]
        cases c.condition <;> exact ⟨_, rfl⟩

/-- Of two clauses that spell a condition each spells one, and the condition joins the two. -/
lemma exists_join_of_clauses {c d : Clause} {operator : String} {height : Nat} {x : Condition}
    (h : (Slot.clause c.asSlot operator d.asSlot height).condition = .ok x) :
    ∃ k y z, x = .join k y z ∧ c.condition = .ok y ∧ d.condition = .ok z := by
  have hnone (hone : (∃ e, c.condition = .error e) ∨ ∃ e, d.condition = .error e) : False := by
    obtain ⟨e, he⟩ := exists_condition_clauses hone operator height
    simp [he] at h
  cases hc : c.condition with
  | error e => exact (hnone (.inl ⟨e, hc⟩)).elim
  | ok y =>
      cases hd : d.condition with
      | error e => exact (hnone (.inr ⟨e, hd⟩)).elim
      | ok z =>
          rw [condition_clauses, hc, hd] at h
          cases hword : Connective.ofWord? operator with
          | none =>
              rw [hword] at h
              by_cases hempty : operator = "" <;> simp [hempty] at h
          | some k =>
              rw [hword] at h
              exact ⟨k, y, z, (Except.ok.inj h).symm, rfl, rfl⟩

/-- Two clauses and a connective spell the two conditions joined. -/
lemma condition_joined {c d : Clause} {x y : Condition} (k : Connective)
    (hc : c.condition = .ok x) (hd : d.condition = .ok y) :
    (joined c.asSlot k d.asSlot).condition = .ok (.join k x y) := by
  rw [condition, joined, measured, asSlot, condition_clauses, Connective.ofWord?_text, hc, hd]
  rfl

end Clause

/-! ### Induction on what spells a condition -/

/-- Two texts spell a comparison of the one with the other, resolved or not. -/
lemma Slot.eq_of_condition_texts {column operator literal : String} {height : Nat} {x : Condition}
    (h : (clause (.text column) operator (.text literal) height).condition = .ok x) :
    (∃ relation, x = .comparison column relation literal)
      ∨ x = .unresolved column operator literal := by
  rw [Slot.condition] at h
  cases hword : Connective.ofWord? operator with
  | some k => simp [hword] at h
  | none =>
      rw [hword] at h
      by_cases hempty : operator = ""
      · simp [hempty] at h
      · cases hrelation : Relation.ofText? operator with
        | some relation => exact .inl ⟨relation, by simpa [hempty, hrelation] using h.symm⟩
        | none => exact .inr (by simpa [hempty, hrelation] using h.symm)

/-- What spells a condition is two texts, a clause around one that spells it, or two clauses each
of which spells a condition. -/
lemma Slot.condition_induction {motive : Slot → Condition → Prop}
    (comparison : ∀ column relation operator literal height,
      motive (.clause (.text column) operator (.text literal) height)
        (.comparison column relation literal))
    (unresolved : ∀ column operator literal height,
      motive (.clause (.text column) operator (.text literal) height)
        (.unresolved column operator literal))
    (wrapper : ∀ (c : Clause) operator height x, motive c.asSlot x →
      motive (.clause c.asSlot operator .vacant height) x)
    (join : ∀ (c d : Clause) k operator height x y, motive c.asSlot x → motive d.asSlot y →
      motive (.clause c.asSlot operator d.asSlot height) (.join k x y))
    {s : Slot} {x : Condition} (h : s.condition = .ok x) : motive s x := by
  induction s generalizing x with
  | vacant => cases h
  | text s => cases h
  | clause left operator right height ihleft ihright =>
      cases left with
      | vacant => cases h
      | text column =>
          cases right with
          | vacant => cases h
          | text literal =>
              obtain ⟨relation, rfl⟩ | rfl := eq_of_condition_texts h
              · exact comparison column relation operator literal height
              · exact unresolved column operator literal height
          | clause l o r n =>
              obtain ⟨e, he⟩ :=
                Clause.exists_condition_clause_behind_text column operator ⟨l, o, r, n⟩ height
              cases he.symm.trans h
      | clause l o r n =>
          let c : Clause := ⟨l, o, r, n⟩
          cases right with
          | vacant =>
              have hleft : c.condition = .ok x := (c.condition_vacant operator height).symm.trans h
              exact wrapper c operator height x (ihleft hleft)
          | text literal =>
              obtain ⟨e, he⟩ := c.exists_condition_text operator literal height
              cases he.symm.trans h
          | clause l' o' r' n' =>
              let d : Clause := ⟨l', o', r', n'⟩
              obtain ⟨k, y, z, rfl, hy, hz⟩ := Clause.exists_join_of_clauses (c := c) (d := d) h
              exact join c d k operator height y z (ihleft hy) (ihright hz)

end RowQuery
