/-
Clauses: conditions under construction.

A clause has two slots and an operator between them. Operands go into the left slot, then into
the right one; when both are taken the clause becomes the left operand of a new clause. So a
chain of conditions groups from the left.

* `Slot`, `Clause`: a slot holds nothing, a text, or a clause;
* `Clause.push`, `Clause.pushConnective`, `Clause.appendOperator`: the three ways to add to it;
* `Clause.height`: how many clauses stand inside each other;
* `Clause.condition`: the condition that a finished clause spells.
-/
import RowQuery.Condition

namespace RowQuery

/-! ### Errors -/

/-- How many levels a condition may have. -/
def maxDepth : Nat := 256

/-- Why tokens spell no condition. -/
inductive ParseError
  /-- A column that is compared with nothing. -/
  | noRightHandSide (column : String)
  /-- Nothing where a condition has to stand. -/
  | emptyCondition
  /-- Two operands with nothing between them. -/
  | missingOperator
  /-- A connective next to something that is no condition. -/
  | connectiveOperand (connective : Connective)
  /-- An operator next to something that is no text. -/
  | operatorOperand (operator : String)
  | tooDeep
  /-- An operator that spells no relation. -/
  | unknownOperator (operator : String)
deriving DecidableEq, Repr

/-- The wording of an error. -/
def ParseError.message : ParseError → String
  | noRightHandSide column =>
    s!"malformed expression: condition on `{column}` has no right-hand side"
  | emptyCondition => "malformed expression: empty condition"
  | missingOperator => "malformed expression: missing operator between operands"
  | connectiveOperand connective =>
    s!"malformed expression: `{connective.text}` must join two conditions"
  | operatorOperand operator =>
    s!"malformed expression: `{operator}` must compare a column with a literal"
  | tooDeep => s!"malformed expression: expression nests deeper than {maxDepth} levels"
  | unknownOperator operator => s!"unknown operator `{operator}`"

/-! ### Slots and clauses -/

/-- What stands on one side of an operator. -/
inductive Slot
  | vacant
  | text (s : String)
  | clause (left : Slot) (operator : String) (right : Slot) (height : Nat)
deriving DecidableEq, Repr

/-- A clause under construction. -/
structure Clause where
  left : Slot
  operator : String
  right : Slot
  /-- How many clauses stand inside each other, this one included; none while it is new. -/
  height : Nat
deriving DecidableEq, Repr

/-- The height of what a slot holds. -/
def Slot.height : Slot → Nat
  | clause _ _ _ height => height
  | _ => 0

/-- The texts in a slot from left to right. -/
def Slot.texts : Slot → List String
  | vacant => []
  | text s => [s]
  | clause left _ right _ => left.texts ++ right.texts

namespace Clause

/-- A clause to which nothing has been added. -/
def new : Clause := ⟨.vacant, "", .vacant, 0⟩

/-- Neither slot is taken. -/
def isEmpty (c : Clause) : Bool := c.left == .vacant && c.right == .vacant

/-- The clause as the content of a slot. -/
def asSlot (c : Clause) : Slot := .clause c.left c.operator c.right c.height

/-- The clause as an operand; an empty one is none. -/
def operand (c : Clause) : Slot := if c.isEmpty then .vacant else c.asSlot

/-- Counts the height anew from the slots. -/
def measured (c : Clause) : Clause := { c with height := 1 + max c.left.height c.right.height }

/-- Adds a character to the operator. -/
def appendOperator (c : Clause) (mark : Char) : Clause :=
  { c with operator := c.operator.push mark }

/-- The clause whose left operand is the given one. -/
def under (c : Clause) (operator : String) (right : Slot) : Clause :=
  measured ⟨c.measured.asSlot, operator, right, 0⟩

/-- Puts an operand into the first free slot, or makes room for it. A connective that is still
to be recorded goes into the new clause around the old one. -/
def place (c : Clause) (operand : Slot) (pending : Option Connective) : Clause :=
  if c.left != .vacant && c.right != .vacant then
    c.under (pending.elim "" Connective.text) operand
  else
    let filled :=
      if c.left == .vacant then { c with left := operand } else { c with right := operand }
    match pending with
    | none => filled.measured
    | some connective => filled.under connective.text .vacant

/-- Adds an operand. -/
def push (c : Clause) (operand : Slot) : Clause := c.place operand none

/-- Adds an operand and the connective after it. The connective is the operator of this clause,
unless that has one already. -/
def pushConnective (c : Clause) (operand : Slot) (connective : Connective) : Clause :=
  if c.operator = "" then place { c with operator := connective.text } operand none
  else c.place operand (some connective)

end Clause

/-! ### Finished clauses -/

/-- The condition that a slot spells. A clause with nothing but a clause in its left slot is
that clause. -/
def Slot.condition : Slot → Except ParseError Condition
  | vacant => .error .emptyCondition
  | text s => .error (.noRightHandSide s)
  | clause left operator right _ =>
    match left, right with
    | vacant, _ => .error .emptyCondition
    | text s, vacant => .error (.noRightHandSide s)
    | clause .., vacant => left.condition
    | _, _ =>
      match Connective.ofWord? operator with
      | some connective =>
        match left, right with
        | clause .., clause .. => do return .join connective (← left.condition) (← right.condition)
        | _, _ => .error (.connectiveOperand connective)
      | none =>
        if operator = "" then .error .missingOperator
        else match left, right with
          | text column, text literal =>
            match Relation.ofText? operator with
            | some relation => .ok (.comparison column relation literal)
            | none => .ok (.unresolved column operator literal)
          | _, _ => .error (.operatorOperand operator)

/-- The condition that a clause spells. -/
def Clause.condition (c : Clause) : Except ParseError Condition := c.asSlot.condition

end RowQuery
