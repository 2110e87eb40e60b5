/-
The relations in which a condition compares a column with a literal.

* `Relation`: equality, its negation, and the four orderings;
* `Relation.ofText?`, `Relation.text`: their spellings; two of them have a second one.
-/

namespace RowQuery

/-- How a column is compared with a literal. -/
inductive Relation
  | equal
  | notEqual
  | greater
  | less
  | greaterOrEqual
  | lessOrEqual
deriving DecidableEq, Repr

namespace Relation

/-- The spelling of a relation. -/
def text : Relation → String
  | equal => "="
  | notEqual => "!="
  | greater => ">"
  | less => "<"
  | greaterOrEqual => ">="
  | lessOrEqual => "<="

/-- The relation that a text spells. -/
def ofText? (text : String) : Option Relation :=
  if text = "=" ∨ text = "==" then some equal
  else if text = "!=" ∨ text = "<>" then some notEqual
  else if text = ">" then some greater
  else if text = "<" then some less
  else if text = ">=" then some greaterOrEqual
  else if text = "<=" then some lessOrEqual
  else none

/-- The relations that hold of numbers only. -/
def isOrdering : Relation → Bool
  | equal | notEqual => false
  | greater | less | greaterOrEqual | lessOrEqual => true

/-- The orderings, said of the result of a comparison. -/
def admits : Relation → Ordering → Bool
  | equal, o => o == .eq
  | notEqual, o => o != .eq
  | greater, o => o == .gt
  | less, o => o == .lt
  | greaterOrEqual, o => o != .lt
  | lessOrEqual, o => o != .gt

/-- A relation is the one that its spelling spells. -/
@[simp] theorem ofText?_text (r : Relation) : ofText? r.text = some r := by
  cases r <;> decide

end Relation

end RowQuery
