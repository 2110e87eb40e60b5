/-
Sentences: the tokens that spell a condition, as trees.

A chain is terms with a connective between every two neighbours; a term is a comparison or a
chain in parentheses. There is no precedence, so a chain is built from the left.

* `Operand`, `Operator`, `Junction`: the tokens of a comparison, and the word between two terms;
* `Term`, `Chain`: the trees, with their `tokens` and the `condition` that they mean;
* `Chain.height`: how many levels the sentence has, chain links counted like parentheses;
* `Chain.nesting`: how many parentheses are open at once, always fewer than the levels
  (`Chain.nesting_add_one_lt_height`).
-/
import Mathlib.Tactic
import RowQuery.Condition.Reading

namespace RowQuery

/-! ### The tokens of a sentence -/

/-- The marks of which operators are made. -/
def operatorMarks : List Char := ['=', '>', '<', '!', ',']

/-- A word that names a column or is a literal: without quotes it is no connective. -/
structure Operand where
  text : String
  quoted : Bool
  not_keyword : quoted = false → ∀ k : Connective, isKeyword text k.text = false

/-- The marks between a column and a literal. -/
structure Operator where
  marks : List Char
  ne_nil : marks ≠ []
  mem_operatorMarks : ∀ c ∈ marks, c ∈ operatorMarks

/-- A word without quotes that joins two terms, in any case of its letters. -/
structure Junction where
  text : String
  connective : Connective
  keyword : isKeyword text connective.text = true

namespace Operand

/-- The token of an operand. -/
def token (a : Operand) : Token := .word a.text a.quoted

/-- An operand is not read as a connective. -/
lemma keyword?_eq_none (a : Operand) :
    (if a.quoted then none else Connective.ofWord? a.text) = none := by
  cases h : a.quoted with
  | true => rfl
  | false => simpa using Connective.ofWord?_eq_none_iff.mpr (a.not_keyword h)

end Operand

namespace Operator

/-- The text that the marks spell together. -/
def text (op : Operator) : String := String.ofList op.marks

/-- The tokens of an operator, one for every mark. -/
def tokens (op : Operator) : List Token := op.marks.map Token.mark

/-- An operator has a text. -/
lemma text_ne_empty (op : Operator) : op.text ≠ "" := by
  simpa [text] using op.ne_nil

/-- A mark of an operator is no letter and no parenthesis. -/
lemma ne_of_mem {c : Char} (h : c ∈ operatorMarks) :
    c ≠ '(' ∧ c ≠ ')' ∧ c.toLower ≠ 'a' ∧ c.toLower ≠ 'o' := by
  fin_cases h <;> decide

/-- An operator is no connective. -/
lemma ofWord?_text (op : Operator) : Connective.ofWord? op.text = none := by
  obtain ⟨c, rest, hmarks⟩ := List.exists_cons_of_ne_nil op.ne_nil
  have hc := ne_of_mem (op.mem_operatorMarks c (by simp [hmarks]))
  refine Connective.ofWord?_eq_none_iff.mpr fun k => ?_
  cases k <;> simp [isKeyword, text, hmarks, Connective.text, hc]

end Operator

/-- The token of a junction. -/
def Junction.token (j : Junction) : Token := .word j.text false

/-! ### Terms and chains -/

mutual

/-- What stands between two connectives: a comparison, or a chain in parentheses. -/
inductive Term where
  | comparison (column : Operand) (operator : Operator) (literal : Operand)
  | group (chain : Chain)

/-- Terms with a connective between every two neighbours. -/
inductive Chain where
  | single (term : Term)
  | link (chain : Chain) (junction : Junction) (term : Term)

end

mutual

/-- The tokens of a term. -/
def Term.tokens : Term → List Token
  | .comparison a op b => a.token :: (op.tokens ++ [b.token])
  | .group c => .mark '(' :: (c.tokens ++ [.mark ')'])

/-- The tokens of a chain. -/
def Chain.tokens : Chain → List Token
  | .single t => t.tokens
  | .link c j t => c.tokens ++ j.token :: t.tokens

end

mutual

/-- The condition that a term means; parentheses only group. -/
def Term.condition : Term → Condition
  | .comparison a op b =>
    match Relation.ofText? op.text with
    | some relation => .comparison a.text relation b.text
    | none => .unresolved a.text op.text b.text
  | .group c => c.condition

/-- The condition that a chain means, its terms joined from the left. -/
def Chain.condition : Chain → Condition
  | .single t => t.condition
  | .link c j t => .join j.connective c.condition t.condition

end

/-! ### Heights -/

mutual

/-- How many levels a term has; parentheses are counted in the chain between them. -/
def Term.height : Term → Nat
  | .comparison .. => 1
  | .group c => c.height

/-- How many levels a chain has: one more than its term, or one more for every link. -/
def Chain.height : Chain → Nat
  | .single t => 1 + t.height
  | .link c _ t => 1 + max c.foldHeight t.height

/-- The height of a chain as the left side of a link. -/
def Chain.foldHeight : Chain → Nat
  | .single t => t.height
  | .link c _ t => 1 + max c.foldHeight t.height

end

mutual

/-- How many parentheses are open at once inside a term. -/
def Term.nesting : Term → Nat
  | .comparison .. => 0
  | .group c => 1 + c.nesting

/-- How many parentheses are open at once inside a chain. -/
def Chain.nesting : Chain → Nat
  | .single t => t.nesting
  | .link c _ t => max c.nesting t.nesting

end

/-- The last link adds at most one level. -/
lemma Chain.height_le (c : Chain) : c.height ≤ 1 + c.foldHeight := by
  cases c with
  | single t => simp [Chain.height, Chain.foldHeight]
  | link c j t => simp [Chain.height, Chain.foldHeight]

mutual

/-- Fewer parentheses are open inside a term than it has levels. -/
lemma Term.nesting_lt_height : ∀ t : Term, t.nesting < t.height
  | .comparison .. => by simp [Term.nesting, Term.height]
  | .group c => by
      have hc := c.nesting_add_one_lt_height
      simp only [Term.nesting, Term.height]
      omega

/-- Fewer parentheses are open inside a chain than the left side of a link has levels. -/
lemma Chain.nesting_lt_foldHeight : ∀ c : Chain, c.nesting < c.foldHeight
  | .single t => t.nesting_lt_height
  | .link c _ t => by
      have hc := c.nesting_lt_foldHeight
      have ht := t.nesting_lt_height
      simp only [Chain.nesting, Chain.foldHeight]
      omega

/-- A chain has at least two levels more than parentheses are open inside it. -/
lemma Chain.nesting_add_one_lt_height : ∀ c : Chain, c.nesting + 1 < c.height
  | .single t => by
      have ht := t.nesting_lt_height
      simp only [Chain.nesting, Chain.height]
      omega
  | .link c _ t => by
      have hc := c.nesting_lt_foldHeight
      have ht := t.nesting_lt_height
      simp only [Chain.nesting, Chain.height]
      omega

end

end RowQuery
