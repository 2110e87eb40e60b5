/-
The words with a meaning of their own, in any case of the ASCII letters.

* `Connective`: `and` and `or`, which join two conditions;
* `Direction`: `asc` and `desc`, which order rows.
-/

namespace RowQuery

/-- Whether a word is a given one, the case of ASCII letters aside. -/
def isKeyword (word keyword : String) : Bool :=
  word.toList.map Char.toLower == keyword.toList

/-- How two conditions are joined. -/
inductive Connective
  | and
  | or
deriving DecidableEq, Repr

namespace Connective

/-- The spelling of a connective. -/
def text : Connective → String
  | and => "and"
  | or => "or"

/-- The connective that a word spells. -/
def ofWord? (word : String) : Option Connective :=
  if isKeyword word and.text then some and
  else if isKeyword word or.text then some or
  else none

/-- A connective is the one that its spelling spells. -/
@[simp] theorem ofWord?_text (k : Connective) : ofWord? k.text = some k := by
  cases k <;> decide +kernel

/-- A word spells a connective if it is the keyword. -/
theorem ofWord?_eq_some_iff {word : String} {k : Connective} :
    ofWord? word = some k ↔ isKeyword word k.text = true := by
  have hdisjoint : isKeyword word and.text = true → isKeyword word or.text = false := by
    intro h
    rw [isKeyword, beq_iff_eq] at h
    rw [isKeyword, h]
    decide
  cases k <;> grind [ofWord?]

/-- A word spells no connective if it is none of the keywords. -/
theorem ofWord?_eq_none_iff {word : String} :
    ofWord? word = none ↔ ∀ k : Connective, isKeyword word k.text = false := by
  constructor
  · intro h k
    have hne : ofWord? word ≠ some k := by simp [h]
    simpa [ofWord?_eq_some_iff] using hne
  · intro h
    simp [ofWord?, h and, h or]

/-- The spelling of a connective is not empty. -/
theorem text_ne_empty (k : Connective) : k.text ≠ "" := by
  cases k <;> decide

end Connective

/-- In which direction a column is sorted. -/
inductive Direction
  | ascending
  | descending
deriving DecidableEq, Repr

namespace Direction

/-- The spelling of a direction. -/
def text : Direction → String
  | ascending => "asc"
  | descending => "desc"

/-- The direction that a word spells. -/
def ofWord? (word : String) : Option Direction :=
  if isKeyword word ascending.text then some ascending
  else if isKeyword word descending.text then some descending
  else none

/-- A direction is the one that its spelling spells. -/
@[simp] theorem ofWord?_text (d : Direction) : ofWord? d.text = some d := by
  cases d <;> decide +kernel

end Direction

end RowQuery
