/-
Patterns in normal form.

What is put together here matches what its parts say, but is kept simple: sequences and choices
are not nested in themselves, a choice between sets of characters is one set, and nothing is
repeated in vain.

* `Pattern.series`, `Pattern.alternation`, `Pattern.repetition`: parts put together;
* `Pattern.isEmptyOnly`, `Pattern.leastLength`: the lengths of what a pattern matches.
-/
import RowQuery.Pattern.Basic

namespace RowQuery

open Text

namespace Pattern

/-! ### What a pattern matches -/

/-- The set of a pattern that is one set of characters. -/
def set? : Pattern → Option CharSet
  | .leaf (.oneOf set) => some set
  | _ => none

/-- The character of a pattern that matches this one alone. -/
def char? (p : Pattern) : Option Char := (set? p).bind CharSet.single?

/-- Whether a pattern can match nothing but the empty text. -/
def isEmptyOnly : Pattern → Bool
  | .empty => true
  | .leaf (.oneOf _) => false
  | .leaf (.assertion _) => true
  | .sequence first second => isEmptyOnly first && isEmptyOnly second
  | .choice first second => isEmptyOnly first && isEmptyOnly second
  | .repeated body _ greatest _ => isEmptyOnly body && greatest.isSome
  | .group _ body => isEmptyOnly body

/-- The length of the shortest text that a pattern matches, where every part matches some. -/
def leastLength : Pattern → Option Nat
  | .empty => some 0
  | .leaf (.oneOf set) => if set.spans.isEmpty then none else some 1
  | .leaf (.assertion _) => some 0
  | .sequence first second => do return (← leastLength first) + (← leastLength second)
  | .choice first second => do return min (← leastLength first) (← leastLength second)
  | .repeated body least _ _ => do return (← leastLength body) * least
  | .group _ body => leastLength body

/-- Whether a pattern matches at the start of a text only. -/
def isAtStart : Pattern → Bool
  | .leaf (.assertion .textStart) => true
  | .sequence first second => isAtStart first || (isEmptyOnly first && isAtStart second)
  | .choice first second => isAtStart first && isAtStart second
  | .repeated body least _ _ => least != 0 && isAtStart body
  | .group _ body => isAtStart body
  | _ => false

/-- Whether a pattern matches at the end of a text only. -/
def isAtEnd : Pattern → Bool
  | .leaf (.assertion .textEnd) => true
  | .sequence first second => isAtEnd second || (isEmptyOnly second && isAtEnd first)
  | .choice first second => isAtEnd first && isAtEnd second
  | .repeated body least _ _ => least != 0 && isAtEnd body
  | .group _ body => isAtEnd body
  | _ => false

/-! ### Sequences -/

/-- The parts of a sequence; an empty one has none. -/
def parts : Pattern → List Pattern
  | .empty => []
  | .sequence first second => parts first ++ parts second
  | p => [p]

/-- Patterns one after the other. -/
def series (patterns : List Pattern) : Pattern := .sequenceOf (patterns.flatMap parts)

/-- The parts of a sequence, with characters that stand next to each other as one part. -/
def phrases (p : Pattern) : List Pattern :=
  ((parts p).splitBy fun a b => (char? a).isSome && (char? b).isSome).map .sequenceOf

/-! ### Choices -/

/-- The branches of a choice. -/
def branches : Pattern → List Pattern
  | .choice first second => branches first ++ branches second
  | p => [p]

/-- A choice between patterns. -/
def choiceOf : List Pattern → Pattern
  | [] => .leaf (.oneOf .none)
  | [p] => p
  | p :: rest => .choice p (choiceOf rest)

/-- A choice between patterns, or a set if all are sets of characters. -/
def plainChoice (patterns : List Pattern) : Pattern :=
  match patterns.mapM set? with
  | some sets => .leaf (.oneOf (.anyOf sets))
  | none => choiceOf patterns

/-- What two lists begin with alike. -/
def commonFront {α : Type} [DecidableEq α] : List α → List α → List α
  | a :: rest, b :: others => if a = b then a :: commonFront rest others else []
  | _, _ => []

/-- The phrases with which some sequences of two or more begin alike. -/
def sharedFront : List (List Pattern) → List Pattern
  | [] => []
  | first :: others =>
    if (first :: others).all (2 ≤ ·.length) then others.foldl commonFront first else []

/-- A choice between patterns. Sequences that begin alike begin so before the choice. -/
def alternation (patterns : List Pattern) : Pattern :=
  let all := patterns.flatMap branches
  match all with
  | [p] => p
  | all =>
    let front := if (all.mapM set?).isSome then [] else sharedFront (all.map phrases)
    if front.isEmpty then plainChoice all
    else
      let rests := all.map fun p => series ((phrases p).drop front.length)
      series (front ++ [plainChoice (rests.flatMap branches)])

/-! ### Repetitions -/

/-- A pattern repeated. What matches the empty text only need not be repeated. -/
def repetition (body : Pattern) (least : Nat) (greatest : Option Nat) (greedy : Bool) : Pattern :=
  let (least, greatest) :=
    if isEmptyOnly body then (min least 1, some (min (greatest.getD 1) 1)) else (least, greatest)
  if greatest = some 0 then .empty
  else if least = 1 ∧ greatest = some 1 then body
  else .repeated body least greatest greedy

end Pattern

end RowQuery
