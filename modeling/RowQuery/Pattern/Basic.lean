/-
Patterns and what they match.

A pattern leads from positions in a text to positions in it. Sets of positions are numbers, of
which bit `i` stands for the position before character `i`.

* `Regular`: sequences, choices and repetitions of leaves of any kind;
* `Atom`, `Pattern`: the leaves are sets of characters and assertions about a position;
* `Pattern.on`: a pattern on a text, every leaf replaced by the positions that admit it;
* `Regular.reach`: the positions to which a pattern leads, with `reach_sequenceOf`: a sequence
  leads where its parts lead one after the other;
* `Pattern.isIn`: whether a pattern matches some part of a text.
-/
import RowQuery.Text.CharSet

namespace RowQuery

open Text

/-! ### Patterns -/

/-- Regular expressions over leaves of any kind. -/
inductive Regular (α : Type)
  | empty
  | leaf (a : α)
  | sequence (first second : Regular α)
  | choice (first second : Regular α)
  /-- At least `least` times, and at most `greatest` times if there is a limit; a greedy one tries
  more repetitions first. -/
  | repeated (body : Regular α) (least : Nat) (greatest : Option Nat) (greedy : Bool)
  /-- A numbered group, which matches as its body does. -/
  | group (index : Nat) (body : Regular α)
deriving DecidableEq, Repr

namespace Regular

/-- The expression with every leaf replaced. -/
def map {α β : Type} (f : α → β) : Regular α → Regular β
  | empty => empty
  | leaf a => leaf (f a)
  | sequence first second => sequence (first.map f) (second.map f)
  | choice first second => choice (first.map f) (second.map f)
  | repeated body least greatest greedy => repeated (body.map f) least greatest greedy
  | group index body => group index (body.map f)

/-- Expressions one after the other. -/
def sequenceOf {α : Type} : List (Regular α) → Regular α
  | [] => empty
  | [p] => p
  | p :: rest => sequence p (sequenceOf rest)

end Regular

/-- What may be asked of a position, given the characters before and after it. -/
inductive Assertion
  | textStart
  | textEnd
  /-- The start of a line; carriage returns may end lines too. -/
  | lineStart (carriage : Bool)
  | lineEnd (carriage : Bool)
  | wordBoundary (word : CharSet)
  | notWordBoundary (word : CharSet)
  | wordStart (word : CharSet)
  | wordEnd (word : CharSet)
  /-- No character of a word before. -/
  | wordStartHalf (word : CharSet)
  /-- No character of a word after. -/
  | wordEndHalf (word : CharSet)
deriving DecidableEq, Repr

/-- Whether a position has a character of a set next to it. -/
def besides (set : CharSet) (c : Option Char) : Bool := c.any set.holds

/-- Whether an assertion holds between two characters; none stands for an end of the text. -/
def Assertion.holds (before after : Option Char) : Assertion → Bool
  | textStart => before.isNone
  | textEnd => after.isNone
  | lineStart carriage =>
    before.isNone || before == some '\n'
      || (carriage && before == some '\r' && after != some '\n')
  | lineEnd carriage =>
    if carriage then
      after.isNone || after == some '\r' || (after == some '\n' && before != some '\r')
    else after.isNone || after == some '\n'
  | wordBoundary word => besides word before != besides word after
  | notWordBoundary word => besides word before == besides word after
  | wordStart word => !besides word before && besides word after
  | wordEnd word => besides word before && !besides word after
  | wordStartHalf word => !besides word before
  | wordEndHalf word => !besides word after

/-- A leaf of a pattern. -/
inductive Atom
  | oneOf (set : CharSet)
  | assertion (a : Assertion)
deriving DecidableEq, Repr

/-- A pattern for texts. -/
abbrev Pattern := Regular Atom

/-! ### Positions -/

/-- The number whose bits are given, the lowest first. -/
def bits : List Bool → Nat
  | [] => 0
  | b :: rest => 2 * bits rest + b.toNat

/-- The bits of a number made of bits. -/
theorem testBit_bits (l : List Bool) (i : Nat) : (bits l).testBit i = l.getD i false := by
  induction l generalizing i with
  | nil => simp [bits]
  | cons b l ih =>
    cases i with
    | zero => cases b <;> simp [bits, Nat.testBit_zero]
    | succ i =>
      have hdiv : (2 * bits l + b.toNat) / 2 = bits l := by
        have := b.toNat_le
        omega
      rw [bits, Nat.testBit_succ, hdiv, ih]
      simp

/-- A leaf on a text: the positions that admit it, and whether it takes a character. -/
structure Move where
  admitted : Nat
  advances : Bool
deriving DecidableEq, Repr

/-- The positions to which a leaf leads. -/
def Move.apply (m : Move) (positions : Nat) : Nat :=
  if m.advances then (positions &&& m.admitted) <<< 1 else positions &&& m.admitted

/-- The characters before and after each position of a text. -/
def neighbours : Option Char → List Char → List (Option Char × Option Char)
  | before, [] => [(before, none)]
  | before, c :: rest => (before, some c) :: neighbours (some c) rest

/-- A leaf on a text. -/
def Atom.on (text : List Char) : Atom → Move
  | oneOf set => ⟨bits (text.map set.holds), true⟩
  | assertion a => ⟨bits ((neighbours none text).map fun p => a.holds p.1 p.2), false⟩

/-- A pattern on a text. -/
def Pattern.on (p : Pattern) (text : List Char) : Regular Move := p.map (Atom.on text)

/-! ### Reaching positions -/

/-- Applies a step a number of times, fewer if it changes nothing any more. -/
def iterate (step : Nat → Nat) : Nat → Nat → Nat
  | 0, positions => positions
  | count + 1, positions =>
    let next := step positions
    if next = positions then positions else iterate step count next

/-- All positions that a step reaches when applied up to a number of times. -/
def spread (step : Nat → Nat) : Nat → Nat → Nat
  | 0, positions => positions
  | count + 1, positions =>
    let next := positions ||| step positions
    if next = positions then positions else spread step count next

/-- The positions to which an expression leads. Without a limit as many repetitions are enough
as there are positions. -/
def Regular.reach (size : Nat) : Regular Move → Nat → Nat
  | empty, positions => positions
  | leaf m, positions => m.apply positions
  | sequence first second, positions => second.reach size (first.reach size positions)
  | choice first second, positions => first.reach size positions ||| second.reach size positions
  | repeated body least greatest _, positions =>
    let more := match greatest with
      | none => size
      | some greatest => greatest - least
    spread (fun s => body.reach size s) more (iterate (fun s => body.reach size s) least positions)
  | group _ body, positions => body.reach size positions

/-- A sequence leads where its parts lead one after the other. -/
theorem Regular.reach_sequenceOf (size : Nat) (l : List (Regular Move)) (positions : Nat) :
    (sequenceOf l).reach size positions = l.foldl (fun s p => p.reach size s) positions := by
  induction l generalizing positions with
  | nil => rfl
  | cons p rest ih =>
    cases rest with
    | nil => rfl
    | cons q rest =>
      show (sequence p (sequenceOf (q :: rest))).reach size positions = _
      rw [reach, ih]
      rfl

/-- Whether a pattern matches some part of a text. -/
def Pattern.isIn (p : Pattern) (text : String) : Bool :=
  let chars := text.toList
  let size := chars.length + 1
  (Pattern.on p chars).reach size (Nat.pow 2 size - 1) != 0

end RowQuery
