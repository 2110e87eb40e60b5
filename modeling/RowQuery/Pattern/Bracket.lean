/-
Classes of characters in brackets.

Inside brackets stand characters, ranges, escapes, named sets and classes again, and operators
that combine what stands before them with what stands after.

* `ClassUnion`: the items of one bracket, since the last operator;
* `Bracket`: a bracket that is open, and the items of the one around it;
* `readBracket?`: reads a class to its end.
-/
import RowQuery.Pattern.Escape

namespace RowQuery

open Text

/-- The items of a bracket: their union, how many they are, and how deep classes are nested in
them. -/
structure ClassUnion where
  set : CharSet
  count : Nat
  depth : Nat
deriving DecidableEq, Repr

namespace ClassUnion

/-- No items. -/
def empty : ClassUnion := ⟨.none, 0, 0⟩

/-- One more item. -/
def add (u : ClassUnion) (set : CharSet) (depth : Nat) : ClassUnion :=
  ⟨if u.count = 0 then set else .union u.set set, u.count + 1, max u.depth depth⟩

/-- How deep the union is nested; a single item is no union. -/
def totalDepth (u : ClassUnion) : Nat := if u.count ≤ 1 then u.depth else u.depth + 1

end ClassUnion

/-- How two classes are combined. -/
inductive SetOperator
  | intersection
  | difference
  | symmetricDifference
deriving DecidableEq, Repr

/-- The set of a combination. -/
def SetOperator.apply : SetOperator → CharSet → CharSet → CharSet
  | intersection, a, b => .inter a b
  | difference, a, b => .diff a b
  | symmetricDifference, a, b => .symmDiff a b

/-- What stands before an operator. -/
structure PendingOperator where
  operator : SetOperator
  left : CharSet
  depth : Nat
deriving DecidableEq, Repr

/-- A bracket that is open. -/
structure Bracket where
  /-- The items before it, in the bracket around it. -/
  outer : ClassUnion
  negated : Bool
  pending : Option PendingOperator
deriving DecidableEq, Repr

namespace Bracket

/-- The set of all that stands in a bracket so far, and its depth. -/
def combined (b : Bracket) (f : Flags) (items : ClassUnion) : CharSet × Nat :=
  match b.pending with
  | none => (items.set, items.totalDepth)
  | some p =>
    (p.operator.apply (f.fold p.left) (f.fold items.set), max p.depth items.totalDepth + 1)

/-- The set of a bracket that is closed, and its depth. -/
def closed? (b : Bracket) (f : Flags) (items : ClassUnion) : Option (CharSet × Nat) := do
  let (set, depth) := b.combined f items
  let set := f.fold set
  return (← if b.negated then f.negate? set else some set, depth + 1)

end Bracket

/-- The hyphens, or the closing bracket, that stand for themselves at the front of a class. -/
def readLeading (f : Flags) : Nat → ClassUnion → List Char → ClassUnion × List Char
  | 0, items, text => (items, text)
  | fuel + 1, items, text =>
    match skip f text with
    | '-' :: rest => readLeading f fuel (items.add (.single '-') 0) rest
    | ']' :: rest =>
      if items.count = 0 then (items.add (.single ']') 0, rest) else (items, ']' :: rest)
    | rest => (items, rest)

/-- The front of a class after its bracket: whether it is negated, and its first items. -/
def readOpening (f : Flags) (text : List Char) : Bool × ClassUnion × List Char :=
  match skip f text with
  | '^' :: rest => (true, readLeading f (rest.length + 1) .empty rest)
  | rest => (false, readLeading f (rest.length + 1) .empty rest)

/-- A set with a name between colons and brackets, and whether its complement is meant. -/
def readNamed? (text : List Char) : Option (CharSet × Bool × List Char) := do
  let .cons ':' rest := text | none
  let (negated, rest) := match rest with
    | '^' :: rest => (true, rest)
    | rest => (false, rest)
  let .cons ':' (.cons ']' after) := rest.dropWhile (· != ':') | none
  let set ← Posix.set? (String.ofList (rest.takeWhile (· != ':')))
  return (set, negated, after)

/-- One item that is no bracket. -/
def readItem? (f : Flags) : List Char → Option (Primitive × List Char)
  | '\\' :: rest => readEscape? f rest
  | c :: rest => some (.char c, rest)
  | [] => none

/-- An item as a set; assertions are none. -/
def itemSet? (f : Flags) : Primitive → Option CharSet
  | .char c => f.classChar? c
  | .set s => some s
  | .assertion _ => none

/-- The character that decides what a hyphen before it means. Blanks before it and after the mark
of a comment do not count, where the flags allow them, but the first character of the comment
does. -/
def decisive? (f : Flags) (text : List Char) : Option Char :=
  if !f.verbose then text.head?
  else
    let found := match text.dropWhile isBlank with
      | '#' :: comment => (comment.dropWhile isBlank).head?
      | rest => rest.head?
    found.orElse fun _ => text.head?

/-- A character, a range of them, or an escape. -/
def readRange? (f : Flags) (text : List Char) : Option (CharSet × List Char) := do
  let (first, rest) ← readItem? f text
  match skip f rest with
  | '-' :: afterHyphen =>
    if decisive? f afterHyphen == some ']' || decisive? f afterHyphen == some '-' then
      return (← itemSet? f first, '-' :: afterHyphen)
    else
      let (last, rest) ← readItem? f (skip f afterHyphen)
      match first, last with
      | .char a, .char b =>
        let _ ← f.classChar? a
        let _ ← f.classChar? b
        if a ≤ b then return (.range a b, rest) else none
      | _, _ => none
  | rest => return (← itemSet? f first, rest)

/-- An operator, which is a character written twice. -/
def readOperator? : List Char → Option (SetOperator × List Char)
  | '&' :: '&' :: rest => some (.intersection, rest)
  | '-' :: '-' :: rest => some (.difference, rest)
  | '~' :: '~' :: rest => some (.symmetricDifference, rest)
  | _ => none

/-- Reads a class from inside its bracket to its end, with the brackets around the innermost one
on a stack. Gives the set and its depth. -/
def readClass? (f : Flags) : Nat → List Bracket → ClassUnion → List Char →
    Option (CharSet × Nat × List Char)
  | 0, _, _, _ => none
  | fuel + 1, stack, items, text =>
    match stack, skip f text with
    | [], _ => none
    | _, [] => none
    | stack, '[' :: rest =>
      match readNamed? rest with
      | some (set, negated, rest) => do
        let set := f.fold set
        let set ← if negated then f.negate? set else some set
        readClass? f fuel stack (items.add set 0) rest
      | none =>
        let (negated, first, rest) := readOpening f rest
        readClass? f fuel (⟨items, negated, none⟩ :: stack) first rest
    | bracket :: stack, ']' :: rest => do
      let (set, depth) ← bracket.closed? f items
      match stack with
      | [] => return (set, depth, rest)
      | stack => readClass? f fuel stack (bracket.outer.add set depth) rest
    | bracket :: stack, text =>
      match readOperator? text with
      | some (operator, rest) =>
        let (left, depth) := bracket.combined f items
        let bracket := { bracket with pending := some ⟨operator, left, depth⟩ }
        readClass? f fuel (bracket :: stack) .empty rest
      | none => do
        let (set, rest) ← readRange? f text
        readClass? f fuel (bracket :: stack) (items.add set 0) rest

/-- Reads a class after its bracket. -/
def readBracket? (f : Flags) (text : List Char) : Option (CharSet × Nat × List Char) :=
  let (negated, first, rest) := readOpening f text
  readClass? f (text.length + 1) [⟨.empty, negated, none⟩] first rest

end RowQuery
