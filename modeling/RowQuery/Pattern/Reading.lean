/-
Patterns from text.

* `Piece`: a part of a pattern, with the depth to which parts are nested in it;
* `OpenGroup`: a group that is open: its finished branches, its last branch, and its flags;
* `PatternReader.step?`: reads one piece, or opens or closes a group;
* `Pattern.ofText?`: the pattern that a text writes, if it is well formed.
-/
import RowQuery.Number.Reading
import RowQuery.Pattern.Bracket
import RowQuery.Pattern.Normal
import RowQuery.Text.Alphanumeric

namespace RowQuery

open Text

/-! ### Pieces and groups -/

/-- A part of a pattern. Flags that are set in passing are a part without a pattern. -/
structure Piece where
  pattern : Option Pattern
  depth : Nat
deriving DecidableEq, Repr

namespace Piece

/-- A part with nothing nested in it. -/
def simple (atom : Atom) : Piece := ⟨some (.leaf atom), 0⟩

/-- Parts one after the other, given in reverse. -/
def sequence (reversed : List Piece) : Piece :=
  match reversed with
  | [] => ⟨some .empty, 0⟩
  | [piece] => piece
  | pieces =>
    ⟨some (.series (pieces.reverse.filterMap (·.pattern))),
      pieces.foldl (fun d p => max d p.depth) 0 + 1⟩

/-- Branches to choose from, given in reverse. -/
def choice (last : Piece) (earlier : List Piece) : Piece :=
  match earlier with
  | [] => last
  | earlier =>
    let branches := (last :: earlier).reverse.map fun p => p.pattern.getD .empty
    ⟨some (.alternation branches),
      earlier.foldl (fun d p => max d p.depth) last.depth + 1⟩

end Piece

/-- A group that is open; the whole pattern is one. -/
structure OpenGroup where
  /-- Its branches but the last, in reverse. -/
  branches : List Piece
  /-- The parts of its last branch, in reverse. -/
  parts : List Piece
  flags : Flags
  /-- Its number, if it has one. -/
  index : Option Nat
deriving DecidableEq, Repr

namespace OpenGroup

/-- A group of which nothing has been read. -/
def start (flags : Flags) (index : Option Nat) : OpenGroup := ⟨[], [], flags, index⟩

/-- One more part. -/
def add (g : OpenGroup) (piece : Piece) : OpenGroup := { g with parts := piece :: g.parts }

/-- One more branch. -/
def branch (g : OpenGroup) : OpenGroup :=
  { g with branches := .sequence g.parts :: g.branches, parts := [] }

/-- All that has been read. -/
def piece (g : OpenGroup) : Piece := .choice (.sequence g.parts) g.branches

/-- The pattern of all that has been read. -/
def pattern (g : OpenGroup) : Pattern :=
  let inner := g.piece.pattern.getD .empty
  match g.index with
  | some index => .group index inner
  | none => inner

/-- The last part repeated; there has to be one, and it must not be a setting of flags. -/
def repeatLast? (g : OpenGroup) (least : Nat) (greatest : Option Nat) (greedy : Bool) :
    Option OpenGroup :=
  match g.parts with
  | ⟨some pattern, depth⟩ :: parts =>
    let greedy := greedy != g.flags.swapGreed
    some { g with parts := ⟨some (.repetition pattern least greatest greedy), depth + 1⟩ :: parts }
  | _ => none

end OpenGroup

/-! ### Flags and groups -/

/-- Sets one flag. -/
def setFlag? (f : Flags) (letter : Char) (on : Bool) : Option Flags :=
  if letter == 'i' then some { f with ignoreCase := on }
  else if letter == 'm' then some { f with multiLine := on }
  else if letter == 's' then some { f with dotMatchesNewline := on }
  else if letter == 'U' then some { f with swapGreed := on }
  else if letter == 'u' then some { f with unicode := on }
  else if letter == 'R' then some { f with carriage := on }
  else if letter == 'x' then some { f with verbose := on }
  else none

/-- Flags up to a colon or a closing parenthesis, each at most once, with one hyphen at most, and
a flag after it. Gives the flags, whether a colon ended them, and whether there were any. -/
def readFlags? (f : Flags) (seen : List Char) : List Char → Option (Flags × Bool × Bool × List Char)
  | [] => none
  | c :: rest =>
    if c == ':' || c == ')' then
      if seen.head? == some '-' then none else some (f, c == ':', !seen.isEmpty, rest)
    else if seen.contains c then none
    else if c == '-' then readFlags? f ('-' :: seen) rest
    else match setFlag? f c (!seen.contains '-') with
      | some f => readFlags? f (c :: seen) rest
      | none => none

/-- Whether a character may stand in the name of a group. -/
def isNameChar (first : Bool) (c : Char) : Bool :=
  c == '_' || if first then isAlphabetic c
    else isAlphanumeric c || c == '.' || c == '[' || c == ']'

/-- The name of a group up to the angle that closes it. -/
def readGroupName? (text : List Char) : Option (List Char × List Char) :=
  let name := text.takeWhile (· != '>')
  match name, text.dropWhile (· != '>') with
  | c :: others, _ :: rest =>
    if isNameChar true c && others.all (isNameChar false) then some (name, rest) else none
  | _, _ => none

/-! ### Counts -/

/-- A count, with blanks around it. -/
def readCount? (f : Flags) (text : List Char) : Option (Nat × List Char) :=
  let (digits, rest) := takeSpaced f.verbose Char.isDigit false (text.dropWhile isBlank)
  let count := Number.digitValue digits
  if digits.isEmpty || count ≥ Nat.pow 2 32 then none else some (count, rest.dropWhile isBlank)

/-- The counts of a repetition after its brace: one, one and a comma, or two in order. -/
def readCounts? (f : Flags) (text : List Char) : Option (Nat × Option Nat × List Char) := do
  let (least, rest) ← readCount? f (skip f text)
  match skip f rest with
  | '\x7d' :: rest => return (least, some least, rest)
  | ',' :: rest =>
    match skip f rest with
    | '\x7d' :: rest => return (least, none, rest)
    | rest =>
      let (greatest, rest) ← readCount? f rest
      match skip f rest with
      | '\x7d' :: rest => if least ≤ greatest then return (least, some greatest, rest) else none
      | _ => none
  | _ => none

/-- Whether a repetition has no mark that makes it prefer to be short, and what follows it. -/
def readGreedy : List Char → Bool × List Char
  | '?' :: rest => (false, rest)
  | rest => (true, rest)

/-! ### Reading -/

/-- A pattern read so far. -/
structure PatternReader where
  /-- The group that is being read. -/
  group : OpenGroup
  /-- The groups around it, innermost first. -/
  outer : List OpenGroup
  names : List (List Char)
  /-- How many numbers groups have taken. -/
  groups : Nat
deriving DecidableEq, Repr

namespace PatternReader

/-- Nothing has been read. -/
def start : PatternReader := ⟨.start {} none, [], [], 0⟩

/-- One more part of the group that is being read. -/
def add (r : PatternReader) (piece : Piece) : PatternReader := { r with group := r.group.add piece }

/-- Opens a group without a number. -/
def openPlain (r : PatternReader) (flags : Flags) : PatternReader :=
  { r with group := .start flags none, outer := r.group :: r.outer }

/-- Opens a group with the next number. -/
def openNumbered (r : PatternReader) : PatternReader :=
  { r with
    group := .start r.group.flags (some (r.groups + 1)), outer := r.group :: r.outer,
    groups := r.groups + 1 }

/-- Closes the group that is being read. -/
def closeGroup? (r : PatternReader) : Option PatternReader :=
  match r.outer with
  | [] => none
  | parent :: outer =>
    let piece : Piece := ⟨some r.group.pattern, r.group.piece.depth + 1⟩
    some { r with group := parent.add piece, outer }

/-- The part that a primitive is. -/
def primitivePiece (f : Flags) : Primitive → Piece
  | .char c => .simple (.oneOf (f.fold (.single c)))
  | .set s => .simple (.oneOf s)
  | .assertion a => .simple (.assertion a)

/-- The characters of the dot. -/
def dotSet? (f : Flags) : Option CharSet :=
  if !f.unicode then none
  else if f.dotMatchesNewline then some .all
  else if f.carriage then some (CharSet.union (.single '\n') (.single '\r')).complement
  else some (CharSet.single '\n').complement

/-- What follows an opening parenthesis and a question mark. -/
def readGroup? (r : PatternReader) (text : List Char) : Option (PatternReader × List Char) :=
  let f := r.group.flags
  let named := fun (text : List Char) => do
    let (name, rest) ← readGroupName? text
    if r.names.contains name then none
    return ({ r.openNumbered with names := name :: r.names }, rest)
  match text with
  | 'P' :: '<' :: rest => named rest
  | '<' :: '=' :: _ => none
  | '<' :: '!' :: _ => none
  | '<' :: rest => named rest
  | text => do
    let (flags, isGroup, any, rest) ← readFlags? f [] text
    if isGroup then return (r.openPlain flags, rest)
    else if any then return ({ r with group := { r.group.add ⟨none, 0⟩ with flags } }, rest)
    else none

/-- Repeats the last part. -/
def repeated? (r : PatternReader) (least : Nat) (greatest : Option Nat) (text : List Char) :
    Option (PatternReader × List Char) :=
  let (greedy, rest) := readGreedy text
  (r.group.repeatLast? least greatest greedy).map fun group => ({ r with group }, rest)

/-- Reads one part, or opens or closes a group. -/
def step? (r : PatternReader) (c : Char) (rest : List Char) :
    Option (PatternReader × List Char) :=
  let f := r.group.flags
  match c with
  | '(' =>
    match skip f rest with
    | '?' :: rest => r.readGroup? rest
    | rest => some (r.openNumbered, rest)
  | ')' => r.closeGroup?.map fun r => (r, rest)
  | '|' => some ({ r with group := r.group.branch }, rest)
  | '[' => do
    let (set, depth, rest) ← readBracket? f rest
    return (r.add ⟨some (.leaf (.oneOf set)), depth⟩, rest)
  | '?' => r.repeated? 0 (some 1) rest
  | '*' => r.repeated? 0 none rest
  | '+' => r.repeated? 1 none rest
  | '\x7b' => do
    let (least, greatest, rest) ← readCounts? f rest
    r.repeated? least greatest (skip f rest)
  | '.' => do return (r.add (.simple (.oneOf (← dotSet? f))), rest)
  | '^' =>
    let a := if f.multiLine then .lineStart f.carriage else .textStart
    some (r.add (.simple (.assertion a)), rest)
  | '$' =>
    let a := if f.multiLine then .lineEnd f.carriage else .textEnd
    some (r.add (.simple (.assertion a)), rest)
  | '\\' => do
    let (primitive, rest) ← readEscape? f rest
    return (r.add (primitivePiece f primitive), rest)
  | c => some (r.add (primitivePiece f (.char c)), rest)

/-- How deep the parts of a pattern may be nested. -/
def maxNesting : Nat := 250

/-- The pattern, once all has been read. -/
def finish? (r : PatternReader) : Option Pattern :=
  let whole := r.group.piece
  if r.outer.isEmpty && whole.depth ≤ maxNesting then some (whole.pattern.getD .empty) else none

/-- Reads to the end; every step takes at least one character. -/
def run? : Nat → PatternReader → List Char → Option Pattern
  | 0, _, _ => none
  | fuel + 1, r, text =>
    match skip r.group.flags text with
    | [] => r.finish?
    | c :: rest =>
      match r.step? c rest with
      | none => none
      | some (r, rest) => run? fuel r rest

end PatternReader

/-- The pattern that a text writes, if it is well formed. -/
def Pattern.ofText? (text : String) : Option Pattern :=
  let chars := text.toList
  PatternReader.start.run? (chars.length + 1) chars

end RowQuery
