/-
Escapes in written patterns, and the flags under which a pattern is read.

* `Flags`: how the characters of a pattern are to be understood;
* `skip`, `takeSpaced`: leave out blanks and comments, where the flags allow them;
* `Primitive`, `readEscape?`: what follows a backslash.

A reader takes the characters that are left and gives what it has read with those after it;
none stands for a pattern that is not well formed.
-/
import RowQuery.Number.Hexadecimal
import RowQuery.Pattern.Basic
import RowQuery.Pattern.Property

namespace RowQuery

open Number Text

/-- How the characters of a pattern are understood. -/
structure Flags where
  ignoreCase : Bool := false
  multiLine : Bool := false
  dotMatchesNewline : Bool := false
  /-- Repetitions are greedy if they are marked, and not if they are not. -/
  swapGreed : Bool := false
  unicode : Bool := true
  carriage : Bool := false
  verbose : Bool := false
deriving DecidableEq, Repr

namespace Flags

/-- The characters of a word. -/
def wordSet (f : Flags) : CharSet := if f.unicode then Property.wordCharacter else asciiWord

/-- The characters that differ in case only from those of a set, if case is ignored. -/
def fold (f : Flags) (set : CharSet) : CharSet :=
  if !f.ignoreCase then set else if f.unicode then .folded set else .foldedAscii set

/-- The complement of a set, which is well formed for characters beyond ASCII only. -/
def negate? (f : Flags) (set : CharSet) : Option CharSet :=
  if f.unicode then some (.complement set) else none

/-- The set of one character of a class. -/
def classChar? (f : Flags) (c : Char) : Option CharSet :=
  if f.unicode || c.toNat < 0x80 then some (.single c) else none

end Flags

/-! ### Blanks and comments -/

/-- Leaves out blanks and comments at the front. -/
def skipBlanks : Bool → List Char → List Char
  | _, [] => []
  | true, c :: rest => skipBlanks (c != '\n') rest
  | false, c :: rest =>
    if isBlank c then skipBlanks false rest
    else if c == '#' then skipBlanks true rest
    else c :: rest

/-- Leaves out blanks and comments at the front, where the flags allow them. -/
def skip (f : Flags) (text : List Char) : List Char :=
  if f.verbose then skipBlanks false text else text

/-- The characters of some kind at the front, blanks and comments between them and after them left
out where that is allowed, and what follows. The first flag tells whether a comment is open. -/
def takeSpaced (verbose : Bool) (kind : Char → Bool) : Bool → List Char → List Char × List Char
  | _, [] => ([], [])
  | true, c :: rest => takeSpaced verbose kind (c != '\n') rest
  | false, c :: rest =>
    if verbose && isBlank c then takeSpaced verbose kind false rest
    else if verbose && c == '#' then takeSpaced verbose kind true rest
    else if kind c then
      let (taken, rest) := takeSpaced verbose kind false rest
      (c :: taken, rest)
    else ([], c :: rest)

/-- What stands before a closing brace. -/
def readBraced? (f : Flags) (text : List Char) : Option (List Char × List Char) :=
  match takeSpaced f.verbose (· != '\x7d') false text with
  | (inside, '\x7d' :: rest) => some (inside, rest)
  | _ => none

/-- One thing that a pattern names: a character, a set of them, or an assertion. -/
inductive Primitive
  | char (c : Char)
  | set (s : CharSet)
  | assertion (a : Assertion)
deriving DecidableEq, Repr

/-! ### Characters by number -/

/-- The character of a number, if it is one of a character. -/
def charOfNumber? (n : Nat) : Option Char := if n.isValidChar then some (Char.ofNat n) else none

/-- Takes a number of characters, blanks between them left out. -/
def takeChars? (f : Flags) : Nat → List Char → Option (List Char × List Char)
  | 0, text => some ([], text)
  | n + 1, text =>
    match skip f text with
    | [] => none
    | c :: rest => (takeChars? f n rest).map fun (taken, rest) => (c :: taken, rest)

/-- A character by number: digits in braces, or a fixed number of digits. -/
def readHex? (f : Flags) (digits : Nat) (text : List Char) : Option (Nat × List Char) := do
  let (taken, rest) ← match skip f text with
    | '\x7b' :: rest => readBraced? f rest
    | text => takeChars? f digits text
  if taken.isEmpty then none
  return (← hexValue? taken, rest)

/-! ### Sets by name -/

/-- A set with a one-letter name or with a name in braces; case is ignored before a complement is
taken. -/
def readProperty? (f : Flags) (negated : Bool) (text : List Char) :
    Option (CharSet × List Char) := do
  if !f.unicode then none
  let (name, rest) ← match skip f text with
    | '\x7b' :: rest => readBraced? f rest
    | '\\' :: _ => none
    | c :: rest => some ([c], rest)
    | [] => none
  let (set, unequal) ← PropertyName.ofText? name
  let set := f.fold set
  return (if negated != unequal then set.complement else set, rest)

/-- The set of a letter: digits, blanks, or the characters of a word. -/
def letterSet? (f : Flags) (letter : Char) : Option CharSet :=
  if letter == 'd' then some (if f.unicode then Category.decimalNumber.set else asciiDigits)
  else if letter == 's' then some (if f.unicode then Property.blank else asciiBlanks)
  else if letter == 'w' then some f.wordSet
  else none

/-! ### Assertions -/

/-- A boundary of a word, which may have a name in braces. Braces around anything but a name are
left for a repetition. -/
def readBoundary? (f : Flags) (text : List Char) : Option (Assertion × List Char) :=
  let word := f.wordSet
  let isNameChar := fun (c : Char) => c.isAlpha || c == '-'
  match text with
  | '\x7b' :: rest =>
    match skip f rest with
    | [] => none
    | c :: others =>
      if !isNameChar c then some (.wordBoundary word, text)
      else
        match takeSpaced f.verbose isNameChar false (c :: others) with
        | (name, '\x7d' :: after) =>
          let name := String.ofList name
          if name == "start" then some (.wordStart word, after)
          else if name == "end" then some (.wordEnd word, after)
          else if name == "start-half" then some (.wordStartHalf word, after)
          else if name == "end-half" then some (.wordEndHalf word, after)
          else none
        | _ => none
  | text => some (.wordBoundary word, text)

/-! ### Escapes -/

/-- The control character of a letter. -/
def controlOf? (letter : Char) : Option Char :=
  if letter == 'a' then some '\x07'
  else if letter == 'f' then some '\x0c'
  else if letter == 't' then some '\t'
  else if letter == 'n' then some '\n'
  else if letter == 'r' then some '\r'
  else if letter == 'v' then some '\x0b'
  else none

/-- Characters that a backslash leaves as they are: all of ASCII but letters, digits and angles. -/
def isEscapable (c : Char) : Bool :=
  c.toNat < 0x80 && !c.isAlphanum && c != '<' && c != '>'

/-- What follows a backslash. -/
def readEscape? (f : Flags) (text : List Char) : Option (Primitive × List Char) :=
  match text with
  | [] => none
  | c :: rest =>
    if c == 'x' || c == 'u' || c == 'U' then do
      let digits := if c == 'x' then 2 else if c == 'u' then 4 else 8
      let (n, rest) ← readHex? f digits rest
      let isByte := c == 'x' && (skip f (text.drop 1)).head? != some '\x7b'
      if !f.unicode && isByte && 0x7f < n then none
      return (.char (← charOfNumber? n), rest)
    else if c == 'p' || c == 'P' then
      (readProperty? f (c == 'P') rest).map fun (set, rest) => (.set set, rest)
    else if let some set := letterSet? f c then some (.set set, rest)
    else if let some set := letterSet? f c.toLower then
      (f.negate? set).map fun set => (.set set, rest)
    else if let some control := controlOf? c then some (.char control, rest)
    else if c == 'A' then some (.assertion .textStart, rest)
    else if c == 'z' then some (.assertion .textEnd, rest)
    else if c == 'b' then
      (readBoundary? f rest).map fun (a, rest) => (.assertion a, rest)
    else if c == 'B' then some (.assertion (.notWordBoundary f.wordSet), rest)
    else if c == '<' then some (.assertion (.wordStart f.wordSet), rest)
    else if c == '>' then some (.assertion (.wordEnd f.wordSet), rest)
    else if isEscapable c then some (.char c, rest)
    else none

end RowQuery
