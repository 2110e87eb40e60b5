/-
Tokens from text, read one character at a time.

Blanks separate words, and marks are tokens on their own. An apostrophe or a double quote opens
a quoted part that ends at the same character; inside it a backslash takes the next character
as it is. A word may have quoted and bare parts.

* `Scan.step`: what one more character does;
* `Scan.tokens`: the tokens read, a quote left open at the end being ignored;
* `tokenize`, `tokenizeStrict`: the tokens of a text; the strict reading refuses an open quote.
-/
import RowQuery.Text.Blank
import RowQuery.Token

namespace RowQuery

open Text

/-- A word that is being read, its characters latest first. -/
structure OpenWord where
  reversed : List Char
  quoted : Bool
deriving DecidableEq, Repr

/-- Where the next character stands. -/
inductive ScanMode
  | bare
  /-- In a part that the character `delimiter` opened at an offset. -/
  | quoted (delimiter : Char) (opened : Nat)
  /-- After a backslash in such a part. -/
  | escaped (delimiter : Char) (opened : Nat)
deriving DecidableEq, Repr

/-- A text read so far: its tokens, latest first, the word at its end, and its length. -/
structure Scan where
  reversed : List Token
  word : Option OpenWord
  mode : ScanMode
  length : Nat
deriving DecidableEq, Repr

namespace Scan

/-- Nothing has been read. -/
def start : Scan := ⟨[], none, .bare, 0⟩

/-- Ends the word that is being read, if there is one. -/
def flush (s : Scan) : Scan :=
  match s.word with
  | none => s
  | some w =>
    { s with
      reversed := .word (String.ofList w.reversed.reverse) w.quoted :: s.reversed, word := none }

/-- Takes a character into the word that is being read, or begins one with it. -/
def take (s : Scan) (c : Char) : Scan :=
  match s.word with
  | none => { s with word := some ⟨[c], false⟩ }
  | some w => { s with word := some { w with reversed := c :: w.reversed } }

/-- Opens a quoted part of the word that is being read, or begins one with it. -/
def openQuote (s : Scan) (delimiter : Char) : Scan :=
  let reversed := match s.word with
    | none => []
    | some w => w.reversed
  { s with word := some ⟨reversed, true⟩, mode := .quoted delimiter s.length }

/-- Reads one character, its place aside. -/
def read (s : Scan) (c : Char) : Scan :=
  match s.mode with
  | .bare =>
    if c == '\'' || c == '"' then s.openQuote c
    else if isBlank c then s.flush
    else if marks.contains c then { s.flush with reversed := .mark c :: s.flush.reversed }
    else s.take c
  | .quoted delimiter opened =>
    if c == '\\' then { s with mode := .escaped delimiter opened }
    else if c == delimiter then { s with mode := .bare }
    else s.take c
  | .escaped delimiter opened => { s.take c with mode := .quoted delimiter opened }

/-- Reads one character. -/
def step (s : Scan) (c : Char) : Scan := { s.read c with length := s.length + 1 }

/-- Reads a text. -/
def run (s : Scan) (text : List Char) : Scan := text.foldl step s

/-- The tokens of the text read. -/
def tokens (s : Scan) : List Token := s.flush.reversed.reverse

/-- Where the quote stands that is still open. -/
def openedAt? (s : Scan) : Option Nat :=
  match s.mode with
  | .bare => none
  | .quoted _ opened | .escaped _ opened => some opened

/-- Texts are read part by part. -/
theorem run_append (s : Scan) (a b : List Char) : s.run (a ++ b) = (s.run a).run b := by
  simp [run]

end Scan

/-- Why a text has no tokens. -/
inductive ScanError
  /-- The quote at an offset is never closed. -/
  | unterminatedQuote (position : Nat)
deriving DecidableEq, Repr

/-- The wording of an error. -/
def ScanError.message : ScanError → String
  | unterminatedQuote position =>
    s!"unterminated quoted literal starting at position {position}"

/-- Reads a whole text. -/
def scan (text : String) : Scan := Scan.start.run text.toList

/-- The tokens of a text; a quote that is never closed extends to the end. -/
def tokenize (text : String) : List Token := (scan text).tokens

/-- The tokens of a text in which every quote is closed. -/
def tokenizeStrict (text : String) : Except ScanError (List Token) :=
  match (scan text).openedAt? with
  | some position => .error (.unterminatedQuote position)
  | none => .ok (scan text).tokens

end RowQuery
