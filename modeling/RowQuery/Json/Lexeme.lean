/-
Lexemes: the brackets, separators, words and quoted texts of JSON.

* `Lexeme`: a mark, a word, or what stands between two quotation marks;
* `Lexing.step`: what one more character does;
* `lexemes?`: the lexemes of a text; none if a quotation mark is left open.
-/

namespace RowQuery.Json

/-- A lexeme. -/
inductive Lexeme
  | mark (c : Char)
  /-- Characters that are neither blank nor marks: a number, a truth value, or null. -/
  | word (text : List Char)
  /-- What stands between quotation marks, escapes included. -/
  | quoted (raw : List Char)
deriving DecidableEq, Repr

/-- The brackets and separators. -/
def marks : List Char := ['[', ']', '\x7b', '\x7d', ',', ':']

/-- The characters that separate lexemes. -/
def isBlank (c : Char) : Bool := c == ' ' || c == '\t' || c == '\n' || c == '\r'

/-- Where the next character stands; what has been read of a lexeme comes with its last
character first. -/
inductive LexingMode
  | between
  | word (reversed : List Char)
  | quoted (reversed : List Char)
  /-- After a backslash between quotation marks. -/
  | escaped (reversed : List Char)
deriving DecidableEq, Repr

/-- A text read so far: its lexemes, latest first, and where the next character stands. -/
structure Lexing where
  reversed : List Lexeme
  mode : LexingMode
deriving DecidableEq, Repr

namespace Lexing

/-- Nothing has been read. -/
def start : Lexing := ⟨[], .between⟩

/-- Ends a word. -/
def flush (s : Lexing) : Lexing :=
  match s.mode with
  | .word reversed => ⟨.word reversed.reverse :: s.reversed, .between⟩
  | _ => s

/-- Takes a character into a word, or begins one with it. -/
def take (s : Lexing) (c : Char) : Lexing :=
  match s.mode with
  | .word reversed => { s with mode := .word (c :: reversed) }
  | _ => { s with mode := .word [c] }

/-- Reads one character. -/
def step (s : Lexing) (c : Char) : Lexing :=
  match s.mode with
  | .escaped reversed => { s with mode := .quoted (c :: reversed) }
  | .quoted reversed =>
    if c == '"' then ⟨.quoted reversed.reverse :: s.reversed, .between⟩
    else if c == '\\' then { s with mode := .escaped (c :: reversed) }
    else { s with mode := .quoted (c :: reversed) }
  | .between | .word _ =>
    if c == '"' then { s.flush with mode := .quoted [] }
    else if isBlank c then s.flush
    else if marks.contains c then { s.flush with reversed := .mark c :: s.flush.reversed }
    else s.take c

/-- Reads a text. -/
def run (s : Lexing) (text : List Char) : Lexing := text.foldl step s

/-- The lexemes read, unless a quotation mark is open. -/
def lexemes? (s : Lexing) : Option (List Lexeme) :=
  match s.flush.mode with
  | .between => some s.flush.reversed.reverse
  | _ => none

/-- Texts are read part by part. -/
theorem run_append (s : Lexing) (a b : List Char) : s.run (a ++ b) = (s.run a).run b := by
  simp [run]

end Lexing

/-- The lexemes of a text. -/
def lexemes? (text : String) : Option (List Lexeme) := (Lexing.start.run text.toList).lexemes?

end RowQuery.Json
