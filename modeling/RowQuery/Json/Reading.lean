/-
JSON from text.

Lexemes are read one after the other, the brackets that are open around a place being kept on a
stack. Of two members with one name the later one counts.

* `Frame`, `Expected`: an open bracket with what stands in it, and what may come next;
* `Reader.step`: what one more lexeme does;
* `Json.ofText?`: the value that a text writes; none if it writes none.
-/
import RowQuery.Json.Lexeme
import RowQuery.Json.Number
import RowQuery.Json.Quoted

namespace RowQuery.Json

/-- How many brackets may be open at one place. -/
def maxDepth : Nat := 127

/-- An open bracket around the place that is being read. -/
inductive Frame
  /-- The items before the place, latest first. -/
  | array (reversed : List Json)
  /-- The members before the place, and the name of the one at it. -/
  | object (members : List (String × Json)) (name : String)

/-- What may come next. -/
inductive Expected
  | value
  /-- The first item of an array, or its closing bracket. -/
  | firstItem
  /-- The first name of an object, or its closing bracket. -/
  | firstName
  /-- A name after some members. -/
  | name (members : List (String × Json))
  /-- The colon after a name. -/
  | colon (members : List (String × Json)) (name : String)
  /-- What follows a value that has been read: a comma, a closing bracket, or the end. -/
  | after (value : Json)

/-- The place that is being read. -/
structure Reader where
  expected : Expected
  /-- The brackets that are open, the innermost first. -/
  frames : List Frame

/-- The value of a word. -/
def ofWord? (word : List Char) : Option Json :=
  if word == "null".toList then some .null
  else if word == "true".toList then some (.boolean true)
  else if word == "false".toList then some (.boolean false)
  else (NumberWord.ofText? word).bind NumberWord.value?

namespace Reader

/-- Before a text. -/
def start : Reader := ⟨.value, []⟩

/-- Reads the first lexeme of a value. -/
def beginValue (frames : List Frame) : Lexeme → Option Reader
  | .mark '[' => if frames.length < maxDepth then some ⟨.firstItem, frames⟩ else none
  | .mark '\x7b' => if frames.length < maxDepth then some ⟨.firstName, frames⟩ else none
  | .mark _ => none
  | .word word => (ofWord? word).map fun v => ⟨.after v, frames⟩
  | .quoted raw => (unescape? raw).map fun s => ⟨.after (.string s), frames⟩

/-- Reads a name. -/
def readName (members : List (String × Json)) (frames : List Frame) : Lexeme → Option Reader
  | .quoted raw => (unescape? raw).map fun name => ⟨.colon members name, frames⟩
  | _ => none

/-- Reads what follows a value, in the innermost bracket. -/
def readAfter (value : Json) : List Frame → Lexeme → Option Reader
  | .array items :: frames, .mark ',' => some ⟨.value, .array (value :: items) :: frames⟩
  | .array items :: frames, .mark ']' => some ⟨.after (.array (value :: items).reverse), frames⟩
  | .object members name :: frames, .mark ',' =>
    some ⟨.name (Entry.insertEntry name value members), frames⟩
  | .object members name :: frames, .mark '\x7d' =>
    some ⟨.after (.object (Entry.insertEntry name value members)), frames⟩
  | _, _ => none

/-- Reads one lexeme. -/
def step (r : Reader) (lexeme : Lexeme) : Option Reader :=
  match r.expected with
  | .value => beginValue r.frames lexeme
  | .firstItem =>
    if lexeme = .mark ']' then some ⟨.after (.array []), r.frames⟩
    else beginValue (.array [] :: r.frames) lexeme
  | .firstName =>
    if lexeme = .mark '\x7d' then some ⟨.after (.object []), r.frames⟩
    else readName [] r.frames lexeme
  | .name members => readName members r.frames lexeme
  | .colon members name =>
    if lexeme = .mark ':' then some ⟨.value, .object members name :: r.frames⟩ else none
  | .after value => readAfter value r.frames lexeme

/-- Reads lexemes. -/
def run (r : Reader) (lexemes : List Lexeme) : Option Reader := lexemes.foldlM step r

/-- The value that has been read, if no bracket is open. -/
def value? (r : Reader) : Option Json :=
  match r.expected, r.frames with
  | .after value, [] => some value
  | _, _ => none

/-- Lexemes are read part by part. -/
theorem run_append (r : Reader) (a b : List Lexeme) :
    r.run (a ++ b) = (r.run a).bind (·.run b) := by
  simp [run]

end Reader

/-- The value that a text writes. -/
def ofText? (text : String) : Option Json := do
  (← Reader.start.run (← lexemes? text)).value?

end RowQuery.Json
