/-
JSON as text on one line.

* `nestedEscaping`: the characters that are escaped;
* `Json.text`: the text of a value.
-/
import RowQuery.Json.Basic
import RowQuery.Json.Quoted
import RowQuery.Number.Layout

namespace RowQuery.Json

open Number

/-- A letter is used wherever there is one, except for the slash; other control characters are
written by their number. -/
def nestedEscaping : Escaping := ⟨letterEscapes.filter (·.1 != '/'), isRawControl⟩

mutual

/-- The text of a value. -/
def text : Json → String
  | null => "null"
  | boolean b => if b then "true" else "false"
  | integer n => toString n
  | float x => Layout.nested.text x
  | string s => nestedEscaping.quote s
  | array items => "[" ++ ",".intercalate (itemTexts items) ++ "]"
  | object members => "\x7b" ++ ",".intercalate (memberTexts members) ++ "\x7d"

/-- The texts of items. -/
def itemTexts : List Json → List String
  | [] => []
  | item :: rest => item.text :: itemTexts rest

/-- The texts of members. -/
def memberTexts : List (String × Json) → List String
  | [] => []
  | (name, item) :: rest => (nestedEscaping.quote name ++ ":" ++ item.text) :: memberTexts rest

end

end RowQuery.Json
