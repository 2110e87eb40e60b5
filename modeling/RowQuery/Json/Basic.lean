/-
JSON: the values of an exchange format.

* `Json`: null, truth values, numbers, texts, lists, and items under names;
* `Json.Kind`, `Json.kind`: what sort of value it is;
* `Json.Kind.described`: the wording of the sort.
-/
import RowQuery.Entry
import RowQuery.Number.Binary64

namespace RowQuery

open Number

/-- A value of the format. -/
inductive Json
  | null
  | boolean (b : Bool)
  /-- A number without fraction and exponent that was small enough to be kept exactly. -/
  | integer (n : Int)
  | float (x : Binary64)
  | string (s : String)
  | array (items : List Json)
  /-- Items under names, in ascending order of the names. -/
  | object (members : List (String × Json))

namespace Json

/-- The sorts of values. -/
inductive Kind
  | null
  | boolean
  | number
  | string
  | array
  | object
deriving DecidableEq, Repr

/-- The wording of a sort, with its article. -/
def Kind.described : Kind → String
  | null => "null"
  | boolean => "a boolean"
  | number => "a number"
  | string => "a string"
  | array => "an array"
  | object => "an object"

/-- The sort of a value. -/
def kind : Json → Kind
  | null => .null
  | boolean _ => .boolean
  | integer _ | float _ => .number
  | string _ => .string
  | array _ => .array
  | object _ => .object

end Json

end RowQuery
