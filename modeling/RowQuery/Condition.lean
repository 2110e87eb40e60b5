/-
Conditions on rows.

* `Condition`: a comparison of a column with a literal, one whose relation has no meaning, or
  two conditions joined;
* `Condition.leadingColumn`, `Condition.unknownOperator?`: what stands furthest to the left;
* `Condition.text`: the written form, with parentheses around everything joined.
-/
import RowQuery.Keyword
import RowQuery.Relation
import RowQuery.Text.Alphanumeric
import RowQuery.Text.Quoted

namespace RowQuery

open Text

/-- A condition on a row. -/
inductive Condition
  | comparison (column : String) (relation : Relation) (literal : String)
  /-- A comparison whose operator spells no relation. -/
  | unresolved (column operator literal : String)
  | join (connective : Connective) (left right : Condition)
deriving DecidableEq, Repr

namespace Condition

/-- The column of the comparison furthest to the left. -/
def leadingColumn : Condition → String
  | comparison column _ _ => column
  | unresolved column _ _ => column
  | join _ left _ => left.leadingColumn

/-- The operator furthest to the left that spells no relation. -/
def unknownOperator? : Condition → Option String
  | comparison .. => none
  | unresolved _ operator _ => some operator
  | join _ left right => left.unknownOperator?.orElse fun _ => right.unknownOperator?

/-- How many conditions stand inside each other. -/
def depth : Condition → Nat
  | comparison .. => 1
  | unresolved .. => 1
  | join _ left right => 1 + max left.depth right.depth

/-- The columns and literals from left to right. -/
def texts : Condition → List String
  | comparison column _ literal => [column, literal]
  | unresolved column _ literal => [column, literal]
  | join _ left right => left.texts ++ right.texts

/-! ### The written form -/

/-- The characters of a column that is written without quotes. -/
def isPlainChar (c : Char) : Bool :=
  isAlphanumeric c || c == '_' || c == '.' || c == '$' || c == '%' || c == '-'

/-- Whether a column is written without quotes: it is not empty and not a connective. -/
def isPlain (column : String) : Bool :=
  column != "" && (Connective.ofWord? column).isNone && column.toList.all isPlainChar

/-- The written form of a column. -/
def columnText (column : String) : String :=
  if isPlain column then column else quote column

/-- The written form of a condition. Literals are always quoted. -/
def text : Condition → String
  | comparison column relation literal =>
    columnText column ++ " " ++ relation.text ++ " " ++ quote literal
  | unresolved column operator literal =>
    columnText column ++ " " ++ operator ++ " " ++ quote literal
  | join connective left right =>
    "(" ++ left.text ++ " " ++ connective.text ++ " " ++ right.text ++ ")"

end Condition

end RowQuery
