/-
Values: the cells of a row.

Every value has a canonical text, by which values are equal, grouped, and sorted when they are
not numbers. Numbers, and texts that write one, have a decimal form, or failing that a binary one.

* `Value.text`: the canonical text;
* `Value.decimal?`, `Value.float?`: the numeric forms;
* `Value.compareNumbers?`: the order of two values that both have one.
-/
import RowQuery.Number.Decimal
import RowQuery.Number.Layout
import RowQuery.Text.Utf8
import RowQuery.Timestamp

namespace RowQuery

open Number Text

/-- The value of a cell. -/
inductive Value
  | null
  | boolean (b : Bool)
  | integer (n : Int64)
  | float (x : Binary64)
  | string (s : String)
  | bytes (b : List UInt8)
  | timestamp (t : Timestamp)
deriving DecidableEq

namespace Value

/-- The canonical text of a value. -/
def text : Value → String
  | null => ""
  | boolean b => if b then "true" else "false"
  | integer n => toString n.toInt
  | float x => Layout.plain.text x
  | string s => s
  | bytes b => readBytesLossy b
  | timestamp t => t.text

/-- The decimal form of a value that is a number or writes one. A binary number is taken as the
decimal that its text writes; if this writes none, the number itself is converted. -/
def decimal? [Conversion] : Value → Option Decimal
  | integer n => Decimal.ofInt? n.toInt
  | float x => (Decimal.ofText? (Layout.plain.text x)).orElse fun _ => Conversion.toDecimal? x
  | string s => Decimal.ofText? s
  | bytes b => (readBytes? b).bind Decimal.ofText?
  | _ => none

/-- The binary number nearest to a value that is a number or writes one, before it is known to
be finite. -/
def binary? : Value → Option Binary64
  | integer n => some (Binary64.ofInt n.toInt)
  | float x => some x
  | string s => Binary64.ofText? s
  | bytes b => (readBytes? b).bind Binary64.ofText?
  | _ => none

/-- The binary form of a value, if it is finite. -/
def float? (v : Value) : Option Binary64 := v.binary?.filter (·.isFinite)

/-- The order of two values as numbers: by their decimal forms if both have one, or else by
their binary forms. -/
def compareNumbers? [Conversion] (a b : Value) : Option Ordering :=
  match a.decimal?, b.decimal? with
  | some x, some y => some (x.compare y)
  | _, _ =>
    match a.float?, b.float? with
    | some x, some y => x.compare? y
    | _, _ => none

end Value

end RowQuery
