/-
Tables as JSON text.

A table is a list of its rows. A row has the cells of the columns in their order, and after them
its other cells in ascending order of their names.

* `JsonLayout`: everything on one line, or a line for every cell;
* `writtenNames`: the names of a row in the order in which they are written;
* `Table.jsonText`: the text of a table.
-/
import RowQuery.Json.Quoted
import RowQuery.Table

namespace RowQuery

open Number

/-! ### Texts and values -/

/-- The control characters: the first thirty-two, the last of ASCII, and those after it. -/
def isControl (c : Char) : Bool := c.toNat < 0x20 || (0x7F ≤ c.toNat && c.toNat ≤ 0x9F)

/-- A letter is used for the quotation mark, the backslash, the ends of lines and the tabulator;
other control characters are written by their number. -/
def tableEscaping : Json.Escaping :=
  ⟨Json.letterEscapes.filter fun e => ['"', '\\', '\n', '\r', '\t'].contains e.1, isControl⟩

/-- The text of a value: numbers and truth values bare, all others quoted. A number that is not
finite is null. -/
def Value.jsonText : Value → String
  | .null => "null"
  | .boolean b => if b then "true" else "false"
  | .integer n => toString n.toInt
  | .float x => if x.isFinite then Layout.plain.text x else "null"
  | .string s => tableEscaping.quote s
  | .bytes b => tableEscaping.quote (Value.bytes b).text
  | .timestamp t => tableEscaping.quote t.text

/-! ### Rows and tables -/

/-- How a table is laid out. -/
inductive JsonLayout
  | compact
  /-- A line for every cell, and for every bracket around them. -/
  | pretty
deriving DecidableEq, Repr

/-- The names of a row in the order in which they are written. -/
def writtenNames (columns : List String) (r : Row) : List String :=
  columns.filter (fun c => (r.get? c).isSome) ++ r.names.filter (!columns.contains ·)

/-- The text of a cell. -/
def cellText (layout : JsonLayout) (r : Row) (name : String) : String :=
  let separator := match layout with
    | .compact => ":"
    | .pretty => ": "
  tableEscaping.quote name ++ separator ++ ((r.get? name).getD .null).jsonText

/-- The text of a row. -/
def rowText (layout : JsonLayout) (columns : List String) (r : Row) : String :=
  match writtenNames columns r with
  | [] => "\x7b\x7d"
  | names =>
    let cells := names.map (cellText layout r)
    match layout with
    | .compact => "\x7b" ++ ",".intercalate cells ++ "\x7d"
    | .pretty => "\x7b\n" ++ ",\n".intercalate (cells.map ("    " ++ ·)) ++ "\n  \x7d"

/-- The text of a table. -/
def Table.jsonText (t : Table) (layout : JsonLayout) : String :=
  match t.rows.map (rowText layout t.columns) with
  | [] => "[]"
  | rows =>
    match layout with
    | .compact => "[" ++ ",".intercalate rows ++ "]"
    | .pretty => "[\n" ++ ",\n".intercalate (rows.map ("  " ++ ·)) ++ "\n]"

end RowQuery
