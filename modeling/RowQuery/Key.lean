/-
Lists of columns by which rows are sorted or grouped.

Any mark ends an entry. The last word of an entry is its column, and an entry without a column
is left out.

* `SortKey`: a column and a direction;
* `sortKeys`, `groupColumns`: the entries that tokens spell.
-/
import RowQuery.Keyword
import RowQuery.Token.Scan

namespace RowQuery

/-- A column to sort by. -/
structure SortKey where
  column : String
  direction : Direction
deriving DecidableEq, Repr

namespace SortKey

/-- An entry of which nothing has been read. -/
def blank : SortKey := ⟨"", .ascending⟩

/-- The entry, unless it has no column. -/
def entry (key : SortKey) : List SortKey := if key.column = "" then [] else [key]

/-- Reads a word of an entry: a direction, unless it is quoted, or a column. -/
def readWord (key : SortKey) (text : String) (quoted : Bool) : SortKey :=
  match (if quoted then none else Direction.ofWord? text) with
  | some direction => { key with direction }
  | none => { key with column := text }

/-- The entries that tokens spell, after a part of the first one. -/
def readAll : SortKey → List Token → List SortKey
  | key, [] => key.entry
  | key, .mark _ :: rest => key.entry ++ readAll blank rest
  | key, .word text quoted :: rest => readAll (key.readWord text quoted) rest

end SortKey

/-- The sort keys that tokens spell. -/
def sortKeys (tokens : List Token) : List SortKey := SortKey.blank.readAll tokens

/-- The column that an entry of a list of columns names, unless it is empty. -/
def groupEntry (column : String) : List String := if column = "" then [] else [column]

/-- The columns that tokens spell, after a part of the first entry. -/
def groupColumnsFrom : String → List Token → List String
  | column, [] => groupEntry column
  | column, .mark _ :: rest => groupEntry column ++ groupColumnsFrom "" rest
  | _, .word text _ :: rest => groupColumnsFrom text rest

/-- The columns that tokens spell. -/
def groupColumns (tokens : List Token) : List String := groupColumnsFrom "" tokens

/-- The sort keys that a text spells. -/
def sortKeysOfText (text : String) : List SortKey := sortKeys (tokenize text)

/-- The columns that a text spells. -/
def groupColumnsOfText (text : String) : List String := groupColumns (tokenize text)

end RowQuery
