/-
The rows that a condition selects.

A comparison is tried on every row, and each row remembers the column of the last comparison
that held for it. Two conditions joined by `or` select what the one selects and then what the
other does. Joined by `and` they select those rows of the first for which a comparison on another
column than the first's leading one held later.

* `MatchMode`, `CellTest`: how a literal is compared with a cell;
* `Selection`: the selected rows, by index, and the column that each row remembers;
* `Condition.select`: the selection of a condition, from what the rows remember before.
-/
import RowQuery.Condition
import RowQuery.Pattern.Glob
import RowQuery.Pattern.Machine
import RowQuery.Pattern.Reading
import RowQuery.Row

namespace RowQuery

/-! ### Testing a cell -/

/-- What the literal of an equality stands for. -/
inductive MatchMode
  /-- Its own text. -/
  | exact
  /-- A text in which a percent sign is any run of characters. -/
  | wildcard
  /-- A pattern in which a percent sign is any character. -/
  | pattern
deriving DecidableEq, Repr

/-- A test of a cell. -/
inductive CellTest
  /-- The text of the cell is the literal, or is not. -/
  | sameText (literal : String) (expected : Bool)
  /-- The cell and the literal are numbers in a relation. -/
  | numeric (relation : Relation) (literal : String)
  /-- The text of the cell has a part that matches, or has none. -/
  | matching (p : Pattern) (expected : Bool)
  | never
deriving DecidableEq, Repr

namespace CellTest

/-- The pattern that a text writes. One that is not well formed, or for which a machine would be
too large, is no pattern. -/
def written? (text : String) : Option Pattern := (Pattern.ofText? text).filter Pattern.fits

/-- The pattern that a literal stands for, if it stands for one. -/
def pattern? (mode : MatchMode) (literal : String) : Option (Option Pattern) :=
  match mode with
  | .exact => none
  | .wildcard =>
    if literal.toList.contains Glob.wildcard then some (written? (Glob.patternText literal))
    else none
  | .pattern =>
    let replaced := literal.toList.map fun c => if c == Glob.wildcard then '.' else c
    some (written? (String.ofList replaced))

/-- The test of a comparison. Orderings compare numbers in every mode. -/
def ofComparison (mode : MatchMode) (relation : Relation) (literal : String) : CellTest :=
  if relation.isOrdering then numeric relation literal
  else
    let expected := decide (relation ≠ .notEqual)
    match pattern? mode literal with
    | none => sameText literal expected
    | some (some p) => matching p expected
    | some none => never

/-- Whether a cell passes a test. -/
def accepts : CellTest → Value → Bool
  | sameText literal expected, v => (v.text == literal) == expected
  | numeric relation literal, v => (v.compareNumbers? (.string literal)).any relation.admits
  | matching p expected, v => p.isIn v.text == expected
  | never, _ => false

end CellTest

/-! ### Selecting rows -/

/-- Whether a comparison holds for a row; it never does for a row without the column. -/
def Row.passes (r : Row) (column : String) (test : CellTest) : Bool :=
  (r.get? column).any test.accepts

/-- Selected rows. -/
structure Selection where
  /-- The selected rows, by index; a row may be selected twice. -/
  indices : List Nat
  /-- For every row the column of the last comparison that held for it. -/
  lastColumns : List (Option String)
deriving DecidableEq, Repr

/-- The indices at which a list has the value true. -/
def indicesOf (hits : List Bool) : List Nat :=
  (hits.zipIdx.filter (·.1)).map (·.2)

/-- A comparison tried on every row. -/
def selectCell (rows : List Row) (column : String) (test : CellTest)
    (lastColumns : List (Option String)) : Selection :=
  let hits := rows.map (·.passes column test)
  ⟨indicesOf hits,
    List.zipWith (fun hit last => if hit then some column else last) hits lastColumns⟩

/-- The rows that a condition selects, given what the rows remember before. -/
def Condition.select (mode : MatchMode) (rows : List Row) :
    Condition → List (Option String) → Selection
  | comparison column relation literal, lastColumns =>
    selectCell rows column (.ofComparison mode relation literal) lastColumns
  | unresolved .., lastColumns => ⟨[], lastColumns⟩
  | join connective left right, lastColumns =>
    let first := left.select mode rows lastColumns
    let second := right.select mode rows first.lastColumns
    match connective with
    | .and =>
      let kept := fun i => (second.lastColumns[i]?).join != some left.leadingColumn
      ⟨first.indices.filter kept, second.lastColumns⟩
    | .or => ⟨first.indices ++ second.indices, second.lastColumns⟩

/-- No row remembers a column. -/
def noColumns (rows : List Row) : List (Option String) := rows.map fun _ => none

end RowQuery
