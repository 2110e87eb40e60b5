/-
Queries: filtering, grouping and sorting of a table that JSON text holds.

* `QueryError`: why a query or a check has no answer;
* `Query.table`, `Query.run`: the table that answers a query, and its text;
* `check`: whether a text spells a condition.
-/
import RowQuery.Table.Filtering
import RowQuery.Table.Grouping
import RowQuery.Table.Reading
import RowQuery.Table.Sorting
import RowQuery.Table.Writing

namespace RowQuery

/-- Why there is no answer. -/
inductive QueryError
  | scan (e : ScanError)
  | parse (e : ParseError)
  /-- The input is no JSON text. -/
  | json
  | rows (e : RowsError)
  | noInput
  | conflictingFilters
deriving DecidableEq, Repr

/-- The wording of an error. -/
def QueryError.message : QueryError → String
  | scan e => s!"Syntax error: {e.message}"
  | parse e => s!"Parse error: {e.message}"
  | json => "Invalid JSON"
  | rows e => s!"Input must be a JSON array of objects: {e.message}"
  | noInput => "No input provided. Use --input or pipe JSON to stdin."
  | conflictingFilters => "Only one of --where, --like and --find may be given"

/-- A condition to filter by, and how its literals are compared. -/
structure Filter where
  text : String
  mode : MatchMode
deriving DecidableEq, Repr

/-- A query. -/
structure Query where
  /-- The JSON text of the rows. -/
  input : Option String := none
  filter : Option Filter := none
  groupBy : Option String := none
  sortBy : Option String := none
  /-- The columns that grouping adds to rows are left out. -/
  strip : Bool := false
  /-- A filter has to spell a condition. -/
  strict : Bool := false
  layout : JsonLayout := .compact
deriving DecidableEq, Repr

namespace Query

/-- The rows of a query. -/
def source (q : Query) : Except QueryError Table := do
  let some text := q.input | throw .noInput
  let some json := Json.ofText? text | throw .json
  (Table.ofJson "input" json).mapError .rows

/-- The rows that the filter of a query keeps. -/
def filtered (q : Query) (t : Table) : Except QueryError Table :=
  match q.filter with
  | none => .ok t
  | some f =>
    if q.strict then (t.filterStrict f.text f.mode).mapError .parse
    else .ok (t.filter f.text f.mode)

/-- The rows of a table grouped and sorted. -/
def arranged (q : Query) (t : Table) : Table :=
  let grouped := q.groupBy.elim t t.groupByText
  let sorted := q.sortBy.elim grouped grouped.sortByText
  if q.strip then sorted.stripAnnotations else sorted

/-- The table that answers a query. -/
def table (q : Query) : Except QueryError Table := do
  return q.arranged (← q.filtered (← q.source))

/-- The text that answers a query. -/
def run (q : Query) : Except QueryError String := do
  return (← q.table).jsonText q.layout

end Query

/-- The condition that a text spells, every quote being closed and every operator having a
meaning; none if it has no tokens. -/
def check (text : String) : Except QueryError (Option Condition) := do
  let tokens ← (tokenizeStrict text).mapError .scan
  (Condition.ofTokensResolved tokens).mapError .parse

end RowQuery
