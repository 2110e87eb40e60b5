import RowQuery.Text.Alphanumeric
import RowQuery.Text.Blank
import RowQuery.Text.Boundary
import RowQuery.Text.CaseFold
import RowQuery.Text.CharSet
import RowQuery.Text.Property
import RowQuery.Text.Script
import RowQuery.Text.Utf8
import RowQuery.Number.Binary64
import RowQuery.Number.Layout
import RowQuery.Number.Reading
import RowQuery.Value
import RowQuery.Condition.Reading
import RowQuery.Key
import RowQuery.Pattern.Glob
import RowQuery.Pattern.Machine
import RowQuery.Pattern.Normal
import RowQuery.Pattern.Property
import RowQuery.Pattern.Reading
import RowQuery.Json.Reading
import RowQuery.Json.Writing
import RowQuery.Table.Filtering
import RowQuery.Table.Grouping
import RowQuery.Table.Reading
import RowQuery.Table.Sorting
import RowQuery.Table.Writing
import RowQuery.Query
import RowQuery.CommandLine
import RowQuery.Main
import RowQuery.Proofs.Clause
import RowQuery.Proofs.Level
import RowQuery.Proofs.Sentence.Basic
import RowQuery.Proofs.Sentence.Reading
import RowQuery.Proofs.Matching.Conjunction
import RowQuery.Proofs.Condition.Written
import RowQuery.Proofs.Condition.Checked
import RowQuery.Proofs.Sorting.Rows
import RowQuery.Proofs.Grouping
import RowQuery.Proofs.Pattern.Leading
import RowQuery.Proofs.Pattern.Glob
import RowQuery.Proofs.Pattern.WrittenGlob
import RowQuery.Proofs.Matching.Wildcard
import RowQuery.Proofs.Number.Numeral
import RowQuery.Proofs.Restated.Value
import RowQuery.Proofs.Restated.Table
import RowQuery.Proofs.Number.Plain
import RowQuery.Proofs.Sorting.Transitivity
import RowQuery.Proofs.Filtering.Idempotence
import RowQuery.Proofs.Filtering.Strictness
import RowQuery.Proofs.Json.Lexemes
import RowQuery.Proofs.Matching.Reuse
import RowQuery.Proofs.Json.Grammar
import RowQuery.Proofs.Json.Table
import RowQuery.Proofs.Matching.Boolean
import RowQuery.Proofs.Grouping.Cells
import RowQuery.Proofs.Grouping.Selection
import RowQuery.Proofs.Filtering.Grouped
import RowQuery.Proofs.Operations
import RowQuery.Proofs.Json.Order
import RowQuery.Proofs.Table.Rereading
import RowQuery.Proofs.Sentence.Closing
import RowQuery.Proofs.Sentence.Depth
import RowQuery.Proofs.Sentence.Order
import RowQuery.Proofs.Matching.Unresolved
import RowQuery.Proofs.Clause.Additions
import RowQuery.Proofs.Clause.Contents
import RowQuery.Proofs.Sorting.Passes
import RowQuery.Proofs.Sorting.Neighbours
import RowQuery.Proofs.Sorting.Composition
import RowQuery.Proofs.Sorting.Chronology
import RowQuery.Proofs.Filtering.Shape
import RowQuery.Proofs.Number.Nearest
import RowQuery.Proofs.Number.Whole
import RowQuery.Proofs.Json.Integers
import RowQuery.Proofs.Token.Boundary
import RowQuery.Proofs.Token.Written
import RowQuery.Proofs.Token.Unclosed
import RowQuery.Proofs.Key
