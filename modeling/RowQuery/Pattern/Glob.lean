/-
Wildcards: patterns in which a percent sign stands for any run of characters.

* `Glob.pieces`: what stands between the percent signs of a literal;
* `Glob.pattern`: the pieces in order, anything between them, from end to end of a text;
* `Glob.patternText`: the same pattern as it is written.
-/
import RowQuery.Pattern.Basic

namespace RowQuery

namespace Glob

/-- The sign that stands for any run of characters. -/
def wildcard : Char := '%'

/-- The pieces of a literal between its percent signs; there is always one. -/
def pieces : List Char → List (List Char)
  | [] => [[]]
  | c :: rest =>
    if c == wildcard then [] :: pieces rest
    else match pieces rest with
      | [] => [[c]]
      | piece :: others => (c :: piece) :: others

/-- Any run of characters. -/
def anything : Pattern := .repeated (.leaf (.oneOf .all)) 0 none true

/-- The characters of a piece. -/
def pieceItems (piece : List Char) : List Pattern :=
  piece.map fun c => .leaf (.oneOf (.single c))

/-- Pieces with anything between them. -/
def items : List (List Char) → List Pattern
  | [] => []
  | [piece] => pieceItems piece
  | piece :: rest => pieceItems piece ++ anything :: items rest

/-- The pattern of a literal with wildcards, from end to end of a text. -/
def pattern (literal : String) : Pattern :=
  .sequenceOf (.leaf (.assertion .textStart) :: items (pieces literal.toList)
    ++ [.leaf (.assertion .textEnd)])

/-- The characters that have a meaning in written patterns. -/
def metaCharacters : List Char := "\\.+*?()|[]\x7b\x7d^$#&-~".toList

/-- A text as it is written in a pattern. -/
def escapeText (text : List Char) : List Char :=
  text.flatMap fun c => if metaCharacters.contains c then ['\\', c] else [c]

/-- The pattern of a literal with wildcards as it is written. -/
def patternText (literal : String) : String :=
  String.ofList ("(?s)^".toList
    ++ ".*".toList.intercalate ((pieces literal.toList).map escapeText) ++ ['$'])

end Glob

end RowQuery
