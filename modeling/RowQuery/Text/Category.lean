/-
General categories of characters.

* `Category`: the thirty general categories;
* `Category.table`: the code points of a category (none for the unassigned ones);
* `Category.holds`, `Category.set`: the characters of a category; those are unassigned that no
  table has.
-/
import RowQuery.Text.CharSet
import RowQuery.Text.Category.Letters
import RowQuery.Text.Category.Marks
import RowQuery.Text.Category.Numbers
import RowQuery.Text.Category.Symbols

namespace RowQuery.Text

/-- The general categories of the character database. -/
inductive Category
  | uppercaseLetter | lowercaseLetter | titlecaseLetter | modifierLetter | otherLetter
  | nonspacingMark | spacingMark | enclosingMark
  | decimalNumber | letterNumber | otherNumber
  | connectorPunctuation | dashPunctuation | openPunctuation | closePunctuation
  | initialPunctuation | finalPunctuation | otherPunctuation
  | mathSymbol | currencySymbol | modifierSymbol | otherSymbol
  | spaceSeparator | lineSeparator | paragraphSeparator
  | control | format | surrogate | privateUse | unassigned
deriving DecidableEq, Repr

namespace Category

/-- The categories of the letters. -/
def letters : List Category :=
  [uppercaseLetter, lowercaseLetter, titlecaseLetter, modifierLetter, otherLetter]

/-- The categories of the combining marks. -/
def marks : List Category := [nonspacingMark, spacingMark, enclosingMark]

/-- The categories of the numbers. -/
def numbers : List Category := [decimalNumber, letterNumber, otherNumber]

/-- The categories of the punctuation. -/
def punctuation : List Category :=
  [connectorPunctuation, dashPunctuation, openPunctuation, closePunctuation,
    initialPunctuation, finalPunctuation, otherPunctuation]

/-- The categories of the symbols. -/
def symbols : List Category := [mathSymbol, currencySymbol, modifierSymbol, otherSymbol]

/-- The categories of the separators. -/
def separators : List Category := [spaceSeparator, lineSeparator, paragraphSeparator]

/-- The categories of all other code points. -/
def others : List Category := [control, format, surrogate, privateUse, unassigned]

/-- Every category but the one of the unassigned code points. -/
def assigned : List Category :=
  letters ++ marks ++ numbers ++ punctuation ++ symbols ++ separators
    ++ [control, format, surrogate, privateUse]

/-- The code points of a category; the unassigned ones are those of no table. -/
def table : Category → List CodeRange
  | uppercaseLetter => uppercaseLetters
  | lowercaseLetter => lowercaseLetters
  | titlecaseLetter => titlecaseLetters
  | modifierLetter => modifierLetters
  | otherLetter => otherLetters
  | nonspacingMark => nonspacingMarks
  | spacingMark => spacingMarks
  | enclosingMark => enclosingMarks
  | decimalNumber => decimalNumbers
  | letterNumber => letterNumbers
  | otherNumber => otherNumbers
  | connectorPunctuation => Text.connectorPunctuation
  | dashPunctuation => Text.dashPunctuation
  | openPunctuation => Text.openPunctuation
  | closePunctuation => Text.closePunctuation
  | initialPunctuation => Text.initialPunctuation
  | finalPunctuation => Text.finalPunctuation
  | otherPunctuation => Text.otherPunctuation
  | mathSymbol => mathSymbols
  | currencySymbol => currencySymbols
  | modifierSymbol => modifierSymbols
  | otherSymbol => otherSymbols
  | spaceSeparator => spaceSeparators
  | lineSeparator => lineSeparators
  | paragraphSeparator => paragraphSeparators
  | control => controls
  | format => formatControls
  | surrogate => surrogates
  | privateUse => privateUses
  | unassigned => []

/-- Whether a character is of the category. -/
def holds (category : Category) (c : Char) : Bool :=
  if category = unassigned then assigned.all fun other => !CodeRange.holds other.table c
  else CodeRange.holds category.table c

/-- The characters of a category. -/
def set (category : Category) : CharSet :=
  if category = unassigned then .complement (.ofTable (assigned.flatMap table))
  else .ofTable category.table

end Category

end RowQuery.Text
