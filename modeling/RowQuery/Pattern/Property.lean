/-
Sets of characters by name, as patterns write them.

* `Posix.set?`: the ASCII classes that stand between colons;
* `PropertyName.normalize`: what counts in the name of a property;
* `PropertyName.ofText?`: the set that a name, or a property with a value, stands for.
-/
import RowQuery.Text.Age
import RowQuery.Text.Boundary

namespace RowQuery

open Text

/-! ### ASCII classes -/

/-- The characters of the ASCII range. -/
def asciiSet : CharSet := .range '\x00' '\x7f'

/-- The ASCII digits. -/
def asciiDigits : CharSet := .range '0' '9'

/-- The ASCII letters. -/
def asciiLetters : CharSet := .union (.range 'a' 'z') (.range 'A' 'Z')

/-- The ASCII characters of a word. -/
def asciiWord : CharSet := .anyOf [asciiLetters, asciiDigits, .single '_']

/-- The ASCII blanks. -/
def asciiBlanks : CharSet := .union (.range '\t' '\x0d') (.single ' ')

namespace Posix

/-- The ASCII characters of a class with a name. -/
def set? (name : String) : Option CharSet :=
  match name with
  | "alnum" => some (.union asciiLetters asciiDigits)
  | "alpha" => some asciiLetters
  | "ascii" => some asciiSet
  | "blank" => some (.union (.single '\t') (.single ' '))
  | "cntrl" => some (.union (.range '\x00' '\x1f') (.single '\x7f'))
  | "digit" => some asciiDigits
  | "graph" => some (.range '!' '~')
  | "lower" => some (.range 'a' 'z')
  | "print" => some (.range ' ' '~')
  | "punct" =>
    some (.anyOf [.range '!' '/', .range ':' '@', .range '[' '\x60', .range '\x7b' '~'])
  | "space" => some asciiBlanks
  | "upper" => some (.range 'A' 'Z')
  | "word" => some asciiWord
  | "xdigit" => some (.anyOf [asciiDigits, .range 'a' 'f', .range 'A' 'F'])
  | _ => none

end Posix

namespace PropertyName

/-! ### Names -/

/-- The ASCII characters of a name in lower case, without blanks, hyphens and underscores. -/
def keptLetters (name : List Char) : List Char :=
  (name.filter fun c => c.toNat < 0x80 && c != ' ' && c != '-' && c != '_').map Char.toLower

/-- What counts in a name: the kept letters after a leading `is`. A lone letter `c` keeps that
word, as it would name another property without it. -/
def normalize (name : List Char) : String :=
  match name with
  | i :: s :: rest =>
    if i.toLower == 'i' && s.toLower == 's' then
      let letters := keptLetters rest
      if letters == ['c'] then "isc" else String.ofList letters
    else String.ofList (keptLetters name)
  | name => String.ofList (keptLetters name)

/-! ### Sets -/

/-- The general categories of a name. Surrogates are no characters, and have none. -/
def categories? (name : String) : Option (List Category) :=
  match name with
  | "l" | "letter" => some Category.letters
  | "lc" | "casedletter" => some [.uppercaseLetter, .lowercaseLetter, .titlecaseLetter]
  | "lu" | "uppercaseletter" => some [.uppercaseLetter]
  | "ll" | "lowercaseletter" => some [.lowercaseLetter]
  | "lt" | "titlecaseletter" => some [.titlecaseLetter]
  | "lm" | "modifierletter" => some [.modifierLetter]
  | "lo" | "otherletter" => some [.otherLetter]
  | "m" | "mark" | "combiningmark" => some Category.marks
  | "mn" | "nonspacingmark" => some [.nonspacingMark]
  | "mc" | "spacingmark" => some [.spacingMark]
  | "me" | "enclosingmark" => some [.enclosingMark]
  | "n" | "number" => some Category.numbers
  | "nd" | "decimalnumber" | "digit" => some [.decimalNumber]
  | "nl" | "letternumber" => some [.letterNumber]
  | "no" | "othernumber" => some [.otherNumber]
  | "p" | "punctuation" | "punct" => some Category.punctuation
  | "pc" | "connectorpunctuation" => some [.connectorPunctuation]
  | "pd" | "dashpunctuation" => some [.dashPunctuation]
  | "ps" | "openpunctuation" => some [.openPunctuation]
  | "pe" | "closepunctuation" => some [.closePunctuation]
  | "pi" | "initialpunctuation" => some [.initialPunctuation]
  | "pf" | "finalpunctuation" => some [.finalPunctuation]
  | "po" | "otherpunctuation" => some [.otherPunctuation]
  | "s" | "symbol" => some Category.symbols
  | "sm" | "mathsymbol" => some [.mathSymbol]
  | "sc" | "currencysymbol" => some [.currencySymbol]
  | "sk" | "modifiersymbol" => some [.modifierSymbol]
  | "so" | "othersymbol" => some [.otherSymbol]
  | "z" | "separator" => some Category.separators
  | "zs" | "spaceseparator" => some [.spaceSeparator]
  | "zl" | "lineseparator" => some [.lineSeparator]
  | "zp" | "paragraphseparator" => some [.paragraphSeparator]
  | "c" | "other" => some Category.others
  | "cc" | "control" | "cntrl" => some [.control]
  | "cf" | "format" => some [.format]
  | "co" | "privateuse" => some [.privateUse]
  | "cn" | "unassigned" => some [.unassigned]
  | _ => none

/-- The characters of a general category, or of one of three sets that are named like one. -/
def categorySet? (name : String) : Option CharSet :=
  match name with
  | "any" => some .all
  | "ascii" => some asciiSet
  | "assigned" => some (.complement Category.unassigned.set)
  | name => (categories? name).map Property.ofCategories

/-- The set of a name: a property, a general category, or a script. -/
def set? (name : String) : Option CharSet :=
  (Property.set? name).orElse fun _ =>
    (categorySet? name).orElse fun _ => (Script.ofName? name).map (·.set)

/-- The set of a property with a value. -/
def valueSet? (property value : String) : Option CharSet :=
  match property with
  | "gc" | "generalcategory" => categorySet? value
  | "sc" | "script" => (Script.ofName? value).map (·.set)
  | "scx" | "scriptextensions" => (Script.ofName? value).map (·.extended)
  | "age" => Age.set? value
  | "gcb" | "graphemeclusterbreak" => GraphemeBreak.set? value
  | "wb" | "wordbreak" => WordBreak.set? value
  | "sb" | "sentencebreak" => SentenceBreak.set? value
  | _ => none

/-! ### Reading -/

/-- What stands before and after the first sign of inequality. -/
def splitUnequal? : List Char → Option (List Char × List Char)
  | '!' :: '=' :: rest => some ([], rest)
  | c :: rest => (splitUnequal? rest).map fun (before, after) => (c :: before, after)
  | [] => none

/-- What stands before and after the first of some character. -/
def splitAt? (mark : Char) (text : List Char) : Option (List Char × List Char) :=
  match text.dropWhile (· != mark) with
  | [] => none
  | _ :: after => some (text.takeWhile (· != mark), after)

/-- The set that a text stands for, and whether its complement is meant. A sign of inequality
counts first, then a colon, then a sign of equality. -/
def ofText? (text : List Char) : Option (CharSet × Bool) :=
  let valueSet := fun (property value : List Char) =>
    valueSet? (normalize property) (normalize value)
  match splitUnequal? text with
  | some (property, value) => (valueSet property value).map ((·, true))
  | none =>
    match (splitAt? ':' text).orElse fun _ => splitAt? '=' text with
    | some (property, value) => (valueSet property value).map ((·, false))
    | none => (set? (normalize text)).map ((·, false))

end PropertyName

end RowQuery
