/-
Properties of characters that are present or absent.

Most of them follow from the general categories and a table of exceptions.

* `Property.alphabetic`, `Property.blank`, `Property.wordCharacter`, …: the characters with a
  property;
* `Property.named`: every property by its names, `Property.set?`: the set with a name.

A name is given in lower case and without blanks, hyphens and underscores.
-/
import RowQuery.Text.Blank
import RowQuery.Text.CaseFold
import RowQuery.Text.Category
import RowQuery.Text.Property.Emoji
import RowQuery.Text.Property.Letters
import RowQuery.Text.Property.Signs

namespace RowQuery.Text.Property

open Category

/-- The characters of some categories. -/
def ofCategories (categories : List Category) : CharSet := .anyOf (categories.map (·.set))

/-! ### Letters and blanks -/

/-- Letters, letter numbers, and the characters that count as letters. -/
def alphabetic : CharSet :=
  .union (ofCategories (letters ++ [letterNumber])) (.ofTable otherAlphabetic)

/-- The characters that separate words. -/
def blank : CharSet :=
  ⟨[⟨0x09, 0x0D⟩, ⟨0x20, 0x20⟩, ⟨0x85, 0x85⟩, ⟨0xA0, 0xA0⟩, ⟨0x1680, 0x1680⟩, ⟨0x2000, 0x200A⟩,
    ⟨0x2028, 0x2029⟩, ⟨0x202F, 0x202F⟩, ⟨0x205F, 0x205F⟩, ⟨0x3000, 0x3000⟩]⟩

/-- The blank characters are the ones of the set. -/
theorem holds_blank (c : Char) : blank.holds c = isBlank c := by
  rw [Bool.eq_iff_iff]
  simp only [CharSet.holds, CharSet.hasCode, blank, Span.has, isBlank, List.any_cons, List.any_nil,
    Bool.or_eq_true, Bool.and_eq_true, decide_eq_true_eq, beq_iff_eq, Bool.false_eq_true, or_false]
  omega

/-- The two joiners. -/
def joinControl : CharSet := .codes 0x200C 0x200D

/-- The characters of a word: alphabetic ones, marks, decimal digits, connectors and joiners. -/
def wordCharacter : CharSet :=
  .anyOf [alphabetic, ofCategories (marks ++ [decimalNumber, .connectorPunctuation]), joinControl]

/-! ### Case -/

/-- Lowercase letters, and the characters that count as such. -/
def lowercase : CharSet := .union lowercaseLetter.set (.ofTable otherLowercase)

/-- Uppercase letters, and the characters that count as such. -/
def uppercase : CharSet := .union uppercaseLetter.set (.ofTable otherUppercase)

/-- The characters with a case. -/
def cased : CharSet := .anyOf [lowercase, uppercase, titlecaseLetter.set]

/-- The marks between the letters of a word. -/
def middleOfLetters : CharSet :=
  .ofSpans [⟨0x3A, 0x3A⟩, ⟨0xB7, 0xB7⟩, ⟨0x387, 0x387⟩, ⟨0x55F, 0x55F⟩, ⟨0x5F4, 0x5F4⟩,
    ⟨0x2027, 0x2027⟩, ⟨0xFE13, 0xFE13⟩, ⟨0xFE55, 0xFE55⟩, ⟨0xFF1A, 0xFF1A⟩]

/-- The marks between the letters of a word or the digits of a number. -/
def middleOfBoth : CharSet :=
  .ofSpans [⟨0x2E, 0x2E⟩, ⟨0x2018, 0x2019⟩, ⟨0x2024, 0x2024⟩, ⟨0xFE52, 0xFE52⟩, ⟨0xFF07, 0xFF07⟩,
    ⟨0xFF0E, 0xFF0E⟩]

/-- The characters that do not interrupt a word for its case. -/
def caseIgnorable : CharSet :=
  .anyOf [ofCategories [nonspacingMark, enclosingMark, format, modifierLetter, modifierSymbol],
    middleOfLetters, middleOfBoth, .single '\'']

/-- The characters that fold to others. -/
def foldSources : CharSet := .ofSpans (foldPairs.map fun (source, _) => ⟨source, source⟩)

/-- The characters to which others fold. -/
def foldTargets : CharSet := .ofSpans (foldPairs.map fun (_, target) => ⟨target, target⟩)

/-- The capital letters of which the small ones are folded to them. -/
def foldedCapitals : CharSet := .codes 0x13A0 0x13F5

/-- The characters that change in lowercase. -/
def changesWhenLowercased : CharSet :=
  .anyOf [foldSources.diff lowercase, foldedCapitals, .single '\u0130']

/-- The characters that change in uppercase. -/
def changesWhenUppercased : CharSet :=
  .union (foldTargets.diff foldedCapitals) (.ofTable otherUppercased)

/-- The characters that change in titlecase. -/
def changesWhenTitlecased : CharSet :=
  .anyOf [changesWhenUppercased.diff (.ofTable notTitlecased), .single '\u01C4', .single '\u01C7',
    .single '\u01CA', .single '\u01F1']

/-- The characters that change in a full case fold, once they are decomposed. -/
def changesWhenCasefolded : CharSet :=
  .union (foldSources.diff (.anyOf [.single '\u1FBE', .single '\u1FD3', .single '\u1FE3']))
    (.ofTable otherCasefolded)

/-- The characters that change in some case. -/
def changesWhenCasemapped : CharSet :=
  .anyOf [changesWhenLowercased, changesWhenUppercased, changesWhenTitlecased]

/-! ### Graphemes and identifiers -/

/-- The characters that go on with a grapheme. -/
def graphemeExtend : CharSet :=
  .union (ofCategories [nonspacingMark, enclosingMark]) (.ofTable otherGraphemeExtenders)

/-- The characters that stand for themselves. -/
def graphemeBase : CharSet :=
  .complement (.union graphemeExtend
    (ofCategories (others ++ [lineSeparator, paragraphSeparator])))

/-- The signs that enclose the digits after them. -/
def prependedMark : CharSet := .ofTable prependedMarks

/-- The characters that are left out when they cannot be shown. -/
def ignorable : CharSet :=
  .union (.ofTable otherIgnorable)
    (.diff (.union format.set (.ofTable variationSelectors))
      (.anyOf [prependedMark, .codes 0xFFF9 0xFFFB, .codes 0x13430 0x1343F]))

/-- The characters that may start an identifier. -/
def identifierStart : CharSet :=
  .diff (.union (ofCategories (letters ++ [letterNumber])) (.ofTable otherIdentifierStarts))
    (.ofTable patternSigns)

/-- The characters that may stand in an identifier. -/
def identifierPart : CharSet :=
  .anyOf [identifierStart, .ofTable otherIdentifierParts,
    ofCategories [nonspacingMark, spacingMark, decimalNumber, .connectorPunctuation]]

/-- The characters that may start an identifier and still do once it is normalized. -/
def stableIdentifierStart : CharSet :=
  .diff identifierStart
    (.anyOf [.ofTable unstableIdentifierParts, .single '\u0E33', .single '\u0EB3',
      .codes 0xFF9E 0xFF9F])

/-- The characters that may stand in an identifier and still do once it is normalized. -/
def stableIdentifierPart : CharSet := .diff identifierPart (.ofTable unstableIdentifierParts)

/-! ### Names -/

/-- The properties by their names, the short one first. -/
def named : List (List String × CharSet) :=
  [ (["ahex", "asciihexdigit"],
      .ofSpans [⟨0x30, 0x39⟩, ⟨0x41, 0x46⟩, ⟨0x61, 0x66⟩]),
    (["alpha", "alphabetic"], alphabetic),
    (["bidic", "bidicontrol"], .ofTable bidiControls),
    (["ci", "caseignorable"], caseIgnorable),
    (["cased"], cased),
    (["cwcf", "changeswhencasefolded"], changesWhenCasefolded),
    (["cwcm", "changeswhencasemapped"], changesWhenCasemapped),
    (["cwl", "changeswhenlowercased"], changesWhenLowercased),
    (["cwt", "changeswhentitlecased"], changesWhenTitlecased),
    (["cwu", "changeswhenuppercased"], changesWhenUppercased),
    (["dash"], .ofTable dashes),
    (["di", "defaultignorablecodepoint"], ignorable),
    (["dep", "deprecated"], .ofTable deprecatedCharacters),
    (["dia", "diacritic"], .ofTable diacritics),
    (["emoji"], .ofTable emoji),
    (["ecomp", "emojicomponent"], .ofTable emojiComponents),
    (["emod", "emojimodifier"], .codes 0x1F3FB 0x1F3FF),
    (["ebase", "emojimodifierbase"], .ofTable emojiModifierBases),
    (["epres", "emojipresentation"], .ofTable emojiPresentation),
    (["extpict", "extendedpictographic"], .ofTable pictographs),
    (["ext", "extender"], .ofTable extenders),
    (["grbase", "graphemebase"], graphemeBase),
    (["grext", "graphemeextend"], graphemeExtend),
    (["grlink", "graphemelink"], .ofTable viramas),
    (["hex", "hexdigit"], .ofTable hexDigits),
    (["hyphen"], .ofTable hyphens),
    (["idsb", "idsbinaryoperator"], .ofTable ideographOperators),
    (["idst", "idstrinaryoperator"], .codes 0x2FF2 0x2FF3),
    (["idsu", "idsunaryoperator"], .codes 0x2FFE 0x2FFF),
    (["idcompatmathstart"], .ofTable mathIdentifierStarts),
    (["idcompatmathcontinue"], .ofTable (mathIdentifierStarts ++ otherMathIdentifierParts)),
    (["idc", "idcontinue"], identifierPart),
    (["ids", "idstart"], identifierStart),
    (["ideo", "ideographic"], .ofTable ideographs),
    (["joinc", "joincontrol"], joinControl),
    (["loe", "logicalorderexception"], .ofTable logicalOrderExceptions),
    (["lower", "lowercase"], lowercase),
    (["math"], .union mathSymbol.set (.ofTable otherMath)),
    (["mcm", "modifiercombiningmark"], .ofTable modifierCombiningMarks),
    (["nchar", "noncharactercodepoint"], .ofTable noncharacters),
    (["oalpha", "otheralphabetic"], .ofTable otherAlphabetic),
    (["odi", "otherdefaultignorablecodepoint"], .ofTable otherIgnorable),
    (["ogrext", "othergraphemeextend"], .ofTable otherGraphemeExtenders),
    (["oidc", "otheridcontinue"], .ofTable otherIdentifierParts),
    (["oids", "otheridstart"], .ofTable otherIdentifierStarts),
    (["olower", "otherlowercase"], .ofTable otherLowercase),
    (["omath", "othermath"], .ofTable otherMath),
    (["oupper", "otheruppercase"], .ofTable otherUppercase),
    (["patsyn", "patternsyntax"], .ofTable patternSigns),
    (["patws", "patternwhitespace"], .ofTable patternBlanks),
    (["pcm", "prependedconcatenationmark"], prependedMark),
    (["qmark", "quotationmark"], .ofTable quotationMarks),
    (["radical"], .ofTable radicals),
    (["ri", "regionalindicator"], .codes 0x1F1E6 0x1F1FF),
    (["sterm", "sentenceterminal"], .ofTable sentenceTerminals),
    (["sd", "softdotted"], .ofTable softDotted),
    (["term", "terminalpunctuation"], .ofTable terminalPunctuation),
    (["uideo", "unifiedideograph"], .ofTable unifiedIdeographs),
    (["upper", "uppercase"], uppercase),
    (["vs", "variationselector"], .ofTable variationSelectors),
    (["wspace", "whitespace", "space"], blank),
    (["xidc", "xidcontinue"], stableIdentifierPart),
    (["xids", "xidstart"], stableIdentifierStart) ]

/-- The characters with the property of a name. -/
def set? (name : String) : Option CharSet := (named.find? (·.1.contains name)).map (·.2)

end RowQuery.Text.Property
