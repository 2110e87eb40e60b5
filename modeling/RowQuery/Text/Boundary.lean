/-
What characters do at the boundaries of graphemes, words and sentences.

Every character belongs to one class of each of the three kinds of boundary; the class of all
others has no name here.

* `GraphemeBreak`, `WordBreak`, `SentenceBreak`: the classes of one kind, with their sets;
* `named`: the classes of a kind by their names, `set?`: the characters of the class with a name.

A name is given in lower case and without blanks, hyphens and underscores.
-/
import RowQuery.Text.Property
import RowQuery.Text.Script

namespace RowQuery.Text

open Category Property

/-- The joiner that makes one emoji of two. -/
def joiner : CharSet := .single '\u200D'

/-- The letters of flags. -/
def regionalIndicator : CharSet := .codes 0x1F1E6 0x1F1FF

/-- The modifiers of emoji. -/
def emojiModifier : CharSet := .codes 0x1F3FB 0x1F3FF

/-- The invisible copies of ASCII characters. -/
def tagCharacters : CharSet := .codes 0xE0020 0xE007F

namespace GraphemeBreak

/-- The characters that go on with a grapheme. -/
def extend : CharSet := .diff (.union graphemeExtend emojiModifier) joiner

/-- The characters that stand alone. -/
def control : CharSet :=
  .diff (.union (ofCategories [lineSeparator, paragraphSeparator, Category.control, format])
      (.inter unassigned.set ignorable))
    (.anyOf [.single '\r', .single '\n', joinControl, prependedMark, graphemeExtend])

/-- The marks that go on with a grapheme and take room of their own. -/
def spacing : CharSet :=
  .diff (.anyOf [.diff spacingMark.set extend, .single '\u0E33', .single '\u0EB3'])
    (.ofSpans [⟨0x102B, 0x102C⟩, ⟨0x1038, 0x1038⟩, ⟨0x1062, 0x1064⟩, ⟨0x1067, 0x106D⟩,
      ⟨0x1083, 0x1083⟩, ⟨0x1087, 0x108C⟩, ⟨0x108F, 0x108F⟩, ⟨0x109A, 0x109C⟩, ⟨0x1A61, 0x1A61⟩,
      ⟨0x1A63, 0x1A64⟩, ⟨0xAA7B, 0xAA7B⟩, ⟨0xAA7D, 0xAA7D⟩, ⟨0x11720, 0x11721⟩])

/-- The characters that start the grapheme of the one after them. -/
def prepend : CharSet :=
  .union prependedMark
    (.ofSpans [⟨0xD4E, 0xD4E⟩, ⟨0x111C2, 0x111C3⟩, ⟨0x113D1, 0x113D1⟩, ⟨0x1193F, 0x1193F⟩,
      ⟨0x11941, 0x11941⟩, ⟨0x11A3A, 0x11A3A⟩, ⟨0x11A84, 0x11A89⟩, ⟨0x11D46, 0x11D46⟩,
      ⟨0x11F02, 0x11F02⟩])

/-- The syllables of Hangul that have no final consonant. -/
def openSyllable : CharSet := .ofTable [⟨0xAC00, 0xD788, 28⟩]

/-- The classes by their names, the short one first. -/
def named : List (List String × CharSet) :=
  [ (["cn", "control"], control),
    (["cr"], .single '\r'),
    (["ex", "extend"], extend),
    (["l"], .ofSpans [⟨0x1100, 0x115F⟩, ⟨0xA960, 0xA97C⟩]),
    (["lf"], .single '\n'),
    (["lv"], openSyllable),
    (["lvt"], .diff (.codes 0xAC00 0xD7A3) openSyllable),
    (["pp", "prepend"], prepend),
    (["ri", "regionalindicator"], regionalIndicator),
    (["sm", "spacingmark"], spacing),
    (["t"], .ofSpans [⟨0x11A8, 0x11FF⟩, ⟨0xD7CB, 0xD7FB⟩]),
    (["v"],
      .ofSpans [⟨0x1160, 0x11A7⟩, ⟨0xD7B0, 0xD7C6⟩, ⟨0x16D63, 0x16D63⟩, ⟨0x16D67, 0x16D6A⟩]),
    (["zwj"], joiner) ]

/-- The characters of the class with a name. -/
def set? (name : String) : Option CharSet := (named.find? (·.1.contains name)).map (·.2)

end GraphemeBreak

namespace WordBreak

/-- The characters that go on with what stands before them. -/
def extend : CharSet :=
  .diff (.anyOf [graphemeExtend, spacingMark.set, emojiModifier]) joiner

/-- The invisible characters within words. -/
def formats : CharSet :=
  .diff format.set (.anyOf [.codes 0x200B 0x200D, tagCharacters, prependedMark])

/-- The letters of Katakana, and the signs that stand among them. -/
def katakana : CharSet :=
  .union (.ofTable Script.katakana)
    (.ofSpans [⟨0x3031, 0x3035⟩, ⟨0x309B, 0x309C⟩, ⟨0x30A0, 0x30A0⟩, ⟨0x30FC, 0x30FC⟩,
      ⟨0xFF70, 0xFF70⟩])

/-- The letters of Hebrew. -/
def hebrewLetter : CharSet := .inter (.ofTable Script.hebrew) otherLetter.set

/-- The digits, and the signs that start a number. -/
def numeric : CharSet :=
  .anyOf [decimalNumber.set, .single '\u066B', prependedMark.diff (.single '\u070F')]

/-- The letters of scripts without blanks, in which only a dictionary finds the words. -/
def unspaced : CharSet :=
  .ofSpans [⟨0xE01, 0xE3A⟩, ⟨0xE40, 0xE4E⟩, ⟨0xE81, 0xEBD⟩, ⟨0xEC0, 0xECE⟩, ⟨0xEDC, 0xEDF⟩,
    ⟨0x1000, 0x103F⟩, ⟨0x1050, 0x108F⟩, ⟨0x109A, 0x109F⟩, ⟨0x1780, 0x17D3⟩, ⟨0x17D7, 0x17D7⟩,
    ⟨0x17DC, 0x17DD⟩, ⟨0x1950, 0x19C9⟩, ⟨0x19DE, 0x19DF⟩, ⟨0x1A20, 0x1A7C⟩, ⟨0x1AA0, 0x1AAD⟩,
    ⟨0xA9E0, 0xA9EF⟩, ⟨0xA9FA, 0xA9FE⟩, ⟨0xAA60, 0xAAC2⟩, ⟨0xAADB, 0xAADF⟩, ⟨0x11700, 0x1172B⟩,
    ⟨0x1173A, 0x1173B⟩, ⟨0x1173F, 0x11746⟩]

/-- The signs that count as letters of a word. -/
def letterSigns : CharSet :=
  .ofSpans [⟨0x2C2, 0x2C5⟩, ⟨0x2D2, 0x2D7⟩, ⟨0x2DE, 0x2DF⟩, ⟨0x2E5, 0x2EB⟩, ⟨0x2ED, 0x2ED⟩,
    ⟨0x2EF, 0x2FF⟩, ⟨0x55A, 0x55C⟩, ⟨0x55E, 0x55E⟩, ⟨0x58A, 0x58A⟩, ⟨0x5F3, 0x5F3⟩,
    ⟨0x70F, 0x70F⟩, ⟨0xA708, 0xA716⟩, ⟨0xA720, 0xA721⟩, ⟨0xA789, 0xA78A⟩, ⟨0xAB5B, 0xAB5B⟩]

/-- The letters of the scripts that set blanks between words. -/
def letter : CharSet :=
  .union letterSigns
    (.diff alphabetic
      (.anyOf [.ofTable ideographs, katakana, .ofTable Script.hiragana, extend, hebrewLetter,
        unspaced]))

/-- The marks between the digits of a number. -/
def middleOfDigits : CharSet :=
  .ofSpans [⟨0x2C, 0x2C⟩, ⟨0x3B, 0x3B⟩, ⟨0x37E, 0x37E⟩, ⟨0x589, 0x589⟩, ⟨0x60C, 0x60D⟩,
    ⟨0x66C, 0x66C⟩, ⟨0x7F8, 0x7F8⟩, ⟨0x2044, 0x2044⟩, ⟨0xFE10, 0xFE10⟩, ⟨0xFE14, 0xFE14⟩,
    ⟨0xFE50, 0xFE50⟩, ⟨0xFE54, 0xFE54⟩, ⟨0xFF0C, 0xFF0C⟩, ⟨0xFF1B, 0xFF1B⟩]

/-- The classes by their names, the short one first. -/
def named : List (List String × CharSet) :=
  [ (["le", "aletter"], letter),
    (["cr"], .single '\r'),
    (["dq", "doublequote"], .single '"'),
    (["extend"], extend),
    (["ex", "extendnumlet"], .union Category.connectorPunctuation.set (.single '\u202F')),
    (["fo", "format"], formats),
    (["hl", "hebrewletter"], hebrewLetter),
    (["ka", "katakana"], katakana),
    (["lf"], .single '\n'),
    (["ml", "midletter"], middleOfLetters),
    (["mn", "midnum"], middleOfDigits),
    (["mb", "midnumlet"], middleOfBoth),
    (["nl", "newline"], .ofSpans [⟨0x0B, 0x0C⟩, ⟨0x85, 0x85⟩, ⟨0x2028, 0x2029⟩]),
    (["nu", "numeric"], numeric),
    (["ri", "regionalindicator"], regionalIndicator),
    (["sq", "singlequote"], .single '\''),
    (["wsegspace"],
      .ofSpans [⟨0x20, 0x20⟩, ⟨0x1680, 0x1680⟩, ⟨0x2000, 0x2006⟩, ⟨0x2008, 0x200A⟩,
        ⟨0x205F, 0x205F⟩, ⟨0x3000, 0x3000⟩]),
    (["zwj"], joiner) ]

/-- The characters of the class with a name. -/
def set? (name : String) : Option CharSet := (named.find? (·.1.contains name)).map (·.2)

end WordBreak

namespace SentenceBreak

/-- The characters that go on with what stands before them. -/
def extend : CharSet := .anyOf [graphemeExtend, spacingMark.set, joiner]

/-- The invisible characters within sentences. -/
def formats : CharSet :=
  .diff format.set (.anyOf [joinControl, tagCharacters, prependedMark])

/-- The lowercase letters; the scripts with capitals for headings alone have none. -/
def lower : CharSet :=
  .diff lowercase (.anyOf [graphemeExtend, .codes 0x10D0 0x10FA, .codes 0x10FD 0x10FF])

/-- The uppercase letters; capitals for headings alone are none. -/
def upper : CharSet :=
  .diff (.union uppercase titlecaseLetter.set)
    (.ofSpans [⟨0x1C90, 0x1CBA⟩, ⟨0x1CBD, 0x1CBF⟩])

/-- The letters without a case. -/
def letter : CharSet :=
  .anyOf [alphabetic.diff (.anyOf [lower, upper, extend]), .single '\u05F3', .single '\u070F']

/-- The full stops. -/
def fullStop : CharSet :=
  .ofSpans [⟨0x2E, 0x2E⟩, ⟨0x2024, 0x2024⟩, ⟨0xFE52, 0xFE52⟩, ⟨0xFF0E, 0xFF0E⟩]

/-- The other marks that end a sentence. -/
def terminal : CharSet := .diff (.ofTable sentenceTerminals) fullStop

/-- The brackets and quotation marks. -/
def closing : CharSet :=
  .diff (.union
      (ofCategories [.openPunctuation, .closePunctuation, .initialPunctuation, .finalPunctuation])
      (.ofSpans [⟨0x22, 0x22⟩, ⟨0x27, 0x27⟩, ⟨0x275B, 0x2760⟩, ⟨0x2E00, 0x2E01⟩,
        ⟨0x2E06, 0x2E08⟩, ⟨0x2E0B, 0x2E0B⟩, ⟨0x1F676, 0x1F678⟩]))
    (.union fullStop terminal)

/-- The marks after which a sentence goes on. -/
def continuing : CharSet :=
  .ofSpans [⟨0x2C, 0x2D⟩, ⟨0x3A, 0x3B⟩, ⟨0x37E, 0x37E⟩, ⟨0x55D, 0x55D⟩, ⟨0x60C, 0x60D⟩,
    ⟨0x7F8, 0x7F8⟩, ⟨0x1802, 0x1802⟩, ⟨0x1808, 0x1808⟩, ⟨0x2013, 0x2014⟩, ⟨0x3001, 0x3001⟩,
    ⟨0xFE10, 0xFE11⟩, ⟨0xFE13, 0xFE14⟩, ⟨0xFE31, 0xFE32⟩, ⟨0xFE50, 0xFE51⟩, ⟨0xFE54, 0xFE55⟩,
    ⟨0xFE58, 0xFE58⟩, ⟨0xFE63, 0xFE63⟩, ⟨0xFF0C, 0xFF0D⟩, ⟨0xFF1A, 0xFF1B⟩, ⟨0xFF64, 0xFF64⟩]

/-- The separators of paragraphs but the two ends of lines. -/
def separator : CharSet := .ofSpans [⟨0x85, 0x85⟩, ⟨0x2028, 0x2029⟩]

/-- The classes by their names, the short one first. -/
def named : List (List String × CharSet) :=
  [ (["at", "aterm"], fullStop),
    (["cl", "close"], closing),
    (["cr"], .single '\r'),
    (["ex", "extend"], extend),
    (["fo", "format"], formats),
    (["lf"], .single '\n'),
    (["lo", "lower"], lower),
    (["nu", "numeric"], .union WordBreak.numeric (.single '\u066C')),
    (["le", "oletter"], letter),
    (["sc", "scontinue"], continuing),
    (["se", "sep"], separator),
    (["sp"], .diff blank (.anyOf [separator, .single '\r', .single '\n'])),
    (["st", "sterm"], terminal),
    (["up", "upper"], upper) ]

/-- The characters of the class with a name. -/
def set? (name : String) : Option CharSet := (named.find? (·.1.contains name)).map (·.2)

end SentenceBreak

end RowQuery.Text
