/-
Scripts.

* `Script`: a script by its names and its characters;
* `Script.ofName?`: the script with a name;
* `Script.extended`: its characters and those that it shares with other scripts.

A name is given in lower case and without blanks, hyphens and underscores.
-/
import RowQuery.Text.Category
import RowQuery.Text.Script.Extension
import RowQuery.Text.Script.Table

namespace RowQuery.Text

/-- A script. -/
structure Script where
  /-- The short name first. -/
  names : List String
  set : CharSet
deriving DecidableEq, Repr

namespace Script

/-- The scripts that have characters of their own. -/
def own : List Script :=
  [ ⟨["adlm", "adlam"], .ofTable adlam⟩,
    ⟨["ahom"], .ofTable ahom⟩,
    ⟨["hluw", "anatolianhieroglyphs"], .ofTable anatolianHieroglyphs⟩,
    ⟨["arab", "arabic"], .ofTable arabic⟩,
    ⟨["armn", "armenian"], .ofTable armenian⟩,
    ⟨["avst", "avestan"], .ofTable avestan⟩,
    ⟨["bali", "balinese"], .ofTable balinese⟩,
    ⟨["bamu", "bamum"], .ofTable bamum⟩,
    ⟨["bass", "bassavah"], .ofTable bassaVah⟩,
    ⟨["batk", "batak"], .ofTable batak⟩,
    ⟨["beng", "bengali"], .ofTable bengali⟩,
    ⟨["bhks", "bhaiksuki"], .ofTable bhaiksuki⟩,
    ⟨["bopo", "bopomofo"], .ofTable bopomofo⟩,
    ⟨["brah", "brahmi"], .ofTable brahmi⟩,
    ⟨["brai", "braille"], .ofTable braille⟩,
    ⟨["bugi", "buginese"], .ofTable buginese⟩,
    ⟨["buhd", "buhid"], .ofTable buhid⟩,
    ⟨["cans", "canadianaboriginal"], .ofTable canadianAboriginal⟩,
    ⟨["cari", "carian"], .ofTable carian⟩,
    ⟨["aghb", "caucasianalbanian"], .ofTable caucasianAlbanian⟩,
    ⟨["cakm", "chakma"], .ofTable chakma⟩,
    ⟨["cham"], .ofTable cham⟩,
    ⟨["cher", "cherokee"], .ofTable cherokee⟩,
    ⟨["chrs", "chorasmian"], .ofTable chorasmian⟩,
    ⟨["copt", "coptic", "qaac"], .ofTable coptic⟩,
    ⟨["xsux", "cuneiform"], .ofTable cuneiform⟩,
    ⟨["cprt", "cypriot"], .ofTable cypriot⟩,
    ⟨["cpmn", "cyprominoan"], .ofTable cyproMinoan⟩,
    ⟨["cyrl", "cyrillic"], .ofTable cyrillic⟩,
    ⟨["dsrt", "deseret"], .ofTable deseret⟩,
    ⟨["deva", "devanagari"], .ofTable devanagari⟩,
    ⟨["diak", "divesakuru"], .ofTable divesAkuru⟩,
    ⟨["dogr", "dogra"], .ofTable dogra⟩,
    ⟨["dupl", "duployan"], .ofTable duployan⟩,
    ⟨["egyp", "egyptianhieroglyphs"], .ofTable egyptianHieroglyphs⟩,
    ⟨["elba", "elbasan"], .ofTable elbasan⟩,
    ⟨["elym", "elymaic"], .ofTable elymaic⟩,
    ⟨["ethi", "ethiopic"], .ofTable ethiopic⟩,
    ⟨["gara", "garay"], .ofTable garay⟩,
    ⟨["geor", "georgian"], .ofTable georgian⟩,
    ⟨["glag", "glagolitic"], .ofTable glagolitic⟩,
    ⟨["goth", "gothic"], .ofTable gothic⟩,
    ⟨["gran", "grantha"], .ofTable grantha⟩,
    ⟨["grek", "greek"], .ofTable greek⟩,
    ⟨["gujr", "gujarati"], .ofTable gujarati⟩,
    ⟨["gong", "gunjalagondi"], .ofTable gunjalaGondi⟩,
    ⟨["guru", "gurmukhi"], .ofTable gurmukhi⟩,
    ⟨["gukh", "gurungkhema"], .ofTable gurungKhema⟩,
    ⟨["hani", "han"], .ofTable han⟩,
    ⟨["hang", "hangul"], .ofTable hangul⟩,
    ⟨["rohg", "hanifirohingya"], .ofTable hanifiRohingya⟩,
    ⟨["hano", "hanunoo"], .ofTable hanunoo⟩,
    ⟨["hatr", "hatran"], .ofTable hatran⟩,
    ⟨["hebr", "hebrew"], .ofTable hebrew⟩,
    ⟨["hira", "hiragana"], .ofTable hiragana⟩,
    ⟨["armi", "imperialaramaic"], .ofTable imperialAramaic⟩,
    ⟨["zinh", "inherited", "qaai"], .ofTable inherited⟩,
    ⟨["phli", "inscriptionalpahlavi"], .ofTable inscriptionalPahlavi⟩,
    ⟨["prti", "inscriptionalparthian"], .ofTable inscriptionalParthian⟩,
    ⟨["java", "javanese"], .ofTable javanese⟩,
    ⟨["kthi", "kaithi"], .ofTable kaithi⟩,
    ⟨["knda", "kannada"], .ofTable kannada⟩,
    ⟨["kana", "katakana"], .ofTable katakana⟩,
    ⟨["kawi"], .ofTable kawi⟩,
    ⟨["kali", "kayahli"], .ofTable kayahLi⟩,
    ⟨["khar", "kharoshthi"], .ofTable kharoshthi⟩,
    ⟨["kits", "khitansmallscript"], .ofTable khitanSmallScript⟩,
    ⟨["khmr", "khmer"], .ofTable khmer⟩,
    ⟨["khoj", "khojki"], .ofTable khojki⟩,
    ⟨["sind", "khudawadi"], .ofTable khudawadi⟩,
    ⟨["krai", "kiratrai"], .ofTable kiratRai⟩,
    ⟨["laoo", "lao"], .ofTable lao⟩,
    ⟨["latn", "latin"], .ofTable latin⟩,
    ⟨["lepc", "lepcha"], .ofTable lepcha⟩,
    ⟨["limb", "limbu"], .ofTable limbu⟩,
    ⟨["lina", "lineara"], .ofTable linearA⟩,
    ⟨["linb", "linearb"], .ofTable linearB⟩,
    ⟨["lisu"], .ofTable lisu⟩,
    ⟨["lyci", "lycian"], .ofTable lycian⟩,
    ⟨["lydi", "lydian"], .ofTable lydian⟩,
    ⟨["mahj", "mahajani"], .ofTable mahajani⟩,
    ⟨["maka", "makasar"], .ofTable makasar⟩,
    ⟨["mlym", "malayalam"], .ofTable malayalam⟩,
    ⟨["mand", "mandaic"], .ofTable mandaic⟩,
    ⟨["mani", "manichaean"], .ofTable manichaean⟩,
    ⟨["marc", "marchen"], .ofTable marchen⟩,
    ⟨["gonm", "masaramgondi"], .ofTable masaramGondi⟩,
    ⟨["medf", "medefaidrin"], .ofTable medefaidrin⟩,
    ⟨["mtei", "meeteimayek"], .ofTable meeteiMayek⟩,
    ⟨["mend", "mendekikakui"], .ofTable mendeKikakui⟩,
    ⟨["merc", "meroiticcursive"], .ofTable meroiticCursive⟩,
    ⟨["mero", "meroitichieroglyphs"], .ofTable meroiticHieroglyphs⟩,
    ⟨["plrd", "miao"], .ofTable miao⟩,
    ⟨["modi"], .ofTable modi⟩,
    ⟨["mong", "mongolian"], .ofTable mongolian⟩,
    ⟨["mroo", "mro"], .ofTable mro⟩,
    ⟨["mult", "multani"], .ofTable multani⟩,
    ⟨["mymr", "myanmar"], .ofTable myanmar⟩,
    ⟨["nbat", "nabataean"], .ofTable nabataean⟩,
    ⟨["nagm", "nagmundari"], .ofTable nagMundari⟩,
    ⟨["nand", "nandinagari"], .ofTable nandinagari⟩,
    ⟨["talu", "newtailue"], .ofTable newTaiLue⟩,
    ⟨["newa"], .ofTable newa⟩,
    ⟨["nkoo", "nko"], .ofTable nko⟩,
    ⟨["nshu", "nushu"], .ofTable nushu⟩,
    ⟨["hmnp", "nyiakengpuachuehmong"], .ofTable nyiakengPuachueHmong⟩,
    ⟨["ogam", "ogham"], .ofTable ogham⟩,
    ⟨["olck", "olchiki"], .ofTable olChiki⟩,
    ⟨["onao", "olonal"], .ofTable olOnal⟩,
    ⟨["hung", "oldhungarian"], .ofTable oldHungarian⟩,
    ⟨["ital", "olditalic"], .ofTable oldItalic⟩,
    ⟨["narb", "oldnortharabian"], .ofTable oldNorthArabian⟩,
    ⟨["perm", "oldpermic"], .ofTable oldPermic⟩,
    ⟨["xpeo", "oldpersian"], .ofTable oldPersian⟩,
    ⟨["sogo", "oldsogdian"], .ofTable oldSogdian⟩,
    ⟨["sarb", "oldsoutharabian"], .ofTable oldSouthArabian⟩,
    ⟨["orkh", "oldturkic"], .ofTable oldTurkic⟩,
    ⟨["ougr", "olduyghur"], .ofTable oldUyghur⟩,
    ⟨["orya", "oriya"], .ofTable oriya⟩,
    ⟨["osge", "osage"], .ofTable osage⟩,
    ⟨["osma", "osmanya"], .ofTable osmanya⟩,
    ⟨["hmng", "pahawhhmong"], .ofTable pahawhHmong⟩,
    ⟨["palm", "palmyrene"], .ofTable palmyrene⟩,
    ⟨["pauc", "paucinhau"], .ofTable pauCinHau⟩,
    ⟨["phag", "phagspa"], .ofTable phagsPa⟩,
    ⟨["phnx", "phoenician"], .ofTable phoenician⟩,
    ⟨["phlp", "psalterpahlavi"], .ofTable psalterPahlavi⟩,
    ⟨["rjng", "rejang"], .ofTable rejang⟩,
    ⟨["runr", "runic"], .ofTable runic⟩,
    ⟨["samr", "samaritan"], .ofTable samaritan⟩,
    ⟨["saur", "saurashtra"], .ofTable saurashtra⟩,
    ⟨["shrd", "sharada"], .ofTable sharada⟩,
    ⟨["shaw", "shavian"], .ofTable shavian⟩,
    ⟨["sidd", "siddham"], .ofTable siddham⟩,
    ⟨["sgnw", "signwriting"], .ofTable signwriting⟩,
    ⟨["sinh", "sinhala"], .ofTable sinhala⟩,
    ⟨["sogd", "sogdian"], .ofTable sogdian⟩,
    ⟨["sora", "sorasompeng"], .ofTable soraSompeng⟩,
    ⟨["soyo", "soyombo"], .ofTable soyombo⟩,
    ⟨["sund", "sundanese"], .ofTable sundanese⟩,
    ⟨["sunu", "sunuwar"], .ofTable sunuwar⟩,
    ⟨["sylo", "sylotinagri"], .ofTable sylotiNagri⟩,
    ⟨["syrc", "syriac"], .ofTable syriac⟩,
    ⟨["tglg", "tagalog"], .ofTable tagalog⟩,
    ⟨["tagb", "tagbanwa"], .ofTable tagbanwa⟩,
    ⟨["tale", "taile"], .ofTable taiLe⟩,
    ⟨["lana", "taitham"], .ofTable taiTham⟩,
    ⟨["tavt", "taiviet"], .ofTable taiViet⟩,
    ⟨["takr", "takri"], .ofTable takri⟩,
    ⟨["taml", "tamil"], .ofTable tamil⟩,
    ⟨["tnsa", "tangsa"], .ofTable tangsa⟩,
    ⟨["tang", "tangut"], .ofTable tangut⟩,
    ⟨["telu", "telugu"], .ofTable telugu⟩,
    ⟨["thaa", "thaana"], .ofTable thaana⟩,
    ⟨["thai"], .ofTable thai⟩,
    ⟨["tibt", "tibetan"], .ofTable tibetan⟩,
    ⟨["tfng", "tifinagh"], .ofTable tifinagh⟩,
    ⟨["tirh", "tirhuta"], .ofTable tirhuta⟩,
    ⟨["todr", "todhri"], .ofTable todhri⟩,
    ⟨["toto"], .ofTable toto⟩,
    ⟨["tutg", "tulutigalari"], .ofTable tuluTigalari⟩,
    ⟨["ugar", "ugaritic"], .ofTable ugaritic⟩,
    ⟨["vaii", "vai"], .ofTable vai⟩,
    ⟨["vith", "vithkuqi"], .ofTable vithkuqi⟩,
    ⟨["wcho", "wancho"], .ofTable wancho⟩,
    ⟨["wara", "warangciti"], .ofTable warangCiti⟩,
    ⟨["yezi", "yezidi"], .ofTable yezidi⟩,
    ⟨["yiii", "yi"], .ofTable yi⟩,
    ⟨["zanb", "zanabazarsquare"], .ofTable zanabazarSquare⟩ ]

/-- The characters of no script: all that are assigned, are neither private nor surrogates, and
belong to no script of their own. -/
def common : Script :=
  ⟨["zyyy", "common"],
    CharSet.diff (.complement (.anyOf ([.unassigned, .privateUse, .surrogate].map Category.set)))
      (.anyOf (own.map (·.set)))⟩

/-- The script with a name. -/
def ofName? (name : String) : Option Script :=
  (common :: own).find? (·.names.contains name)

/-- The code points of some rows of shared characters. -/
def shared (rows : List Extension) : CharSet := .ofSpans (rows.map fun r => ⟨r.first, r.last⟩)

/-- The characters that are used by a script: its own, unless their scripts are given one by one,
and those that are given for it. -/
def extended (s : Script) : CharSet :=
  .union (.diff s.set (shared extensions))
    (shared (extensions.filter fun r => s.names.any r.scripts.contains))

end Script

end RowQuery.Text
