/-
Lists of columns as they are written.

An entry names its column between apostrophes, and a sort key has its direction behind that, if it
has one. Commas stand between entries. An entry without a column names no key, whatever directions
stand in it.

* `Listed`: the ways to write items with commas between, some of the entries being vacant;
* `Listed.readsAs`: such a text is read as its items, as soon as every entry is read on its own;
* `SortKey.Written`, `SortKey.Vacant`: the entries of a list of sort keys;
* `SortKey.readAll_append_mark`, `groupColumnsFrom_append_mark`: a mark ends an entry, and nothing
  of it is left for the next one;
* `columnLists_read_back`: a list of sort keys or of grouped columns is read back.
-/
import RowQuery.Key
import RowQuery.Proofs.Number.Numeral
import RowQuery.Proofs.Token.Written

namespace RowQuery

open Text

/-! ### Entries with commas between -/

section Listed

variable {α : Type} {Entry : α → String → Prop} {Vacant : String → Prop} {items : List α}
  {text : String}

/-- A text in which entries for the given items stand one after the other, with commas between
every two entries, and any number of vacant entries among them. -/
inductive Listed (Entry : α → String → Prop) (Vacant : String → Prop) : List α → String → Prop
  | vacant {text : String} (h : Vacant text) : Listed Entry Vacant [] text
  | entry {item : α} {text : String} (h : Entry item text) : Listed Entry Vacant [item] text
  | join {items items' : List α} {a b : String} (ha : Listed Entry Vacant items a)
      (hb : Listed Entry Vacant items' b) : Listed Entry Vacant (items ++ items') (a ++ "," ++ b)

/-- All items can be listed if each of them has an entry. -/
lemma exists_listed (hentry : ∀ item ∈ items, ∃ text, Entry item text)
    (hvacant : ∃ text, Vacant text) : ∃ text, Listed Entry Vacant items text := by
  induction items with
  | nil => exact hvacant.imp fun _ => .vacant
  | cons item items ih =>
      obtain ⟨a, ha⟩ := hentry item List.mem_cons_self
      obtain ⟨b, hb⟩ := ih fun item' h => hentry item' (List.mem_cons_of_mem item h)
      exact ⟨_, .join (.entry ha) hb⟩

/-- A text whose quotes are closed, and what a reader of tokens makes of it. -/
def ReadsAs (read : List Token → List α) (text : String) (items : List α) : Prop :=
  ∃ ts, (scan text).Bare ts ∧ read ts = items

/-- So it makes this of the tokens of the text. -/
lemma ReadsAs.read_tokenize {read : List Token → List α} (h : ReadsAs read text items) :
    read (tokenize text) = items := by
  obtain ⟨ts, hts, hread⟩ := h
  rw [hts.tokenize_eq, hread]

/-- A list is read entry by entry, if a comma separates what is read. -/
lemma Listed.readsAs (read : List Token → List α)
    (hcomma : ∀ before after, read (before ++ [.mark ','] ++ after) = read before ++ read after)
    (hentry : ∀ item ∈ items, ∀ text, Entry item text → ReadsAs read text [item])
    (hvacant : ∀ text, Vacant text → ReadsAs read text []) (h : Listed Entry Vacant items text) :
    ReadsAs read text items := by
  induction h with
  | vacant h => exact hvacant _ h
  | entry h => exact hentry _ List.mem_cons_self _ h
  | join ha hb iha ihb =>
      obtain ⟨ts, hts, hread⟩ := iha fun item h => hentry item (List.mem_append_left _ h)
      obtain ⟨ts', hts', hread'⟩ := ihb fun item h => hentry item (List.mem_append_right _ h)
      have hmark : "," = String.singleton ',' := by decide
      refine ⟨ts ++ [.mark ','] ++ ts', ?_, by rw [hcomma, hread, hread']⟩
      rw [hmark]
      exact hts.append_mark (by simp [marks]) hts'

end Listed

/-! ### Directions -/

/-- A letter goes into a word. -/
lemma isWordChar_of_isAlpha {c : Char} (h : c.isAlpha) : Scan.IsWordChar c := by
  have hcode : 65 ≤ c.toNat ∧ c.toNat ≤ 122 := by
    rcases Bool.or_eq_true_iff.mp h with h | h
    · obtain ⟨hlow, hhigh⟩ := of_decide_eq_true h
      have hlow : 65 ≤ c.toNat := UInt32.le_iff_toNat_le.mp hlow
      have hhigh : c.toNat ≤ 90 := UInt32.le_iff_toNat_le.mp hhigh
      omega
    · obtain ⟨hlow, hhigh⟩ := Bool.and_eq_true_iff.mp h
      have hlow : 97 ≤ c.toNat := UInt32.le_iff_toNat_le.mp (of_decide_eq_true hlow)
      have hhigh : c.toNat ≤ 122 := UInt32.le_iff_toNat_le.mp (of_decide_eq_true hhigh)
      omega
  have hblank : isBlank c = false := by
    simp only [isBlank, Bool.or_eq_false_iff, Bool.and_eq_false_iff, decide_eq_false_iff_not,
      beq_eq_false_iff_ne]
    omega
  have hother : c ∉ '\'' :: '"' :: marks := by
    have hall : ('\'' :: '"' :: marks).all (fun d => !d.isAlpha) = true := by decide
    intro hc
    simpa [h] using List.all_eq_true.mp hall c hc
  simp only [List.mem_cons, not_or] at hother
  exact ⟨hother.1, hother.2.1, hblank, hother.2.2⟩

namespace Direction

/-- A spelling in any case spells the direction. -/
lemma ofWord?_of_isKeyword {word : String} {d : Direction} (h : isKeyword word d.text = true) :
    ofWord? word = some d := by
  cases d with
  | ascending => exact if_pos h
  | descending =>
      have hascending : isKeyword word ascending.text = false := by
        rw [isKeyword, beq_iff_eq] at h
        rw [isKeyword, h]
        decide
      rw [ofWord?, hascending, if_neg Bool.false_ne_true, if_pos h]

/-- It is written without quotes. -/
lemma writable_of_isKeyword {word : String} {d : Direction} (h : isKeyword word d.text = true) :
    (Token.word word false).Writable := by
  have hlower : d.text.toList.all Char.isLower = true := by
    cases d <;> decide
  rw [isKeyword, beq_iff_eq] at h
  refine .inr ⟨?_, fun c hc => isWordChar_of_isAlpha (Number.Binary64.isAlpha_of_toLower ?_)⟩
  · rintro rfl
    cases d <;> cases h
  · exact List.all_eq_true.mp hlower _ (h ▸ List.mem_map_of_mem hc)

end Direction

/-! ### Sort keys -/

namespace SortKey

/-- The ways to write a sort key: its column between apostrophes, and behind it its direction in
any case, or nothing where that is ascending. -/
inductive Written : SortKey → String → Prop
  | undirected {column text : String} (h : Spaced [quote column] text) :
      Written ⟨column, .ascending⟩ text
  | directed {column word text : String} {direction : Direction}
      (hword : isKeyword word direction.text = true) (h : Spaced [quote column, word] text) :
      Written ⟨column, direction⟩ text

/-- An entry without a column: nothing, or directions only. -/
def Vacant (text : String) : Prop :=
  ∃ words, (∀ word ∈ words, ∃ d : Direction, isKeyword word d.text = true) ∧ Spaced words text

/-- A mark ends an entry, and nothing of it is left for the next one. -/
lemma readAll_append_mark (key : SortKey) (before after : List Token) (c : Char) :
    key.readAll (before ++ [.mark c] ++ after) = key.readAll before ++ blank.readAll after := by
  induction before generalizing key with
  | nil => rfl
  | cons token before ih =>
      cases token with
      | mark d =>
          rw [List.cons_append, List.cons_append, readAll, ih, readAll, List.append_assoc]
      | word text quoted => rw [List.cons_append, List.cons_append, readAll, ih, readAll]

/-- A word for a direction sets the direction. -/
lemma readWord_of_isKeyword (key : SortKey) {word : String} {d : Direction}
    (h : isKeyword word d.text = true) :
    key.readWord word false = { key with direction := d } := by
  rw [readWord, if_neg Bool.false_ne_true, Direction.ofWord?_of_isKeyword h]

/-- A written sort key is read as that key. -/
lemma Written.readsAs {key : SortKey} {text : String} (h : key.Written text)
    (hcolumn : key.column ≠ "") : ReadsAs sortKeys text [key] := by
  have hquoted (column : String) : (Token.word column true).Writable := .inl rfl
  cases h with
  | @undirected column text h =>
      have hscan := h.bare_scan_tokens [.word column true] (by simp [hquoted])
      exact ⟨_, hscan, if_neg hcolumn⟩
  | @directed column word text direction hword h =>
      have hwritable := Direction.writable_of_isKeyword hword
      have hscan := h.bare_scan_tokens [.word column true, .word word false]
        (by simp [hquoted, hwritable])
      refine ⟨_, hscan, ?_⟩
      rw [sortKeys, readAll, readAll, readWord_of_isKeyword _ hword]
      exact if_neg hcolumn

/-- Directions without a column are read as no key. -/
lemma readAll_directions {key : SortKey} (hcolumn : key.column = "") {words : List String}
    (hwords : ∀ word ∈ words, ∃ d : Direction, isKeyword word d.text = true) :
    key.readAll (words.map (Token.word · false)) = [] := by
  induction words generalizing key with
  | nil => exact if_pos hcolumn
  | cons word words ih =>
      obtain ⟨d, hd⟩ := hwords word List.mem_cons_self
      rw [List.map_cons, readAll, readWord_of_isKeyword _ hd]
      exact ih hcolumn fun word' h => hwords word' (List.mem_cons_of_mem word h)

/-- A vacant entry is read as no key. -/
lemma Vacant.readsAs {text : String} (h : Vacant text) : ReadsAs sortKeys text [] := by
  obtain ⟨words, hwords, hspaced⟩ := h
  refine ⟨words.map (Token.word · false), Spaced.bare_scan_tokens _ ?_ ?_,
    readAll_directions rfl hwords⟩
  · have hwritten : (words.map (Token.word · false)).map Token.text = words := by
      simp [Function.comp_def, Token.text]
    rwa [hwritten]
  · intro t ht
    obtain ⟨word, hword, rfl⟩ := List.mem_map.mp ht
    obtain ⟨d, hd⟩ := hwords word hword
    exact Direction.writable_of_isKeyword hd

end SortKey

/-! ### Grouped columns -/

/-- A mark ends an entry, and nothing of it is left for the next one. -/
lemma groupColumnsFrom_append_mark (column : String) (before after : List Token) (c : Char) :
    groupColumnsFrom column (before ++ [.mark c] ++ after)
      = groupColumnsFrom column before ++ groupColumnsFrom "" after := by
  induction before generalizing column with
  | nil => rfl
  | cons token before ih =>
      cases token with
      | mark d =>
          rw [List.cons_append, List.cons_append, groupColumnsFrom, ih, groupColumnsFrom,
            List.append_assoc]
      | word text quoted =>
          rw [List.cons_append, List.cons_append, groupColumnsFrom, ih, groupColumnsFrom]

/-- The way to write a grouped column: between apostrophes. -/
def WrittenColumn (column text : String) : Prop := Spaced [quote column] text

/-- A written column is read as that column. -/
lemma WrittenColumn.readsAs {column text : String} (h : WrittenColumn column text)
    (hcolumn : column ≠ "") : ReadsAs groupColumns text [column] :=
  ⟨_, h.bare_scan_tokens [.word column true] (by simp [Token.Writable]), if_neg hcolumn⟩

/-- Nothing is read as no column. -/
lemma readsAs_groupColumns_nil {text : String} (h : Spaced [] text) :
    ReadsAs groupColumns text [] :=
  ⟨_, h.bare_scan_tokens [] (by simp), rfl⟩

/-! ### Lists of columns -/

/-- All sort keys can be written. -/
lemma exists_listed_sortKeys (keys : List SortKey) :
    ∃ text, Listed SortKey.Written SortKey.Vacant keys text := by
  refine exists_listed (fun key _ => ?_) ⟨"", [], by simp, .nothing⟩
  have hword : isKeyword key.direction.text key.direction.text = true := by
    cases key.direction <;> decide
  exact ⟨_, .directed hword (spaced_intercalate _)⟩

/-- Written sort keys are read as these keys. -/
lemma sortKeysOfText_of_listed {keys : List SortKey} {text : String}
    (hkeys : ∀ key ∈ keys, key.column ≠ "")
    (h : Listed SortKey.Written SortKey.Vacant keys text) : sortKeysOfText text = keys := by
  have hcomma := fun before after => SortKey.readAll_append_mark .blank before after ','
  have hentry := fun key hkey text (hwritten : SortKey.Written key text) =>
    hwritten.readsAs (hkeys key hkey)
  exact (h.readsAs sortKeys hcomma hentry fun _ => SortKey.Vacant.readsAs).read_tokenize

/-- Written columns are read as these columns. -/
lemma groupColumnsOfText_of_listed {columns : List String} {text : String}
    (hcolumns : ∀ column ∈ columns, column ≠ "")
    (h : Listed WrittenColumn (Spaced []) columns text) : groupColumnsOfText text = columns := by
  have hcomma := fun before after => groupColumnsFrom_append_mark "" before after ','
  have hentry := fun column hcolumn text (hwritten : WrittenColumn column text) =>
    hwritten.readsAs (hcolumns column hcolumn)
  exact (h.readsAs groupColumns hcomma hentry fun _ => readsAs_groupColumns_nil).read_tokenize

/-- **Lists of columns are read back.** Sort keys with columns that are not empty can be written
with commas between, and every such text is read as these keys, whatever entries without a column
stand among them. So are grouped columns. -/
theorem columnLists_read_back :
    (∀ keys : List SortKey, (∀ key ∈ keys, key.column ≠ "") →
      (∃ text, Listed SortKey.Written SortKey.Vacant keys text)
      ∧ ∀ text, Listed SortKey.Written SortKey.Vacant keys text → sortKeysOfText text = keys)
    ∧ ∀ columns : List String, (∀ column ∈ columns, column ≠ "") →
      (∃ text, Listed WrittenColumn (Spaced []) columns text)
      ∧ ∀ text, Listed WrittenColumn (Spaced []) columns text
        → groupColumnsOfText text = columns := by
  refine ⟨fun keys hkeys => ?_, fun columns hcolumns => ?_⟩
  · exact ⟨exists_listed_sortKeys keys, fun text h => sortKeysOfText_of_listed hkeys h⟩
  · have hexists : ∃ text, Listed WrittenColumn (Spaced []) columns text :=
      exists_listed (fun column _ => ⟨_, .word (quote column)⟩) ⟨"", .nothing⟩
    exact ⟨hexists, fun text h => groupColumnsOfText_of_listed hcolumns h⟩

/-- Columns that are called like a direction and a connective, or hold a comma and apostrophes, with
an empty entry and a direction without a column among them. -/
theorem columnLists_read_back_two :
    let keys : List SortKey := [⟨"desc", .descending⟩, ⟨"a,'b'", .ascending⟩]
    let text := " ".intercalate [quote "desc", "DeSC"] ++ "," ++ "" ++ "," ++ "asc" ++ ","
      ++ quote "a,'b'"
    let columns := ["or", "(c)"]
    let columnsText := quote "or" ++ "," ++ "" ++ "," ++ quote "(c)"
    (∀ key ∈ keys, key.column ≠ "") ∧ (∀ column ∈ columns, column ≠ "")
      ∧ text = "'desc' DeSC,,asc,'a,\\'b\\''" ∧ columnsText = "'or',,'(c)'"
      ∧ Listed SortKey.Written SortKey.Vacant keys text ∧ sortKeysOfText text = keys
      ∧ Listed WrittenColumn (Spaced []) columns columnsText
      ∧ groupColumnsOfText columnsText = columns := by
  intro keys text columns columnsText
  have hkeys : ∀ key ∈ keys, key.column ≠ "" := by decide
  have hcolumns : ∀ column ∈ columns, column ≠ "" := by decide
  have hempty : SortKey.Vacant "" := ⟨[], by simp, .nothing⟩
  have hdirection : SortKey.Vacant "asc" :=
    ⟨["asc"], by simpa using ⟨.ascending, by decide⟩, .word "asc"⟩
  have hfirst : SortKey.Written ⟨"desc", .descending⟩ (" ".intercalate [quote "desc", "DeSC"]) :=
    .directed (by decide) (spaced_intercalate _)
  have hsecond : SortKey.Written ⟨"a,'b'", .ascending⟩ (quote "a,'b'") := .undirected (.word _)
  have hlisted : Listed SortKey.Written SortKey.Vacant keys text :=
    .join (.join (.join (.entry hfirst) (.vacant hempty)) (.vacant hdirection)) (.entry hsecond)
  have hcolumnsListed : Listed WrittenColumn (Spaced []) columns columnsText :=
    .join (.join (.entry (.word _)) (.vacant Spaced.nothing)) (.entry (.word _))
  exact ⟨hkeys, hcolumns, by decide +kernel, by decide +kernel, hlisted,
    (columnLists_read_back.1 keys hkeys).2 text hlisted, hcolumnsListed,
    (columnLists_read_back.2 columns hcolumns).2 columnsText hcolumnsListed⟩

end RowQuery
