/-
Tables written as JSON text and read again.

The text of a table follows the grammar in either layout, and the value that it writes is a list of
objects, one for every row, with the cells of the row under their names. So whoever reads the text
by the grammar gets the rows back. Bytes and timestamps come back as their texts.

* `Value.toJson`, `Row.toJson`: the values that cells and rows are written as;
* `Value.readBack`: the cell that comes back;
* `writes_rowText`, `writes_jsonText`: the texts of rows and tables follow the grammar;
* `ofJson_toJson_eq`, `ofJson_toJson`: the table and the rows that the written value holds;
* `Table.jsonText_read_back`: the text of a table is read as its rows.
-/
import RowQuery.Proofs.Json.Grammar
import RowQuery.Proofs.Row
import RowQuery.Table.Reading

namespace RowQuery

open Json
open List (Forall₂)

/-! ### Texts between brackets -/

namespace Json

variable {α : Type} {Item : List Char → α → Prop} {texts : List (List Char)} {items : List α}

/-- Texts that write the items of a list one by one. -/
lemma forall₂_texts {β : Type} {xs : List β} {text : β → String} {item : β → α}
    (h : ∀ x ∈ xs, Item (text x).toList (item x)) :
    Forall₂ Item ((xs.map text).map String.toList) (xs.map item) := by
  rw [List.map_map, List.forall₂_map_left_iff, List.forall₂_map_right_iff, List.forall₂_same]
  exact h

/-- Texts of items joined by commas, with the same blanks before every text, are separated. -/
lemma separated_intercalate {lead indent tail : List Char} (hlead : Blanks lead)
    (hindent : Blanks indent) (htail : Blanks tail) (h : Forall₂ Item texts items)
    (hne : texts ≠ []) :
    Separated Item
      (lead ++ ((',' :: lead).intercalate (texts.map (indent ++ ·)) ++ tail)) items := by
  have hbefore : Blanks (lead ++ indent) := hlead.append hindent
  induction h with
  | nil => exact absurd rfl hne
  | @cons text item texts items hitem hrest ih =>
      cases hrest with
      | nil => simpa using Separated.last hbefore hitem htail
      | cons hnext hmore =>
          have hseparated := Separated.cons hbefore hitem blanks_nil (ih (List.cons_ne_nil _ _))
          simpa [List.intercalate_cons_cons] using hseparated

/-- Texts joined by commas between brackets are enclosed. -/
lemma enclosed_compact (opening closing : Char) {texts : List String}
    (h : Forall₂ Item (texts.map String.toList) items) (hne : texts ≠ []) :
    Enclosed opening closing Item (opening :: ((",".intercalate texts).toList ++ [closing]))
      items := by
  have hseparated := separated_intercalate blanks_nil blanks_nil blanks_nil h (by simpa using hne)
  simpa [String.toList_intercalate, Function.comp_def] using Enclosed.items hseparated

/-- So are texts on lines of their own. -/
lemma enclosed_pretty (opening closing : Char) {texts : List String} {indent tail : String}
    (hindent : Blanks indent.toList) (htail : Blanks tail.toList)
    (h : Forall₂ Item (texts.map String.toList) items) (hne : texts ≠ []) :
    Enclosed opening closing Item
      (opening :: '\n' :: ((",\n".intercalate (texts.map (indent ++ ·))).toList
        ++ (tail.toList ++ [closing]))) items := by
  have hlead : Blanks ['\n'] := by decide
  have hseparated := separated_intercalate hlead hindent htail h (by simpa using hne)
  simpa [String.toList_intercalate, Function.comp_def] using Enclosed.items hseparated

end Json

/-! ### Values -/

namespace Value

/-- The value that the text of a cell writes. Binary numbers are left out: their texts are not
exact. -/
def toJson : Value → Json
  | null => .null
  | boolean b => .boolean b
  | integer n => .integer n.toInt
  | float _ => .null
  | string s => .string s
  | bytes b => .string (bytes b).text
  | timestamp t => .string (timestamp t).text

/-- The cell that comes back: bytes and timestamps as their texts, all others as they are. -/
def readBack : Value → Value
  | bytes b => .string (bytes b).text
  | timestamp t => .string (timestamp t).text
  | v => v

variable {v : Value}

/-- A quoted text writes the text. -/
lemma writesScalar_quote (s : String) :
    WritesScalar (tableEscaping.quote s).toList (.string s) := by
  have hstring := WritesScalar.string (spells_tableEscaping s.toList)
  rw [String.ofList_toList] at hstring
  simpa [Escaping.quote] using hstring

/-- The text of a cell that is no binary number writes its value. -/
lemma writesScalar_jsonText (h : ∀ x, v ≠ .float x) : WritesScalar v.jsonText.toList v.toJson := by
  cases v with
  | null => exact .null
  | boolean b => cases b <;> exact .boolean _
  | integer n =>
      have hlow := n.le_toInt
      have hhigh := n.toInt_lt
      exact .integer n.toInt (by omega) (by omega)
  | float x => exact absurd rfl (h x)
  | string s => exact writesScalar_quote s
  | bytes b => exact writesScalar_quote _
  | timestamp t => exact writesScalar_quote _

/-- A cell that is no binary number comes back. -/
lemma ofJson_toJson (h : ∀ x, v ≠ .float x) : Value.ofJson v.toJson = v.readBack := by
  cases v with
  | integer n =>
      have hfits : Int64.minValue.toInt ≤ n.toInt ∧ n.toInt ≤ Int64.maxValue.toInt := by
        have hlow := n.le_toInt
        have hhigh := n.toInt_lt
        exact ⟨hlow, Int.lt_add_one_iff.mp hhigh⟩
      rw [toJson, ofJson, cellInteger?, if_pos hfits, Int64.ofInt_toInt]
      rfl
  | float x => exact absurd rfl (h x)
  | null | boolean | string | bytes | timestamp => rfl

end Value

/-! ### Rows -/

/-- The object that a row is written as. -/
def Row.toJson (r : Row) : Json := .object (r.cells.map fun c => (c.1, c.2.toJson))

/-- No value of the row is a binary number. -/
def Row.Exact (r : Row) : Prop := ∀ c ∈ r.cells, ∀ x, c.2 ≠ .float x

variable {r : Row} {columns : List String} {layout : JsonLayout}

/-- A name is written if there is a value under it. -/
lemma mem_writtenNames {name : String} :
    name ∈ writtenNames columns r ↔ (r.get? name).isSome := by
  rw [writtenNames, List.mem_append, List.mem_filter, List.mem_filter, Row.mem_names_iff]
  by_cases hcolumn : name ∈ columns
  · simp [hcolumn]
  · simp [hcolumn]

/-- The cells of a row, in any order in which they are written, make its object. -/
lemma ofMembers_writtenNames (columns : List String) (r : Row) :
    ofMembers ((writtenNames columns r).map fun name =>
      (name, ((r.get? name).getD .null).toJson)) = r.toJson := by
  have hitem : ∀ m ∈ (writtenNames columns r).map (fun name =>
      (name, ((r.get? name).getD .null).toJson)), (r.get? m.1).map Value.toJson = some m.2 := by
    intro m hm
    obtain ⟨name, hname, rfl⟩ := List.mem_map.mp hm
    obtain ⟨v, hv⟩ := Option.isSome_iff_exists.mp (mem_writtenNames.mp hname)
    simp [hv]
  refine congrArg Json.object (Entry.eq_of_lookup_eq
    (Entry.ascending_foldl_insertEntry _ List.Pairwise.nil)
    (Entry.ascending_map Value.toJson r.ascending) fun name => ?_)
  rw [Entry.lookup_foldl_insertEntry (fun name => (r.get? name).map Value.toJson) hitem,
    Entry.lookup_map, List.map_map]
  split_ifs with hname
  · rfl
  · have hnone : r.get? name = none := by
      have hwritten : name ∉ writtenNames columns r := by simpa using hname
      simpa [mem_writtenNames] using hwritten
    rw [Row.get?] at hnone
    rw [hnone]
    rfl

/-- The text of a cell is a member of an object. -/
lemma member_cellText (hexact : r.Exact) {name : String} (hname : name ∈ writtenNames columns r) :
    Member (Writes 0) (cellText layout r name).toList
      (name, ((r.get? name).getD .null).toJson) := by
  obtain ⟨v, hv⟩ := Option.isSome_iff_exists.mp (mem_writtenNames.mp hname)
  have hvalue : Writes 0 v.jsonText.toList v.toJson :=
    Value.writesScalar_jsonText (hexact _ (Entry.mem_of_lookup hv))
  have hspace : Blanks [' '] := by decide
  have hspelled := spells_tableEscaping name.toList
  rw [hv, Option.getD_some]
  cases layout with
  | compact =>
      have hmember := Member.mk hspelled blanks_nil blanks_nil hvalue
      rw [String.ofList_toList] at hmember
      simpa [cellText, Escaping.quote, hv] using hmember
  | pretty =>
      have hmember := Member.mk hspelled blanks_nil hspace hvalue
      rw [String.ofList_toList] at hmember
      simpa [cellText, Escaping.quote, hv] using hmember

/-- The text of a row writes its object. -/
lemma writes_rowText (layout : JsonLayout) (columns : List String) (hexact : r.Exact) :
    Writes 1 (rowText layout columns r).toList r.toJson := by
  refine .inr (.inr ⟨_, ?_, (ofMembers_writtenNames columns r).symm⟩)
  have hmembers : Forall₂ (Member (Writes 0))
      (((writtenNames columns r).map (cellText layout r)).map String.toList)
      ((writtenNames columns r).map fun name => (name, ((r.get? name).getD .null).toJson)) :=
    forall₂_texts fun name hname => member_cellText hexact hname
  rw [rowText]
  cases hnames : writtenNames columns r with
  | nil =>
      have hempty : Enclosed '\x7b' '\x7d' (Member (Writes 0)) ['\x7b', '\x7d'] [] :=
        .empty blanks_nil
      simpa using hempty
  | cons name names =>
      rw [hnames] at hmembers
      have hne : (name :: names).map (cellText layout r) ≠ [] := List.cons_ne_nil _ _
      cases layout with
      | compact =>
          have henclosed := enclosed_compact '\x7b' '\x7d' hmembers hne
          simpa using henclosed
      | pretty =>
          have hindent : Blanks "    ".toList := by decide
          have htail : Blanks "\n  ".toList := by decide
          have henclosed := enclosed_pretty '\x7b' '\x7d' hindent htail hmembers hne
          simpa using henclosed

/-! ### Tables -/

/-- The list of objects that a table is written as. -/
def Table.toJson (t : Table) : Json := .array (t.rows.map Row.toJson)

/-- The text of a table writes the list of the objects of its rows. -/
lemma writes_jsonText {t : Table} (layout : JsonLayout) (hexact : ∀ r ∈ t.rows, r.Exact) :
    Writes 2 (t.jsonText layout).toList t.toJson := by
  refine .inr (.inl ⟨_, ?_, rfl⟩)
  have hrows : Forall₂ (Writes 1) ((t.rows.map (rowText layout t.columns)).map String.toList)
      (t.rows.map Row.toJson) :=
    forall₂_texts fun r hr => writes_rowText layout t.columns (hexact r hr)
  rw [Table.jsonText]
  cases htexts : t.rows.map (rowText layout t.columns) with
  | nil =>
      rw [List.map_eq_nil_iff.mp htexts]
      have hempty : Enclosed '[' ']' (Writes 1) ['[', ']'] [] := .empty blanks_nil
      simpa using hempty
  | cons text texts =>
      rw [htexts] at hrows
      have hne : text :: texts ≠ [] := List.cons_ne_nil _ _
      cases layout with
      | compact =>
          have henclosed := enclosed_compact '[' ']' hrows hne
          simpa using henclosed
      | pretty =>
          have hindent : Blanks "  ".toList := by decide
          have htail : Blanks "\n".toList := by decide
          have henclosed := enclosed_pretty '[' ']' hindent htail hrows hne
          simpa using henclosed

/-- The cells of the object of a row. -/
lemma objectCells?_toJson (hexact : r.Exact) :
    objectCells? r.toJson = some (r.mapValues Value.readBack).cells := by
  rw [Row.toJson, objectCells?, List.map_map]
  refine congrArg some (List.map_congr_left fun c hc => ?_)
  exact congrArg (Prod.mk c.1) (Value.ofJson_toJson (hexact c hc))

/-- The cells of the objects of rows. -/
lemma objectsCells_toJson {rows : List Row} (index : ℕ) (hexact : ∀ r ∈ rows, r.Exact) :
    objectsCells index (rows.map Row.toJson)
      = .ok (rows.map fun r => (r.mapValues Value.readBack).cells) := by
  induction rows generalizing index with
  | nil => rfl
  | cons r rows ih =>
      rw [List.map_cons, objectsCells, objectCells?_toJson (hexact r List.mem_cons_self)]
      simp only [ih (index + 1) fun r' hr' => hexact r' (List.mem_cons_of_mem r hr')]
      rfl

/-- The table of a list of rows that are written; its columns are their names. -/
lemma ofJson_toJson_eq {t : Table} (name : String) (hexact : ∀ r ∈ t.rows, r.Exact) :
    Table.ofJson name t.toJson
      = .ok ⟨name, columnsOf (t.rows.map fun r => (r.mapValues Value.readBack).cells),
          t.rows.map (Row.mapValues Value.readBack), .exact⟩ := by
  have hrows : (t.rows.map fun r => (r.mapValues Value.readBack).cells).map Row.ofList
      = t.rows.map (Row.mapValues Value.readBack) := by
    rw [List.map_map]
    exact List.map_congr_left fun r _ => Row.ofList_cells _
  rw [Table.toJson, Table.ofJson, objectsCells_toJson 0 hexact, ← hrows]
  rfl

/-- The rows that are read from it, whatever the columns. -/
lemma ofJson_toJson {t : Table} (name : String) (hexact : ∀ r ∈ t.rows, r.Exact) :
    ∃ columns, Table.ofJson name t.toJson
      = .ok ⟨name, columns, t.rows.map (Row.mapValues Value.readBack), .exact⟩ :=
  ⟨_, ofJson_toJson_eq name hexact⟩

/-- **What a table writes is read.** The text of a table without binary numbers follows the grammar
in either layout, so that everyone who reads by the grammar reads the same value, and the rows of
this value are those of the table, in their order and with the same names. Bytes and timestamps are
replaced by their texts. -/
theorem Table.jsonText_read_back (t : Table) (layout : JsonLayout) (name : String)
    (hexact : ∀ r ∈ t.rows, r.Exact) :
    ∃ v columns, Json.Writes 2 (t.jsonText layout).toList v
      ∧ Json.ofText? (t.jsonText layout) = some v
      ∧ Table.ofJson name v
          = .ok ⟨name, columns, t.rows.map (Row.mapValues Value.readBack), .exact⟩ := by
  obtain ⟨columns, hcolumns⟩ := ofJson_toJson name hexact
  have hwrites := writes_jsonText layout hexact
  exact ⟨t.toJson, columns, hwrites, ofText?_of_writes hwrites (by decide), hcolumns⟩

/-- A column that stands twice is written twice, and a name that is no column comes last; bytes that
are no text come back as their text, and a row without cells comes back. -/
theorem Table.jsonText_read_back_two_rows :
    let t : Table := ⟨"t", ["a", "c", "a"],
      [.ofList [("\"b\n", .bytes [0xE2, 0x82, 0x62]), ("a", .integer (-5))], .empty], .exact⟩
    (∀ r ∈ t.rows, r.Exact)
    ∧ t.jsonText .compact
        = "[\x7b\"a\":-5,\"a\":-5,\"\\\"b\\n\":\"\ufffdb\"\x7d,\x7b\x7d]"
    ∧ t.rows.map (Row.mapValues Value.readBack)
        = [.ofList [("a", .integer (-5)), ("\"b\n", .string "\ufffdb")], .empty]
    ∧ ∃ v columns, Json.Writes 2 (t.jsonText .compact).toList v
        ∧ Json.ofText? (t.jsonText .compact) = some v
        ∧ Table.ofJson "again" v
            = .ok ⟨"again", columns, t.rows.map (Row.mapValues Value.readBack), .exact⟩ := by
  intro t
  have hcells : t.rows.map Row.cells
      = [[("\"b\n", .bytes [0xE2, 0x82, 0x62]), ("a", .integer (-5))], []] := by decide +kernel
  have hexact : ∀ r ∈ t.rows, r.Exact := by
    intro r hr
    have hmem : r.cells ∈ t.rows.map Row.cells := List.mem_map_of_mem hr
    rw [hcells] at hmem
    rcases List.mem_pair.mp hmem with h | h <;> simp [Row.Exact, h]
  exact ⟨hexact, by decide +kernel, by decide +kernel, t.jsonText_read_back .compact "again" hexact⟩

end RowQuery
