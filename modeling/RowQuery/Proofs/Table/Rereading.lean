/-
Tables that are read, written and read again.

Reading settles three things that a text may leave open. The members of an object are put in the
order of their names, once each; lists and objects in cells become their texts; and the columns are
the names in the order in which they first occur. Writing puts the cells of a row in the order of
the columns, but reading takes them back to the order of their names. So what is written of a table
holds the same table, and nothing is left to be changed by reading it once more.

* `Json.fitsCell`, `Json.HasIntegerCells`: no cell is a number other than an integer of 64 bits;
* `Table.exists_members_of_mem_rows`, `Table.columns_eq_columnsOf`: the cells and the columns of a
  table that an ordered value holds;
* `Table.ofJson_toJson_of_ofJson`: the value that is written of a table holds the table;
* `Query.plain`: the query that only reads and writes;
* `Query.plain_reread`: a plain query answers its own answer as it answers the text itself.
-/
import RowQuery.Proofs.Json.Order
import RowQuery.Proofs.Json.Table
import RowQuery.Proofs.Table.Reading

namespace RowQuery

/-! ### Cells -/

namespace Json

/-- The items of a list; other values have none. -/
def items : Json → List Json
  | array items => items
  | _ => []

/-- The members of an object; other values have none. -/
def members : Json → List (String × Json)
  | object members => members
  | _ => []

/-- Whether a value is no number, or an integer that 64 bits hold with its sign. -/
def fitsCell : Json → Bool
  | integer n => Int64.minValue.toInt ≤ n ∧ n ≤ Int64.maxValue.toInt
  | float _ => false
  | _ => true

/-- No cell of the rows is a number other than an integer of 64 bits. Inside of lists and objects in
cells there may be any numbers. -/
def HasIntegerCells (v : Json) : Prop := ∀ item ∈ v.items, ∀ m ∈ item.members, m.2.fitsCell

instance (v : Json) : Decidable v.HasIntegerCells :=
  inferInstanceAs (Decidable (∀ item ∈ v.items, ∀ m ∈ item.members, m.2.fitsCell))

end Json

namespace Value

/-- A cell that has been read stays as it is when it is read again. -/
lemma readBack_ofJson (v : Json) : (ofJson v).readBack = ofJson v := by
  cases v with
  | integer n =>
      rw [ofJson]
      cases cellInteger? n <;> rfl
  | null | boolean | float | string | array | object => rfl

/-- Only numbers become binary numbers, and no integer of 64 bits does. -/
lemma ofJson_ne_float {v : Json} (h : v.fitsCell) (x : Number.Binary64) : ofJson v ≠ .float x := by
  cases v with
  | integer n =>
      rw [ofJson, cellInteger?, if_pos (of_decide_eq_true h)]
      exact Value.noConfusion
  | float y => cases h
  | null | boolean | string | array | object => exact Value.noConfusion

end Value

/-! ### Tables -/

namespace Table

variable {name : String} {items : List Json} {t : Table}

/-- The rows that ordered objects make have the cells of the objects. -/
lemma map_cells_ofList (hordered : (Json.array items).Ordered) {objects : List (List Cell)}
    (h : objectsCells 0 items = .ok objects) :
    (objects.map Row.ofList).map Row.cells = objects := by
  rw [List.map_map]
  refine (List.map_congr_left fun cells hcells => ?_).trans (List.map_id objects)
  obtain ⟨members, hmembers, rfl⟩ := exists_members_of_mem_objects h hcells
  cases hordered with
  | array hitems =>
      cases hitems _ hmembers with
      | object hascending _ =>
          have hcells := Entry.ascending_map Value.ofJson hascending
          exact congrArg Row.cells (Row.ofList_cells ⟨_, hcells⟩)

section

variable (hordered : (Json.array items).Ordered) (h : ofJson name (.array items) = .ok t)
include hordered h

/-- The cells of a row are the members of an object, as the cells that they become. -/
lemma exists_members_of_mem_rows {r : Row} (hr : r ∈ t.rows) :
    ∃ members, Json.object members ∈ items
      ∧ r.cells = members.map fun m => (m.1, Value.ofJson m.2) := by
  obtain ⟨_, objects, hitems, hobjects, rfl⟩ := exists_of_ofJson h
  cases hitems
  have hcells : r.cells ∈ objects :=
    map_cells_ofList hordered hobjects ▸ List.mem_map_of_mem hr
  exact exists_members_of_mem_objects hobjects hcells

/-- The columns are the names of the cells of the rows. -/
lemma columns_eq_columnsOf : t.columns = columnsOf (t.rows.map Row.cells) := by
  obtain ⟨_, objects, hitems, hobjects, rfl⟩ := exists_of_ofJson h
  cases hitems
  rw [map_cells_ofList hordered hobjects]

/-- A row stays as it is when it is read again. -/
lemma mapValues_readBack {r : Row} (hr : r ∈ t.rows) : r.mapValues Value.readBack = r := by
  obtain ⟨members, -, hcells⟩ := exists_members_of_mem_rows hordered h hr
  refine Row.mapValues_eq_self fun c hc => ?_
  rw [hcells] at hc
  obtain ⟨m, -, rfl⟩ := List.mem_map.mp hc
  exact Value.readBack_ofJson m.2

variable (hintegers : (Json.array items).HasIntegerCells)
include hintegers

/-- A row has no binary numbers. -/
lemma exact_of_mem_rows {r : Row} (hr : r ∈ t.rows) : r.Exact := by
  obtain ⟨members, hmembers, hcells⟩ := exists_members_of_mem_rows hordered h hr
  intro c hc
  rw [hcells] at hc
  obtain ⟨m, hm, rfl⟩ := List.mem_map.mp hc
  exact Value.ofJson_ne_float (hintegers _ hmembers m hm)

/-- The value that is written of the table holds the table. -/
lemma ofJson_toJson_of_ofJson : ofJson name t.toJson = .ok t := by
  have hrows : ∀ r ∈ t.rows, r.mapValues Value.readBack = r :=
    fun r hr => mapValues_readBack hordered h hr
  have hcells : (t.rows.map fun r => (r.mapValues Value.readBack).cells) = t.rows.map Row.cells :=
    List.map_congr_left fun r hr => congrArg Row.cells (hrows r hr)
  have hread := ofJson_toJson_eq name fun r hr => exact_of_mem_rows hordered h hintegers hr
  rw [hcells, ← columns_eq_columnsOf hordered h,
    (List.map_congr_left hrows).trans (List.map_id' t.rows)] at hread
  obtain ⟨_, objects, -, -, rfl⟩ := exists_of_ofJson h
  exact hread

end

end Table

/-! ### Queries -/

namespace Query

/-- The query that reads a text and writes what it holds, without filtering, grouping, sorting or
stripping. -/
def plain (strict : Bool) (layout : JsonLayout) (text : String) : Query :=
  { input := some text, strict, layout }

variable {strict : Bool} {layout : JsonLayout} {text : String} {t : Table}

/-- A plain query has the table that its text holds. -/
lemma table_plain_eq_ok_iff :
    (plain strict layout text).table = .ok t
      ↔ ∃ v, Json.ofText? text = some v ∧ Table.ofJson "input" v = .ok t := by
  have hsource : (plain strict layout text).table = (plain strict layout text).source := by
    rw [table]
    cases (plain strict layout text).source <;> rfl
  rw [hsource, source]
  cases htext : Json.ofText? text with
  | none => simp [plain, htext, throw, throwThe, MonadExceptOf.throw]
  | some v => simp [plain, htext, mapError_eq_ok_iff]

end Query

/-- **A second reading changes nothing.** A plain query is run on a text, no cell of whose rows is a
number other than an integer of 64 bits. Then plain queries find the same table in its answer as in
the text itself, rows, columns and all, and answer both with the same text, in either layout. -/
theorem Query.plain_reread {strict strict' : Bool} {first second : JsonLayout}
    {text answer : String}
    (hintegers : ∀ v ∈ Json.ofText? text, v.HasIntegerCells)
    (haccepts : (plain strict first text).run = .ok answer) :
    (plain strict' second answer).table = (plain strict second text).table
    ∧ ∃ again, (plain strict second text).run = .ok again
        ∧ (plain strict' second answer).run = .ok again := by
  obtain ⟨t, htable, hanswer⟩ := bind_eq_ok_iff.mp haccepts
  obtain ⟨v, htext, ht⟩ := table_plain_eq_ok_iff.mp htable
  obtain ⟨items, -, rfl, -, -⟩ := Table.exists_of_ofJson ht
  have hordered := Json.ordered_of_ofText? htext
  cases hanswer
  have hread : Json.ofText? (t.jsonText first) = some t.toJson := by
    refine Json.ofText?_of_writes (writes_jsonText first fun r hr => ?_) (by decide)
    exact Table.exact_of_mem_rows hordered ht (hintegers _ htext) hr
  have hholds := Table.ofJson_toJson_of_ofJson hordered ht (hintegers _ htext)
  have hfirst : (plain strict second text).table = .ok t :=
    table_plain_eq_ok_iff.mpr ⟨_, htext, ht⟩
  have hsecond : (plain strict' second (t.jsonText first)).table = .ok t :=
    table_plain_eq_ok_iff.mpr ⟨_, hread, hholds⟩
  refine ⟨hsecond.trans hfirst.symm, t.jsonText second, ?_, ?_⟩
  · exact bind_eq_ok_iff.mpr ⟨t, hfirst, rfl⟩
  · exact bind_eq_ok_iff.mpr ⟨t, hsecond, rfl⟩

/-- The name that stands twice has its later value, the list becomes its text, and every row is
written in the order in which the names first occur, though the last row is read in another one. -/
theorem Query.plain_reread_three_rows :
    let text := "[\x7b\"b\":1,\"a\":[1.50,\x7b\"y\":-0.0\x7d],\"b\":-2\x7d, \x7b\x7d,"
      ++ "\x7b\"b\":\"\\u00e9\\n\",\"\\u0041\":true\x7d]"
    let answer := "[\n  \x7b\n    \"a\": \"[1.5,\x7b\\\"y\\\":-0.0\x7d]\",\n    \"b\": -2\n  \x7d,"
      ++ "\n  \x7b\x7d,\n  \x7b\n    \"b\": \"é\\n\",\n    \"A\": true\n  \x7d\n]"
    let again := "[\x7b\"a\":\"[1.5,\x7b\\\"y\\\":-0.0\x7d]\",\"b\":-2\x7d,\x7b\x7d,"
      ++ "\x7b\"b\":\"é\\n\",\"A\":true\x7d]"
    (∀ v ∈ Json.ofText? text, v.HasIntegerCells)
    ∧ (plain false .pretty text).run = .ok answer
    ∧ (plain false .compact text).run = .ok again
    ∧ (plain true .compact answer).run = .ok again := by
  intro text answer again
  have hintegers : ∀ v ∈ Json.ofText? text, v.HasIntegerCells := by decide +kernel
  have hanswer : (plain false .pretty text).run = .ok answer := by decide +kernel
  have hagain : (plain false .compact text).run = .ok again := by decide +kernel
  obtain ⟨other, hother, hreread⟩ : ∃ other, (plain false .compact text).run = .ok other
      ∧ (plain true .compact answer).run = .ok other := (plain_reread hintegers hanswer).2
  cases hagain.symm.trans hother
  exact ⟨hintegers, hanswer, hagain, hreread⟩

end RowQuery
