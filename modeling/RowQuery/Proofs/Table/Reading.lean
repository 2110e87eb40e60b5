/-
Tables that JSON values hold.

A value is a table if it is a list of objects. The columns of the table are the names of the
objects, each once, and a row has no other names than its object.

* `objectsCells_eq_ok`: the cells of objects, one list for every item;
* `Table.exists_of_ofJson`: the parts of a table that a value holds;
* `Table.mem_columns_of_ofJson`, `Table.nodup_columns_of_ofJson`: all names in its rows are
  columns, and no column stands twice.
-/
import RowQuery.Proofs.Filtering.Strictness
import RowQuery.Proofs.Grouping
import RowQuery.Proofs.Row

namespace RowQuery

/-- The cells of objects are those of the items, one by one. -/
lemma objectsCells_eq_ok {index : ℕ} {items : List Json} {objects : List (List Cell)}
    (h : objectsCells index items = .ok objects) : items.map objectCells? = objects.map some := by
  induction items generalizing index objects with
  | nil =>
      cases h
      rfl
  | cons item items ih =>
      rw [objectsCells] at h
      cases hitem : objectCells? item with
      | none => simp [hitem] at h
      | some cells =>
          simp only [hitem] at h
          obtain ⟨rest, hrest, hcons⟩ := bind_eq_ok_iff.mp h
          cases hcons
          rw [List.map_cons, List.map_cons, hitem, ih hrest]

/-- The cells of an object are the members of an item, as the cells that they become. -/
lemma exists_members_of_mem_objects {index : ℕ} {items : List Json} {objects : List (List Cell)}
    (h : objectsCells index items = .ok objects) {cells : List Cell} (hcells : cells ∈ objects) :
    ∃ members, Json.object members ∈ items
      ∧ cells = members.map fun m => (m.1, Value.ofJson m.2) := by
  have hmem : some cells ∈ items.map objectCells? :=
    objectsCells_eq_ok h ▸ List.mem_map_of_mem hcells
  obtain ⟨item, hitem, hobject⟩ := List.mem_map.mp hmem
  cases item with
  | object members => exact ⟨members, hitem, (Option.some_injective _ hobject).symm⟩
  | null | boolean | integer | float | string | array => cases hobject

/-- A row has no other names than the cells that are inserted and the ones that it had. -/
lemma Row.mem_names_foldl_insert {cells : List Cell} {r : Row} {name : String}
    (h : name ∈ (cells.foldl (fun r c => r.insert c.1 c.2) r).names) :
    name ∈ cells.map (·.1) ∨ name ∈ r.names := by
  induction cells generalizing r with
  | nil => exact .inr h
  | cons c cells ih =>
      rcases ih h with hcells | hinsert
      · exact .inl (List.mem_cons_of_mem _ hcells)
      · rcases mem_names_insert.mp hinsert with rfl | hold
        · exact .inl List.mem_cons_self
        · exact .inr hold

namespace Table

variable {name : String} {v : Json} {t : Table}

/-- A value that holds a table is a list of objects, of which the table is made. -/
lemma exists_of_ofJson (h : ofJson name v = .ok t) :
    ∃ items objects, v = .array items ∧ objectsCells 0 items = .ok objects
      ∧ t = ⟨name, columnsOf objects, objects.map Row.ofList, .exact⟩ := by
  cases v with
  | array items =>
      obtain ⟨objects, hobjects, ht⟩ := bind_eq_ok_iff.mp h
      cases ht
      exact ⟨items, objects, rfl, hobjects, rfl⟩
  | null | boolean | integer | float | string | object => cases h

/-- No column of a table that a value holds stands twice. -/
lemma nodup_columns_of_ofJson (h : ofJson name v = .ok t) : t.columns.Nodup := by
  obtain ⟨-, objects, -, -, rfl⟩ := exists_of_ofJson h
  exact nodup_eraseDups _

/-- All names in the rows of a table that a value holds are columns. -/
lemma mem_columns_of_ofJson (h : ofJson name v = .ok t) {r : Row} (hr : r ∈ t.rows)
    {column : String} (hcolumn : column ∈ r.names) : column ∈ t.columns := by
  obtain ⟨-, objects, -, -, rfl⟩ := exists_of_ofJson h
  obtain ⟨cells, hcells, rfl⟩ := List.mem_map.mp hr
  rcases Row.mem_names_foldl_insert hcolumn with hname | hempty
  · exact List.mem_eraseDups.mpr (List.mem_flatMap.mpr ⟨cells, hcells, hname⟩)
  · cases hempty

end Table

end RowQuery
