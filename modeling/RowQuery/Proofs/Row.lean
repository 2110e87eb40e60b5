/-
Rows by what is found in them.

Names stand in ascending order in a row, so a row is known when the value under every name is. A
list of cells makes a row in which the later of two cells with one name counts; the cells of a row
make the row itself.

* `Entry.eq_of_lookup_eq`: entries in ascending order are the same if the same is found in them;
* `Entry.lookup_foldl_insertEntry`: what is found after entries have been inserted one by one;
* `Row.ofList_cells`: the cells of a row make the row;
* `Row.mapValues`: a row with every value changed, under the same names.
-/
import Mathlib.Data.List.Dedup
import Mathlib.Data.List.Sort
import Mathlib.Data.String.Basic
import Mathlib.Tactic
import RowQuery.Row

namespace RowQuery

/-! ### Entries -/

namespace Entry

variable {α β : Type} {entries entries' : List (Entry α)} {name : String}

/-- What is found is under the name. -/
lemma mem_of_lookup {a : α} (h : lookup name entries = some a) : (name, a) ∈ entries := by
  induction entries with
  | nil => cases h
  | cons e rest ih =>
      obtain ⟨n, b⟩ := e
      rw [lookup] at h
      split_ifs at h with hname
      · cases h
        rw [hname]
        exact List.mem_cons_self
      · exact List.mem_cons_of_mem _ (ih h)

/-- In ascending order every entry is found. -/
lemma lookup_of_mem {e : Entry α} (hascending : Ascending entries) (he : e ∈ entries) :
    lookup e.1 entries = some e.2 := by
  induction entries with
  | nil => exact absurd he List.not_mem_nil
  | cons head rest ih =>
      obtain ⟨n, b⟩ := head
      obtain ⟨hhead, hrest⟩ := List.pairwise_cons.mp hascending
      rcases List.mem_cons.mp he with rfl | he
      · rw [lookup, if_pos rfl]
      · rw [lookup, if_neg (hhead e he).ne', ih hrest he]

/-- In ascending order no entry stands twice. -/
lemma nodup_of_ascending (h : Ascending entries) : entries.Nodup := by
  refine List.Pairwise.imp ?_ h
  rintro a _ hlt rfl
  exact lt_irrefl a.1 hlt

/-- Entries in ascending order in which the same is found are the same. -/
lemma eq_of_lookup_eq (h : Ascending entries) (h' : Ascending entries')
    (hlookup : ∀ name, lookup name entries = lookup name entries') : entries = entries' := by
  have hmem : ∀ e, e ∈ entries ↔ e ∈ entries' := by
    intro e
    constructor
    · intro he
      exact mem_of_lookup ((hlookup e.1).symm.trans (lookup_of_mem h he))
    · intro he
      exact mem_of_lookup ((hlookup e.1).trans (lookup_of_mem h' he))
  refine List.Perm.eq_of_pairwise (fun a b _ _ hab hba => absurd hba (lt_asymm hab)) h h' ?_
  exact (List.perm_ext_iff_of_nodup (nodup_of_ascending h) (nodup_of_ascending h')).mpr hmem

/-- What is found under a name after items are changed under their names. -/
lemma lookup_map (f : α → β) (name : String) (entries : List (Entry α)) :
    lookup name (entries.map fun e => (e.1, f e.2)) = (lookup name entries).map f := by
  induction entries with
  | nil => rfl
  | cons e rest ih =>
      rw [List.map_cons, lookup, lookup]
      split_ifs
      · rfl
      · exact ih

/-- Changing items under their names keeps the order. -/
lemma ascending_map (f : α → β) (h : Ascending entries) :
    Ascending (entries.map fun e => (e.1, f e.2)) :=
  List.pairwise_map.mpr h

/-- Entries inserted one by one are in ascending order. -/
lemma ascending_foldl_insertEntry (entries : List (Entry α)) {held : List (Entry α)}
    (h : Ascending held) :
    Ascending (entries.foldl (fun held e => insertEntry e.1 e.2 held) held) := by
  induction entries generalizing held with
  | nil => exact h
  | cons e rest ih => exact ih (ascending_insertEntry e.1 e.2 h)

/-- After entries with items that their names determine have been inserted, the item of a name
among theirs is found. -/
lemma lookup_foldl_insertEntry (item : String → Option α)
    (h : ∀ e ∈ entries, item e.1 = some e.2) (held : List (Entry α)) (name : String) :
    lookup name (entries.foldl (fun held e => insertEntry e.1 e.2 held) held)
      = if name ∈ entries.map (·.1) then item name else lookup name held := by
  induction entries generalizing held with
  | nil => rfl
  | cons e rest ih =>
      rw [List.foldl_cons, ih fun e' he' => h e' (List.mem_cons_of_mem e he'), List.map_cons]
      by_cases hrest : name ∈ rest.map (·.1)
      · rw [if_pos hrest, if_pos (List.mem_cons_of_mem _ hrest)]
      · rw [if_neg hrest]
        by_cases hname : name = e.1
        · rw [hname, lookup_insertEntry_self, if_pos List.mem_cons_self, h e List.mem_cons_self]
        · rw [lookup_insertEntry_of_ne _ _ hname, if_neg (by simp [hname, hrest])]

end Entry

/-! ### Rows -/

namespace Row

/-- Rows with the same value under every name are the same. -/
lemma eq_of_get?_eq {r r' : Row} (h : ∀ name, r.get? name = r'.get? name) : r = r' := by
  obtain ⟨cells, hcells⟩ := r
  obtain ⟨cells', hcells'⟩ := r'
  obtain rfl : cells = cells' := Entry.eq_of_lookup_eq hcells hcells' h
  rfl

/-- The cells of the row that a list makes. -/
lemma cells_foldl_insert (cells : List Cell) (r : Row) :
    (cells.foldl (fun r c => r.insert c.1 c.2) r).cells
      = cells.foldl (fun held c => Entry.insertEntry c.1 c.2 held) r.cells := by
  induction cells generalizing r with
  | nil => rfl
  | cons c rest ih => exact ih (r.insert c.1 c.2)

/-- The cells of a row make the row. -/
lemma ofList_cells (r : Row) : ofList r.cells = r := by
  refine eq_of_get?_eq fun name => ?_
  have hitem : ∀ c ∈ r.cells, r.get? c.1 = some c.2 :=
    fun c hc => Entry.lookup_of_mem r.ascending hc
  rw [get?, ofList, cells_foldl_insert, Entry.lookup_foldl_insertEntry r.get? hitem]
  split_ifs with hname
  · rfl
  · refine (Entry.lookup_eq_none fun c hc heq => hname ?_).symm
    exact List.mem_map.mpr ⟨c, hc, heq⟩

/-- A name is one of the row if there is a value under it. -/
lemma mem_names_iff {r : Row} {name : String} : name ∈ r.names ↔ (r.get? name).isSome := by
  rw [names, List.mem_map, Option.isSome_iff_exists]
  constructor
  · rintro ⟨c, hc, rfl⟩
    exact ⟨c.2, Entry.lookup_of_mem r.ascending hc⟩
  · rintro ⟨v, hv⟩
    exact ⟨(name, v), Entry.mem_of_lookup hv, rfl⟩

/-- The names of a row stand in ascending order. -/
lemma pairwise_names (r : Row) : r.names.Pairwise (· < ·) :=
  List.pairwise_map.mpr r.ascending

/-- No name stands twice in a row. -/
lemma nodup_names (r : Row) : r.names.Nodup :=
  r.pairwise_names.imp fun hlt => hlt.ne

/-- The names after an insertion. -/
lemma mem_names_insert {r : Row} {name other : String} {v : Value} :
    other ∈ (r.insert name v).names ↔ other = name ∨ other ∈ r.names := by
  rw [mem_names_iff, mem_names_iff]
  by_cases hname : other = name
  · simp [hname]
  · simp [get?_insert_of_ne r v hname, hname]

/-- An erasure brings no name. -/
lemma mem_names_of_erase {r : Row} {name other : String} (h : other ∈ (r.erase name).names) :
    other ∈ r.names := by
  obtain ⟨c, hc, rfl⟩ := List.mem_map.mp h
  exact List.mem_map_of_mem (List.mem_filter.mp hc).1

/-- The row with every value changed, under the same names. -/
def mapValues (f : Value → Value) (r : Row) : Row :=
  ⟨r.cells.map fun c => (c.1, f c.2), Entry.ascending_map f r.ascending⟩

/-- A change that no value takes leaves the row as it is. -/
lemma mapValues_eq_self {f : Value → Value} {r : Row} (h : ∀ c ∈ r.cells, f c.2 = c.2) :
    r.mapValues f = r := by
  have hcells : (r.cells.map fun c => (c.1, f c.2)) = r.cells :=
    (List.map_congr_left fun c hc => congrArg (Prod.mk c.1) (h c hc)).trans (List.map_id' _)
  exact eq_of_get?_eq fun name => congrArg (Entry.lookup name) hcells

end Row

end RowQuery
