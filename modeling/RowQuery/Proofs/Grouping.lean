/-
The groups of rows.

The rows are read once, and for every group three things are kept: where it stands among the
groups, its first row, and how many rows it has. They stay in line with one another, so that
after any rows there is one group for every list of texts, in the order in which the lists
first appear.

* `distinctTexts`: the lists of texts of rows, each once, in the order of their first rows;
* `Grouping.Describes`: what the three parts say of the rows that have been read;
* `Grouping.Describes.add`, `Grouping.describes_ofRows`: one row more keeps that, and so do all;
* `groupBy_one_row_per_texts`: the columns, the keys and the sizes of a grouped table.
-/
import Mathlib.Tactic
import RowQuery.Table.Grouping

namespace RowQuery

/-! ### Each item once -/

section EraseDups

variable {α : Type} [BEq α] [LawfulBEq α]

/-- An item at the end is left out if it stands before, and is the last one otherwise. -/
lemma eraseDups_concat (l : List α) (a : α) [Decidable (a ∈ l)] :
    (l ++ [a]).eraseDups = if a ∈ l then l.eraseDups else l.eraseDups ++ [a] := by
  rw [List.eraseDups_append]
  split
  · next h => simp [List.removeAll, h]
  · next h => simp [List.removeAll, h, List.eraseDups_cons]

/-- Each item stands once. -/
lemma nodup_eraseDups (l : List α) : l.eraseDups.Nodup := by
  classical
  induction l using List.reverseRecOn with
  | nil => simp
  | append_singleton l b ih =>
      rw [eraseDups_concat]
      split
      · exact ih
      · next h =>
        rw [← List.concat_eq_append, List.nodup_concat]
        exact ⟨fun hb => h (List.mem_eraseDups.mp hb), ih⟩

/-- The items stand in the order in which they first stood. -/
lemma pairwise_idxOf_eraseDups (l : List α) :
    l.eraseDups.Pairwise fun a b => l.idxOf a < l.idxOf b := by
  classical
  induction l using List.reverseRecOn with
  | nil => simp
  | append_singleton l b ih =>
      have hold : l.eraseDups.Pairwise fun a a' => (l ++ [b]).idxOf a < (l ++ [b]).idxOf a' := by
        refine List.Pairwise.imp_of_mem (fun ha ha' hlt => ?_) ih
        rwa [List.idxOf_append_of_mem (List.mem_eraseDups.mp ha),
          List.idxOf_append_of_mem (List.mem_eraseDups.mp ha')]
      rw [eraseDups_concat]
      split
      · exact hold
      · next h =>
        refine List.pairwise_append.mpr ⟨hold, List.pairwise_singleton _ b, fun a ha a' ha' => ?_⟩
        obtain rfl := List.mem_singleton.mp ha'
        have ha := List.mem_eraseDups.mp ha
        have hlt : l.idxOf a < l.length := List.idxOf_lt_length_iff.mpr ha
        rw [List.idxOf_append_of_mem ha, List.idxOf_append_of_notMem h]
        omega

/-- How often the items stand in a list makes up its length. -/
lemma sum_count_eraseDups (l : List α) : (l.eraseDups.map l.count).sum = l.length := by
  classical
  have hperm : l.eraseDups.Perm l.dedup :=
    (List.perm_ext_iff_of_nodup (nodup_eraseDups l) l.nodup_dedup).mpr fun a => by
      rw [List.mem_eraseDups, List.mem_dedup]
  calc (l.eraseDups.map l.count).sum
      = (l.dedup.map l.count).sum := (hperm.map l.count).sum_eq
    _ = l.length := by
      rw [← List.sum_map_count_dedup_eq_length l]
      simp only [List.count_eq_countP]
      congr!

end EraseDups

/-! ### Groups -/

/-- The lists of texts of rows in columns, each once, in the order in which they first appear. -/
def distinctTexts (columns : List String) (rows : List Row) : List (List String) :=
  (rows.map (groupTexts columns)).eraseDups

/-- How many rows have given texts in columns. -/
def countWithTexts (columns : List String) (rows : List Row) (texts : List String) : Nat :=
  (rows.map (groupTexts columns)).count texts

/-- The first row with given texts in columns. -/
def firstWithTexts? (columns : List String) (rows : List Row) (texts : List String) : Option Row :=
  rows.find? fun r => groupTexts columns r == texts

variable {columns : List String} {rows : List Row}

/-- The texts of a row are those of a group exactly if a row before it has them. -/
lemma mem_distinctTexts {texts : List String} :
    texts ∈ distinctTexts columns rows ↔ ∃ r ∈ rows, groupTexts columns r = texts := by
  rw [distinctTexts, List.mem_eraseDups, List.mem_map]

lemma nodup_distinctTexts (columns : List String) (rows : List Row) :
    (distinctTexts columns rows).Nodup :=
  nodup_eraseDups _

/-- One row more brings its texts, unless they have appeared before. -/
lemma distinctTexts_concat (r : Row) :
    distinctTexts columns (rows ++ [r])
      = if groupTexts columns r ∈ distinctTexts columns rows then distinctTexts columns rows
        else distinctTexts columns rows ++ [groupTexts columns r] := by
  have hmem : groupTexts columns r ∈ rows.map (groupTexts columns)
      ↔ groupTexts columns r ∈ distinctTexts columns rows := List.mem_eraseDups.symm
  rw [distinctTexts, List.map_append, List.map_singleton, eraseDups_concat]
  simp only [hmem]
  rfl

/-- One row more counts for its own texts only. -/
lemma countWithTexts_concat (r : Row) (texts : List String) :
    countWithTexts columns (rows ++ [r]) texts
      = countWithTexts columns rows texts + if groupTexts columns r = texts then 1 else 0 := by
  simp [countWithTexts, List.count_singleton]

/-- Texts that have not appeared are those of no row. -/
lemma countWithTexts_of_not_mem {texts : List String}
    (h : texts ∉ distinctTexts columns rows) : countWithTexts columns rows texts = 0 :=
  List.count_eq_zero.mpr fun hmem => h (List.mem_eraseDups.mpr hmem)

/-- Texts that have appeared have a first row, also after one row more. -/
lemma firstWithTexts?_concat_of_mem {texts : List String}
    (h : texts ∈ distinctTexts columns rows) (r : Row) :
    firstWithTexts? columns (rows ++ [r]) texts = firstWithTexts? columns rows texts := by
  obtain ⟨r', hr', htexts⟩ := mem_distinctTexts.mp h
  have hsome : (firstWithTexts? columns rows texts).isSome :=
    List.find?_isSome.mpr ⟨r', hr', beq_iff_eq.mpr htexts⟩
  rw [firstWithTexts?, List.find?_append]
  exact Option.or_of_isSome hsome

/-- The first row with texts that have not appeared before is the one that brings them. -/
lemma firstWithTexts?_concat_self {r : Row}
    (h : groupTexts columns r ∉ distinctTexts columns rows) :
    firstWithTexts? columns (rows ++ [r]) (groupTexts columns r) = some r := by
  have hnone : rows.find? (fun r' => groupTexts columns r' == groupTexts columns r) = none :=
    List.find?_eq_none.mpr fun r' hr' htexts =>
      h (mem_distinctTexts.mpr ⟨r', hr', beq_iff_eq.mp htexts⟩)
  rw [firstWithTexts?, List.find?_append, hnone]
  simp

namespace Grouping

variable {g : Grouping}

/-- The groups are those of the rows that have been read: one for every list of texts, in the order
of their first rows, and each part of the record has them in this order. -/
structure Describes (columns : List String) (rows : List Row) (g : Grouping) : Prop where
  positions : ∀ texts i,
    g.positions.lookup texts = some i ↔ (distinctTexts columns rows)[i]? = some texts
  heads : g.heads.map some = (distinctTexts columns rows).map fun texts =>
    (firstWithTexts? columns rows texts).map (groupHead columns texts)
  sizes : g.sizes = (distinctTexts columns rows).map (countWithTexts columns rows)

/-- There are as many first rows as lists of texts. -/
lemma Describes.length_heads (h : g.Describes columns rows) :
    g.heads.length = (distinctTexts columns rows).length := by
  simpa using congrArg List.length h.heads

/-- A row whose texts have appeared is counted in their group. -/
lemma Describes.add_known (h : g.Describes columns rows) {r : Row} {i : Nat}
    (hi : g.positions.lookup (groupTexts columns r) = some i) :
    (g.add columns r).Describes columns (rows ++ [r]) := by
  have hget := (h.positions _ _).mp hi
  have hknown : groupTexts columns r ∈ distinctTexts columns rows := List.mem_of_getElem? hget
  have hdistinct : distinctTexts columns (rows ++ [r]) = distinctTexts columns rows := by
    rw [distinctTexts_concat, if_pos hknown]
  have hadd : g.add columns r = { g with sizes := g.sizes.modify i (· + 1) } := by
    simp [add, hi]
  rw [hadd]
  refine ⟨?_, ?_, ?_⟩
  · rw [hdistinct]
    exact h.positions
  · rw [hdistinct, h.heads]
    exact List.map_congr_left fun texts htexts => by rw [firstWithTexts?_concat_of_mem htexts]
  · -- the group of the row is the only one at its place, for no list of texts stands twice
    rw [hdistinct, h.sizes]
    refine List.ext_getElem? fun j => ?_
    rw [List.getElem?_modify, List.getElem?_map, List.getElem?_map]
    cases hj : (distinctTexts columns rows)[j]? with
    | none => rfl
    | some texts =>
        have hsame : i = j ↔ groupTexts columns r = texts := by
          constructor
          · rintro rfl
            simpa [hj] using hget.symm
          · rintro rfl
            exact (List.getElem?_inj (List.getElem?_eq_some_iff.mp hget).1
              (nodup_distinctTexts columns rows)).mp (hget.trans hj.symm)
        simp only [Option.map_some, Option.map_eq_map, countWithTexts_concat, hsame]
        split <;> rfl

/-- A row with texts that have not appeared begins a group of its own. -/
lemma Describes.add_new (h : g.Describes columns rows) {r : Row}
    (hnone : g.positions.lookup (groupTexts columns r) = none) :
    (g.add columns r).Describes columns (rows ++ [r]) := by
  have hnew : groupTexts columns r ∉ distinctTexts columns rows := by
    intro hmem
    obtain ⟨i, hi⟩ := List.mem_iff_getElem?.mp hmem
    simp [(h.positions _ _).mpr hi] at hnone
  have hdistinct : distinctTexts columns (rows ++ [r])
      = distinctTexts columns rows ++ [groupTexts columns r] := by
    rw [distinctTexts_concat, if_neg hnew]
  have hadd : g.add columns r
      = { positions := (groupTexts columns r, g.heads.length) :: g.positions
          heads := g.heads ++ [groupHead columns (groupTexts columns r) r]
          sizes := g.sizes ++ [1] } := by
    simp [add, hnone]
  rw [hadd]
  refine ⟨fun texts i => ?_, ?_, ?_⟩
  · rw [hdistinct, List.lookup_cons, h.length_heads]
    by_cases htexts : texts = groupTexts columns r
    · subst htexts
      have hfirst : ∀ j, (distinctTexts columns rows)[j]? ≠ some (groupTexts columns r) :=
        fun j hj => hnew (List.mem_of_getElem? hj)
      rw [List.getElem?_append]
      grind
    · have hother := h.positions texts i
      rw [List.getElem?_append]
      grind
  · rw [hdistinct, List.map_append, List.map_append, h.heads]
    refine congrArg₂ (· ++ ·) (List.map_congr_left fun texts htexts => ?_) ?_
    · rw [firstWithTexts?_concat_of_mem htexts]
    · simp [firstWithTexts?_concat_self hnew]
  · rw [hdistinct, List.map_append, h.sizes]
    refine congrArg₂ (· ++ ·) (List.map_congr_left fun texts htexts => ?_) ?_
    · have hne : groupTexts columns r ≠ texts := fun heq => hnew (heq ▸ htexts)
      simp [countWithTexts_concat, hne]
    · simp [countWithTexts_concat, countWithTexts_of_not_mem hnew]

/-- One row more keeps the groups those of the rows that have been read. -/
lemma Describes.add (h : g.Describes columns rows) (r : Row) :
    (g.add columns r).Describes columns (rows ++ [r]) := by
  cases hlookup : g.positions.lookup (groupTexts columns r) with
  | none => exact h.add_new hlookup
  | some i => exact h.add_known hlookup

/-- The groups of rows are those of the rows, however many have been read. -/
lemma describes_ofRows (columns : List String) (rows : List Row) :
    (ofRows columns rows).Describes columns rows := by
  induction rows using List.reverseRecOn with
  | nil => exact ⟨by simp [ofRows, empty, distinctTexts], rfl, rfl⟩
  | append_singleton rows r ih =>
      rw [ofRows, List.foldl_append]
      exact ih.add r

/-- The row of a group has the cells of its first row, its key and its size. -/
lemma Describes.rows_eq (h : g.Describes columns rows) :
    g.rows.map some = (distinctTexts columns rows).map fun texts =>
      (firstWithTexts? columns rows texts).map fun first =>
        withSize (groupHead columns texts first) (countWithTexts columns rows texts) := by
  refine List.ext_getElem? fun j => ?_
  have hheads := congrArg (·[j]?) h.heads
  simp only [List.getElem?_map] at hheads
  rw [Grouping.rows, h.sizes]
  simp only [List.getElem?_map, List.getElem?_zipWith]
  cases hj : (distinctTexts columns rows)[j]? with
  | none => simp
  | some texts =>
      rw [hj] at hheads
      obtain ⟨head, hhead, hfirst⟩ := Option.map_eq_some_iff.mp hheads
      obtain ⟨first, hsome, rfl⟩ := Option.map_eq_some_iff.mp hfirst.symm
      simp [hhead, hsome]

/-- What is found in the row of every group whatever its first row is, is found in all rows. -/
lemma Describes.map_rows {α : Type} (h : g.Describes columns rows) {f : Row → α}
    {value : List String → α}
    (hf : ∀ texts first, f (withSize (groupHead columns texts first)
      (countWithTexts columns rows texts)) = value texts) :
    g.rows.map f = (distinctTexts columns rows).map value := by
  have hsome : (g.rows.map f).map some = ((distinctTexts columns rows).map value).map some := by
    calc (g.rows.map f).map some
        = (g.rows.map some).map (Option.map f) := by simp
      _ = (distinctTexts columns rows).map (fun texts => some (value texts)) := by
        rw [h.rows_eq, List.map_map]
        refine List.map_congr_left fun texts htexts => ?_
        obtain ⟨r, hr, heq⟩ := mem_distinctTexts.mp htexts
        obtain ⟨first, hfirst⟩ : ∃ first, firstWithTexts? columns rows texts = some first :=
          Option.isSome_iff_exists.mp (List.find?_isSome.mpr ⟨r, hr, beq_iff_eq.mpr heq⟩)
        simp [hfirst, hf texts first]
      _ = ((distinctTexts columns rows).map value).map some := by simp
  exact List.map_injective_iff.mpr (Option.some_injective α) hsome

/-- The key of every group is the text made of its texts. -/
lemma Describes.keys_rows (h : g.Describes columns rows) :
    g.rows.map (·.get? groupKeyColumn)
      = (distinctTexts columns rows).map fun texts => some (.string (groupKeyText texts)) := by
  refine h.map_rows fun texts first => ?_
  rw [withSize, Row.get?_insert_of_ne _ _ (by decide), groupHead, Row.get?_insert_self]

/-- The size of every group is the number of rows with its texts. -/
lemma Describes.sizes_rows (h : g.Describes columns rows) :
    g.rows.map (·.get? groupCountColumn)
      = (distinctTexts columns rows).map fun texts =>
          some (.integer (Int64.ofInt (countWithTexts columns rows texts))) :=
  h.map_rows fun _ _ => Row.get?_insert_self _ _ _

end Grouping

/-! ### Grouped tables -/

/-- A table with two rows and one of the columns is grouped. -/
lemma groupBy_eq {t : Table} {requested : List String} (hrows : 2 ≤ t.count)
    (hcolumn : ∃ c ∈ requested, c ∈ t.columns) :
    t.groupBy requested
      = { t with
          columns := t.groupedColumns requested
          rows := (Grouping.ofRows (t.groupedColumns requested) t.rows).rows } := by
  obtain ⟨c, hc, hct⟩ := hcolumn
  have hmem : c ∈ t.groupedColumns requested :=
    List.mem_eraseDups.mpr (List.mem_filter.mpr ⟨hc, List.contains_iff_mem.mpr hct⟩)
  have hne : t.groupedColumns requested ≠ [] := List.ne_nil_of_mem hmem
  rw [Table.groupBy, if_neg]
  simp only [Bool.or_eq_true, decide_eq_true_eq, List.isEmpty_iff, hne, or_false]
  omega

/-- **One row for every list of texts.** A table with two rows or more, grouped by columns of which
it has one at least, has those of the columns that it had, each once. It has one row for every list
of texts that a row had in these columns, in the order in which the lists first appear; the row
has the texts, each between two dollar signs, as its key, and as its size the number of rows that
had them. No two lists of texts have one row, whatever key is made of them, and the sizes make up
the number of rows. -/
theorem groupBy_one_row_per_texts (t : Table) (requested : List String) (hrows : 2 ≤ t.count)
    (hcolumn : ∃ c ∈ requested, c ∈ t.columns) :
    let columns := (requested.filter (· ∈ t.columns)).eraseDups
    let texts := t.rows.map fun r => columns.map fun c => (r.get? c).elim "" Value.text
    let groups := texts.eraseDups
    (t.groupBy requested).columns = columns
    ∧ (t.groupBy requested).rows.map (·.get? groupKeyColumn)
        = groups.map (fun group =>
            some (.string (String.join (group.map fun text => "$" ++ text ++ "$"))))
    ∧ (t.groupBy requested).rows.map (·.get? groupCountColumn)
        = groups.map (fun group => some (.integer (Int64.ofInt (texts.count group))))
    ∧ groups.Pairwise (fun group later => texts.idxOf group < texts.idxOf later)
    ∧ (∀ group, group ∈ groups ↔ group ∈ texts)
    ∧ (groups.map texts.count).sum = t.count
    ∧ (t.count < 2 ^ 63 →
        ∀ group, (Int64.ofInt (texts.count group)).toInt = texts.count group) := by
  intro columns texts groups
  have hcolumns : t.groupedColumns requested = columns := by
    refine congrArg List.eraseDups (List.filter_congr fun c _ => ?_)
    rw [Bool.eq_iff_iff, List.contains_iff_mem, decide_eq_true_eq]
  have hdescribes := Grouping.describes_ofRows columns t.rows
  rw [groupBy_eq hrows hcolumn, hcolumns]
  refine ⟨rfl, hdescribes.keys_rows, hdescribes.sizes_rows,
    pairwise_idxOf_eraseDups texts, fun group => List.mem_eraseDups, ?_, fun hsmall group => ?_⟩
  · exact (sum_count_eraseDups texts).trans (List.length_map _)
  · have hle : texts.count group ≤ t.count := by
      simpa [texts, Table.count] using texts.count_le_length (a := group)
    exact Int64.toInt_ofInt_of_le (by omega) (by omega)

/-- Lists of texts from which the same key is made have a row each. A column that is asked for twice
counts once, one that the table does not have not at all, and a missing cell has the empty text. -/
theorem groupBy_rows_with_one_key :
    let t : Table :=
      { name := "t", columns := ["a", "b"]
        rows := [.ofList [("a", .null), ("b", .string "$")],
          .ofList [("a", .string "$"), ("b", .string "")], .ofList [("a", .bytes [36])]] }
    let requested := ["b", "c", "a", "b"]
    2 ≤ t.count ∧ (∃ c ∈ requested, c ∈ t.columns)
    ∧ (t.groupBy requested).columns = ["b", "a"]
    ∧ (t.groupBy requested).rows.map (·.get? groupKeyColumn)
        = [some (.string "$$$$$"), some (.string "$$$$$")]
    ∧ (t.groupBy requested).rows.map (·.get? groupCountColumn)
        = [some (.integer 1), some (.integer 2)] := by
  intro t requested
  have hrows : 2 ≤ t.count := by decide
  have hcolumn : ∃ c ∈ requested, c ∈ t.columns := by decide
  obtain ⟨hcolumns, hkeys, hsizes, -⟩ := groupBy_one_row_per_texts t requested hrows hcolumn
  exact ⟨hrows, hcolumn, hcolumns.trans (by decide +kernel), hkeys.trans (by decide +kernel),
    hsizes.trans (by decide +kernel)⟩

end RowQuery
