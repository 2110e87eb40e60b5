/-
Integers from JSON in cells.

An integer that 63 bits and a sign hold becomes an integer cell, and keeps its text. One that needs
the highest of 64 bits becomes the nearest binary number, and so do the integers around it: their
cells are the same, and filters and groups cannot tell them apart. All others they can.

* `Json.Held`, `Json.held_iff`: the integers that the reader of JSON keeps exactly;
* `ReadAlike`, `ReadAlike.equivalence`: integers that become the same cell;
* `exists_text_ofJson`, `text_ofJson_eq_iff`: the texts of the cells;
* `Table.HasIds`: a table with such integers in a column;
* `rows_select_text`, `countWithTexts_eq`, `groupBy_rows_with_key`, `forall₂_rows_groupBy`: its
  rows, filtered and grouped;
* `ids_told_apart`: which ids are told apart.
-/
import RowQuery.Proofs.Filtering.Idempotence
import RowQuery.Proofs.Grouping.Cells
import RowQuery.Proofs.Json.Grammar
import RowQuery.Proofs.Number.Whole
import RowQuery.Table.Reading

namespace RowQuery

open Number

/-! ### Integers that become the same cell -/

/-- An integer that the reader of JSON keeps exactly. -/
def Json.Held (n : ℤ) : Prop := -2 ^ 63 ≤ n ∧ n < 2 ^ 64

/-- The integers that are kept exactly are those that a number in JSON is read as. -/
lemma Json.held_iff {n : ℤ} : Json.Held n ↔ ∃ w : Json.NumberWord, w.integer? = some n := by
  constructor
  · exact fun ⟨hlow, hhigh⟩ => ⟨_, Json.integer?_natAbs hlow hhigh⟩
  · rintro ⟨w, hw⟩
    have hlimit : Json.coefficientLimit = 2 ^ 64 := rfl
    have hleast : Nat.pow 2 63 = 2 ^ 63 := rfl
    simp only [Json.NumberWord.integer?, hlimit, hleast] at hw
    rw [Json.Held]
    grind

/-- Two integers that are read as the same cell: they are equal, or both need the highest of 64
bits and are rounded to the same binary number. -/
def ReadAlike (a b : ℤ) : Prop :=
  a = b ∨ 2 ^ 63 ≤ a ∧ 2 ^ 63 ≤ b ∧ Binary64.ofInt a = Binary64.ofInt b

instance (a b : ℤ) : Decidable (ReadAlike a b) := inferInstanceAs (Decidable (_ ∨ _))

namespace ReadAlike

variable {a b c : ℤ}

protected lemma refl (a : ℤ) : ReadAlike a a := .inl rfl

protected lemma symm (h : ReadAlike a b) : ReadAlike b a :=
  h.imp Eq.symm fun ⟨ha, hb, heq⟩ => ⟨hb, ha, heq.symm⟩

protected lemma trans (h : ReadAlike a b) (h' : ReadAlike b c) : ReadAlike a c := by
  rcases h with rfl | ⟨ha, hb, heq⟩
  · exact h'
  rcases h' with rfl | ⟨-, hc, heq'⟩
  · exact .inr ⟨ha, hb, heq⟩
  · exact .inr ⟨ha, hc, heq.trans heq'⟩

/-- Being read as the same cell is an equivalence. -/
lemma equivalence : Equivalence ReadAlike := ⟨.refl, .symm, .trans⟩

/-- Below `2 ^ 63` only equal integers are read alike. -/
lemma eq_of_lt (h : ReadAlike a b) (ha : a < 2 ^ 63) : a = b :=
  h.resolve_right fun hlarge => by omega

end ReadAlike

/-! ### The texts of the cells -/

variable {a b : ℤ}

/-- An integer below `2 ^ 63` becomes an integer cell. -/
lemma ofJson_integer_of_lt (hlow : -2 ^ 63 ≤ a) (ha : a < 2 ^ 63) :
    Value.ofJson (.integer a) = .integer (Int64.ofInt a) := by
  have hmin : Int64.minValue.toInt = -2 ^ 63 := by decide
  have hmax : Int64.maxValue.toInt = 2 ^ 63 - 1 := by decide
  rw [Value.ofJson, cellInteger?, if_pos (by omega)]
  rfl

/-- An integer from `2 ^ 63` on becomes the nearest binary number. -/
lemma ofJson_integer_of_le (ha : 2 ^ 63 ≤ a) :
    Value.ofJson (.integer a) = .float (Binary64.ofInt a) := by
  have hmax : Int64.maxValue.toInt = 2 ^ 63 - 1 := by decide
  rw [Value.ofJson, cellInteger?, if_neg (by omega)]
  rfl

/-- Integers that are read alike become the same cell. -/
lemma ReadAlike.ofJson_eq (h : ReadAlike a b) :
    Value.ofJson (.integer a) = Value.ofJson (.integer b) := by
  rcases h with rfl | ⟨ha, hb, heq⟩
  · rfl
  · rw [ofJson_integer_of_le ha, ofJson_integer_of_le hb, heq]

/-- The text of the cell of an integer is that of an integer that is read alike. -/
lemma exists_text_ofJson (ha : Json.Held a) :
    ∃ n, ReadAlike a n ∧ (Value.ofJson (.integer a)).text = toString n := by
  obtain ⟨hlow, hhigh⟩ := ha
  rcases lt_or_ge a (2 ^ 63) with hsmall | hlarge
  · refine ⟨a, .refl a, ?_⟩
    rw [ofJson_integer_of_lt hlow hsmall, Value.text,
      Int64.toInt_ofInt_of_le (by omega) (by omega)]
  · obtain ⟨n, hn, htext, hround⟩ := exists_text_ofInt hlarge hhigh
    refine ⟨n, .inr ⟨hlarge, hn, hround.symm⟩, ?_⟩
    rw [ofJson_integer_of_le hlarge, Value.text, htext]

/-- The cells of two integers have the same text exactly if the integers are read alike. -/
lemma text_ofJson_eq_iff (ha : Json.Held a) (hb : Json.Held b) :
    (Value.ofJson (.integer a)).text = (Value.ofJson (.integer b)).text ↔ ReadAlike a b := by
  refine ⟨fun h => ?_, fun h => congrArg Value.text h.ofJson_eq⟩
  obtain ⟨n, hn, htext⟩ := exists_text_ofJson ha
  obtain ⟨k, hk, htext'⟩ := exists_text_ofJson hb
  obtain rfl : n = k := toString_injective (htext.symm.trans (h.trans htext'))
  exact hn.trans hk.symm

/-- The cell of an integer has the text of another one only if the two are read alike. -/
lemma readAlike_of_text_eq_toString (ha : Json.Held a)
    (h : (Value.ofJson (.integer a)).text = toString b) : ReadAlike a b := by
  obtain ⟨n, hn, htext⟩ := exists_text_ofJson ha
  obtain rfl : n = b := toString_injective (htext.symm.trans h)
  exact hn

/-! ### Rows with ids -/

/-- Unless literals are patterns, a literal without a percent sign stands for its own text. -/
lemma CellTest.ofComparison_equal {mode : MatchMode} {literal : String} (hmode : mode ≠ .pattern)
    (hliteral : '%' ∉ literal.toList) :
    ofComparison mode .equal literal = .sameText literal true := by
  have hpattern : pattern? mode literal = none := by
    cases mode with
    | exact => rfl
    | wildcard => simp [pattern?, Glob.wildcard, hliteral]
    | pattern => exact absurd rfl hmode
  rw [ofComparison, if_neg (by decide), hpattern]
  rfl

/-- The text of an integer has no percent sign. -/
lemma percent_not_mem_toString (n : ℤ) : '%' ∉ (toString n).toList := by
  intro h
  rcases Json.isDigit_or_minus_of_mem_toString h with h | h <;> simp at h

/-- The rows of a table have integers from JSON in a column. -/
def Table.HasIds (t : Table) (column : String) (ids : List ℤ) : Prop :=
  List.Forall₂ (fun r n => Json.Held n ∧ r.get? column = some (Value.ofJson (.integer n)))
    t.rows ids

namespace Table.HasIds

variable {t : Table} {column : String} {ids : List ℤ} {mode : MatchMode}

/-- Every row of a table with integers in a column has one of them. -/
lemma of_mem_zip (h : t.HasIds column ids) {p : Row × ℤ} (hp : p ∈ t.rows.zip ids) :
    Json.Held p.2 ∧ p.1.get? column = some (Value.ofJson (.integer p.2)) :=
  (List.forall₂_iff_zip.mp h).2 hp

/-- The rows with a property, if their integers tell whether they have it. -/
lemma filter_rows (h : t.HasIds column ids) {p : Row → Bool} {q : ℤ → Bool}
    (hpq : ∀ x ∈ t.rows.zip ids, p x.1 = q x.2) :
    t.rows.filter p = ((t.rows.zip ids).filter (q ·.2)).map Prod.fst := by
  calc t.rows.filter p = (((t.rows.zip ids).map Prod.fst).filter p) := by
        rw [List.map_fst_zip h.length_eq.le]
    _ = ((t.rows.zip ids).filter (p ·.1)).map Prod.fst := by
        rw [List.filter_map]
        rfl
    _ = ((t.rows.zip ids).filter (q ·.2)).map Prod.fst := by
        rw [List.filter_congr hpq]

/-- Asked for the text of an integer, a filter keeps the rows in whose cells it is. -/
lemma rows_select_toString (h : t.HasIds column ids) (hmode : mode ≠ .pattern) (n : ℤ) :
    (t.select (.comparison column .equal (toString n)) mode).rows
      = ((t.rows.zip ids).filter
          fun p => (Value.ofJson (.integer p.2)).text = toString n).map Prod.fst := by
  rw [Table.select]
  simp only [Condition.select, selectCell, indicesOf_map, filterMap_indicesWhere]
  refine h.filter_rows (q := fun k => (Value.ofJson (.integer k)).text = toString n) fun p hp => ?_
  rw [Row.passes, (h.of_mem_zip hp).2, Option.any_some,
    CellTest.ofComparison_equal hmode (percent_not_mem_toString n), CellTest.accepts,
    beq_true, beq_eq_decide]

/-- Asked for the text of the cell of an integer, a filter keeps the rows with integers that are
read like it. -/
lemma rows_select_text (h : t.HasIds column ids) (hmode : mode ≠ .pattern) (ha : Json.Held a) :
    (t.select (.comparison column .equal (Value.ofJson (.integer a)).text) mode).rows
      = ((t.rows.zip ids).filter fun p => ReadAlike a p.2).map Prod.fst := by
  obtain ⟨n, -, htext⟩ := exists_text_ofJson ha
  rw [htext, h.rows_select_toString hmode]
  refine congrArg (List.map Prod.fst) (List.filter_congr fun p hp => decide_eq_decide.mpr ?_)
  rw [← htext, eq_comm]
  exact text_ofJson_eq_iff ha (h.of_mem_zip hp).1

/-- Asked for an integer whose cell has another text, a filter keeps nothing. -/
lemma rows_select_of_text_ne (h : t.HasIds column ids) (hmode : mode ≠ .pattern)
    (hne : (Value.ofJson (.integer a)).text ≠ toString a) :
    (t.select (.comparison column .equal (toString a)) mode).rows = [] := by
  rw [h.rows_select_toString hmode, List.map_eq_nil_iff, List.filter_eq_nil_iff]
  intro p hp htext
  have htext := of_decide_eq_true htext
  have halike := readAlike_of_text_eq_toString (h.of_mem_zip hp).1 htext
  exact hne (halike.ofJson_eq ▸ htext)

end Table.HasIds

/-! ### Groups of ids -/

/-- Keys of single texts are the same only if the texts are. -/
lemma groupKeyText_singleton {s s' : String} (h : groupKeyText [s] = groupKeyText [s']) :
    s = s' := by
  simpa [groupKeyText] using h

/-- The texts of a row in a single column. -/
lemma exists_eq_singleton_of_mem_distinctTexts {column : String} {rows : List Row}
    {texts : List String} (h : texts ∈ distinctTexts [column] rows) : ∃ s, texts = [s] := by
  obtain ⟨r, -, rfl⟩ := mem_distinctTexts.mp h
  exact ⟨_, rfl⟩

/-- Grouped by one column, a table has a single row with the key of a text, and its size is the
number of rows with this text. -/
lemma groupBy_rows_with_key {t : Table} {column s : String} (hrows : 2 ≤ t.count)
    (hcolumn : column ∈ t.columns) (hs : [s] ∈ distinctTexts [column] t.rows) :
    ((t.groupBy [column]).rows.filter
        fun g => g.get? groupKeyColumn = some (.string (groupKeyText [s]))).map
      (·.get? groupCountColumn)
      = [some (.integer (Int64.ofInt (countWithTexts [column] t.rows [s])))] := by
  have hcolumns : t.groupedColumns [column] = [column] := by
    simp [Table.groupedColumns, hcolumn, List.eraseDups_cons]
  have hcells : (Grouping.ofRows [column] t.rows).rows.map
        (fun g => (g.get? groupKeyColumn, g.get? groupCountColumn))
      = (distinctTexts [column] t.rows).map fun texts =>
          (some (.string (groupKeyText texts)),
            some (.integer (Int64.ofInt (countWithTexts [column] t.rows texts)))) := by
    refine (Grouping.describes_ofRows [column] t.rows).map_rows fun texts first => ?_
    rw [get?_groupedRow_key, withSize, Row.get?_insert_self]
  rw [groupBy_eq hrows ⟨column, List.mem_singleton_self column, hcolumn⟩, hcolumns]
  calc ((Grouping.ofRows [column] t.rows).rows.filter
          fun g => g.get? groupKeyColumn = some (.string (groupKeyText [s]))).map
        (·.get? groupCountColumn)
      = (((Grouping.ofRows [column] t.rows).rows.map
          fun g => (g.get? groupKeyColumn, g.get? groupCountColumn)).filter
            fun x => x.1 = some (.string (groupKeyText [s]))).map Prod.snd := by
        rw [List.filter_map, List.map_map]
        rfl
    _ = ((distinctTexts [column] t.rows).filter (· == [s])).map fun texts =>
          some (.integer (Int64.ofInt (countWithTexts [column] t.rows texts))) := by
        rw [hcells, List.filter_map, List.map_map]
        refine congrArg (List.map _) (List.filter_congr fun texts htexts => ?_)
        obtain ⟨s', rfl⟩ := exists_eq_singleton_of_mem_distinctTexts htexts
        have hkey : groupKeyText [s'] = groupKeyText [s] ↔ s' = s :=
          ⟨groupKeyText_singleton, fun h => by rw [h]⟩
        simp [hkey, beq_eq_decide]
    _ = [some (.integer (Int64.ofInt (countWithTexts [column] t.rows [s])))] := by
        rw [List.filter_beq, List.count_eq_one_of_mem (nodup_distinctTexts _ _) hs]
        rfl

/-- The text of a row in the column of its id. -/
lemma groupTexts_of_get? {r : Row} {column : String} {n : ℤ}
    (h : r.get? column = some (Value.ofJson (.integer n))) :
    groupTexts [column] r = [(Value.ofJson (.integer n)).text] := by
  rw [groupTexts, List.map_singleton, h, Option.elim_some]

namespace Table.HasIds

variable {t : Table} {column : String} {ids : List ℤ}

/-- The integers in a column of a table are kept exactly. -/
lemma held (h : t.HasIds column ids) {n : ℤ} (hn : n ∈ ids) : Json.Held n := by
  obtain ⟨i, hi, rfl⟩ := List.mem_iff_getElem.mp hn
  exact (h.get (by rw [h.length_eq]; exact hi) hi).1

/-- The rows with the text of an id are as many as the ids that are read like it. -/
lemma countWithTexts_eq (h : t.HasIds column ids) {p : Row × ℤ} (hp : p ∈ t.rows.zip ids) :
    countWithTexts [column] t.rows [(Value.ofJson (.integer p.2)).text]
      = ids.countP fun n => ReadAlike p.2 n := by
  have htexts : List.Forall₂ Eq (t.rows.map (groupTexts [column]))
      (ids.map fun n => [(Value.ofJson (.integer n)).text]) := by
    rw [List.forall₂_map_left_iff, List.forall₂_map_right_iff]
    exact h.imp fun r n hr => groupTexts_of_get? hr.2
  rw [List.forall₂_eq_eq_eq] at htexts
  rw [countWithTexts, htexts, List.count_eq_countP, List.countP_map]
  refine List.countP_congr fun n hn => ?_
  have hiff := text_ofJson_eq_iff (h.of_mem_zip hp).1 (h.held hn)
  rw [eq_comm] at hiff
  simp [hiff]

variable {columns requested : List String}

/-- Rows with the same texts in columns, that of the ids among them, have ids that are read
alike. -/
lemma readAlike_of_groupTexts_eq (h : t.HasIds column ids) (hcolumn : column ∈ columns)
    {p p' : Row × ℤ} (hp : p ∈ t.rows.zip ids) (hp' : p' ∈ t.rows.zip ids)
    (heq : groupTexts columns p.1 = groupTexts columns p'.1) : ReadAlike p.2 p'.2 := by
  have htext := List.map_inj_left.mp heq column hcolumn
  rw [(h.of_mem_zip hp).2, (h.of_mem_zip hp').2] at htext
  exact (text_ofJson_eq_iff (h.of_mem_zip hp).1 (h.of_mem_zip hp').1).mp htext

/-- The rows with given texts, counted together with their ids. -/
lemma length_filter_groupTexts (h : t.HasIds column ids) (columns texts : List String) :
    ((t.rows.zip ids).filter fun p => groupTexts columns p.1 = texts).length
      = countWithTexts columns t.rows texts := by
  calc ((t.rows.zip ids).filter fun p => groupTexts columns p.1 = texts).length
      = ((t.rows.zip ids).map fun p => groupTexts columns p.1).count texts := by
        rw [List.count_eq_countP, List.countP_map, List.countP_eq_length_filter]
        exact congrArg List.length (List.filter_congr fun p _ => (beq_eq_decide ..).symm)
    _ = (((t.rows.zip ids).map Prod.fst).map (groupTexts columns)).count texts := by
        rw [List.map_map]
        rfl
    _ = countWithTexts columns t.rows texts := by
        rw [List.map_fst_zip h.length_eq.le, countWithTexts]

/-- Grouped by columns, that of the ids among them, a table has a row for every list of texts; it
counts the rows with these texts, whose ids are read alike. -/
lemma forall₂_rows_groupBy (h : t.HasIds column ids) (hrows : 2 ≤ t.count)
    (hcolumn : column ∈ t.columns) (hrequested : column ∈ requested) :
    let columns := t.groupedColumns requested
    List.Forall₂ (fun texts g =>
        let members := (t.rows.zip ids).filter fun p => groupTexts columns p.1 = texts
        g.get? groupKeyColumn = some (.string (groupKeyText texts))
        ∧ g.get? groupCountColumn = some (.integer (Int64.ofInt members.length))
        ∧ ∀ p ∈ members, ∀ p' ∈ members, ReadAlike p.2 p'.2)
      (distinctTexts columns t.rows) (t.groupBy requested).rows := by
  intro columns
  have hmem : column ∈ columns := List.mem_eraseDups.mpr
    (List.mem_filter.mpr ⟨hrequested, List.contains_iff_mem.mpr hcolumn⟩)
  rw [groupBy_eq hrows ⟨column, hrequested, hcolumn⟩]
  refine (Grouping.forall₂_rows_ofRows columns t.rows).imp fun texts g hg => ?_
  obtain ⟨first, -, rfl⟩ := Option.map_eq_some_iff.mp hg
  refine ⟨get?_groupedRow_key columns texts first _, ?_, fun p hp p' hp' => ?_⟩
  · rw [h.length_filter_groupTexts]
    exact Row.get?_insert_self _ _ _
  · obtain ⟨hp, htexts⟩ := List.mem_filter.mp hp
    obtain ⟨hp', htexts'⟩ := List.mem_filter.mp hp'
    exact h.readAlike_of_groupTexts_eq hmem hp hp'
      ((of_decide_eq_true htexts).trans (of_decide_eq_true htexts').symm)

end Table.HasIds

/-- **Which ids are told apart.** Two integers that JSON holds exactly become cells with the same
text exactly if they are equal, or both need the highest of 64 bits and have the same nearest binary
number. Below `2 ^ 63` the text is that of the integer; from there on it is that of an integer with
the same nearest binary number. In a table with such integers in a column, a filter that asks for
the text of the cell of one of them keeps exactly the rows with integers that are read like it, and
one that asks for the text of the integer itself keeps these rows or none. Grouped by the column,
the table has one row for the text of each cell, which counts the integers that are read alike.
Rows with the same texts in several columns, this one among them, have integers that are read alike;
so, grouped by such columns, the table has no row that counts two integers that are not. -/
theorem ids_told_apart (a b : ℤ) (ha : Json.Held a) (hb : Json.Held b) :
    let text := fun n => (Value.ofJson (.integer n)).text
    (text a = text b ↔ ReadAlike a b)
    ∧ (a < 2 ^ 63 → text a = toString a)
    ∧ (2 ^ 63 ≤ a → ∃ n, 2 ^ 63 ≤ n ∧ Binary64.ofInt n = Binary64.ofInt a ∧ text a = toString n)
    ∧ ∀ (t : Table) (column : String) (ids : List ℤ), t.HasIds column ids →
      (∀ mode ≠ .pattern,
        (t.select (.comparison column .equal (text a)) mode).rows
            = ((t.rows.zip ids).filter fun p => ReadAlike a p.2).map Prod.fst
        ∧ (t.select (.comparison column .equal (toString a)) mode).rows
            = if text a = toString a then
                ((t.rows.zip ids).filter fun p => ReadAlike a p.2).map Prod.fst
              else [])
      ∧ (2 ≤ t.count → column ∈ t.columns → ∀ p ∈ t.rows.zip ids,
          ((t.groupBy [column]).rows.filter
              fun g => g.get? groupKeyColumn = some (.string (groupKeyText [text p.2]))).map
            (·.get? groupCountColumn)
            = [some (.integer (Int64.ofInt (ids.countP fun n => ReadAlike p.2 n)))])
      ∧ (∀ columns, column ∈ columns → ∀ p ∈ t.rows.zip ids, ∀ p' ∈ t.rows.zip ids,
          groupTexts columns p.1 = groupTexts columns p'.1 → ReadAlike p.2 p'.2)
      ∧ (2 ≤ t.count → column ∈ t.columns → ∀ requested, column ∈ requested →
          let columns := t.groupedColumns requested
          List.Forall₂ (fun texts g =>
              let members := (t.rows.zip ids).filter fun p => groupTexts columns p.1 = texts
              g.get? groupKeyColumn = some (.string (groupKeyText texts))
              ∧ g.get? groupCountColumn = some (.integer (Int64.ofInt members.length))
              ∧ ∀ p ∈ members, ∀ p' ∈ members, ReadAlike p.2 p'.2)
            (distinctTexts columns t.rows) (t.groupBy requested).rows) := by
  intro text
  refine ⟨text_ofJson_eq_iff ha hb, fun hlt => ?_, fun hle => ?_, fun t column ids h =>
    ⟨fun mode hmode => ⟨h.rows_select_text hmode ha, ?_⟩, fun hrows hcolumn p hp => ?_,
      fun columns hcolumn p hp p' hp' heq => h.readAlike_of_groupTexts_eq hcolumn hp hp' heq,
      fun hrows hcolumn requested hrequested => h.forall₂_rows_groupBy hrows hcolumn hrequested⟩⟩
  · obtain ⟨n, hn, htext⟩ := exists_text_ofJson ha
    exact htext.trans (congrArg toString (hn.eq_of_lt hlt).symm)
  · obtain ⟨n, hn, htext, hround⟩ := exists_text_ofInt hle ha.2
    exact ⟨n, hn, hround, (congrArg Value.text (ofJson_integer_of_le hle)).trans htext⟩
  · split
    · next heq => rw [← heq, h.rows_select_text hmode ha]
    · next hne => exact h.rows_select_of_text_ne hmode hne
  · rw [← h.countWithTexts_eq hp]
    refine groupBy_rows_with_key hrows hcolumn (mem_distinctTexts.mpr ⟨p.1, ?_, ?_⟩)
    · exact (List.of_mem_zip hp).1
    · exact groupTexts_of_get? (h.of_mem_zip hp).2

/-- Two ids that are read alike, and a small one, by themselves and together with a name. -/
theorem ids_told_apart_three_rows :
    let ids : List ℤ := [2 ^ 63, 2 ^ 63 + 1, 5]
    let t : Table :=
      { name := "t", columns := ["id", "name"]
        rows := ids.map fun n => .ofList [("name", .null), ("id", Value.ofJson (.integer n))] }
    Json.Held (2 ^ 63) ∧ Json.Held (2 ^ 63 + 1) ∧ t.HasIds "id" ids
    ∧ 2 ≤ t.count ∧ "id" ∈ t.columns
    ∧ (Value.ofJson (.integer (2 ^ 63))).text = (Value.ofJson (.integer (2 ^ 63 + 1))).text
    ∧ (t.select (.comparison "id" .equal (Value.ofJson (.integer (2 ^ 63))).text) .exact).rows
        = t.rows.take 2
    ∧ (t.select (.comparison "id" .equal (toString (2 ^ 63 : ℤ))) .exact).rows = []
    ∧ ((t.groupBy ["id"]).rows.filter fun g => g.get? groupKeyColumn
          = some (.string (groupKeyText [(Value.ofJson (.integer (2 ^ 63))).text]))).map
        (·.get? groupCountColumn) = [some (.integer 2)]
    ∧ (t.groupBy ["name", "id"]).rows.map (·.get? groupCountColumn)
        = [some (.integer 2), some (.integer 1)] := by
  intro ids t
  have ha : Json.Held (2 ^ 63) := ⟨by decide, by decide⟩
  have hb : Json.Held (2 ^ 63 + 1) := ⟨by decide, by decide⟩
  have halike : ReadAlike (2 ^ 63) (2 ^ 63 + 1) := by decide +kernel
  have hids : t.HasIds "id" ids := by
    refine List.forall₂_map_left_iff.mpr (List.forall₂_same.mpr fun n hn =>
      ⟨?_, Row.get?_insert_self _ _ _⟩)
    simp only [ids, List.mem_cons, List.not_mem_nil, or_false] at hn
    rw [Json.Held]
    omega
  have hrows : 2 ≤ t.count := by decide
  have hcolumn : "id" ∈ t.columns := by decide
  obtain ⟨htext, -, -, htable⟩ := ids_told_apart (2 ^ 63) (2 ^ 63 + 1) ha hb
  obtain ⟨hfilter, hgroup, -, hgroups⟩ := htable t "id" ids hids
  obtain ⟨hcell, hown⟩ := hfilter .exact (by decide)
  have hcount := hgroup hrows hcolumn (t.rows.head (by decide), 2 ^ 63) List.mem_cons_self
  have hcounts : List.Forall₂ Eq _
      ((t.groupBy ["name", "id"]).rows.map (·.get? groupCountColumn)) :=
    List.forall₂_map_left_iff.mpr (List.forall₂_map_right_iff.mpr
      ((hgroups hrows hcolumn ["name", "id"] (by decide)).imp fun _ _ hg => hg.2.1.symm))
  rw [List.forall₂_eq_eq_eq] at hcounts
  refine ⟨ha, hb, hids, hrows, hcolumn, htext.mpr halike, hcell.trans ?_, hown.trans ?_,
    hcount.trans ?_, hcounts.symm.trans ?_⟩
  · decide +kernel
  · exact if_neg (by decide +kernel)
  · decide +kernel
  · decide +kernel

/-- Two integers that JSON holds exactly may become cells with the same text, and the text of a cell
need not be that of the integer. -/
theorem not_forall_text_ofJson_integer :
    (¬ ∀ a b : ℤ, Json.Held a → Json.Held b →
      (Value.ofJson (.integer a)).text = (Value.ofJson (.integer b)).text → a = b)
    ∧ ¬ ∀ a : ℤ, Json.Held a → (Value.ofJson (.integer a)).text = toString a := by
  have ha : Json.Held (2 ^ 63) := ⟨by decide, by decide⟩
  have hb : Json.Held (2 ^ 63 + 1) := ⟨by decide, by decide⟩
  constructor
  · intro h
    exact absurd (h (2 ^ 63) (2 ^ 63 + 1) ha hb (by decide +kernel)) (by decide)
  · intro h
    exact absurd (h (2 ^ 63) ha) (by decide +kernel)

end RowQuery
