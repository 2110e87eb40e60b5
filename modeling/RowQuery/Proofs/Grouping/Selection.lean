/-
The groups of selected rows.

Where rows of one group are selected together, groups are selected as a whole: those that are left
have the first rows and the sizes that they had, and stand in the same order. So it makes no
difference whether rows are selected before they are grouped or grouped rows are selected after.

* `Uniform`: a test that rows with the same texts pass together;
* `passesFirst`: the test of a group, by its first row;
* `distinctTexts_filter`, `firstWithTexts?_filter`, `countWithTexts_filter`: the groups that are
  left, with their first rows and their sizes;
* `Grouping.rows_ofRows_filter`: rows that are selected and then grouped.
-/
import RowQuery.Proofs.Grouping.Cells

namespace RowQuery

/-- Selecting items and leaving out repeated ones can change places. -/
lemma filter_eraseDups {α : Type} [BEq α] [LawfulBEq α] (l : List α) (p : α → Bool) :
    (l.filter p).eraseDups = l.eraseDups.filter p := by
  classical
  induction l using List.reverseRecOn with
  | nil => rfl
  | append_singleton l a ih =>
      rw [List.filter_append, List.filter_singleton, eraseDups_concat]
      cases hp : p a with
      | false =>
          rw [cond_false, List.append_nil, ih]
          split <;> simp [hp]
      | true =>
          rw [cond_true, eraseDups_concat, ih]
          have hmem : a ∈ l.filter p ↔ a ∈ l := by simp [hp]
          simp only [hmem]
          split <;> simp [hp]

variable {columns : List String} {rows : List Row} {p : Row → Bool}

/-- Of rows with the same texts in columns either all pass a test, or none does. -/
def Uniform (columns : List String) (rows : List Row) (p : Row → Bool) : Prop :=
  ∀ r ∈ rows, ∀ r' ∈ rows, groupTexts columns r = groupTexts columns r' → p r = p r'

/-- Whether the first row with given texts passes a test. -/
def passesFirst (columns : List String) (rows : List Row) (p : Row → Bool)
    (texts : List String) : Bool :=
  (firstWithTexts? columns rows texts).any p

/-- If rows of one group pass together, a row passes if the first one of its group does. -/
lemma Uniform.passesFirst_groupTexts (h : Uniform columns rows p) {r : Row} (hr : r ∈ rows) :
    passesFirst columns rows p (groupTexts columns r) = p r := by
  obtain ⟨first, hfirst⟩ :
      ∃ first, firstWithTexts? columns rows (groupTexts columns r) = some first :=
    Option.isSome_iff_exists.mp (List.find?_isSome.mpr ⟨r, hr, beq_self_eq_true _⟩)
  have htexts : groupTexts columns first = groupTexts columns r := by
    simpa using List.find?_some hfirst
  rw [passesFirst, hfirst, Option.any_some]
  exact h first (List.mem_of_find?_eq_some hfirst) r hr htexts

/-- The texts of the rows that pass are the texts that pass. -/
lemma Uniform.map_groupTexts_filter (h : Uniform columns rows p) :
    (rows.filter p).map (groupTexts columns)
      = (rows.map (groupTexts columns)).filter (passesFirst columns rows p) := by
  rw [List.filter_map]
  exact congrArg _ (List.filter_congr fun r hr => (h.passesFirst_groupTexts hr).symm)

/-- The groups that are left stand in the same order. -/
lemma Uniform.distinctTexts_filter (h : Uniform columns rows p) :
    distinctTexts columns (rows.filter p)
      = (distinctTexts columns rows).filter (passesFirst columns rows p) := by
  rw [distinctTexts, h.map_groupTexts_filter, filter_eraseDups, distinctTexts]

/-- A group that is left has as many rows as before. -/
lemma Uniform.countWithTexts_filter (h : Uniform columns rows p) {texts : List String}
    (htexts : passesFirst columns rows p texts = true) :
    countWithTexts columns (rows.filter p) texts = countWithTexts columns rows texts := by
  rw [countWithTexts, h.map_groupTexts_filter, List.count_filter htexts, countWithTexts]

/-- A group that is left has the same first row as before. -/
lemma Uniform.firstWithTexts?_filter (h : Uniform columns rows p) {texts : List String}
    (htexts : passesFirst columns rows p texts = true) :
    firstWithTexts? columns (rows.filter p) texts = firstWithTexts? columns rows texts := by
  rw [firstWithTexts?, List.find?_filter, firstWithTexts?]
  refine List.find?_congr fun r hr => ?_
  cases hsame : groupTexts columns r == texts with
  | false => simp
  | true =>
      obtain rfl : groupTexts columns r = texts := beq_iff_eq.mp hsame
      have hpass : p r = true := (h.passesFirst_groupTexts hr).symm.trans htexts
      simp [hpass]

/-- A group that is left has the same row as before. -/
lemma Uniform.groupedRow?_filter (h : Uniform columns rows p) {texts : List String}
    (htexts : passesFirst columns rows p texts = true) :
    groupedRow? columns (rows.filter p) texts = groupedRow? columns rows texts := by
  rw [groupedRow?, h.firstWithTexts?_filter htexts, h.countWithTexts_filter htexts, groupedRow?]

/-- Rows that are selected and then grouped are the rows of the groups that pass, if a grouped row
passes whenever its first row does. -/
lemma Grouping.rows_ofRows_filter {q : Row → Bool} (h : Uniform columns rows p)
    (hq : ∀ r ∈ rows, ∀ size,
      q (withSize (groupHead columns (groupTexts columns r) r) size) = p r) :
    (ofRows columns (rows.filter p)).rows = (ofRows columns rows).rows.filter q := by
  rw [rows_ofRows, rows_ofRows, h.distinctTexts_filter, List.filterMap_filter,
    List.filter_filterMap]
  refine List.filterMap_congr fun texts _ => ?_
  have hgroup : (groupedRow? columns rows texts).filter q
      = if passesFirst columns rows p texts then groupedRow? columns rows texts else none := by
    rw [groupedRow?, passesFirst]
    cases hfirst : firstWithTexts? columns rows texts with
    | none => rfl
    | some first =>
        obtain rfl : groupTexts columns first = texts := by simpa using List.find?_some hfirst
        rw [Option.map_some, Option.filter_some,
          hq first (List.mem_of_find?_eq_some hfirst), Option.any_some]
  rw [hgroup]
  split
  · next htexts => exact h.groupedRow?_filter htexts
  · rfl

end RowQuery
