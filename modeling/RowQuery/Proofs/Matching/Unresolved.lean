/-
Comparisons that lose their meaning.

A comparison whose operator has no meaning selects no row, so one would expect that a condition
selects fewer rows when one of its comparisons becomes such a one. But a conjunction leaves out a
row whose last comparison that holds is on the leading column, and when that comparison holds no
more, the conjunction may select the row. Only so can a row be added.

* `Gap`: a condition in which the place of one comparison is open; `Gap.parts`: the parts of the
  condition around that place;
* `Gap.lastHit_fill`: the last comparison that holds stays the same, unless it is the one replaced;
* `Gap.Releases`: a conjunction around the place leaves a row out and then selects it
  (`Gap.emitted_fill`: only so is a row added; `Gap.Releases.exists_part`: when this happens);
* `Matcher.mem_evaluate_of_unresolved`: which rows are selected once a comparison has no meaning;
* `Matcher.not_forall_mem_evaluate_unresolved`: these may be more than before.
-/
import RowQuery.Proofs.Matching.Reuse

namespace RowQuery

/-! ### Conditions with an open place -/

/-- A condition in which the place of one comparison is open. -/
inductive Gap
  | here
  | onLeft (connective : Connective) (gap : Gap) (right : Condition)
  | onRight (connective : Connective) (left : Condition) (gap : Gap)

namespace Gap

/-- The condition with something at the open place. -/
def fill : Gap → Condition → Condition
  | here, c => c
  | onLeft connective gap right, c => .join connective (gap.fill c) right
  | onRight connective left gap, c => .join connective left (gap.fill c)

/-- The parts of the condition around the open place, from the whole to the place alone. -/
def parts : Gap → List Gap
  | here => [here]
  | onLeft connective gap right => onLeft connective gap right :: gap.parts
  | onRight connective left gap => onRight connective left gap :: gap.parts

/-- The whole condition is one of its parts. -/
lemma mem_parts_self (gap : Gap) : gap ∈ gap.parts := by
  cases gap <;> simp [parts]

end Gap

/-- Whether a condition is two others joined by `and`. -/
def Condition.isConjunction : Condition → Bool
  | join connective _ _ => connective == .and
  | _ => false

variable {mode : MatchMode} {row : Row}

/-- A row that a conjunction selects has its last comparison that holds on another column than the
leading one. -/
lemma Condition.lastHit_ne_of_isConjunction {e : Condition} (h : e.isConjunction = true)
    (hemitted : e.emitted mode row ≠ []) : e.lastHit mode row ≠ some e.leadingColumn := by
  cases e with
  | comparison column relation literal => cases h
  | unresolved column operator literal => cases h
  | join connective left right =>
      cases connective with
      | or => cases h
      | and => exact (emitted_and_ne_nil.mp hemitted).2

namespace Gap

variable {column literal operator : String} {relation : Relation}

/-- A comparison without a meaning still has its column. -/
lemma leadingColumn_fill (gap : Gap) (relation : Relation) :
    (gap.fill (.unresolved column operator literal)).leadingColumn
      = (gap.fill (.comparison column relation literal)).leadingColumn := by
  induction gap with
  | here => rfl
  | onLeft connective gap right ih => exact ih
  | onRight connective left gap ih => rfl

/-- When a comparison loses its meaning, the last one that holds for a row stays the same, unless
the comparison was the last one that holds. -/
lemma lastHit_fill (gap : Gap) (relation : Relation) (mode : MatchMode) :
    (gap.fill (.comparison column relation literal)).lastHit mode row
        = (gap.fill (.unresolved column operator literal)).lastHit mode row
      ∨ row.passes column (.ofComparison mode relation literal) = true
        ∧ (gap.fill (.comparison column relation literal)).lastHit mode row = some column := by
  induction gap with
  | here =>
      rw [fill, fill, Condition.lastHit, Condition.lastHit]
      split_ifs with hpasses
      · exact .inr ⟨hpasses, rfl⟩
      · exact .inl rfl
  | onLeft connective gap right ih =>
      rw [fill, fill, Condition.lastHit, Condition.lastHit]
      cases right.lastHit mode row with
      | none => simpa using ih
      | some last => exact .inl rfl
  | onRight connective left gap ih =>
      rw [fill, fill, Condition.lastHit, Condition.lastHit]
      obtain hsame | ⟨hpasses, hlast⟩ := ih
      · exact .inl (by rw [hsame])
      · exact .inr ⟨hpasses, by rw [hlast, Option.some_or]⟩

/-- Some conjunction around the open place leaves a row out with `c` there, since the last
comparison that holds is on the leading column, and selects it with `c'` there. -/
def Releases (gap : Gap) (mode : MatchMode) (row : Row) (c c' : Condition) : Prop :=
  ∃ part ∈ gap.parts, (part.fill c).isConjunction = true
    ∧ (part.fill c).lastHit mode row = some (part.fill c).leadingColumn
    ∧ (part.fill c').emitted mode row ≠ []

variable {gap : Gap} {c c' : Condition}

lemma Releases.onLeft (h : gap.Releases mode row c c') (connective : Connective)
    (right : Condition) : (Gap.onLeft connective gap right).Releases mode row c c' := by
  obtain ⟨part, hpart, hreleased⟩ := h
  exact ⟨part, List.mem_cons_of_mem _ hpart, hreleased⟩

lemma Releases.onRight (h : gap.Releases mode row c c') (connective : Connective)
    (left : Condition) : (Gap.onRight connective left gap).Releases mode row c c' := by
  obtain ⟨part, hpart, hreleased⟩ := h
  exact ⟨part, List.mem_cons_of_mem _ hpart, hreleased⟩

/-- A row that is selected with `c'` at the open place is selected with `c` there, if `c'` alone
selects no row, or some conjunction releases it. -/
lemma emitted_fill (gap : Gap) (hnone : c'.emitted mode row = [])
    (h : (gap.fill c').emitted mode row ≠ []) :
    (gap.fill c).emitted mode row ≠ [] ∨ gap.Releases mode row c c' := by
  induction gap with
  | here => exact absurd hnone h
  | onLeft connective gap right ih =>
      cases connective with
      | or =>
          rw [fill, Condition.emitted_or_ne_nil] at h ⊢
          obtain hgap | hright := h
          · exact (ih hgap).imp .inl (·.onLeft _ _)
          · exact .inl (.inr hright)
      | and =>
          have hgap := (Condition.emitted_and_ne_nil.mp h).1
          by_cases hlast : (Condition.join .and (gap.fill c) right).lastHit mode row
              = some (gap.fill c).leadingColumn
          · exact .inr ⟨_, mem_parts_self _, rfl, hlast, h⟩
          · exact (ih hgap).imp (Condition.emitted_and_ne_nil.mpr ⟨·, hlast⟩) (·.onLeft _ _)
  | onRight connective left gap ih =>
      cases connective with
      | or =>
          rw [fill, Condition.emitted_or_ne_nil] at h ⊢
          obtain hleft | hgap := h
          · exact .inl (.inl hleft)
          · exact (ih hgap).imp .inr (·.onRight _ _)
      | and =>
          -- the left side is the same with both, so the conjunction itself makes the difference
          have hleft := (Condition.emitted_and_ne_nil.mp h).1
          by_cases hlast : (Condition.join .and left (gap.fill c)).lastHit mode row
              = some left.leadingColumn
          · exact .inr ⟨_, mem_parts_self _, rfl, hlast, h⟩
          · exact .inl (Condition.emitted_and_ne_nil.mpr ⟨hleft, hlast⟩)

/-- A conjunction that releases a row when a comparison loses its meaning left it out for that
comparison alone: it held, as the last one, and is on the leading column. -/
lemma Releases.exists_part
    (h : gap.Releases mode row (.comparison column relation literal)
      (.unresolved column operator literal)) :
    row.passes column (.ofComparison mode relation literal) = true
    ∧ ∃ part ∈ gap.parts, (part.fill (.comparison column relation literal)).isConjunction = true
      ∧ (part.fill (.comparison column relation literal)).leadingColumn = column
      ∧ (part.fill (.comparison column relation literal)).lastHit mode row = some column
      ∧ (part.fill (.comparison column relation literal)).emitted mode row = []
      ∧ (part.fill (.unresolved column operator literal)).emitted mode row ≠ [] := by
  obtain ⟨part, hpart, hconjunction, hlast, hreleased⟩ := h
  have hconjunction' : (part.fill (.unresolved column operator literal)).isConjunction = true := by
    rw [← hconjunction]
    cases part <;> rfl
  have hchanged := Condition.lastHit_ne_of_isConjunction hconjunction' hreleased
  rw [leadingColumn_fill part relation, ← hlast] at hchanged
  obtain hsame | ⟨hpasses, hcolumn⟩ := part.lastHit_fill relation mode
  · exact absurd hsame.symm hchanged
  have hleading : (part.fill (.comparison column relation literal)).leadingColumn = column := by
    simpa [hlast] using hcolumn
  have hnone : (part.fill (.comparison column relation literal)).emitted mode row = [] := by
    by_contra hemitted
    exact Condition.lastHit_ne_of_isConjunction hconjunction hemitted hlast
  exact ⟨hpasses, part, hpart, hconjunction, hleading, hcolumn, hnone, hreleased⟩

end Gap

namespace Matcher

/-- **Which rows a condition selects once a comparison has no meaning.** They are rows that it
selected before, unless the comparison held for the row, as the last one in some conjunction around
it and on the leading column there: such a conjunction left the row out for the comparison alone,
and selects it now. -/
theorem mem_evaluate_of_unresolved (m : Matcher) (gap : Gap) (column : String)
    (relation : Relation) (literal operator : String) (i : ℕ)
    (h : i ∈ (m.evaluate (gap.fill (.unresolved column operator literal))).1) :
    i ∈ (m.evaluate (gap.fill (.comparison column relation literal))).1
    ∨ ∃ row, m.rows[i]? = some row
      ∧ row.passes column (.ofComparison m.mode relation literal) = true
      ∧ ∃ part ∈ gap.parts, (part.fill (.comparison column relation literal)).isConjunction = true
        ∧ (part.fill (.comparison column relation literal)).leadingColumn = column
        ∧ (part.fill (.comparison column relation literal)).lastHit m.mode row = some column
        ∧ i ∉ (m.evaluate (part.fill (.comparison column relation literal))).1
        ∧ i ∈ (m.evaluate (part.fill (.unresolved column operator literal))).1 := by
  simp only [evaluate, Condition.mem_indices_select m.length_eq] at h ⊢
  obtain ⟨row, hrow, hemitted⟩ := h
  have hnone : (Condition.unresolved column operator literal).emitted m.mode row = [] := rfl
  obtain hselected | hreleases :=
    gap.emitted_fill (c := .comparison column relation literal) hnone hemitted
  · exact .inl ⟨row, hrow, hselected⟩
  obtain ⟨hpasses, part, hpart, hconjunction, hleading, hlast, hleft, hreleased⟩ :=
    hreleases.exists_part
  refine .inr ⟨row, hrow, hpasses, part, hpart, hconjunction, hleading, hlast, ?_, ?_⟩
  · rintro ⟨other, hother, hselected⟩
    obtain rfl : other = row := by simpa [hother] using hrow
    exact hselected hleft
  · exact ⟨row, hrow, hreleased⟩

/-- A row with both values, which `a = '1' and (b = '2' or a = '1')` leaves out: its last comparison
that holds is on the column of the first one. -/
def bothValues : Matcher := fresh [.ofList [("a", .string "1"), ("b", .string "2")]] .exact

/-- This condition with the place of its last comparison open. -/
def lastOpen : Gap :=
  .onRight .and (.comparison "a" .equal "1") (.onRight .or (.comparison "b" .equal "2") .here)

/-- Without the last comparison the row is selected, since that one was on the leading column. -/
theorem mem_evaluate_lastOpen :
    0 ∈ (bothValues.evaluate (lastOpen.fill (.unresolved "a" "=>" "1"))).1
    ∧ ∃ row, bothValues.rows[0]? = some row
      ∧ row.passes "a" (.ofComparison bothValues.mode .equal "1") = true
      ∧ ∃ part ∈ lastOpen.parts, (part.fill (.comparison "a" .equal "1")).leadingColumn = "a"
        ∧ (part.fill (.comparison "a" .equal "1")).lastHit bothValues.mode row = some "a" := by
  have hmem : 0 ∈ (bothValues.evaluate (lastOpen.fill (.unresolved "a" "=>" "1"))).1 := by
    decide +kernel
  refine ⟨hmem, ?_⟩
  obtain hbefore | ⟨row, hrow, hpasses, part, hpart, -, hleading, hlast, -, -⟩ :=
    bothValues.mem_evaluate_of_unresolved lastOpen "a" .equal "1" "=>" 0 hmem
  · exact absurd hbefore (by decide +kernel)
  · exact ⟨row, hrow, hpasses, part, hpart, hleading, hlast⟩

/-- Without a comparison a condition may select a row that it did not select before. -/
theorem not_forall_mem_evaluate_unresolved :
    ¬ ∀ (m : Matcher) (gap : Gap) (column : String) (relation : Relation)
        (literal operator : String),
        ∀ i ∈ (m.evaluate (gap.fill (.unresolved column operator literal))).1,
          i ∈ (m.evaluate (gap.fill (.comparison column relation literal))).1 := by
  intro h
  have hmem := h bothValues lastOpen "a" .equal "1" "=>" 0 (by decide +kernel)
  exact absurd hmem (by decide +kernel)

end Matcher

end RowQuery
