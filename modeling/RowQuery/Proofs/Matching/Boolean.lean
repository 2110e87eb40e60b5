/-
Conditions that mean what they say.

A condition can be read as a formula: a comparison holds for a row or does not, `or` holds if one
side does, and `and` if both do. Selecting rows is not the same, for a conjunction only asks which
comparison held last. The two agree where every `and` has a single comparison on its left, and on
its right comparisons on other columns, joined by `or` only: then the last comparison that holds
tells whether one on the right does.

* `Condition.holds`: the reading as a formula;
* `Condition.columns`: the columns that a condition compares (`mem_columns_of_lastHit`);
* `Condition.Plain`: the conditions whose conjunctions are of that form;
* `emitted_ne_nil_iff_holds`: the rows for which such a condition is selected, one by one;
* `Matcher.mem_evaluate_iff_holds`: it selects the rows for which it holds.
-/
import RowQuery.Proofs.Matching.Reuse

namespace RowQuery

namespace Condition

/-! ### The reading as a formula -/

/-- Whether a condition holds for a row, read as a formula. A comparison holds for no row without
the column, and one whose operator has no meaning for no row at all. -/
def holds (mode : MatchMode) (row : Row) : Condition → Bool
  | comparison column relation literal => row.passes column (.ofComparison mode relation literal)
  | unresolved .. => false
  | join .and left right => left.holds mode row && right.holds mode row
  | join .or left right => left.holds mode row || right.holds mode row

/-- The columns that a condition compares, from left to right. -/
def columns : Condition → List String
  | comparison column _ _ => [column]
  | unresolved column _ _ => [column]
  | join _ left right => left.columns ++ right.columns

/-- Whether a condition is a single comparison. -/
def isLeaf : Condition → Bool
  | comparison .. => true
  | unresolved .. => true
  | join .. => false

/-- Conditions joined by `or` in any nesting from single comparisons, each alone or joined by `and`
with comparisons on other columns; these are joined by `or` only. -/
inductive Plain : Condition → Prop
  | leaf {c : Condition} (hleaf : c.isLeaf = true) : Plain c
  | and {c right : Condition} (hleaf : c.isLeaf = true) (hor : right.joinsOnlyOr = true)
      (hcolumn : c.leadingColumn ∉ right.columns) : Plain (join .and c right)
  | or {left right : Condition} (hleft : Plain left) (hright : Plain right) :
      Plain (join .or left right)

variable {mode : MatchMode} {row : Row}

/-! ### The last comparison that holds -/

/-- The last comparison that holds is one of the condition. -/
lemma mem_columns_of_lastHit {e : Condition} {column : String}
    (h : e.lastHit mode row = some column) : column ∈ e.columns := by
  induction e with
  | comparison column' relation literal =>
      rw [lastHit, Option.ite_none_right_eq_some] at h
      rw [columns, List.mem_singleton]
      exact (Option.some_injective _ h.2).symm
  | unresolved column' operator literal => cases h
  | join connective left right ihl ihr =>
      rw [lastHit, Option.or_eq_some_iff] at h
      rw [columns, List.mem_append]
      rcases h with hright | ⟨-, hleft⟩
      · exact .inr (ihr hright)
      · exact .inl (ihl hleft)

/-- Of a single comparison the last one that holds is on the leading column. -/
lemma lastHit_of_isLeaf {c : Condition} (hleaf : c.isLeaf = true) :
    c.lastHit mode row = if c.holds mode row then some c.leadingColumn else none := by
  cases c with
  | comparison column relation literal => rfl
  | unresolved column operator literal => rfl
  | join connective left right => cases hleaf

/-- A single comparison is selected for the rows for which it holds. -/
lemma emitted_ne_nil_iff_of_isLeaf {c : Condition} (hleaf : c.isLeaf = true) :
    c.emitted mode row ≠ [] ↔ c.holds mode row = true := by
  cases c with
  | comparison column relation literal =>
      rw [emitted, holds]
      split <;> simp_all
  | unresolved column operator literal => simp [emitted, holds]
  | join connective left right => cases hleaf

/-- Joined by `or` only, a condition holds if one of its comparisons does. -/
lemma holds_iff_lastHit {e : Condition} (hor : e.joinsOnlyOr = true) :
    e.holds mode row = true ↔ e.lastHit mode row ≠ none := by
  induction e with
  | comparison column relation literal =>
      rw [holds, lastHit]
      split <;> simp_all
  | unresolved column operator literal => simp [holds, lastHit]
  | join connective left right ihl ihr =>
      cases connective with
      | and => cases hor
      | or =>
          obtain ⟨hleft, hright⟩ := Bool.and_eq_true_iff.mp hor
          rw [holds, Bool.or_eq_true, ihl hleft, ihr hright, lastHit, ne_eq, ne_eq, ne_eq,
            Option.or_eq_none_iff, not_and_or, or_comm]

/-! ### The rows of plain conditions -/

/-- A single comparison and others on different columns, joined by `and`: the last comparison that
holds is on the column of the first one exactly if none of the others holds. -/
lemma emitted_and_ne_nil_iff {c right : Condition} (hleaf : c.isLeaf = true)
    (hor : right.joinsOnlyOr = true) (hcolumn : c.leadingColumn ∉ right.columns) :
    (join .and c right).emitted mode row ≠ []
      ↔ c.holds mode row = true ∧ right.holds mode row = true := by
  rw [emitted_and_ne_nil, emitted_ne_nil_iff_of_isLeaf hleaf, holds_iff_lastHit hor]
  refine and_congr_right fun hholds => ?_
  rw [lastHit, lastHit_of_isLeaf hleaf, if_pos hholds]
  cases hlast : right.lastHit mode row with
  | none => simp
  | some column =>
      have hne : column ≠ c.leadingColumn :=
        fun heq => hcolumn (heq ▸ mem_columns_of_lastHit hlast)
      simpa using hne

/-- A plain condition is selected for the rows for which it holds. -/
lemma emitted_ne_nil_iff_holds {e : Condition} (h : e.Plain) :
    e.emitted mode row ≠ [] ↔ e.holds mode row = true := by
  induction h with
  | leaf hleaf => exact emitted_ne_nil_iff_of_isLeaf hleaf
  | and hleaf hor hcolumn =>
      rw [emitted_and_ne_nil_iff hleaf hor hcolumn, holds, Bool.and_eq_true]
  | or _ _ ihl ihr =>
      rw [emitted, holds, Bool.or_eq_true, ← ihl, ← ihr, ← not_and_or, ne_eq,
        List.append_eq_nil_iff, List.map_eq_nil_iff]

end Condition

/-- **Conditions that mean what they say.** A condition made by `or`, in any nesting, of single
comparisons and of comparisons joined by `and` with comparisons on other columns, these joined by
`or` only, selects the rows for which it holds as a formula, whatever the rows remember. -/
theorem Matcher.mem_evaluate_iff_holds (m : Matcher) {e : Condition} (h : e.Plain) (i : Nat) :
    i ∈ (m.evaluate e).1 ↔ ∃ row, m.rows[i]? = some row ∧ e.holds m.mode row = true := by
  rw [evaluate, Condition.mem_indices_select m.length_eq]
  simp only [Condition.emitted_ne_nil_iff_holds h]

/-- Of the rows named CN those are selected that have the code or the number; the last one has
neither, and the row of another name is left out though its code is right. -/
theorem Matcher.mem_evaluate_nested_or :
    let row := fun (id : Int64) (code name : String) =>
      Row.ofList [("id", .integer id), ("code", .string code), ("name", .string name)]
    let m := fresh [row 5 "BJS" "CN", row 2 "BJS" "CN", row 3 "SHA" "CN", row 4 "BJS" "US",
      row 1 "SHA" "CN"] .exact
    let e := Condition.join .and (.comparison "name" .equal "CN")
      (.join .or (.comparison "code" .equal "BJS") (.comparison "id" .equal "3"))
    e.Plain ∧ (m.evaluate e).1 = [0, 1, 2]
    ∧ ∀ i, i ∈ (m.evaluate e).1 ↔ ∃ row, m.rows[i]? = some row ∧ e.holds .exact row = true := by
  intro row m e
  have hplain : e.Plain := .and rfl rfl (by decide)
  exact ⟨hplain, by decide +kernel, m.mem_evaluate_iff_holds hplain⟩

end RowQuery
