/-
What a row selected by `and` has passed.

A conjunction keeps the rows of its left side whose last comparison that held is on another
column than the leading one there. That comparison may stand on the left as well as on the right,
so a kept row need not be one of the right side.

* `Condition.joinsOnlyOr`: no `and` anywhere; then a row for which a comparison holds is selected
  (`emitted_ne_nil_of_joinsOnlyOr`);
* `mem_select_and`: the rows of a conjunction exactly, and when they are rows of the right side;
* `not_forall_select_and_right`: rows of a conjunction that are not rows of its right side.
-/
import RowQuery.Proofs.Matching.RowByRow

namespace RowQuery

namespace Condition

variable {mode : MatchMode} {row : Row}

/-- Whether no two parts of a condition are joined by `and`. -/
def joinsOnlyOr : Condition → Bool
  | comparison .. => true
  | unresolved .. => true
  | join .or left right => left.joinsOnlyOr && right.joinsOnlyOr
  | join .and _ _ => false

/-- Joined by `or` only, a condition emits every row for which one of its comparisons holds. -/
lemma emitted_ne_nil_of_joinsOnlyOr {e : Condition} (hor : e.joinsOnlyOr = true)
    (hhit : e.lastHit mode row ≠ none) : e.emitted mode row ≠ [] := by
  induction e with
  | comparison column relation literal =>
      rw [lastHit] at hhit
      rw [emitted]
      split at hhit <;> simp_all
  | unresolved column operator literal => simp [lastHit] at hhit
  | join connective left right ihl ihr =>
      cases connective with
      | and => simp [joinsOnlyOr] at hor
      | or =>
          obtain ⟨hleft, hright⟩ := Bool.and_eq_true_iff.mp hor
          rw [emitted]
          by_cases hr : right.lastHit mode row = none
          · have hl : left.lastHit mode row ≠ none := by simpa [lastHit, hr] using hhit
            simp [ihl hleft hl]
          · simp [ihr hright hr]

/-- A conjunction emits a row exactly if its left side does and the last comparison that holds is
on another column than the leading one there. -/
lemma emitted_and_ne_nil {left right : Condition} :
    (join .and left right).emitted mode row ≠ []
      ↔ left.emitted mode row ≠ []
        ∧ (join .and left right).lastHit mode row ≠ some left.leadingColumn := by
  rw [emitted]
  split <;> simp_all

/-- A disjunction emits a row exactly if one of its sides does. -/
lemma emitted_or_ne_nil {left right : Condition} :
    (join .or left right).emitted mode row ≠ []
      ↔ left.emitted mode row ≠ [] ∨ right.emitted mode row ≠ [] := by
  rw [emitted, ne_eq, List.append_eq_nil_iff, List.map_eq_nil_iff, not_and_or]

variable {rows : List Row}

/-- No row of a fresh matcher remembers a column. -/
lemma length_noColumns (rows : List Row) : (noColumns rows).length = rows.length := by
  rw [noColumns, List.length_map]

/-- **The rows of a conjunction.** An index is selected exactly if the left side selects it and
the right-most comparison that holds for its row is not on the leading column of the left side. If
the right side joins by `or` only and the last comparison on the left is on the leading column,
then the right side selects the index too. -/
theorem mem_select_and (mode : MatchMode) (rows : List Row) (left right : Condition) (i : Nat) :
    (i ∈ ((join .and left right).select mode rows (noColumns rows)).indices
      ↔ i ∈ (left.select mode rows (noColumns rows)).indices
        ∧ ∃ row, rows[i]? = some row
          ∧ (join .and left right).lastHit mode row ≠ some left.leadingColumn)
    ∧ (i ∈ ((join .and left right).select mode rows (noColumns rows)).indices →
        right.joinsOnlyOr = true →
        (∀ row, rows[i]? = some row → left.lastHit mode row = some left.leadingColumn) →
        i ∈ (right.select mode rows (noColumns rows)).indices) := by
  have hlength := length_noColumns rows
  simp only [mem_indices_select hlength, emitted_and_ne_nil]
  refine ⟨⟨?_, ?_⟩, ?_⟩
  · rintro ⟨row, hrow, hleft, hlast⟩
    exact ⟨⟨row, hrow, hleft⟩, row, hrow, hlast⟩
  · rintro ⟨⟨row, hrow, hleft⟩, row', hrow', hlast⟩
    obtain rfl : row' = row := by simpa [hrow] using hrow'.symm
    exact ⟨row', hrow, hleft, hlast⟩
  · rintro ⟨row, hrow, -, hlast⟩ hor hleading
    refine ⟨row, hrow, emitted_ne_nil_of_joinsOnlyOr hor fun hnone => hlast ?_⟩
    -- nothing on the right holds, so the last comparison is the one on the left
    rw [lastHit, hnone, Option.none_or]
    exact hleading row hrow

/-- A row for which both comparisons hold is one of both sides. -/
theorem mem_select_and_one_row :
    let rows := [Row.ofList [("a", .string "1"), ("b", .string "2")]]
    let left := comparison "a" .equal "1"
    let right := comparison "b" .equal "2"
    right.joinsOnlyOr = true
    ∧ (∀ row, rows[0]? = some row → left.lastHit .exact row = some left.leadingColumn)
    ∧ 0 ∈ ((join .and left right).select .exact rows (noColumns rows)).indices
    ∧ 0 ∈ (right.select .exact rows (noColumns rows)).indices := by
  intro rows left right
  have hhit : ∀ row, rows[0]? = some row → left.lastHit .exact row = some left.leadingColumn := by
    rintro row ⟨⟩
    decide +kernel
  have hmem : 0 ∈ ((join .and left right).select .exact rows (noColumns rows)).indices := by
    decide +kernel
  exact ⟨rfl, hhit, hmem, (mem_select_and .exact rows left right 0).2 hmem rfl hhit⟩

/-- A row of a conjunction need not be one of its right side. The outer `and` of a chain keeps a
row for the second comparison on its left, and a conjunction on the right that fails counts by
its last comparison. -/
theorem not_forall_select_and_right :
    (¬ ∀ (mode : MatchMode) (rows : List Row) (left : Condition) (column literal : String),
      ∀ i ∈ ((join .and left (comparison column .equal literal)).select mode rows
          (noColumns rows)).indices,
        i ∈ ((comparison column .equal literal).select mode rows (noColumns rows)).indices)
    ∧ ¬ ∀ (mode : MatchMode) (rows : List Row) (column literal : String) (right : Condition),
      ∀ i ∈ ((join .and (comparison column .equal literal) right).select mode rows
          (noColumns rows)).indices,
        i ∈ (right.select mode rows (noColumns rows)).indices := by
  constructor
  · intro h
    have hright := h .exact [.ofList [("a", .string "1"), ("b", .string "2")]]
      (join .and (comparison "a" .equal "1") (comparison "b" .equal "2")) "c" "3" 0
      (by decide +kernel)
    exact absurd hright (by decide +kernel)
  · intro h
    have hright := h .exact [.ofList [("a", .string "1"), ("c", .string "3")]] "a" "1"
      (join .and (comparison "b" .equal "2") (comparison "c" .equal "3")) 0 (by decide +kernel)
    exact absurd hright (by decide +kernel)

end Condition

end RowQuery
