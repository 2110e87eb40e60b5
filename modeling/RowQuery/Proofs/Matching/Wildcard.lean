/-
Comparisons with wildcards.

Where a percent sign stands for any run of characters, a literal is equal to the texts that are its
pieces with something in the gaps, which is also what the pattern does that is written for it. A
literal without percent signs is compared as it is.

* `CellTest.accepts_wildcard`: the values that a comparison accepts, by the texts that its literal
  matches;
* `mem_select_wildcard`: the rows that `=` and `!=` select.
-/
import RowQuery.Proofs.Matching.RowByRow
import RowQuery.Proofs.Pattern.WrittenGlob

namespace RowQuery

/-- The pattern of a literal is no larger than a machine for it may be. -/
def Glob.Fits (literal : String) : Prop :=
  wildcard ∈ literal.toList → (pattern literal).fits = true

namespace CellTest

variable {literal : String}

/-- A literal with a percent sign stands for its pattern, and another one for itself. -/
lemma pattern?_wildcard (hfits : Glob.Fits literal) :
    pattern? .wildcard literal
      = if Glob.wildcard ∈ literal.toList then some (some (Glob.pattern literal)) else none := by
  have hcontains : literal.toList.contains Glob.wildcard = true ↔ Glob.wildcard ∈ literal.toList :=
    List.contains_iff_mem
  simp only [pattern?, hcontains]
  split
  · next hmem =>
    rw [written?, Glob.ofText?_patternText, Option.filter_some, if_pos (hfits hmem)]
  · rfl

/-- With wildcards, `=` accepts the values whose texts the literal matches, and `!=` all others. -/
lemma accepts_wildcard (hfits : Glob.Fits literal) (relation : Relation)
    (hrelation : relation.isOrdering = false) (v : Value) :
    (ofComparison .wildcard relation literal).accepts v = true
      ↔ (Glob.Matches literal v.text ↔ relation ≠ .notEqual) := by
  have hexpected : ∀ b : Bool, (b == decide (relation ≠ .notEqual)) = true
      ↔ (b = true ↔ relation ≠ .notEqual) := by
    intro b
    rw [beq_iff_eq, Bool.eq_iff_iff, decide_eq_true_eq]
  rw [ofComparison, hrelation, pattern?_wildcard hfits]
  by_cases hmem : Glob.wildcard ∈ literal.toList
  · simp only [hmem, if_true, Bool.false_eq_true, if_false, accepts]
    rw [hexpected, Glob.isIn_pattern_iff]
  · simp only [hmem, Bool.false_eq_true, if_false, accepts]
    rw [hexpected, beq_iff_eq, Glob.matches_iff_eq hmem]

end CellTest

namespace Condition

/-- The rows that a single comparison selects are those with a value that it accepts. -/
lemma mem_select_comparison {mode : MatchMode} {rows : List Row}
    {lastColumns : List (Option String)} {column literal : String} {relation : Relation} {i : Nat} :
    i ∈ ((comparison column relation literal).select mode rows lastColumns).indices
      ↔ ∃ row v, rows[i]? = some row ∧ row.get? column = some v
        ∧ (CellTest.ofComparison mode relation literal).accepts v = true := by
  rw [select, selectCell, indicesOf_map, mem_indicesWhere]
  constructor
  · rintro ⟨row, hrow, hpasses⟩
    obtain ⟨v, hv, haccepts⟩ := (Option.any_eq_true _ _).mp hpasses
    exact ⟨row, v, hrow, hv, haccepts⟩
  · rintro ⟨row, v, hrow, hv, haccepts⟩
    exact ⟨row, hrow, (Option.any_eq_true _ _).mpr ⟨v, hv, haccepts⟩⟩

/-- **Wildcards.** A literal is its pieces with percent signs between them, none in a piece. With
wildcards `=` selects the rows whose value in the column has the text of the pieces in their order
with some texts in the gaps, and `!=` selects the other rows that have the column; where there is
no percent sign, the text has to be the literal. -/
theorem mem_select_wildcard (rows : List Row) (lastColumns : List (Option String))
    (column literal : String) (hfits : Glob.Fits literal) (i : Nat) :
    let pieces := Glob.pieces literal.toList
    let matching := fun text : String => ∃ gaps : List (List Char),
      gaps.length + 1 = pieces.length ∧ text.toList = Glob.filled pieces gaps
    (['%'].intercalate pieces = literal.toList ∧ ∀ piece ∈ pieces, '%' ∉ piece)
    ∧ (i ∈ ((comparison column .equal literal).select .wildcard rows lastColumns).indices
        ↔ ∃ row v, rows[i]? = some row ∧ row.get? column = some v ∧ matching v.text)
    ∧ (i ∈ ((comparison column .notEqual literal).select .wildcard rows lastColumns).indices
        ↔ ∃ row v, rows[i]? = some row ∧ row.get? column = some v ∧ ¬ matching v.text)
    ∧ ('%' ∉ literal.toList → ∀ text, matching text ↔ text = literal) := by
  intro pieces matching
  refine ⟨⟨Glob.intercalate_pieces _, fun piece hpiece => Glob.wildcard_not_mem hpiece⟩, ?_, ?_,
    fun hnone text => Glob.matches_iff_eq hnone⟩
  · rw [mem_select_comparison]
    simp only [CellTest.accepts_wildcard hfits .equal rfl]
    simp [Glob.Matches, matching, pieces]
  · rw [mem_select_comparison]
    simp only [CellTest.accepts_wildcard hfits .notEqual rfl]
    simp [Glob.Matches, matching, pieces]

/-- A gap may have a line end in it, or nothing; a point is a point, and a row without the column is
not selected. -/
theorem mem_select_wildcard_line_end :
    let literal := "a.%b%"
    let rows := [Row.ofList [("c", .string "a.\nb")], Row.ofList [("c", .string "axb")],
      Row.ofList [("d", .string "a.b")]]
    Glob.Fits literal
    ∧ 0 ∈ ((comparison "c" .equal literal).select .wildcard rows (noColumns rows)).indices
    ∧ 1 ∈ ((comparison "c" .notEqual literal).select .wildcard rows (noColumns rows)).indices
    ∧ 2 ∉ ((comparison "c" .notEqual literal).select .wildcard rows (noColumns rows)).indices := by
  intro literal rows
  have hfits : Glob.Fits literal := fun _ => by decide +kernel
  have hselect := mem_select_wildcard rows (noColumns rows) "c" literal hfits
  refine ⟨hfits, (hselect 0).2.1.mpr ?_, by decide +kernel, fun hmem => ?_⟩
  · exact ⟨_, _, rfl, rfl, ["\n".toList, []], by decide, by decide⟩
  · obtain ⟨row, v, hrow, hv, -⟩ := (hselect 2).2.2.1.mp hmem
    obtain rfl : Row.ofList [("d", .string "a.b")] = row := Option.some_injective _ hrow
    have hnone : (Row.ofList [("d", .string "a.b")]).get? "c" = none := by decide +kernel
    rw [hnone] at hv
    cases hv

end Condition

end RowQuery
