/-
Selections one after the other.

What the rows remember is never cleared, so when conditions are tried in turn each begins with what
the ones before it have left. A conjunction reads what the rows remember, but it asks only for rows
that its left side has selected, and for these a comparison has held in that very conjunction. So
nothing that was left before is ever seen.

* `Matcher`: rows under a mode, and the column that each row remembers;
* `Matcher.evaluate`, `Matcher.answers`: the rows that a condition selects, and those that
  conditions select in turn;
* `Condition.indices_select_eq`: what the rows remember before does not change what is selected;
* `Matcher.answers_eq_map_fresh`: in turn every condition selects what it selects alone.
-/
import RowQuery.Proofs.Matching.Conjunction

namespace RowQuery

namespace Condition

variable {mode : MatchMode} {rows : List Row}

/-- What the rows remember before a condition does not change which rows it selects. -/
lemma indices_select_eq (e : Condition) {before before' : List (Option String)}
    (h : before.length = rows.length) (h' : before'.length = rows.length) :
    (e.select mode rows before).indices = (e.select mode rows before').indices := by
  rw [e.indices_select h, e.indices_select h']

/-- After a condition every row still remembers one column or none. -/
lemma length_lastColumns_select (e : Condition) {before : List (Option String)}
    (h : before.length = rows.length) :
    (e.select mode rows before).lastColumns.length = rows.length := by
  rw [e.lastColumns_select h, List.length_zipWith, h, Nat.min_self]

end Condition

/-! ### Matchers -/

/-- Rows on which conditions are tried, and what they remember. -/
structure Matcher where
  rows : List Row
  mode : MatchMode
  /-- For every row the column of the last comparison that held for it. -/
  lastColumns : List (Option String)
  length_eq : lastColumns.length = rows.length

namespace Matcher

/-- No row remembers a column yet. -/
def fresh (rows : List Row) (mode : MatchMode) : Matcher :=
  ⟨rows, mode, noColumns rows, Condition.length_noColumns rows⟩

/-- The rows that a condition selects, by index, and what the rows remember afterwards. -/
def evaluate (m : Matcher) (e : Condition) : List Nat × Matcher :=
  let selection := e.select m.mode m.rows m.lastColumns
  (selection.indices,
    { m with
      lastColumns := selection.lastColumns
      length_eq := e.length_lastColumns_select m.length_eq })

/-- The rows that conditions select in turn, each beginning with what the ones before it left. -/
def answers (m : Matcher) : List Condition → List (List Nat)
  | [] => []
  | e :: rest => (m.evaluate e).1 :: (m.evaluate e).2.answers rest

/-- One evaluation: whatever the rows remember, a condition selects what it does afresh. -/
lemma evaluate_eq_fresh (m : Matcher) (e : Condition) :
    (m.evaluate e).1 = ((fresh m.rows m.mode).evaluate e).1 :=
  e.indices_select_eq m.length_eq (Condition.length_noColumns m.rows)

/-- A run: whatever the rows remember before it, each condition selects what it does afresh. -/
lemma answers_eq_fresh (m : Matcher) (es : List Condition) :
    m.answers es = es.map fun e => ((fresh m.rows m.mode).evaluate e).1 := by
  induction es generalizing m with
  | nil => rfl
  | cons e rest ih =>
      rw [answers, List.map_cons, m.evaluate_eq_fresh e]
      exact congrArg _ (ih (m.evaluate e).2)

/-- **Nothing is left behind.** Of conditions that are tried in turn on the same rows each selects
what it selects when it is tried alone; and a condition selects the same rows whatever the rows
remember when its turn comes, also as a part of another condition. -/
theorem answers_eq_map_fresh (rows : List Row) (mode : MatchMode) (es : List Condition) :
    (fresh rows mode).answers es = es.map (fun e => ((fresh rows mode).evaluate e).1)
    ∧ ∀ (before : Matcher) (e : Condition),
        (before.evaluate e).1 = ((fresh before.rows before.mode).evaluate e).1 :=
  ⟨(fresh rows mode).answers_eq_fresh es, evaluate_eq_fresh⟩

end Matcher

end RowQuery
