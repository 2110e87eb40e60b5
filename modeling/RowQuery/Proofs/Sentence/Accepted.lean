/-
Which tokens are accepted.

The documented grammar is that of sentences, with two tolerances: parentheses may be left open at
the end, and every level may end in a connective. More is accepted than that, since the slots of
a level take their operands in any order; what is accepted are exactly the layouts that amount to
a condition.

* `Layout.spelled_of_completes`: the clause that tokens fill spells what their layout amounts to;
* `Condition.depth_le_of_ofTokens`: no condition that is read is deeper than the limit;
* `accepts_exactly_layouts`: the tokens that spell a condition with known operators;
* `IsCondition`, `IsSequence`, `IsExpression`: the documented grammar;
* `not_forall_isExpression`: not all tokens that are accepted are of the documented grammar.
-/
import RowQuery.Proofs.Sentence.Filling
import RowQuery.Proofs.Sentence.Reading

namespace RowQuery

/-! ### What is read -/

/-- The clause that tokens fill spells what their layout amounts to, unless it is too deep. -/
lemma Layout.spelled_of_completes {l : Layout} {tokens : List Token}
    (h : Completes tokens l.tokens) :
    Level.start.read [] tokens >>= Clause.condition = .error .tooDeep
      ∨ (∃ x, l.part = .condition x ∧ x.depth ≤ maxDepth
          ∧ Level.start.read [] tokens >>= Clause.condition = .ok x)
      ∨ (∀ x, l.part ≠ .condition x)
          ∧ ∃ e, Level.start.read [] tokens >>= Clause.condition = .error e := by
  obtain hdeep | ⟨c, hread, hshows, hdepth⟩ := read_of_completes h
  · exact .inl (by rw [hdeep]; rfl)
  rw [hread]
  obtain ⟨x, hx, hcondition⟩ | ⟨hnone, e, herror⟩ := Clause.condition_of_operand_shows hshows
  · exact .inr (.inl ⟨x, hx, hdepth x hx, hcondition⟩)
  · exact .inr (.inr ⟨hnone, e, herror⟩)

/-- Tokens that amount to a condition are read as that condition, unless it is too deep. -/
lemma Layout.ofTokens_of_part {l : Layout} {tokens : List Token} {x : Condition}
    (h : Completes tokens l.tokens) (hx : l.part = .condition x) :
    Condition.ofTokens tokens = .ok (some x) ∨ Condition.ofTokens tokens = .error .tooDeep := by
  have hspelled := l.spelled_of_completes h
  have hne : tokens ≠ [] := by
    rintro rfl
    have hempty : Level.start.read [] [] >>= Clause.condition = .error .emptyCondition := rfl
    simp [hempty, hx] at hspelled
  rw [Condition.ofTokens_eq hne]
  obtain hdeep | ⟨y, hy, -, hok⟩ | ⟨hnone, -⟩ := hspelled
  · exact .inr (by rw [hdeep]; rfl)
  · obtain rfl : x = y := by simpa [hx] using hy
    exact .inl (by rw [hok]; rfl)
  · exact absurd hx (hnone x)

/-- A condition that is read from tokens is what they amount to, and within the limit. -/
lemma Layout.part_of_ofTokens {l : Layout} {tokens : List Token} {x : Condition}
    (h : Completes tokens l.tokens) (hread : Condition.ofTokens tokens = .ok (some x)) :
    l.part = .condition x ∧ x.depth ≤ maxDepth := by
  have hne : tokens ≠ [] := by
    rintro rfl
    cases hread
  rw [Condition.ofTokens_eq hne] at hread
  obtain hdeep | ⟨y, hy, hdepth, hok⟩ | ⟨-, e, herror⟩ := l.spelled_of_completes h
  · rw [hdeep] at hread
    cases hread
  · rw [hok] at hread
    cases hread
    exact ⟨hy, hdepth⟩
  · rw [herror] at hread
    cases hread

/-- No condition that is read is deeper than the limit. -/
lemma Condition.depth_le_of_ofTokens {tokens : List Token} {x : Condition}
    (h : ofTokens tokens = .ok (some x)) : x.depth ≤ maxDepth := by
  obtain ⟨l, hl⟩ := exists_layout_completes tokens
  exact (l.part_of_ofTokens hl h).2

/-- Refusing operators without a meaning changes nothing else. -/
lemma Condition.ofTokensResolved_eq_ok_iff {tokens : List Token} {x : Condition} :
    ofTokensResolved tokens = .ok (some x)
      ↔ ofTokens tokens = .ok (some x) ∧ x.unknownOperator? = none := by
  rw [ofTokensResolved]
  cases ofTokens tokens with
  | error e => simp [bind, Except.bind]
  | ok result =>
      cases hunknown : result.bind unknownOperator? with
      | some operator =>
          have hne (hx : result = some x) : x.unknownOperator? ≠ none := by
            rw [hx, Option.bind_some] at hunknown
            simp [hunknown]
          simpa [bind, Except.bind, hunknown] using hne
      | none =>
          have hknown (hx : result = some x) : x.unknownOperator? = none := by
            rwa [hx, Option.bind_some] at hunknown
          simpa [bind, Except.bind, hunknown, pure, Except.pure] using hknown

/-- Tokens are accepted exactly if they are laid out so that they amount to a condition, its
operators all have a meaning, and it is not too deep. -/
theorem accepts_exactly_layouts (tokens : List Token) (x : Condition) :
    (Condition.ofTokensResolved tokens = .ok (some x) →
        ∃ l : Layout, Completes tokens l.tokens ∧ l.part = .condition x
          ∧ x.unknownOperator? = none)
      ∧ ∀ l : Layout, Completes tokens l.tokens → l.part = .condition x →
          x.unknownOperator? = none →
          Condition.ofTokensResolved tokens = .ok (some x)
            ∨ Condition.ofTokensResolved tokens = .error .tooDeep := by
  constructor
  · intro h
    obtain ⟨hread, hknown⟩ := Condition.ofTokensResolved_eq_ok_iff.mp h
    obtain ⟨l, hl⟩ := exists_layout_completes tokens
    exact ⟨l, hl, (l.part_of_ofTokens hl hread).1, hknown⟩
  · intro l hl hx hknown
    obtain hok | hdeep := l.ofTokens_of_part hl hx
    · exact .inl (Condition.ofTokensResolved_eq_ok_iff.mpr ⟨hok, hknown⟩)
    · right
      rw [Condition.ofTokensResolved, hdeep]
      rfl

/-- A connective, and in a parenthesis that stays open a comparison with its operator first. -/
def outOfOrder : List Token :=
  [.word "and" false, .mark '(', .mark '=', .word "a" false, .word "1" false]

/-- How these tokens are laid out. -/
def outOfOrderLayout : Layout :=
  (Layout.nil.junction ⟨"and", .and, by decide +kernel⟩).group
    (((Layout.nil.mark '=' (by decide)).word
        ⟨"a", false, fun _ k => by cases k <;> decide +kernel⟩).word
      ⟨"1", false, fun _ k => by cases k <;> decide +kernel⟩)

/-- They are accepted as the comparison. -/
theorem accepts_outOfOrder :
    (∃ l : Layout, Completes outOfOrder l.tokens
        ∧ l.part = .condition (.comparison "a" .equal "1")
        ∧ (Condition.comparison "a" .equal "1").unknownOperator? = none)
      ∧ (Condition.ofTokensResolved outOfOrder = .ok (some (.comparison "a" .equal "1"))
        ∨ Condition.ofTokensResolved outOfOrder = .error .tooDeep) := by
  have haccepts := accepts_exactly_layouts outOfOrder (.comparison "a" .equal "1")
  exact ⟨haccepts.1 (by decide +kernel),
    haccepts.2 outOfOrderLayout (.inl ⟨1, rfl⟩) (by decide +kernel) rfl⟩

/-! ### The documented grammar -/

mutual

/-- A comparison with its operator between the column and the literal, or an expression in
parentheses. -/
inductive IsCondition : List Token → Prop
  | comparison (column : Operand) (operator : Operator) (literal : Operand) :
      IsCondition (column.token :: (operator.tokens ++ [literal.token]))
  | group {tokens : List Token} (h : IsExpression tokens) :
      IsCondition (.mark '(' :: (tokens ++ [.mark ')']))

/-- Conditions with exactly one connective between every two neighbours. -/
inductive IsSequence : List Token → Prop
  | single {tokens : List Token} (h : IsCondition tokens) : IsSequence tokens
  | link {before tokens : List Token} (hbefore : IsSequence before) (j : Junction)
      (h : IsCondition tokens) : IsSequence (before ++ j.token :: tokens)

/-- A sequence, which one connective may follow. -/
inductive IsExpression : List Token → Prop
  | whole {tokens : List Token} (h : IsSequence tokens) : IsExpression tokens
  | dangling {tokens : List Token} (h : IsSequence tokens) (j : Junction) :
      IsExpression (tokens ++ [j.token])

end

/-- A condition of the documented grammar begins with a word or a parenthesis. -/
lemma IsCondition.exists_cons {tokens : List Token} (h : IsCondition tokens) :
    ∃ first rest, tokens = first :: rest ∧ first ≠ .mark '=' := by
  cases h with
  | comparison a op b => exact ⟨_, _, rfl, by simp [Operand.token]⟩
  | group h => exact ⟨_, _, rfl, by decide⟩

/-- So does a sequence. -/
lemma IsSequence.exists_cons : ∀ {tokens : List Token}, IsSequence tokens →
    ∃ first rest, tokens = first :: rest ∧ first ≠ .mark '='
  | _, .single h => h.exists_cons
  | _, .link hbefore j h => by
      obtain ⟨first, rest, rfl, hfirst⟩ := hbefore.exists_cons
      exact ⟨first, _, rfl, hfirst⟩

/-- So does an expression. -/
lemma IsExpression.exists_cons {tokens : List Token} (h : IsExpression tokens) :
    ∃ first rest, tokens = first :: rest ∧ first ≠ .mark '=' := by
  cases h with
  | whole h => exact h.exists_cons
  | dangling h j =>
      obtain ⟨first, rest, rfl, hfirst⟩ := h.exists_cons
      exact ⟨first, _, rfl, hfirst⟩

/-- The tokens of a comparison whose operator stands before both operands. -/
def operatorFirst : List Token := [.mark '=', .word "a" false, .word "1" false]

/-- Not all tokens that are accepted are of the documented grammar. -/
theorem not_forall_isExpression :
    ¬ ∀ (tokens : List Token) (x : Condition),
        Condition.ofTokensResolved tokens = .ok (some x) →
          ∃ whole, Completes tokens whole ∧ IsExpression whole := by
  intro h
  have haccepted : Condition.ofTokensResolved operatorFirst
      = .ok (some (.comparison "a" .equal "1")) := by
    decide +kernel
  obtain ⟨whole, hcompletes, hwhole⟩ := h _ _ haccepted
  obtain ⟨first, rest, rfl, hfirst⟩ := hwhole.exists_cons
  obtain ⟨n, hn⟩ | ⟨after, hafter⟩ := hcompletes
  · obtain ⟨rfl, -⟩ := List.cons.inj hn
    exact hfirst rfl
  · obtain ⟨rfl, -⟩ := List.cons.inj hafter
    exact hfirst rfl

end RowQuery
