/-
Checking what a check has written.

The written form of a condition stands in one more pair of parentheses than the condition has
joins inside each other, and these count as a level. So the written form of a condition that a
check accepts is accepted again, except where the condition is as deep as the limit.

* `Condition.check_text`: when the written form of a condition passes a check;
* `check_text_of_check`: when the written form of a checked condition does;
* `orChain`: conditions as deep as the limit that a check accepts, since they can be written without
  parentheses;
* `not_forall_check_text`: their written form is refused.
-/
import RowQuery.Proofs.Condition.Written
import RowQuery.Proofs.Sentence.Accepted
import RowQuery.Query

namespace RowQuery

/-! ### Checks -/

/-- Naming an error keeps what is no error. -/
lemma mapError_eq_ok_iff {ε ε' α : Type} {f : ε → ε'} {result : Except ε α} {a : α} :
    result.mapError f = .ok a ↔ result = .ok a := by
  cases result <;> simp [Except.mapError]

/-- A text whose quotes are closed is checked by its tokens. -/
lemma check_of_tokenizeStrict {text : String} {tokens : List Token}
    (h : tokenizeStrict text = .ok tokens) :
    check text = (Condition.ofTokensResolved tokens).mapError .parse := by
  rw [check, h]
  rfl

/-- A text that passes a check has tokens that spell its condition, all operators of which have a
meaning. -/
lemma exists_tokens_of_check {text : String} {e : Condition} (h : check text = .ok (some e)) :
    ∃ tokens, Condition.ofTokens tokens = .ok (some e) ∧ e.unknownOperator? = none := by
  cases htokens : tokenizeStrict text with
  | error failure =>
      rw [check, htokens] at h
      cases h
  | ok tokens =>
      rw [check_of_tokenizeStrict htokens, mapError_eq_ok_iff] at h
      exact ⟨tokens, Condition.ofTokensResolved_eq_ok_iff.mp h⟩

namespace Condition

/-- A condition whose operators all have a meaning can be written. -/
lemma spelled_of_unknownOperator? {e : Condition} (h : e.unknownOperator? = none) : e.Spelled := by
  induction e with
  | comparison column relation literal => trivial
  | unresolved column operator literal => cases h
  | join connective left right ihl ihr =>
      rw [unknownOperator?] at h
      cases hleft : left.unknownOperator? with
      | some operator =>
          rw [hleft] at h
          cases h
      | none =>
          rw [hleft] at h
          exact ⟨ihl hleft, ihr h⟩

/-- The written form of a condition passes a check, as that condition, exactly if the condition is
less deep than the limit. -/
lemma check_text {e : Condition} (hknown : e.unknownOperator? = none) :
    check e.text
      = if e.depth < maxDepth then .ok (some e) else .error (.parse .tooDeep) := by
  have hspelled := spelled_of_unknownOperator? hknown
  have hscan : (scan e.text).Bare e.tokens := Scan.settled_start.run_text hspelled
  obtain ⟨t, htokens, hcondition, hheight⟩ := e.exists_term hspelled
  -- the term alone is a chain one level higher
  have hsingle : (Chain.single t).tokens = e.tokens := by rw [Chain.tokens, htokens]
  have hlevels : (Chain.single t).height = 1 + e.depth := by rw [Chain.height, hheight]
  rw [check_of_tokenizeStrict hscan.tokenizeStrict_eq, ← hsingle]
  split_ifs with hlow
  · have hread := Chain.ofTokens_tokens (c := .single t) (by omega)
    rw [Chain.condition, hcondition] at hread
    exact mapError_eq_ok_iff.mpr (ofTokensResolved_eq_ok_iff.mpr ⟨hread, hknown⟩)
  · rw [ofTokensResolved, Chain.ofTokens_tokens_of_lt (by omega)]
    rfl

end Condition

/-- **What a check has written is checked.** Where a text passes a check, the written form of its
condition passes it too, as the same condition, unless the condition has 256 levels; then it is
refused as too deep. -/
theorem check_text_of_check (text : String) (e : Condition) (h : check text = .ok (some e)) :
    check e.text = if e.depth = 256 then .error (.parse .tooDeep) else .ok (some e) := by
  obtain ⟨tokens, hread, hknown⟩ := exists_tokens_of_check h
  have hdepth : e.depth ≤ 256 := Condition.depth_le_of_ofTokens hread
  rw [Condition.check_text hknown]
  by_cases hlimit : e.depth = 256
  · rw [if_pos hlimit, if_neg (by rw [maxDepth]; omega)]
  · rw [if_neg hlimit, if_pos (by rw [maxDepth]; omega)]

/-- A check of a text without the parentheses, and of what it has written. -/
theorem check_text_of_check_three :
    let e : Condition := .join .or (.join .and (.comparison "a" .equal "1")
      (.comparison "b" .less "2")) (.comparison "c" .equal "x y")
    check "a=1 and b<2 or c='x y'" = .ok (some e)
      ∧ check e.text = if e.depth = 256 then .error (.parse .tooDeep) else .ok (some e) :=
  ⟨by decide +kernel, check_text_of_check "a=1 and b<2 or c='x y'" _ (by decide +kernel)⟩

/-! ### Conditions at the limit -/

/-- One comparison, written as a term. -/
def orTerm : Term :=
  .comparison (.column "a")
    (.ofText Relation.equal.text Relation.equal.text_ne_empty Relation.equal.mem_operatorMarks)
    (.literal "1")

/-- The comparison as often as wanted and once more, with `or` between every two. -/
def orChain : Nat → Chain
  | 0 => .single orTerm
  | n + 1 => .link (orChain n) (.ofConnective .or) orTerm

/-- The text of such a chain, without parentheses. -/
def orChainText : Nat → String
  | 0 => orTerm.condition.text
  | n + 1 => orChainText n ++ " " ++ Connective.or.text ++ " " ++ orTerm.condition.text

/-- The term is a comparison with a known operator, which has one level. -/
lemma condition_orTerm : orTerm.condition = .comparison "a" .equal "1" := by
  simp [orTerm, Term.condition, Operand.column, Operand.literal]

/-- The text is scanned into the tokens of the chain. -/
lemma scan_orChainText (n : Nat) : (scan (orChainText n)).Bare (orChain n).tokens := by
  have hspelled : orTerm.condition.Spelled := by
    rw [condition_orTerm]
    trivial
  have htokens : orTerm.condition.tokens = orTerm.tokens := by
    rw [condition_orTerm]
    rfl
  induction n with
  | zero =>
      rw [orChain, Chain.tokens, ← htokens]
      exact Scan.settled_start.run_text hspelled
  | succ n ih =>
      have hword := (ih.step_blank (c := ' ') (by decide)).run_connective .or
      have hnext := (hword.step_blank (c := ' ') (by decide)).run_text hspelled
      rw [htokens] at hnext
      simpa [scan, orChainText, orChain, Chain.tokens, Scan.run_append, Junction.token,
        Junction.ofConnective] using hnext

/-- A chain of comparisons is as deep as it is long. -/
lemma depth_orChain (n : Nat) : (orChain n).condition.depth = n + 1 := by
  induction n with
  | zero => rw [orChain, Chain.condition, condition_orTerm, Condition.depth]
  | succ n ih =>
      rw [orChain, Chain.condition, condition_orTerm, Condition.depth, Condition.depth, ih]
      omega

/-- Every operator in it has a meaning. -/
lemma unknownOperator?_orChain (n : Nat) : (orChain n).condition.unknownOperator? = none := by
  induction n with
  | zero => rw [orChain, Chain.condition, condition_orTerm, Condition.unknownOperator?]
  | succ n ih =>
      rw [orChain, Chain.condition, condition_orTerm, Condition.unknownOperator?, ih]
      rfl

/-- Without parentheses its levels are counted as its links are. -/
lemma foldHeight_orChain (n : Nat) : (orChain n).foldHeight = n + 1 := by
  induction n with
  | zero => rw [orChain, Chain.foldHeight, orTerm, Term.height]
  | succ n ih =>
      rw [orChain, Chain.foldHeight, ih, orTerm, Term.height]
      omega

/-- A chain of up to 256 comparisons passes a check. -/
lemma check_orChainText {n : Nat} (h : n < 256) :
    check (orChainText n) = .ok (some (orChain n).condition) := by
  have hheight : (orChain n).height ≤ maxDepth := by
    cases n with
    | zero => decide +kernel
    | succ n =>
        rw [orChain, Chain.height, foldHeight_orChain, orTerm, Term.height, maxDepth]
        omega
  rw [check_of_tokenizeStrict (scan_orChainText n).tokenizeStrict_eq, mapError_eq_ok_iff,
    Condition.ofTokensResolved_eq_ok_iff]
  exact ⟨Chain.ofTokens_tokens hheight, unknownOperator?_orChain n⟩

/-- What a check has written of 256 comparisons joined in a row, it refuses. -/
theorem not_forall_check_text :
    ¬ ∀ (text : String) (e : Condition),
        check text = .ok (some e) → check e.text = .ok (some e) := by
  intro h
  have hchecked := h _ _ (check_orChainText (n := 255) (by decide))
  rw [Condition.check_text (unknownOperator?_orChain 255), depth_orChain] at hchecked
  cases hchecked

end RowQuery
