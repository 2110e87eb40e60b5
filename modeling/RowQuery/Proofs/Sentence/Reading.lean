/-
Sentences are read.

A chain that is read fills the clauses of its level from the left, and a chain in parentheses
becomes one slot of the level around it.

* `Term.slot`, `Chain.clause`: what a term and a chain leave in the clauses; their heights are
  those of the sentence (`Chain.height_clause`) and they spell its condition
  (`Chain.condition_clause`);
* `Chain.read_tokens`: a chain is read whole exactly if neither its parentheses nor its height
  pass the limit, whatever stands around it and after it;
* `ofTokens_sentence`: every sentence within the limit is read as the condition it means, and
  every other one is refused as too deep.
-/
import RowQuery.Proofs.Clause
import RowQuery.Proofs.Level

namespace RowQuery

/-! ### What a sentence leaves in the clauses -/

mutual

/-- The slot that a term fills. -/
def Term.slot : Term → Slot
  | .comparison a op b => .clause (.text a.text) op.text (.text b.text) 1
  | .group c => c.clause.asSlot

/-- The clause that a whole chain fills. -/
def Chain.clause : Chain → Clause
  | .single t => .alone t.slot
  | .link c j t => .joined c.folded j.connective t.slot

/-- The slot that a chain fills on the left of a connective. -/
def Chain.folded : Chain → Slot
  | .single t => t.slot
  | .link c j t => (Clause.joined c.folded j.connective t.slot).asSlot

end

/-- A term fills its slot with a clause. -/
lemma Term.exists_slot_eq (t : Term) : ∃ c : Clause, t.slot = c.asSlot := by
  cases t with
  | comparison a op b => exact ⟨⟨.text a.text, op.text, .text b.text, 1⟩, by rw [Term.slot]; rfl⟩
  | group c => exact ⟨c.clause, by rw [Term.slot]⟩

/-- A chain fills the left of a connective with a clause. -/
lemma Chain.exists_folded_eq (c : Chain) : ∃ d : Clause, c.folded = d.asSlot := by
  cases c with
  | single t => rw [Chain.folded]; exact t.exists_slot_eq
  | link c j t => exact ⟨_, by rw [Chain.folded]⟩

/-- A term fills its slot. -/
lemma Term.slot_ne_vacant (t : Term) : t.slot ≠ .vacant := by
  obtain ⟨c, hc⟩ := t.exists_slot_eq
  simp [hc, Clause.asSlot]

/-- There is something on the left of a connective. -/
lemma Chain.folded_ne_vacant (c : Chain) : c.folded ≠ .vacant := by
  obtain ⟨d, hd⟩ := c.exists_folded_eq
  simp [hd, Clause.asSlot]

mutual

/-- The slot of a term is as high as the term. -/
lemma Term.height_slot : ∀ t : Term, t.slot.height = t.height
  | .comparison .. => by simp [Term.slot, Slot.height, Term.height]
  | .group c => by simpa [Term.slot, Term.height] using c.height_clause

/-- The clause of a chain is as high as the chain. -/
lemma Chain.height_clause : ∀ c : Chain, c.clause.height = c.height
  | .single t => by simp [Chain.clause, Chain.height, t.height_slot]
  | .link c j t => by simp [Chain.clause, Chain.height, c.height_folded, t.height_slot]

/-- The slot on the left of a connective is as high as the chain on its left. -/
lemma Chain.height_folded : ∀ c : Chain, c.folded.height = c.foldHeight
  | .single t => by simpa [Chain.folded, Chain.foldHeight] using t.height_slot
  | .link c j t => by simp [Chain.folded, Chain.foldHeight, c.height_folded, t.height_slot]

end

/-- A chain and a term spell their conditions joined, once each spells its own. -/
lemma Chain.condition_joined {c : Chain} {t : Term} (k : Connective)
    (hc : c.folded.condition = .ok c.condition) (ht : t.slot.condition = .ok t.condition) :
    (Clause.joined c.folded k t.slot).condition = .ok (.join k c.condition t.condition) := by
  obtain ⟨d, hd⟩ := c.exists_folded_eq
  obtain ⟨e, he⟩ := t.exists_slot_eq
  rw [hd] at hc ⊢
  rw [he] at ht ⊢
  exact Clause.condition_joined k hc ht

mutual

/-- The slot of a term spells the condition of the term. -/
lemma Term.condition_slot : ∀ t : Term, t.slot.condition = .ok t.condition
  | .comparison a op b => by
      rw [Term.slot, Slot.condition, op.ofWord?_text, if_neg op.text_ne_empty, Term.condition]
      · cases Relation.ofText? op.text <;> rfl
  | .group c => by
      rw [Term.slot, Term.condition]
      exact c.condition_clause

/-- The clause of a chain spells the condition of the chain. -/
lemma Chain.condition_clause : ∀ c : Chain, c.clause.condition = .ok c.condition
  | .single t => by
      obtain ⟨d, hd⟩ := t.exists_slot_eq
      have ht := t.condition_slot
      rw [hd] at ht
      rw [Chain.clause, hd, Clause.condition_alone, Chain.condition]
      exact ht
  | .link c j t => by
      rw [Chain.clause, Chain.condition]
      exact Chain.condition_joined j.connective c.condition_folded t.condition_slot

/-- The slot on the left of a connective spells the condition on its left. -/
lemma Chain.condition_folded : ∀ c : Chain, c.folded.condition = .ok c.condition
  | .single t => by
      rw [Chain.folded, Chain.condition]
      exact t.condition_slot
  | .link c j t => by
      rw [Chain.folded, Chain.condition]
      exact Chain.condition_joined j.connective c.condition_folded t.condition_slot

end

/-! ### The level of a sentence -/

/-- The conditions of a chain before its last term, as the clause of its level. -/
def Chain.before : Chain → Clause
  | .single _ => .new
  | .link c j _ => .joining c.folded j.connective

/-- The last term of a chain. -/
def Chain.last : Chain → Term
  | .single t => t
  | .link _ _ t => t

/-- A level in which a term has been read after the given conditions: a comparison stays in the
current clause until a connective or the end, a chain in parentheses is joined at once. -/
def Term.level (joined : Clause) : Term → Level
  | .comparison a op b => ⟨joined, ⟨.text a.text, op.text, .text b.text, 1⟩⟩
  | .group c => ⟨joined.push c.clause.asSlot, .new⟩

/-- The level in which a chain has been read. -/
def Chain.level (c : Chain) : Level := c.last.level c.before

/-- The last term completes the clause of a chain. -/
lemma Chain.push_before (c : Chain) : c.before.push c.last.slot = c.clause := by
  cases c with
  | single t => rw [before, last, clause, Clause.push_new]
  | link c j t => rw [before, last, clause, Clause.push_joining c.folded_ne_vacant]

/-- A level that ends after a term holds the term on the right. -/
lemma Term.closed_level (joined : Clause) (t : Term) :
    (t.level joined).closed = joined.push t.slot := by
  cases t with
  | comparison a op b =>
      simp [level, slot, Level.closed, Clause.operand, Clause.isEmpty, Clause.asSlot]
  | group c => simp [level, slot, Level.closed, Clause.isEmpty, Clause.new]

/-- A level that ends after a chain is the clause of the chain. -/
lemma Chain.closed_level (c : Chain) : c.level.closed = c.clause := by
  rw [level, Term.closed_level, push_before]

/-- The clause of a chain is an operand. -/
lemma Chain.operand_clause (c : Chain) : c.clause.operand = c.clause.asSlot := by
  refine Clause.operand_of_left ?_
  cases c with
  | single t => simpa [clause, Clause.alone, Clause.measured] using t.slot_ne_vacant
  | link c j t => simpa [clause, Clause.joined, Clause.measured] using c.folded_ne_vacant

/-- A connective after the last term, which is still to be joined. -/
lemma Chain.pushConnective_before (c : Chain) (k : Connective) :
    c.before.pushConnective c.last.slot k = .joining c.folded k := by
  cases c with
  | single t => rw [before, last, folded, Clause.pushConnective_new]
  | link c j t => rw [before, last, folded, Clause.pushConnective_joining c.folded_ne_vacant]

/-- A connective after the last term, which is joined already. -/
lemma Chain.pushConnective_clause (c : Chain) (k : Connective) :
    c.clause.pushConnective .vacant k = .joining c.folded k := by
  cases c with
  | single t => rw [clause, folded, Clause.pushConnective_alone t.slot_ne_vacant]
  | link c j t =>
      rw [clause, folded, Clause.pushConnective_joined c.folded_ne_vacant t.slot_ne_vacant]

/-- A connective after a chain leaves the chain on its left and begins a new clause. -/
lemma Chain.readWord_level (c : Chain) (j : Junction) :
    c.level.readWord j.text false = ⟨.joining c.folded j.connective, .new⟩ := by
  have hword : Connective.ofWord? j.text = some j.connective :=
    Connective.ofWord?_eq_some_iff.mpr j.keyword
  have hbefore := c.pushConnective_before j.connective
  have hclause := c.pushConnective_clause j.connective
  rw [← c.push_before] at hclause
  simp only [level, Level.readWord, Bool.false_eq_true, if_false, hword]
  cases hlast : c.last with
  | comparison a op b =>
      rw [hlast, Term.slot] at hbefore
      rw [Term.level, Clause.operand_of_left (by simp)]
      exact congrArg (Level.mk · .new) hbefore
  | group d =>
      rw [hlast, Term.slot] at hclause
      exact congrArg (Level.mk · .new) hclause

/-! ### How high the joined conditions are -/

/-- A clause that waits for its next condition. -/
inductive Clause.Waiting : Clause → Prop
  | new : Waiting .new
  | joining {left : Slot} (k : Connective) (h : 1 ≤ left.height) : Waiting (.joining left k)

/-- The next condition stands one level below the clause around it. -/
lemma Clause.Waiting.height_push {c : Clause} (h : c.Waiting) (s : Slot) :
    (c.push s).height = max c.height (1 + s.height) := by
  cases h with
  | new => simp [push_new]
  | @joining left k hleft =>
      have hne : left ≠ .vacant := by
        rintro rfl
        simp [Slot.height] at hleft
      rw [push_joining hne, height_joined, height_joining]
      omega

/-! ### Reading the tokens -/

/-- The tokens of a comparison fill the current clause. -/
lemma Level.read_comparison {joined : Clause} (hjoined : joined.height ≤ maxDepth)
    (a : Operand) (op : Operator) (b : Operand) (outer : List Level) (rest : List Token) :
    read ⟨joined, .new⟩ outer ((Term.comparison a op b).tokens ++ rest)
      = read ⟨joined, ⟨.text a.text, op.text, .text b.text, 1⟩⟩ outer rest := by
  have hcolumn : Clause.new.push (.text a.text) = ⟨.text a.text, "", .vacant, 1⟩ := rfl
  have hliteral : Clause.push ⟨.text a.text, op.text, .vacant, 1⟩ (.text b.text)
      = ⟨.text a.text, op.text, .text b.text, 1⟩ := rfl
  have htokens : (Term.comparison a op b).tokens ++ rest
      = a.token :: (op.marks.map Token.mark ++ b.token :: rest) := by
    simp [Term.tokens, Operator.tokens]
  have htext : "" ++ String.ofList op.marks = op.text := by simp [Operator.text]
  have hlow : 1 ≤ maxDepth := by decide
  rw [htokens, read_operand a hjoined (by rw [hcolumn]; exact hlow), hcolumn,
    read_marks op.marks op.mem_operatorMarks hjoined hlow]
  simp only [htext]
  rw [read_operand b hjoined (by rw [hliteral]; exact hlow), hliteral]

/-- The parenthesis after a chain joins the chain to the level around it, unless that becomes
too high. -/
lemma Chain.read_close (c : Chain) {joined : Clause} (hwaiting : joined.Waiting)
    (hjoined : joined.height ≤ maxDepth) (outer : List Level) (rest : List Token) :
    c.level.read (⟨joined, .new⟩ :: outer) (.mark ')' :: rest)
      = if c.height < maxDepth then ((Term.group c).level joined).read outer rest
        else .error .tooDeep := by
  have hadd : Level.add ⟨joined, .new⟩ c.level = (Term.group c).level joined := by
    rw [Level.add, c.closed_level, c.operand_clause, Term.level]
  have hlevel : ((Term.group c).level joined).joined.height
      = max joined.height (1 + c.height) := by
    rw [Term.level, hwaiting.height_push, Clause.height_asSlot, c.height_clause]
  have hcurrent : ((Term.group c).level joined).current.height = 0 := by
    rw [Term.level, Clause.height_new]
  rw [Level.read_close, hadd]
  by_cases hlow : c.height < maxDepth
  · rw [if_pos hlow, Level.checked_bind _ (by omega) (by omega)]
  · rw [if_neg hlow, Level.checked_bind_of_lt _ (by omega)]

mutual

/-- A term is read whole exactly if neither its parentheses nor its height pass the limit. -/
lemma Term.read_tokens {joined : Clause} {outer : List Level} (hwaiting : joined.Waiting)
    (hjoined : joined.height ≤ maxDepth) (houter : outer.length ≤ maxDepth) (rest : List Token) :
    ∀ t : Term, Level.read ⟨joined, .new⟩ outer (t.tokens ++ rest)
      = if outer.length + t.nesting ≤ maxDepth ∧ t.height < maxDepth then
          (t.level joined).read outer rest
        else .error .tooDeep
  | .comparison a op b => by
      have hnesting : (Term.comparison a op b).nesting = 0 := by rw [Term.nesting]
      have hheight : (Term.comparison a op b).height = 1 := by rw [Term.height]
      have hlow : 1 < maxDepth := by decide
      rw [Level.read_comparison hjoined, Term.level, hnesting, hheight, if_pos ⟨houter, hlow⟩]
  | .group c => by
      have hnesting : (Term.group c).nesting = 1 + c.nesting := by rw [Term.nesting]
      have hheight : (Term.group c).height = c.height := by rw [Term.height]
      rw [Term.tokens, List.cons_append, Level.read_open, List.append_assoc, hnesting, hheight]
      by_cases hfull : outer.length ≥ maxDepth
      · rw [if_pos hfull, if_neg (by omega)]
      -- inside the parentheses the level that waits is one of the outer ones
      have hinner : (Level.mk joined .new :: outer).length ≤ maxDepth := by
        rw [List.length_cons]
        omega
      rw [if_neg hfull, c.read_tokens hinner, List.singleton_append,
        c.read_close hwaiting hjoined, List.length_cons, ← ite_and]
      exact if_congr (by omega) rfl rfl

/-- A chain is read whole exactly if neither its parentheses nor its height pass the limit,
whatever levels stand around it and whatever comes after it. -/
lemma Chain.read_tokens {outer : List Level} (houter : outer.length ≤ maxDepth)
    (rest : List Token) :
    ∀ c : Chain, Level.start.read outer (c.tokens ++ rest)
      = if outer.length + c.nesting ≤ maxDepth ∧ c.height ≤ maxDepth then
          c.level.read outer rest
        else .error .tooDeep
  | .single t => by
      have hnesting : (Chain.single t).nesting = t.nesting := by rw [Chain.nesting]
      have hheight : (Chain.single t).height = 1 + t.height := by rw [Chain.height]
      rw [Chain.tokens, Level.start, t.read_tokens .new (by simp) houter, hnesting, hheight]
      exact if_congr (by omega) rfl rfl
  | .link c j t => by
      have hnesting : (Chain.link c j t).nesting = max c.nesting t.nesting := by rw [Chain.nesting]
      have hheight : (Chain.link c j t).height = 1 + max c.foldHeight t.height := by
        rw [Chain.height]
      have hfolded := c.height_folded
      have hchain := c.height_le
      rw [Chain.tokens, List.append_assoc, c.read_tokens houter, List.cons_append, Junction.token,
        Level.read_word, c.readWord_level, hnesting, hheight]
      -- behind a connective the chain stands one level further in, which may be one too many
      by_cases hlow : 1 + c.foldHeight ≤ maxDepth
      · have hwaiting : (Clause.joining c.folded j.connective).Waiting :=
          .joining _ (by have := c.nesting_lt_foldHeight; omega)
        rw [Level.checked_bind _ (by simpa [hfolded] using hlow) (by simp),
          t.read_tokens hwaiting (by simpa [hfolded] using hlow) houter, ← ite_and]
        exact if_congr (by omega) rfl rfl
      · rw [Level.checked_bind_of_lt _ (by simpa [hfolded] using hlow), ite_self,
          if_neg (by omega)]

end

/-! ### The main statement -/

/-- A sentence has tokens. -/
lemma Chain.tokens_ne_nil : ∀ c : Chain, c.tokens ≠ []
  | .single (.comparison ..) => by simp [Chain.tokens, Term.tokens]
  | .single (.group _) => by simp [Chain.tokens, Term.tokens]
  | .link .. => by simp [Chain.tokens]

/-- The clause of a sentence within the limit is read, and no other. -/
lemma Chain.read_start (c : Chain) :
    Level.start.read [] c.tokens
      = if c.height ≤ maxDepth then .ok c.clause else .error .tooDeep := by
  have houter : ([] : List Level).length ≤ maxDepth := Nat.zero_le _
  have hread := c.read_tokens houter []
  have hnesting := c.nesting_add_one_lt_height
  rw [List.append_nil] at hread
  rw [hread, Level.read, Level.closeAll, c.closed_level, List.length_nil]
  exact if_congr (by omega) rfl rfl

/-- Tokens spell the condition of the clause that they fill. -/
lemma Condition.ofTokens_eq {tokens : List Token} (hne : tokens ≠ []) :
    ofTokens tokens = (Level.start.read [] tokens >>= Clause.condition).map some := by
  rw [ofTokens]
  · cases Level.start.read [] tokens with
    | error e => rfl
    | ok clause =>
        show (clause.condition >>= fun x => pure (some x)) = clause.condition.map some
        cases clause.condition <;> rfl
  · exact hne

/-- A sentence within the limit is read as the condition it means. -/
lemma Chain.ofTokens_tokens {c : Chain} (h : c.height ≤ maxDepth) :
    Condition.ofTokens c.tokens = .ok (some c.condition) := by
  rw [Condition.ofTokens_eq c.tokens_ne_nil, c.read_start, if_pos h]
  exact congrArg (Except.map some) c.condition_clause

/-- A sentence beyond the limit is refused. -/
lemma Chain.ofTokens_tokens_of_lt {c : Chain} (h : maxDepth < c.height) :
    Condition.ofTokens c.tokens = .error .tooDeep := by
  rw [Condition.ofTokens_eq c.tokens_ne_nil, c.read_start, if_neg (by omega)]
  rfl

/-- Every sentence within the limit is read as the condition it means, its terms joined strictly
from the left and parentheses only grouping; every other sentence is refused as too deep. -/
theorem ofTokens_sentence (c : Chain) :
    Condition.ofTokens c.tokens
      = (if c.height ≤ 256 then .ok (some c.condition) else .error .tooDeep)
    ∧ ParseError.tooDeep.message
      = "malformed expression: expression nests deeper than 256 levels" := by
  refine ⟨?_, by decide +kernel⟩
  by_cases h : c.height ≤ 256
  · rw [if_pos h, Chain.ofTokens_tokens h]
  · have hhigh : ¬ c.height ≤ maxDepth := h
    rw [if_neg h, Condition.ofTokens_eq c.tokens_ne_nil, c.read_start, if_neg hhigh]
    rfl

end RowQuery
