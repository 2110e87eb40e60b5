/-
How deep the reading of tokens goes.

Reading is a walk. Every token is one step, which may enter a level or leave one; at the end of
the tokens every level that is still open is left by one step more. The walk checks the heights of
the two clauses of a level after each step, but not before the last one, which puts the current
clause into the joined one: so the clause at the end may be one level higher than the limit, while
its condition is not.

* `Level.Within`: a level whose clauses are counted right and within the limit;
* `Reading`, `Reading.Step`, `Reading.Leads`: the states of the walk, its steps, and so many of
  them (`Step.result_eq`, `exists_last`: what is read is what the walk ends with);
* `Reading.Within.step`, `Reading.Within.leads`: no step leaves the limit, nor does a walk;
* `Condition.ofTokens_within_limit`: the limit bounds all of this.
-/
import RowQuery.Proofs.Clause.Height
import RowQuery.Proofs.Sentence.Accepted

namespace RowQuery

/-! ### Levels -/

namespace Level

/-- The clauses of a level are counted right. -/
structure Counted (level : Level) : Prop where
  joined : level.joined.Counted
  current : level.current.Counted

/-- They are within the limit, too. -/
structure Within (level : Level) : Prop extends level.Counted where
  joined_le : level.joined.height ≤ maxDepth
  current_le : level.current.height ≤ maxDepth

variable {level inner next : Level}

lemma within_start : start.Within :=
  ⟨⟨Clause.counted_new, Clause.counted_new⟩, Nat.zero_le _, Nat.zero_le _⟩

/-- A level that passes the check is within the limit. -/
lemma Counted.within_of_checked (h : level.Counted) (hchecked : level.checked = .ok next) :
    next.Within := by
  rw [checked] at hchecked
  split_ifs at hchecked with hhigh
  obtain rfl : level = next := by simpa using hchecked
  simp only [gt_iff_lt, Bool.or_eq_true, decide_eq_true_eq, not_or, not_lt] at hhigh
  exact ⟨h, hhigh.1, hhigh.2⟩

/-- All of a level as one clause is counted right. -/
lemma Counted.closed (h : level.Counted) : level.closed.Counted := by
  rw [Level.closed]
  split_ifs
  · exact h.joined
  · exact h.joined.push h.current.height_operand

/-- All of a level as one clause is at most one level above the limit. -/
lemma Within.height_closed_le (h : level.Within) : level.closed.height ≤ maxDepth + 1 := by
  rw [Level.closed]
  split_ifs
  · exact Nat.le_succ_of_le h.joined_le
  · have hpush := h.joined.height_push_le level.current.operand
    have hoperand := level.current.height_operand_le
    have hjoined := h.joined_le
    have hcurrent := h.current_le
    omega

lemma Counted.add (h : level.Counted) (hinner : inner.Counted) : (level.add inner).Counted :=
  ⟨h.joined.push hinner.closed.height_operand, h.current⟩

lemma Counted.readMark (h : level.Counted) (mark : Char) :
    Counted { level with current := level.current.appendOperator mark } :=
  ⟨h.joined, h.current.appendOperator mark⟩

lemma Counted.readWord (h : level.Counted) (text : String) (quoted : Bool) :
    (level.readWord text quoted).Counted := by
  rw [Level.readWord]
  cases (if quoted then none else Connective.ofWord? text) with
  | none => exact ⟨h.joined, h.current.push rfl⟩
  | some connective =>
      exact ⟨h.joined.pushConnective h.current.height_operand connective, Clause.counted_new⟩

end Level

/-! ### The walk -/

/-- Where the reading of tokens is: in a level inside others, before the tokens that are left. -/
structure Reading where
  level : Level
  /-- The levels around it, one for every parenthesis that is open. -/
  outer : List Level
  rest : List Token

namespace Reading

/-- Where the reading of tokens begins. -/
def start (tokens : List Token) : Reading := ⟨.start, [], tokens⟩

/-- What is read from here. -/
def result (r : Reading) : Except ParseError Clause := r.level.read r.outer r.rest

/-- One step of the reading. -/
inductive Step : Reading → Reading → Prop
  /-- A parenthesis enters a level, if the limit leaves room for it. -/
  | enter {level : Level} {outer : List Level} {rest : List Token} (h : outer.length < maxDepth) :
      Step ⟨level, outer, .mark '(' :: rest⟩ ⟨.start, level :: outer, rest⟩
  /-- A parenthesis leaves a level. -/
  | leave {level parent next : Level} {outer : List Level} {rest : List Token}
      (h : (parent.add level).checked = .ok next) :
      Step ⟨level, parent :: outer, .mark ')' :: rest⟩ ⟨next, outer, rest⟩
  /-- The end of the tokens leaves a level. -/
  | leaveAtEnd {level parent next : Level} {outer : List Level}
      (h : (parent.add level).checked = .ok next) :
      Step ⟨level, parent :: outer, []⟩ ⟨next, outer, []⟩
  | mark {level next : Level} {outer : List Level} {rest : List Token} {c : Char}
      (hopen : c ≠ '(') (hclose : c ≠ ')')
      (h : Level.checked { level with current := level.current.appendOperator c } = .ok next) :
      Step ⟨level, outer, .mark c :: rest⟩ ⟨next, outer, rest⟩
  | word {level next : Level} {outer : List Level} {rest : List Token} {text : String}
      {quoted : Bool} (h : (level.readWord text quoted).checked = .ok next) :
      Step ⟨level, outer, .word text quoted :: rest⟩ ⟨next, outer, rest⟩

/-- So many steps lead from one state to another. -/
inductive Leads : Reading → ℕ → Reading → Prop
  | refl (r : Reading) : Leads r 0 r
  | step {r s t : Reading} {n : ℕ} (h : r.Step s) (hleads : Leads s n t) : Leads r (n + 1) t

variable {r s : Reading} {n : ℕ}

/-- A step does not change what is read. -/
lemma Step.result_eq (h : r.Step s) : r.result = s.result := by
  cases h with
  | enter h => rw [result, Level.read_open, if_neg (Nat.not_le_of_lt h), result]
  | leave h =>
      rw [result, Level.read_close, h]
      rfl
  | leaveAtEnd h =>
      rw [result, Level.read, Level.closeAll, h, result, Level.read]
      rfl
  | mark hopen hclose h =>
      rw [result, Level.read_mark_of_ne hopen hclose, h]
      rfl
  | word h =>
      rw [result, Level.read_word, h]
      rfl

/-- Where no step is left, the reading has ended: as too deep, or with all of the level. -/
lemma result_of_no_step (h : ∀ s, ¬ r.Step s) :
    r.result = .error .tooDeep ∨ r.result = .ok r.level.closed := by
  obtain ⟨level, outer, rest⟩ := r
  -- a level that passes its check would leave a step
  have hcheck {next : Level} {proceed : Level → Except ParseError Clause}
      (hstep : next.checked ≠ .ok next) : next.checked >>= proceed = .error .tooDeep := by
    rw [next.checked_cases.resolve_right hstep]
    rfl
  cases rest with
  | nil =>
      cases outer with
      | nil => exact .inr (by rw [result, Level.read, Level.closeAll])
      | cons parent outer =>
          rw [result, Level.read, Level.closeAll]
          exact .inl (hcheck fun hok => h _ (.leaveAtEnd hok))
  | cons token rest =>
      cases token with
      | word text quoted =>
          rw [result, Level.read_word]
          exact .inl (hcheck fun hok => h _ (.word hok))
      | mark c =>
          by_cases hopen : c = '('
          · subst hopen
            have hfull : outer.length ≥ maxDepth := by
              by_contra hroom
              exact h _ (.enter (Nat.lt_of_not_le hroom))
            rw [result, Level.read_open, if_pos hfull]
            exact .inl rfl
          by_cases hclose : c = ')'
          · subst hclose
            cases outer with
            | nil => exact .inr (by rw [result, Level.read])
            | cons parent outer =>
                rw [result, Level.read_close]
                exact .inl (hcheck fun hok => h _ (.leave hok))
          · rw [result, Level.read_mark_of_ne hopen hclose]
            exact .inl (hcheck fun hok => h _ (.mark hopen hclose hok))

/-! ### How long the walk is -/

/-- How many steps are left at most: a token may enter a level, which has to be left again. -/
def work (r : Reading) : ℕ := 2 * r.rest.length + r.outer.length

lemma Step.work_lt (h : r.Step s) : s.work < r.work := by
  cases h <;> simp only [work, List.length_cons, List.length_nil] <;> omega

lemma Leads.work_le (h : r.Leads n s) : n + s.work ≤ r.work := by
  induction h with
  | refl r => omega
  | step hstep _ ih =>
      have hlt := hstep.work_lt
      omega

lemma Leads.result_eq (h : r.Leads n s) : r.result = s.result := by
  induction h with
  | refl r => rfl
  | step hstep _ ih => rw [hstep.result_eq, ih]

/-- Every walk comes to an end. -/
lemma exists_last (r : Reading) : ∃ n last, r.Leads n last ∧ ∀ s, ¬ last.Step s := by
  induction hwork : r.work using Nat.strong_induction_on generalizing r with
  | _ work ih =>
      by_cases hlast : ∀ s, ¬ r.Step s
      · exact ⟨0, r, .refl r, hlast⟩
      · simp only [not_forall, not_not] at hlast
        obtain ⟨s, hs⟩ := hlast
        obtain ⟨n, last, hleads, hlast⟩ := ih s.work (hwork ▸ hs.work_lt) s rfl
        exact ⟨n + 1, last, .step hs hleads, hlast⟩

/-! ### The limit -/

/-- No more levels are open than the limit allows, the innermost one is within it, and those
around it are counted right. -/
structure Within (r : Reading) : Prop where
  length_outer_le : r.outer.length ≤ maxDepth
  level : r.level.Within
  outer : ∀ level ∈ r.outer, level.Counted

lemma within_start (tokens : List Token) : (start tokens).Within :=
  ⟨Nat.zero_le _, Level.within_start, by simp [start]⟩

/-- A level is left within the limit. -/
lemma Within.of_leave {level parent next : Level} {outer : List Level} {before after : List Token}
    (h : Within ⟨level, parent :: outer, before⟩)
    (hchecked : (parent.add level).checked = .ok next) : Within ⟨next, outer, after⟩ := by
  obtain ⟨hparent, houter⟩ := List.forall_mem_cons.mp h.outer
  have hnext := (hparent.add h.level.toCounted).within_of_checked hchecked
  exact ⟨Nat.le_of_succ_le h.length_outer_le, hnext, houter⟩

/-- No step leaves the limit. -/
lemma Within.step (h : r.Within) (hstep : r.Step s) : s.Within := by
  cases hstep with
  | enter hroom =>
      exact ⟨hroom, Level.within_start, List.forall_mem_cons.mpr ⟨h.level.toCounted, h.outer⟩⟩
  | leave hchecked => exact h.of_leave hchecked
  | leaveAtEnd hchecked => exact h.of_leave hchecked
  | mark hopen hclose hchecked =>
      have hnext := (h.level.toCounted.readMark _).within_of_checked hchecked
      exact ⟨h.length_outer_le, hnext, h.outer⟩
  | word hchecked =>
      have hnext := (h.level.toCounted.readWord _ _).within_of_checked hchecked
      exact ⟨h.length_outer_le, hnext, h.outer⟩

/-- No walk leaves the limit. -/
lemma Within.leads (h : r.Within) (hleads : r.Leads n s) : s.Within := by
  induction hleads with
  | refl r => exact h
  | step hstep _ ih => exact ih (h.step hstep)

end Reading

/-! ### The main statement -/

/-- The clause that is read is counted right, and at most one level above the limit. -/
lemma Level.counted_of_read {tokens : List Token} {clause : Clause}
    (h : start.read [] tokens = .ok clause) : clause.Counted ∧ clause.height ≤ maxDepth + 1 := by
  obtain ⟨n, last, hleads, hlast⟩ := (Reading.start tokens).exists_last
  have hwithin := ((Reading.within_start tokens).leads hleads).level
  have hresult : last.result = .ok clause := hleads.result_eq.symm.trans h
  obtain hdeep | hclosed := Reading.result_of_no_step hlast
  · rw [hdeep] at hresult
    cases hresult
  · rw [hclosed] at hresult
    obtain rfl : last.level.closed = clause := by simpa using hresult
    exact ⟨hwithin.toCounted.closed, hwithin.height_closed_le⟩

/-- Only no tokens at all spell neither a condition nor an error. -/
lemma Condition.ofTokens_eq_ok_none_iff {tokens : List Token} :
    ofTokens tokens = .ok none ↔ tokens = [] := by
  constructor
  · intro h
    by_contra hne
    rw [ofTokens_eq hne] at h
    cases hclause : Level.start.read [] tokens >>= Clause.condition with
    | error e =>
        rw [hclause] at h
        cases h
    | ok x =>
        rw [hclause] at h
        cases h
  · rintro rfl
    rfl

/-- **The limit bounds the reading of any tokens.** Step by step it comes to an end, and what is
read is what it ends with; on the way no more levels are open than the limit allows. The clause
that is read has at most one level more, by its count and by the clauses that stand inside each
other, and the condition that it spells has no more. All else is an error, but for no tokens. -/
theorem Condition.ofTokens_within_limit (tokens : List Token) :
    (∃ n last, (Reading.start tokens).Leads n last ∧ (∀ next, ¬ last.Step next)
      ∧ (Level.start.read [] tokens = .error .tooDeep
        ∨ Level.start.read [] tokens = .ok last.level.closed))
    ∧ (∀ n r, (Reading.start tokens).Leads n r →
        n ≤ 2 * tokens.length ∧ r.outer.length ≤ maxDepth)
    ∧ (∀ clause, Level.start.read [] tokens = .ok clause →
        clause.height ≤ maxDepth + 1 ∧ clause.asSlot.nesting ≤ maxDepth + 1)
    ∧ (∀ x, ofTokens tokens = .ok (some x) → x.depth ≤ maxDepth)
    ∧ (ofTokens tokens = .ok none ↔ tokens = []) := by
  refine ⟨?_, fun n r hleads => ⟨?_, ?_⟩, fun clause hread => ?_,
    fun x => depth_le_of_ofTokens, ofTokens_eq_ok_none_iff⟩
  · obtain ⟨n, last, hleads, hlast⟩ := (Reading.start tokens).exists_last
    have hresult : Level.start.read [] tokens = last.result := hleads.result_eq
    rw [hresult]
    exact ⟨n, last, hleads, hlast, Reading.result_of_no_step hlast⟩
  · have hwork := hleads.work_le
    simp only [Reading.work, Reading.start, List.length_nil] at hwork
    omega
  · exact ((Reading.within_start tokens).leads hleads).length_outer_le
  · obtain ⟨hcounted, hheight⟩ := Level.counted_of_read hread
    have hnesting := hcounted.nesting_le
    omega

/-- A comparison behind a parenthesis that stays open. -/
def grouped : List Token := [.mark '(', .word "a" false, .mark '=', .word "1" false]

/-- The clause that they fill, one level in another and that in a third. -/
def groupedClause : Clause :=
  ⟨.clause (.clause (.text "a") "=" (.text "1") 1) "" .vacant 2, "", .vacant, 3⟩

/-- Their first step opens one level, and what they fill and spell is far below the limit. -/
theorem Condition.ofTokens_grouped_within_limit :
    (Reading.start grouped).Leads 1 ⟨.start, [.start], grouped.tail⟩
    ∧ 1 ≤ 2 * grouped.length ∧ [Level.start].length ≤ maxDepth
    ∧ Level.start.read [] grouped = .ok groupedClause
    ∧ groupedClause.height ≤ maxDepth + 1 ∧ groupedClause.asSlot.nesting ≤ maxDepth + 1
    ∧ ofTokens grouped = .ok (some (.comparison "a" .equal "1"))
    ∧ (Condition.comparison "a" .equal "1").depth ≤ maxDepth := by
  have hleads : (Reading.start grouped).Leads 1 ⟨.start, [.start], grouped.tail⟩ :=
    .step (.enter (by decide)) (.refl _)
  have hread : Level.start.read [] grouped = .ok groupedClause := by decide +kernel
  have hspelled : ofTokens grouped = .ok (some (.comparison "a" .equal "1")) := by decide +kernel
  obtain ⟨-, hwalk, hclause, hdepth, -⟩ := ofTokens_within_limit grouped
  obtain ⟨hsteps, houter⟩ := hwalk 1 _ hleads
  obtain ⟨hheight, hnesting⟩ := hclause _ hread
  exact ⟨hleads, hsteps, houter, hread, hheight, hnesting, hspelled, hdepth _ hspelled⟩

end RowQuery
