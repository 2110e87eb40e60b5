/-
Strict and lenient readings of one text.

A text is read in three ways. A check wants its quotes closed and its operators known, a strict
filter wants its operators known, and a filter that is not strict takes what it can: it keeps
comparisons whose operator has no meaning, and where the text spells no condition it keeps every
row. All three read the same tokens into the same condition, so they differ only in what they
refuse.

* `ParseError.isMalformed`, `Condition.isMalformed_of_ofTokens`: reading tokens fails only because
  they spell no condition, not even one with unknown operators;
* `Condition.unknownOperators`: the operators without a meaning, from left to right;
* `Condition.ofTextResolved_cases`: the outcomes of a reading that refuses unknown operators;
* `Table.filter_of_filterStrict`, `Table.filter_of_isMalformed`, `Table.filter_of_unknownOperator`:
  what a filter keeps where a strict one keeps rows or fails;
* `Query.run_eq_error_iff`, `Query.run_of_strict`: the same for queries;
* `readings_agree`: all of it together.
-/
import RowQuery.Proofs.Condition.Checked

namespace RowQuery

/-- A result in two stages fails in the first one, or in the second one. -/
lemma bind_eq_error {ε α β : Type} {first : Except ε α} {second : α → Except ε β} {e : ε}
    (h : first >>= second = .error e) :
    first = .error e ∨ ∃ a, first = .ok a ∧ second a = .error e := by
  cases first with
  | error failure => exact .inl (congrArg _ (Except.error.inj h))
  | ok a => exact .inr ⟨a, rfl, h⟩

/-- A result in two stages is that of the second one, after the first one has given a result. -/
lemma bind_eq_ok_iff {ε α β : Type} {first : Except ε α} {second : α → Except ε β} {b : β} :
    first >>= second = .ok b ↔ ∃ a, first = .ok a ∧ second a = .ok b := by
  cases first with
  | error failure => simp [bind, Except.bind]
  | ok a => simp [bind, Except.bind]

/-! ### Errors of a reading -/

/-- Whether an error says that a text spells no condition, not even one with unknown operators. -/
def ParseError.isMalformed : ParseError → Bool
  | unknownOperator _ => false
  | _ => true

/-- A slot that spells no condition is malformed. -/
lemma Slot.isMalformed_of_condition {s : Slot} {e : ParseError} (h : s.condition = .error e) :
    e.isMalformed := by
  fun_induction Slot.condition s with
  | case1 | case2 | case3 | case4 | case8 =>
      cases h
      rfl
  | case5 _ _ _ _ _ _ ih => exact ih h
  | case6 _ _ _ _ _ _ _ _ _ _ _ _ _ _ _ ihleft ihright =>
      rcases bind_eq_error h with hleft | ⟨_, -, hrest⟩
      · exact ihleft hleft
      · rcases bind_eq_error hrest with hright | ⟨_, -, hjoin⟩
        · exact ihright hright
        · cases hjoin
  | case7 _ _ _ _ _ _ hclauses =>
      split at h
      · exact (hclauses _ _ _ _ _ _ _ _ rfl rfl).elim
      · cases h
        rfl
  | case9 _ _ _ _ _ _ _ hrelation =>
      simp only [hrelation] at h
      cases h
  | case10 _ _ _ _ _ _ hrelation =>
      simp only [hrelation] at h
      cases h
  | case11 _ _ _ _ _ _ htexts =>
      split at h
      · exact (htexts _ _ rfl rfl).elim
      · cases h
        rfl

namespace Level

/-- A check of the heights fails only because a clause is too high. -/
lemma eq_tooDeep_of_checked_bind {α : Type} {level : Level} {next : Level → Except ParseError α}
    {e : ParseError} (hnext : ∀ l, next l = .error e → e = .tooDeep)
    (h : level.checked >>= next = .error e) : e = .tooDeep := by
  rcases level.checked_bind_cases next with hdeep | ⟨-, hgo⟩
  · exact (Except.error.inj (hdeep.symm.trans h)).symm
  · exact hnext level (hgo.symm.trans h)

/-- Levels are closed unless a clause gets too high. -/
lemma eq_tooDeep_of_closeAll {level : Level} {outer : List Level} {e : ParseError}
    (h : level.closeAll outer = .error e) : e = .tooDeep := by
  induction outer generalizing level with
  | nil => cases h
  | cons parent outer ih => exact eq_tooDeep_of_checked_bind (fun _ => ih) h

/-- Tokens are read unless a clause gets too high or too many parentheses are open. -/
lemma eq_tooDeep_of_read {level : Level} {outer : List Level} {tokens : List Token}
    {e : ParseError} (h : level.read outer tokens = .error e) : e = .tooDeep := by
  fun_induction Level.read level outer tokens with
  | case1 => exact eq_tooDeep_of_closeAll h
  | case2 => exact (Except.error.inj h).symm
  | case3 level outer rest hlimit ih => exact ih h
  | case4 => cases h
  | case5 level parent outer rest ih => exact eq_tooDeep_of_checked_bind ih h
  | case6 level outer c rest _ _ _ ih => exact eq_tooDeep_of_checked_bind ih h
  | case7 level outer text quoted rest ih => exact eq_tooDeep_of_checked_bind ih h

end Level

namespace Condition

variable {tokens : List Token} {text : String} {e : ParseError}

/-- Reading tokens fails only because they are malformed. -/
lemma isMalformed_of_ofTokens (h : ofTokens tokens = .error e) : e.isMalformed := by
  cases tokens with
  | nil => cases h
  | cons token rest =>
      rcases bind_eq_error h with hread | ⟨clause, -, hrest⟩
      · rw [Level.eq_tooDeep_of_read hread]
        rfl
      · rcases bind_eq_error hrest with hcondition | ⟨_, -, hsome⟩
        · exact Slot.isMalformed_of_condition hcondition
        · cases hsome

/-! ### Unknown operators -/

/-- The operators without a meaning, from left to right. -/
def unknownOperators : Condition → List String
  | comparison .. => []
  | unresolved _ operator _ => [operator]
  | join _ left right => left.unknownOperators ++ right.unknownOperators

/-- The unknown operator that is reported is the left-most one. -/
lemma head?_unknownOperators (c : Condition) : c.unknownOperators.head? = c.unknownOperator? := by
  induction c with
  | comparison column relation literal => rfl
  | unresolved column operator literal => rfl
  | join connective left right ihl ihr =>
      rw [unknownOperators, List.head?_append, ihl, ihr, unknownOperator?]
      cases left.unknownOperator? <;> rfl

/-- A reading that refuses unknown operators gives the condition that the other one gives, or it
reports the left-most unknown operator of that condition, or both fail in the same way. -/
lemma ofTextResolved_cases (text : String) :
    (∃ c, ofText text = .ok c ∧ ofTextResolved text = .ok c)
      ∨ (∃ c operator, ofText text = .ok (some c) ∧ c.unknownOperators.head? = some operator
          ∧ ofTextResolved text = .error (.unknownOperator operator))
      ∨ ∃ e, ofText text = .error e ∧ ofTextResolved text = .error e ∧ e.isMalformed := by
  rw [ofTextResolved, ofTokensResolved, ← ofText]
  cases htext : ofText text with
  | error e => exact .inr (.inr ⟨e, rfl, rfl, isMalformed_of_ofTokens htext⟩)
  | ok given =>
      cases given with
      | none => exact .inl ⟨none, rfl, rfl⟩
      | some c =>
          cases hunknown : c.unknownOperator? with
          | none => exact .inl ⟨some c, rfl, by simp [bind, Except.bind, hunknown, pure, Except.pure]⟩
          | some operator =>
              refine .inr (.inl ⟨c, operator, rfl, ?_, ?_⟩)
              · rw [head?_unknownOperators, hunknown]
              · simp [bind, Except.bind, hunknown, throw, throwThe, MonadExceptOf.throw]

end Condition

/-! ### Checks -/

/-- A check refuses an open quote, or it is a reading that refuses unknown operators. -/
lemma check_cases (text : String) :
    (∃ position, check text = .error (.scan (.unterminatedQuote position)))
      ∨ check text = (Condition.ofTextResolved text).mapError .parse := by
  cases hopened : (scan text).openedAt? with
  | some position =>
      refine .inl ⟨position, ?_⟩
      rw [check, tokenizeStrict, hopened]
      rfl
  | none =>
      refine .inr (check_of_tokenizeStrict ?_)
      rw [tokenizeStrict, hopened]
      rfl

/-- What passes a check is read as the same condition, with unknown operators refused or not. -/
lemma ofText_of_check {text : String} {given : Option Condition} (h : check text = .ok given) :
    Condition.ofTextResolved text = .ok given ∧ Condition.ofText text = .ok given := by
  have hresolved : Condition.ofTextResolved text = .ok given := by
    rcases check_cases text with ⟨position, hopened⟩ | hcheck
    · cases hopened.symm.trans h
    · exact mapError_eq_ok_iff.mp (hcheck.symm.trans h)
  refine ⟨hresolved, ?_⟩
  rcases Condition.ofTextResolved_cases text with
    ⟨c, htext, hc⟩ | ⟨_, _, -, -, hfailed⟩ | ⟨_, -, hfailed, -⟩
  · rw [htext, ← hc, hresolved]
  · cases hfailed.symm.trans hresolved
  · cases hfailed.symm.trans hresolved

/-- A check that fails where the reading does not has found an open quote. -/
lemma exists_position_of_check {text : String} {given : Option Condition} {e : QueryError}
    (h : check text = .error e) (htext : Condition.ofTextResolved text = .ok given) :
    ∃ position, e = .scan (.unterminatedQuote position) := by
  rcases check_cases text with ⟨position, hopened⟩ | hcheck
  · exact ⟨position, Except.error.inj (h.symm.trans hopened)⟩
  · rw [htext] at hcheck
    cases h.symm.trans hcheck

/-! ### Filters -/

namespace Table

variable {t t' : Table} {text : String} {mode : MatchMode}

/-- Where a strict filter keeps rows, a filter keeps the same ones. -/
lemma filter_of_filterStrict (h : t.filterStrict text mode = .ok t') :
    t.filter text mode = t' := by
  rcases Condition.ofTextResolved_cases text with
    ⟨c, htext, hc⟩ | ⟨_, _, -, -, hfailed⟩ | ⟨_, -, hfailed, -⟩
  · rw [filterStrict, hc] at h
    rw [filter, htext]
    exact Except.ok.inj h
  · rw [filterStrict, hfailed] at h
    cases h
  · rw [filterStrict, hfailed] at h
    cases h

/-- Where a strict filter finds a text malformed, a filter leaves the table as it is. -/
lemma filter_of_isMalformed {e : ParseError} (h : t.filterStrict text mode = .error e)
    (he : e.isMalformed) : t.filter text mode = t := by
  rcases Condition.ofTextResolved_cases text with
    ⟨c, -, hc⟩ | ⟨_, _, -, -, hfailed⟩ | ⟨_, htext, -, -⟩
  · rw [filterStrict, hc] at h
    cases h
  · rw [filterStrict, hfailed] at h
    cases h
    cases he
  · rw [filter, htext]

/-- Where a strict filter reports an unknown operator, it is the left-most one of the condition by
which a filter selects. -/
lemma filter_of_unknownOperator {operator : String}
    (h : t.filterStrict text mode = .error (.unknownOperator operator)) :
    ∃ c, Condition.ofText text = .ok (some c) ∧ c.unknownOperators.head? = some operator
      ∧ t.filter text mode = t.select c mode := by
  rcases Condition.ofTextResolved_cases text with
    ⟨c, -, hc⟩ | ⟨c, found, htext, hhead, hfailed⟩ | ⟨_, -, hfailed, he⟩
  · rw [filterStrict, hc] at h
    cases h
  · rw [filterStrict, hfailed] at h
    cases h
    refine ⟨c, htext, hhead, ?_⟩
    rw [filter, htext]
    rfl
  · rw [filterStrict, hfailed] at h
    cases h
    cases he

/-- A text that passes a check without spelling a condition keeps every row. -/
lemma filter_of_check_none (t : Table) (mode : MatchMode) (h : check text = .ok none) :
    t.filterStrict text mode = .ok t ∧ t.filter text mode = t := by
  obtain ⟨hresolved, htext⟩ := ofText_of_check h
  rw [filterStrict, hresolved, filter, htext]
  exact ⟨rfl, rfl⟩

end Table

/-! ### Queries -/

namespace Query

/-- A filter that is not strict keeps some rows of every table. -/
lemma exists_filtered {q : Query} (h : q.strict = false) (t : Table) :
    ∃ t', q.filtered t = .ok t' := by
  rw [filtered]
  cases q.filter with
  | none => exact ⟨t, rfl⟩
  | some f => exact ⟨t.filter f.text f.mode, by rw [h]; rfl⟩

/-- A query that is not strict fails only if it has no rows to begin with. -/
lemma run_eq_error_iff {q : Query} (h : q.strict = false) (e : QueryError) :
    q.run = .error e ↔ q.source = .error e := by
  rw [run, table]
  cases hsource : q.source with
  | error failure => simp [bind, Except.bind]
  | ok t =>
      obtain ⟨t', ht'⟩ := exists_filtered h t
      simp [bind, Except.bind, ht', pure, Except.pure]

/-- The rows that a strict query keeps are kept also if it is not strict. -/
lemma filtered_of_strict {q : Query} {t t' : Table}
    (h : { q with strict := true }.filtered t = .ok t') :
    { q with strict := false }.filtered t = .ok t' := by
  rw [filtered] at h ⊢
  cases hfilter : q.filter with
  | none => simpa only [hfilter] using h
  | some f =>
      simp only [hfilter, if_true, mapError_eq_ok_iff] at h
      simp only [Bool.false_eq_true, if_false, Table.filter_of_filterStrict h]

/-- What a strict query answers is answered also if it is not strict. -/
lemma run_of_strict {q : Query} {output : String}
    (h : { q with strict := true }.run = .ok output) :
    { q with strict := false }.run = .ok output := by
  rw [run, table] at h ⊢
  obtain ⟨kept, harranged, houtput⟩ := bind_eq_ok_iff.mp h
  obtain ⟨t, hsource, hrest⟩ := bind_eq_ok_iff.mp harranged
  obtain ⟨t', hfiltered, hkept⟩ := bind_eq_ok_iff.mp hrest
  refine bind_eq_ok_iff.mpr ⟨kept, bind_eq_ok_iff.mpr ⟨t, hsource, ?_⟩, houtput⟩
  exact bind_eq_ok_iff.mpr ⟨t', filtered_of_strict hfiltered, hkept⟩

end Query

/-- **All readings agree.** What passes a check is read as the same condition, unknown operators
being refused or not; where it is no condition, filters keep every row; and a check that fails
where the reading does not has found an open quote. Where a strict filter keeps rows, a filter keeps
the same table; where it finds the text malformed, a filter leaves the table as it is; and where it
reports an unknown operator, this is the left-most one of a condition, by which a filter selects. A
query that is not strict fails exactly if it does without its filter, and what a strict query
answers is answered also if it is not strict. -/
theorem readings_agree (text : String) (t : Table) (mode : MatchMode) :
    (∀ c, check text = .ok (some c) →
        Condition.ofTextResolved text = .ok (some c) ∧ Condition.ofText text = .ok (some c))
    ∧ (check text = .ok none → t.filterStrict text mode = .ok t ∧ t.filter text mode = t)
    ∧ (∀ e given, check text = .error e → Condition.ofTextResolved text = .ok given →
        ∃ position, e = .scan (.unterminatedQuote position))
    ∧ (∀ t', t.filterStrict text mode = .ok t' → t.filter text mode = t')
    ∧ (∀ e, t.filterStrict text mode = .error e → e.isMalformed → t.filter text mode = t)
    ∧ (∀ operator, t.filterStrict text mode = .error (.unknownOperator operator) →
        ∃ c, Condition.ofText text = .ok (some c) ∧ c.unknownOperators.head? = some operator
          ∧ t.filter text mode = t.select c mode)
    ∧ (∀ q : Query, q.strict = false →
        ∀ e, q.run = .error e ↔ { q with filter := none }.run = .error e)
    ∧ ∀ (q : Query) (output : String), { q with strict := true }.run = .ok output →
        { q with strict := false }.run = .ok output := by
  refine ⟨fun c hcheck => ofText_of_check hcheck, Table.filter_of_check_none t mode,
    fun e given hcheck htext => exists_position_of_check hcheck htext,
    fun t' hkept => Table.filter_of_filterStrict hkept,
    fun e hfailed he => Table.filter_of_isMalformed hfailed he,
    fun operator hunknown => Table.filter_of_unknownOperator hunknown, ?_,
    fun q output hstrict => Query.run_of_strict hstrict⟩
  intro q hlenient e
  have hunfiltered : { q with filter := none }.run = .error e ↔ q.source = .error e :=
    Query.run_eq_error_iff (q := { q with filter := none }) hlenient e
  rw [Query.run_eq_error_iff hlenient, hunfiltered]

/-- Of two unknown operators the left one is reported, and the comparison between them still
selects. -/
theorem readings_agree_two_operators :
    let t : Table :=
      ⟨"t", ["a"], [.ofList [("a", .string "0")], .ofList [("a", .string "1")]], .wildcard⟩
    let text := "b=>2 or a='1' or c=<3"
    t.filterStrict text .exact = .error (.unknownOperator "=>")
    ∧ (∃ c, Condition.ofText text = .ok (some c) ∧ c.unknownOperators.head? = some "=>"
        ∧ t.filter text .exact = t.select c .exact)
    ∧ (t.filter text .exact).rows = [.ofList [("a", .string "1")]] := by
  intro t text
  obtain ⟨-, -, -, -, -, hunknown, -⟩ := readings_agree text t .exact
  have hfailed : t.filterStrict text .exact = .error (.unknownOperator "=>") := by decide +kernel
  exact ⟨hfailed, hunknown _ hfailed, by decide +kernel⟩

end RowQuery
