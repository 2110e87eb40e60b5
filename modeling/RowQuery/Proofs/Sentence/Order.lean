/-
The order of columns and literals.

Reading loses no word and takes none twice, but it does not always keep their order. The words of a
comparison wait until the connective after them, and parentheses that close meanwhile are taken
first. So between two connectives of a level the words inside parentheses come before the words of
the level itself. Where no words wait when a parenthesis opens, nothing is moved; in the documented
grammar none ever wait.

* `Token.operand?`, `operandTexts`: the words of tokens that are no connectives;
* `Layout.texts`, `Layout.arranged`: the words of a layout in the order of the tokens and in the
  order in which they are taken; these have the same words (`arranged_perm`), and the same order if
  the layout is `InOrder` (`InOrder.arranged_eq`);
* `Layout.texts_of_part`: the condition that a layout amounts to has the words as they are taken;
* `Layout.texts_eq_operandTexts`: the words of a layout are those of the tokens that it completes;
* `IsExpression.exists_layout`: expressions of the documented grammar are laid out in order;
* `Condition.texts_of_ofTokens`: the columns and literals of what is read;
* `Condition.not_forall_texts_in_order`: they need not be in the order of the tokens.
-/
import RowQuery.Proofs.Sentence.Accepted
import RowQuery.Proofs.Sentence.Closing

namespace RowQuery

/-! ### The words of tokens -/

/-- The text of a word that names a column or is a literal: without quotes it is no connective. -/
def Token.operand? : Token → Option String
  | word text quoted =>
    if quoted || (Connective.ofWord? text).isNone then some text else none
  | mark _ => none

@[simp] lemma Token.operand?_mark (c : Char) : (mark c).operand? = none := rfl

/-- A word without quotes that is no connective. -/
def Operand.bare (text : String) (h : Connective.ofWord? text = none) : Operand :=
  ⟨text, false, fun _ => Connective.ofWord?_eq_none_iff.mp h⟩

lemma Operand.operand?_token (a : Operand) : a.token.operand? = some a.text := by
  have hkeyword := a.keyword?_eq_none
  rw [token, Token.operand?]
  cases hquoted : a.quoted with
  | true => rfl
  | false =>
      rw [hquoted] at hkeyword
      have hnone : Connective.ofWord? a.text = none := by simpa using hkeyword
      simp [hnone]

lemma Junction.operand?_token (j : Junction) : j.token.operand? = none := by
  have hword : Connective.ofWord? j.text = some j.connective :=
    Connective.ofWord?_eq_some_iff.mpr j.keyword
  simp [token, Token.operand?, hword]

/-- The words of tokens that are no connectives, as far as the tokens are read. -/
def operandTexts (tokens : List Token) : List String :=
  (heeded 0 tokens).filterMap Token.operand?

/-! ### The words of a layout -/

namespace Layout

/-- The words of a layout in the order of its tokens. -/
def texts : Layout → List String
  | nil => []
  | word before a => before.texts ++ [a.text]
  | mark before _ _ => before.texts
  | group before inner => before.texts ++ inner.texts
  | junction before _ => before.texts

/-- The words that have been taken when the words since the last connective still wait: those
before the connective, and since then those in parentheses. -/
def taken : Layout → List String
  | nil => []
  | word before _ => before.taken
  | mark before _ _ => before.taken
  | group before inner => before.taken ++ (inner.taken ++ inner.words)
  | junction before _ => before.taken ++ before.words

/-- The words of a layout in the order in which they are taken. -/
def arranged (l : Layout) : List String := l.taken ++ l.words

/-- No words wait when parentheses with words open. -/
def InOrder : Layout → Prop
  | nil => True
  | word before _ => before.InOrder
  | mark before _ _ => before.InOrder
  | group before inner => before.InOrder ∧ inner.InOrder ∧ (before.words = [] ∨ inner.texts = [])
  | junction before _ => before.InOrder

/-- Every word is taken once. -/
lemma arranged_perm (l : Layout) : l.arranged.Perm l.texts := by
  induction l with
  | nil => exact .refl []
  | word before a ih =>
      rw [arranged, taken, words, texts, ← List.append_assoc]
      exact ih.append_right [a.text]
  | mark before c hc ih => exact ih
  | group before inner ihbefore ihinner =>
      have hwait : (before.taken ++ inner.arranged ++ before.words).Perm
          (before.taken ++ before.words ++ inner.arranged) := by
        rw [List.append_assoc, List.append_assoc]
        exact List.perm_append_comm.append_left before.taken
      rw [arranged, taken, words, texts]
      exact hwait.trans (ihbefore.append ihinner)
  | junction before j ih =>
      rw [arranged, taken, words, texts, List.append_nil]
      exact ih

/-- Where no words wait, they are taken in the order of the tokens. -/
lemma InOrder.arranged_eq {l : Layout} (h : l.InOrder) : l.arranged = l.texts := by
  induction l with
  | nil => rfl
  | word before a ih =>
      have hbefore : before.taken ++ before.words = before.texts := ih h
      rw [arranged, taken, words, texts, ← List.append_assoc, hbefore]
  | mark before c hc ih => exact ih h
  | group before inner ihbefore ihinner =>
      obtain ⟨hbefore, hinner, hwait⟩ := h
      have heqbefore : before.taken ++ before.words = before.texts := ihbefore hbefore
      have heqinner : inner.taken ++ inner.words = inner.texts := ihinner hinner
      rw [arranged, taken, words, texts, heqinner, ← heqbefore]
      obtain hnone | hnone := hwait <;> simp [hnone]
  | junction before j ih =>
      rw [arranged, taken, words, texts, List.append_nil]
      exact ih h

end Layout

/-! ### The words of what a layout amounts to -/

/-- The columns and literals of what tokens amount to. -/
def Part.texts : Part → List String
  | condition x => x.texts
  | _ => []

lemma Condition.texts_compared (column operator literal : String) :
    (compared column operator literal).texts = [column, literal] := by
  rw [compared]
  split <;> rfl

/-- The words since the last connective are those of the comparison. -/
lemma Part.texts_ofWords {words : List String} {marks : String}
    (h : ofWords words marks ≠ .malformed) : (ofWords words marks).texts = words := by
  obtain _ | ⟨column, _ | ⟨literal, _ | ⟨c, rest⟩⟩⟩ := words
  · rfl
  · exact absurd rfl h
  · rw [ofWords] at h ⊢
    split_ifs at h ⊢
    · exact absurd rfl h
    · exact Condition.texts_compared column marks literal
  · exact absurd rfl h

namespace Progress

/-- The columns and literals of the conditions of a level so far. -/
def texts : Progress → List String
  | whole x => x.texts
  | joining x _ => x.texts
  | apart x y => x.texts ++ y.texts
  | _ => []

variable {p : Progress} {part : Part} {k : Connective}

lemma ne_broken_of_add (h : p.add part ≠ broken) : p ≠ broken := by
  rintro rfl
  exact h rfl

lemma ne_malformed_of_add (h : p.add part ≠ broken) : part ≠ .malformed := by
  rintro rfl
  cases p <;> exact h rfl

/-- What is added comes last. -/
lemma texts_add (h : p.add part ≠ broken) : (p.add part).texts = p.texts ++ part.texts := by
  cases part with
  | malformed => exact absurd rfl (ne_malformed_of_add h)
  | nothing =>
      cases p with
      | apart x y => exact absurd rfl h
      | _ => simp [add, texts, Part.texts]
  | condition x =>
      cases p with
      | apart y z => exact absurd rfl h
      | broken => exact absurd rfl h
      | _ => simp [add, texts, Part.texts, Condition.texts]

/-- A connective has no words. -/
lemma texts_link (h : p.link k ≠ broken) : (p.link k).texts = p.texts := by
  cases p with
  | led first => exact absurd rfl h
  | _ => rfl

lemma ne_broken_of_link (h : p.link k ≠ broken) : p ≠ broken := by
  rintro rfl
  exact h rfl

/-- Nor does it move any, whether it is read before or after what is added. -/
lemma texts_connect (h : p.connect part k ≠ broken) :
    part ≠ .malformed ∧ p ≠ broken ∧ (p.connect part k).texts = p.texts ++ part.texts := by
  cases p with
  | apart x y =>
      rw [connect] at h ⊢
      exact ⟨ne_malformed_of_add h, by simp,
        (texts_add h).trans (congrArg (· ++ part.texts) (texts_link (ne_broken_of_add h)))⟩
  | _ =>
      rw [connect] at h ⊢
      · have hadd := ne_broken_of_link h
        exact ⟨ne_malformed_of_add hadd, ne_broken_of_add hadd,
          (texts_link h).trans (texts_add hadd)⟩
      all_goals simp

/-- A level has the words that it amounts to. -/
lemma texts_part (h : p.part ≠ .malformed) : p ≠ broken ∧ p.part.texts = p.texts := by
  cases p with
  | apart x y => exact absurd rfl h
  | broken => exact absurd rfl h
  | _ => exact ⟨by simp, rfl⟩

end Progress

namespace Layout

variable {l : Layout}

/-- The words that a layout has at its end, if it has taken the others as it should. -/
lemma texts_part_of_progress (ih : l.progress ≠ .broken → l.progress.texts = l.taken)
    (h : l.part ≠ .malformed) : l.part.texts = l.arranged := by
  obtain ⟨hadd, htexts⟩ := Progress.texts_part h
  rw [part, Progress.finish, htexts, Progress.texts_add hadd, ih (Progress.ne_broken_of_add hadd),
    Part.texts_ofWords (Progress.ne_malformed_of_add hadd), arranged]

/-- The conditions of a level have the words that have been taken. -/
lemma texts_progress (h : l.progress ≠ .broken) : l.progress.texts = l.taken := by
  induction l with
  | nil => rfl
  | word before a ih => exact ih h
  | mark before c hc ih => exact ih h
  | group before inner ihbefore ihinner =>
      rw [progress] at h ⊢
      have hinner := texts_part_of_progress ihinner (Progress.ne_malformed_of_add h)
      rw [Progress.texts_add h, ihbefore (Progress.ne_broken_of_add h), taken]
      exact congrArg (before.taken ++ ·) hinner
  | junction before j ih =>
      rw [progress] at h ⊢
      obtain ⟨hpart, hbefore, htexts⟩ := Progress.texts_connect h
      rw [htexts, ih hbefore, Part.texts_ofWords hpart, taken]

/-- The condition that a layout amounts to has its words, as they are taken. -/
lemma texts_of_part {x : Condition} (h : l.part = .condition x) : x.texts = l.arranged := by
  have htexts := texts_part_of_progress (fun hne => texts_progress hne) (l := l) (by simp [h])
  rw [h] at htexts
  exact htexts

/-! ### The words of the tokens that are read -/

/-- The words of a layout are those of its tokens. -/
lemma filterMap_operand?_tokens (l : Layout) : l.tokens.filterMap Token.operand? = l.texts := by
  induction l with
  | nil => rfl
  | word before a ih => simp [tokens, texts, ih, a.operand?_token]
  | mark before c hc ih => simp [tokens, texts, ih]
  | group before inner ihbefore ihinner =>
      simp [tokens, texts, ihbefore, ihinner, List.filterMap_cons]
  | junction before j ih => simp [tokens, texts, ih, j.operand?_token]

/-- The tokens of a layout are heeded, for they close all the parentheses that they open. -/
lemma heeded_tokens (l : Layout) (n : ℕ) (rest : List Token) :
    heeded n (l.tokens ++ rest) = l.tokens ++ heeded n rest := by
  induction l generalizing n rest with
  | nil => rfl
  | word before a ih =>
      exact heeded_append_of_ne (ih n) (by simp [Operand.token]) (by simp [Operand.token]) rest
  | mark before c hc ih =>
      exact heeded_append_of_ne (ih n) (by simpa using hc.1) (by simpa using hc.2) rest
  | group before inner ihbefore ihinner =>
      have htokens : (before.group inner).tokens ++ rest
          = before.tokens ++ (.mark '(' :: (inner.tokens ++ (.mark ')' :: rest))) := by
        simp [tokens]
      rw [htokens, ihbefore, heeded_open, ihinner, heeded_close]
      simp [tokens]
  | junction before j ih =>
      exact heeded_append_of_ne (ih n) (by simp [Junction.token]) (by simp [Junction.token]) rest

/-- The words of a layout are those of the tokens that it completes, as far as they are read. -/
lemma texts_eq_operandTexts {tokens : List Token} (h : Completes tokens l.tokens) :
    l.texts = operandTexts tokens := by
  have hheeded := l.heeded_tokens 0
  rw [← l.filterMap_operand?_tokens, operandTexts]
  obtain ⟨k, hk⟩ | ⟨rest, rfl⟩ := h
  · have hwhole : heeded 0 (tokens ++ List.replicate k (.mark ')'))
        = tokens ++ List.replicate k (.mark ')') := by
      rw [hk]
      simpa [heeded] using hheeded []
    rw [← hk, heeded_eq_of_append hwhole, List.filterMap_append]
    simp
  · rw [hheeded, heeded_unbalanced, List.append_nil]

/-- What is read has the words of any layout that its tokens complete. -/
lemma texts_of_completes {tokens : List Token} {x : Condition} (hl : Completes tokens l.tokens)
    (h : Condition.ofTokens tokens = .ok (some x)) : x.texts = l.arranged :=
  texts_of_part (l.part_of_ofTokens hl h).1

end Layout

/-! ### The documented grammar -/

/-- The marks of an operator continue a layout. -/
lemma Layout.exists_marks (before : Layout) {marks : List Char} (h : ∀ c ∈ marks, c ∈ operatorMarks)
    (horder : before.InOrder) :
    ∃ l : Layout, l.tokens = before.tokens ++ marks.map Token.mark ∧ l.InOrder := by
  induction marks generalizing before with
  | nil => exact ⟨before, by simp, horder⟩
  | cons c marks ih =>
      have hc := Operator.ne_of_mem (h c (by simp))
      have hmarks : ∀ d ∈ marks, d ∈ operatorMarks := fun d hd => h d (by simp [hd])
      obtain ⟨l, htokens, hl⟩ := ih (before.mark c ⟨hc.1, hc.2.1⟩) hmarks horder
      exact ⟨l, by simp [htokens, tokens], hl⟩

mutual

/-- A condition of the documented grammar continues a layout at whose end no words wait. -/
lemma IsCondition.exists_layout : ∀ {tokens : List Token}, IsCondition tokens →
    ∀ (before : Layout), before.InOrder → before.words = [] →
      ∃ l : Layout, l.tokens = before.tokens ++ tokens ∧ l.InOrder
  | _, .comparison a op b, before, horder, _ => by
      obtain ⟨l, htokens, hl⟩ := (before.word a).exists_marks op.mem_operatorMarks horder
      exact ⟨l.word b, by simp [Layout.tokens, htokens, Operator.tokens], hl⟩
  | _, .group h, before, horder, hwords => by
      obtain ⟨inner, htokens, hinner⟩ := h.exists_layout .nil trivial rfl
      exact ⟨before.group inner, by simp [Layout.tokens, htokens], horder, hinner, .inl hwords⟩

/-- So does a sequence. -/
lemma IsSequence.exists_layout : ∀ {tokens : List Token}, IsSequence tokens →
    ∀ (before : Layout), before.InOrder → before.words = [] →
      ∃ l : Layout, l.tokens = before.tokens ++ tokens ∧ l.InOrder
  | _, .single h, before, horder, hwords => h.exists_layout before horder hwords
  | _, .link hbefore j h, before, horder, hwords => by
      obtain ⟨l, hl, hlorder⟩ := hbefore.exists_layout before horder hwords
      obtain ⟨m, hm, hmorder⟩ := h.exists_layout (l.junction j) hlorder rfl
      exact ⟨m, by simp [hm, hl, Layout.tokens], hmorder⟩

/-- So does an expression. -/
lemma IsExpression.exists_layout : ∀ {tokens : List Token}, IsExpression tokens →
    ∀ (before : Layout), before.InOrder → before.words = [] →
      ∃ l : Layout, l.tokens = before.tokens ++ tokens ∧ l.InOrder
  | _, .whole h, before, horder, hwords => h.exists_layout before horder hwords
  | _, .dangling h j, before, horder, hwords => by
      obtain ⟨l, hl, hlorder⟩ := h.exists_layout before horder hwords
      exact ⟨l.junction j, by simp [hl, Layout.tokens], hlorder⟩

end

/-! ### The main statement -/

namespace Condition

/-- **The columns and literals of what is read.** They are the words of the tokens, as far as these
are read and without connectives, each of them once: in the order in which the words are taken, and
so in the order of the tokens if no words wait when parentheses with words open. In an expression
of the documented grammar, whatever is missing or too much at its end, none ever wait. -/
theorem texts_of_ofTokens {tokens : List Token} {x : Condition}
    (h : ofTokens tokens = .ok (some x)) :
    x.texts.Perm (operandTexts tokens)
    ∧ (∃ l : Layout, Completes tokens l.tokens)
    ∧ (∀ l : Layout, Completes tokens l.tokens →
        x.texts = l.arranged ∧ (l.InOrder → x.texts = operandTexts tokens))
    ∧ ∀ whole, Completes tokens whole → IsExpression whole → x.texts = operandTexts tokens := by
  have harranged : ∀ l : Layout, Completes tokens l.tokens →
      x.texts = l.arranged ∧ (l.InOrder → x.texts = operandTexts tokens) := by
    intro l hcompletes
    have htexts := Layout.texts_of_completes hcompletes h
    refine ⟨htexts, fun hinOrder => ?_⟩
    rw [htexts, hinOrder.arranged_eq, Layout.texts_eq_operandTexts hcompletes]
  obtain ⟨l, hl⟩ := exists_layout_completes tokens
  refine ⟨?_, ⟨l, hl⟩, harranged, fun whole hcompletes hexpression => ?_⟩
  · rw [(harranged l hl).1, ← Layout.texts_eq_operandTexts hl]
    exact l.arranged_perm
  · obtain ⟨m, htokens, hinOrder⟩ := hexpression.exists_layout .nil trivial rfl
    obtain rfl : m.tokens = whole := by simpa [Layout.tokens] using htokens
    exact (harranged m hcompletes).2 hinOrder

/-- Parentheses behind a comparison, with the connective after both. -/
def groupBehind : List Token :=
  [.word "a" false, .mark '=', .word "1" false, .mark '(', .word "b" false, .mark '=',
    .word "2" false, .mark ')', .word "and" false]

/-- They are read as the two conditions joined, the one in parentheses first. -/
lemma ofTokens_groupBehind :
    ofTokens groupBehind
      = .ok (some (.join .and (.comparison "b" .equal "2") (.comparison "a" .equal "1"))) := by
  decide +kernel

/-- A comparison, and one behind a connective and a parenthesis that stays open. -/
def groupJoined : List Token :=
  [.word "a" false, .mark '=', .word "1" false, .word "and" false, .mark '(', .word "b" false,
    .mark '=', .word "2" false]

/-- With a connective before the parentheses the words are read in the order of the tokens; without
one, those in parentheses come first. -/
theorem texts_group :
    (ofTokens groupBehind
        = .ok (some (.join .and (.comparison "b" .equal "2") (.comparison "a" .equal "1")))
      ∧ operandTexts groupBehind = ["a", "1", "b", "2"]
      ∧ ∃ l : Layout, Completes groupBehind l.tokens ∧ l.arranged = ["b", "2", "a", "1"])
    ∧ ∃ x whole, ofTokens groupJoined = .ok (some x) ∧ Completes groupJoined whole
      ∧ IsExpression whole ∧ x.texts = operandTexts groupJoined := by
  have hjoined : ofTokens groupJoined
      = .ok (some (.join .and (.comparison "a" .equal "1") (.comparison "b" .equal "2"))) := by
    decide +kernel
  have hequal (column literal : Operand) : IsCondition [column.token, .mark '=', literal.token] :=
    .comparison column ⟨['='], by simp, by simp [operatorMarks]⟩ literal
  have hfirst := hequal (.bare "a" (by decide +kernel)) (.bare "1" (by decide +kernel))
  have hsecond := hequal (.bare "b" (by decide +kernel)) (.bare "2" (by decide +kernel))
  have hexpression : IsExpression (groupJoined ++ [.mark ')']) :=
    .whole (.link (.single hfirst) ⟨"and", .and, by decide +kernel⟩
      (.group (.whole (.single hsecond))))
  have hcompletes : Completes groupJoined (groupJoined ++ [.mark ')']) := .inl ⟨1, rfl⟩
  obtain ⟨-, ⟨l, hl⟩, harranged, -⟩ := texts_of_ofTokens ofTokens_groupBehind
  obtain ⟨-, -, -, hinOrder⟩ := texts_of_ofTokens hjoined
  exact ⟨⟨ofTokens_groupBehind, by decide +kernel, l, hl, (harranged l hl).1.symm⟩,
    _, _, hjoined, hcompletes, hexpression, hinOrder _ hcompletes hexpression⟩

/-- The words of what is read need not be in the order of the tokens. -/
theorem not_forall_texts_in_order :
    ¬ ∀ (tokens : List Token) (x : Condition), ofTokens tokens = .ok (some x) →
        x.texts = operandTexts tokens := by
  intro h
  have htexts := h groupBehind _ ofTokens_groupBehind
  exact absurd htexts (by decide +kernel)

end Condition

end RowQuery
