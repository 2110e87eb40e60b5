/-
The written form of a condition is read back.

The written form has parentheses around everything joined, so its tokens are a sentence of one
term, and that term means the condition.

* `Condition.Spelled`: operators without a meaning are made of marks and spell no relation;
* `Condition.tokens`: the tokens of the written form, which is what scanning it gives
  (`Settled.run_text`);
* `Condition.exists_term`: these tokens are a term that means the condition and is as high as the
  condition is deep;
* `ofText_text`: the written form of a condition is read back, and strict scanning accepts it.
-/
import RowQuery.Proofs.Sentence.Reading
import RowQuery.Proofs.Token.Scan

namespace RowQuery

open Text

/-! ### Operators -/

namespace Relation

/-- The spellings of all relations. -/
def spellings : List String := ["=", "==", "!=", "<>", ">", "<", ">=", "<="]

/-- A text that is no spelling spells no relation. -/
lemma ofText?_eq_none {text : String} (h : text ∉ spellings) : ofText? text = none := by
  simp only [spellings, List.mem_cons, List.not_mem_nil, or_false, not_or] at h
  simp [ofText?, h]

/-- A spelling is made of marks. -/
lemma mem_operatorMarks (r : Relation) : ∀ c ∈ r.text.toList, c ∈ operatorMarks := by
  have hall : r.text.toList.all (operatorMarks.contains ·) = true := by
    cases r <;> decide
  simpa using hall

/-- A spelling is not empty. -/
lemma text_ne_empty (r : Relation) : r.text ≠ "" := by
  cases r <;> decide

end Relation

/-- The marks of operators are tokens on their own. -/
lemma mem_marks_of_mem_operatorMarks {c : Char} (h : c ∈ operatorMarks) : c ∈ marks := by
  fin_cases h <;> decide

/-- A text that is made of marks and is not empty is an operator. -/
def Operator.ofText (text : String) (hne : text ≠ "")
    (hmarks : ∀ c ∈ text.toList, c ∈ operatorMarks) : Operator :=
  ⟨text.toList, by simpa using hne, hmarks⟩

@[simp] lemma Operator.text_ofText {text : String} (hne : text ≠ "")
    (hmarks : ∀ c ∈ text.toList, c ∈ operatorMarks) : (ofText text hne hmarks).text = text := by
  simp [ofText, Operator.text]

/-! ### Columns without quotes -/

/-- The code points of the blanks. -/
def blankCodes : List Nat :=
  [0x09, 0x0A, 0x0B, 0x0C, 0x0D, 0x20, 0x85, 0xA0, 0x1680, 0x2000, 0x2001, 0x2002, 0x2003, 0x2004,
    0x2005, 0x2006, 0x2007, 0x2008, 0x2009, 0x200A, 0x2028, 0x2029, 0x202F, 0x205F, 0x3000]

lemma mem_blankCodes {c : Char} (h : isBlank c = true) : c.toNat ∈ blankCodes := by
  simp only [isBlank, Bool.or_eq_true, Bool.and_eq_true, decide_eq_true_eq, beq_iff_eq] at h
  simp only [blankCodes, List.mem_cons, List.not_mem_nil, or_false]
  omega

/-- No blank stands in a column without quotes. -/
lemma isPlainChar_of_mem_blankCodes :
    ∀ n ∈ blankCodes, Condition.isPlainChar (Char.ofNat n) = false := by
  decide +kernel

/-- No mark and no quote stands in a column without quotes. -/
lemma isPlainChar_of_mem_marks :
    ∀ c ∈ '\'' :: '"' :: marks, Condition.isPlainChar c = false := by
  have hall : ('\'' :: '"' :: marks).all (fun c => !Condition.isPlainChar c) = true := by
    decide +kernel
  intro c hc
  simpa using List.all_eq_true.mp hall c hc

/-- The characters of a column without quotes are those of a word. -/
lemma isWordChar_of_isPlainChar {c : Char} (h : Condition.isPlainChar c = true) :
    Scan.IsWordChar c := by
  have hmarks : c ∉ '\'' :: '"' :: marks := fun hc => by
    simp [isPlainChar_of_mem_marks c hc] at h
  have hblank : isBlank c ≠ true := fun hc => by
    have hplain := isPlainChar_of_mem_blankCodes c.toNat (mem_blankCodes hc)
    rw [Char.ofNat_toNat] at hplain
    simp [hplain] at h
  simp only [List.mem_cons, not_or] at hmarks
  exact ⟨hmarks.1, hmarks.2.1, by simpa using hblank, hmarks.2.2⟩

/-! ### The tokens of the written form -/

namespace Condition

/-- Operators without a meaning are made of marks and are no spellings of relations. -/
def Spelled : Condition → Prop
  | comparison .. => True
  | unresolved _ operator _ =>
    operator ≠ "" ∧ (∀ c ∈ operator.toList, c ∈ operatorMarks) ∧ operator ∉ Relation.spellings
  | join _ left right => left.Spelled ∧ right.Spelled

instance decidableSpelled : (e : Condition) → Decidable e.Spelled
  | comparison .. => isTrue trivial
  | unresolved _ operator _ =>
    -- by the marks of the operator, not by all characters
    letI : Decidable (∀ c ∈ operator.toList, c ∈ operatorMarks) := List.decidableBAll _ _
    inferInstanceAs (Decidable (operator ≠ "" ∧ _ ∧ _))
  | join _ left right => @instDecidableAnd _ _ (decidableSpelled left) (decidableSpelled right)

/-- The tokens of a written comparison. -/
def leafTokens (column operator literal : String) : List Token :=
  .word column (!isPlain column) :: (operator.toList.map Token.mark ++ [.word literal true])

/-- The tokens of the written form. -/
def tokens : Condition → List Token
  | comparison column relation literal => leafTokens column relation.text literal
  | unresolved column operator literal => leafTokens column operator literal
  | join connective left right =>
    .mark '(' :: (left.tokens ++ .word connective.text false :: right.tokens ++ [.mark ')'])

end Condition

namespace Scan.Settled

variable {s : Scan} {ts : List Token}

/-- A column is one token, quoted or not. -/
lemma run_columnText (h : s.Settled ts) (column : String) :
    (s.run (Condition.columnText column).toList).Bare
      (ts ++ [.word column (!Condition.isPlain column)]) := by
  rw [Condition.columnText]
  by_cases hplain : Condition.isPlain column = true
  · have hchars := hplain
    rw [Condition.isPlain, Bool.and_eq_true, Bool.and_eq_true, List.all_eq_true] at hchars
    obtain ⟨⟨hne, -⟩, hall⟩ := hchars
    rw [if_pos hplain, hplain]
    simpa using h.run_word (by simpa using hne) fun c hc => isWordChar_of_isPlainChar (hall c hc)
  · have hquoted : Condition.isPlain column = false := by simpa using hplain
    rw [if_neg hplain, hquoted]
    exact h.run_quote column

/-- A connective is a word without quotes. -/
lemma run_connective (h : s.Settled ts) (k : Connective) :
    (s.run k.text.toList).Bare (ts ++ [.word k.text false]) := by
  have hplain : k.text.toList.all Condition.isPlainChar = true := by
    cases k <;> decide +kernel
  rw [List.all_eq_true] at hplain
  simpa using h.run_word (by simpa using k.text_ne_empty)
    fun c hc => isWordChar_of_isPlainChar (hplain c hc)

/-- The written form of a comparison is scanned into its tokens. -/
lemma run_leaf (h : s.Settled ts) (column operator literal : String)
    (hmarks : ∀ c ∈ operator.toList, c ∈ operatorMarks) :
    (s.run (Condition.columnText column ++ " " ++ operator ++ " " ++ quote literal).toList).Bare
      (ts ++ Condition.leafTokens column operator literal) := by
  have hcolumn := (h.run_columnText column).step_blank (c := ' ') (by decide)
  have hoperator := hcolumn.run_marks fun c hc => mem_marks_of_mem_operatorMarks (hmarks c hc)
  have hliteral := (hoperator.bare.step_blank (c := ' ') (by decide)).run_quote literal
  simpa [run_append, Condition.leafTokens] using hliteral

/-- The written form of a condition is scanned into its tokens. -/
lemma run_text (h : s.Settled ts) {e : Condition} (hspelled : e.Spelled) :
    (s.run e.text.toList).Bare (ts ++ e.tokens) := by
  induction e generalizing s ts with
  | comparison column relation literal =>
      exact h.run_leaf column relation.text literal relation.mem_operatorMarks
  | unresolved column operator literal => exact h.run_leaf column operator literal hspelled.2.1
  | join connective left right ihl ihr =>
      have hopen := h.bare.step_mark (c := '(') (by decide)
      have hleft := (ihl hopen hspelled.1).step_blank (c := ' ') (by decide)
      have hword := (hleft.run_connective connective).step_blank (c := ' ') (by decide)
      have hright := (ihr hword hspelled.2).step_mark (c := ')') (by decide)
      simpa [run_append, Condition.text, Condition.tokens] using hright.bare

end Scan.Settled

/-! ### The written form is a sentence -/

/-- A column as it is written is an operand: one without quotes is no connective. -/
def Operand.column (text : String) : Operand where
  text := text
  quoted := !Condition.isPlain text
  not_keyword h k := by
    have hplain : Condition.isPlain text = true := by simpa using h
    rw [Condition.isPlain, Bool.and_eq_true, Bool.and_eq_true, Option.isNone_iff_eq_none] at hplain
    exact Connective.ofWord?_eq_none_iff.mp hplain.1.2 k

/-- A literal as it is written is an operand. -/
def Operand.literal (text : String) : Operand := ⟨text, true, by simp⟩

/-- A connective as it is written joins two terms. -/
def Junction.ofConnective (k : Connective) : Junction :=
  ⟨k.text, k, Connective.ofWord?_eq_some_iff.mp k.ofWord?_text⟩

/-- A written condition is a term that means the condition and is as high as it is deep. -/
lemma Condition.exists_term {e : Condition} (hspelled : e.Spelled) :
    ∃ t : Term, t.tokens = e.tokens ∧ t.condition = e ∧ t.height = e.depth := by
  induction e with
  | comparison column relation literal =>
      refine ⟨.comparison (.column column)
        (.ofText relation.text relation.text_ne_empty relation.mem_operatorMarks)
        (.literal literal), rfl, ?_, ?_⟩
      · simp [Term.condition, Operand.column, Operand.literal]
      · rw [Term.height, depth]
  | unresolved column operator literal =>
      obtain ⟨hne, hmarks, hnone⟩ := hspelled
      refine ⟨.comparison (.column column) (.ofText operator hne hmarks) (.literal literal), rfl,
        ?_, ?_⟩
      · simp [Term.condition, Operand.column, Operand.literal, Relation.ofText?_eq_none hnone]
      · rw [Term.height, depth]
  | join connective left right ihl ihr =>
      obtain ⟨l, hltokens, hlcondition, hlheight⟩ := ihl hspelled.1
      obtain ⟨r, hrtokens, hrcondition, hrheight⟩ := ihr hspelled.2
      refine ⟨.group (.link (.single l) (.ofConnective connective) r), ?_, ?_, ?_⟩
      · simp [Term.tokens, Chain.tokens, Condition.tokens, hltokens, hrtokens, Junction.token,
          Junction.ofConnective]
      · simp [Term.condition, Chain.condition, hlcondition, hrcondition, Junction.ofConnective]
      · simp [Term.height, Chain.height, Chain.foldHeight, depth, hlheight, hrheight]

/-- **The written form is read back.** The written form of a condition whose depth is below the
limit is read as the condition, whatever its columns and literals hold, and the strict scan
accepts it. -/
theorem Condition.ofText_text (e : Condition) (hdepth : e.depth ≤ 255) (hspelled : e.Spelled) :
    Condition.ofText e.text = .ok (some e)
    ∧ tokenizeStrict e.text = .ok (tokenize e.text) := by
  have hscan : (scan e.text).Bare e.tokens := Scan.settled_start.run_text hspelled
  obtain ⟨t, htokens, hcondition, hheight⟩ := e.exists_term hspelled
  have hlimit : (Chain.single t).height ≤ maxDepth := by
    rw [Chain.height, hheight, maxDepth]
    omega
  have hread := Chain.ofTokens_tokens hlimit
  rw [Chain.tokens, Chain.condition, htokens, hcondition] at hread
  refine ⟨?_, ?_⟩
  · rw [ofText, hscan.tokenize_eq, hread]
  · rw [hscan.tokenizeStrict_eq, hscan.tokenize_eq]

/-- An empty column, a column that is a connective, and literals with an apostrophe and with
parentheses are read back. -/
theorem Condition.ofText_text_quoted :
    let e := join .or (unresolved "" "=>" "it's")
      (join .and (comparison "or" .lessOrEqual "") (comparison "b.c" .equal "( and )"))
    e.depth ≤ 255 ∧ e.Spelled
    ∧ e.text = "('' => 'it\\'s' or ('or' <= '' and b.c = '( and )'))"
    ∧ Condition.ofText e.text = .ok (some e)
    ∧ tokenizeStrict e.text = .ok (tokenize e.text) :=
  ⟨by decide, by decide +kernel, by decide +kernel,
    Condition.ofText_text _ (by decide) (by decide +kernel)⟩

end RowQuery
