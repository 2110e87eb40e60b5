/-
Values restated as their texts.

A value that is not a binary number has the numeric forms of its text: an integer is read back from
its digits, bytes have the numeric forms of the text that they spell, and if they spell none, their
replacement character is in no numeral; nor is a boolean or a timestamp read as a number. So such a
value cannot be told from its text by a comparison.

* `Value.Restated`: a value and its text, or a value and itself;
* `Value.decimal?_string_text`, `Value.binary?_string_text`: the numeric forms of the text of a
  value;
* `Value.Restated.compareNumbers?_eq`, `Value.Restated.compare_eq`, `Value.Restated.accepts_eq`:
  what is compared or tested stays the same.
-/
import RowQuery.Proofs.Number.Numeral
import RowQuery.Table.Sorting

namespace RowQuery

open Number Text

/-! ### Texts that write no number -/

namespace Number

/-- A text that is no numeral is read as no number. -/
lemma ofText?_eq_none {s : String} (h : ¬ Numeral (splitSign s.toList).2) :
    Decimal.ofText? s = none ∧ Binary64.ofText? s = none :=
  ⟨Option.eq_none_iff_forall_ne_some.mpr fun _ hd => h (Decimal.numeral_of_ofText? hd),
    Option.eq_none_iff_forall_ne_some.mpr fun _ hx => h (Binary64.numeral_of_ofText? hx)⟩

end Number

/-- Bytes that spell no text have a replacement character in the text that stands for them. -/
lemma replacement_mem_readBytesLossy {b : List UInt8} (h : readBytes? b = none) :
    '\ufffd' ∈ (readBytesLossy b).toList := by
  have hsome : ∀ cs : List (Option Char), none ∉ cs → ∃ out, cs.mapM id = some out := by
    intro cs hcs
    induction cs with
    | nil => exact ⟨[], rfl⟩
    | cons c cs ih =>
        rw [List.mem_cons, not_or] at hcs
        obtain ⟨c, rfl⟩ := Option.ne_none_iff_exists'.mp (Ne.symm hcs.1)
        obtain ⟨out, hout⟩ := ih hcs.2
        exact ⟨c :: out, by simp [List.mapM_cons, hout]⟩
  have hnone : none ∈ decode b := by
    by_contra hmem
    obtain ⟨out, hout⟩ := hsome (decode b) hmem
    rw [readBytes?, hout] at h
    cases h
  rw [readBytesLossy, String.toList_ofList]
  exact List.mem_map.mpr ⟨none, hnone, rfl⟩

/-- Bytes that spell no text are read as no number. -/
lemma not_numeral_readBytesLossy {b : List UInt8} (h : readBytes? b = none) :
    ¬ Numeral (splitSign (readBytesLossy b).toList).2 := by
  intro hnumeral
  rcases sign_or_mem_splitSign (replacement_mem_readBytesLossy h) with h | h | h
  · exact absurd h (by decide)
  · exact absurd h (by decide)
  · rcases hnumeral _ h with h | h | h | ⟨h | h, -⟩ <;> exact absurd h (by decide)

namespace Timestamp

/-- A number with zeros in front of it has digits only. -/
lemma isDigit_of_mem_padded {width n : ℕ} {c : Char} (hc : c ∈ padded width n) : c.isDigit := by
  rcases List.mem_append.mp hc with hc | hc
  · obtain rfl := List.eq_of_mem_replicate hc
    decide
  · exact Nat.isDigit_of_mem_toDigits (by decide) le_rfl hc

/-- A year has a character at least. -/
lemma yearText_ne_nil (year : ℤ) : yearText year ≠ [] := by
  rw [yearText]
  split
  · simp [padded, Nat.toDigits_ne_nil]
  · simp

/-- Two numbers after separators add digits and separators only. -/
lemma isDigit_or_separator_append {first : List Char} {mark : Char} {m n : ℕ}
    (hfirst : ∀ c ∈ first, c.isDigit ∨ c ∈ ['-', '+', ':', ' '])
    (hmark : mark ∈ ['-', '+', ':', ' ']) :
    ∀ c ∈ first ++ mark :: padded 2 m ++ mark :: padded 2 n,
      c.isDigit ∨ c ∈ ['-', '+', ':', ' '] := by
  intro c hc
  rcases List.mem_append.mp hc with hc | hc
  · rcases List.mem_append.mp hc with hc | hc
    · exact hfirst c hc
    · rcases List.mem_cons.mp hc with rfl | hc
      · exact .inr hmark
      · exact .inl (isDigit_of_mem_padded hc)
  · rcases List.mem_cons.mp hc with rfl | hc
    · exact .inr hmark
    · exact .inl (isDigit_of_mem_padded hc)

/-- A written timestamp has digits and separators only. -/
lemma isDigit_or_separator_of_mem_text (t : Timestamp) {c : Char} (hc : c ∈ t.text.toList) :
    c.isDigit ∨ c ∈ ['-', '+', ':', ' '] := by
  have hyear : ∀ c ∈ yearText t.fields.year, c.isDigit ∨ c ∈ ['-', '+', ':', ' '] := by
    intro c hc
    rw [yearText] at hc
    split at hc
    · exact .inl (isDigit_of_mem_padded hc)
    · rcases List.mem_cons.mp hc with rfl | hc
      · split <;> simp
      · exact .inl (isDigit_of_mem_padded hc)
  have hdate := isDigit_or_separator_append (m := t.fields.month) (n := t.fields.day) hyear
    (by simp : '-' ∈ ['-', '+', ':', ' '])
  have hhour : ∀ c ∈ padded 2 t.fields.hour, c.isDigit ∨ c ∈ ['-', '+', ':', ' '] :=
    fun c hc => .inl (isDigit_of_mem_padded hc)
  have htime := isDigit_or_separator_append (m := t.fields.minute) (n := t.shownSecond) hhour
    (by simp : ':' ∈ ['-', '+', ':', ' '])
  rw [text, String.toList_ofList] at hc
  split at hc
  · exact hdate c hc
  · rcases List.mem_append.mp hc with hc | hc
    · exact hdate c hc
    · rcases List.mem_cons.mp hc with rfl | hc
      · simp
      · exact htime c hc

/-- After its first character, a written timestamp has a hyphen. -/
lemma text_eq_cons (t : Timestamp) : ∃ c rest, t.text.toList = c :: rest ∧ '-' ∈ rest := by
  obtain ⟨c, year, hyear⟩ := List.exists_cons_of_ne_nil (yearText_ne_nil t.fields.year)
  rw [text, String.toList_ofList, dateText, hyear]
  split <;> simp

/-- A timestamp is read as no number: it has a hyphen inside, and no mark for an exponent. -/
lemma not_numeral_text (t : Timestamp) : ¬ Numeral (splitSign t.text.toList).2 := by
  intro hnumeral
  obtain ⟨c, rest, htext, hhyphen⟩ := t.text_eq_cons
  have hmem : '-' ∈ (splitSign t.text.toList).2 := by
    rw [htext]
    exact mem_splitSign_cons hhyphen
  rcases hnumeral _ hmem with h | h | h | ⟨-, mark, hmark, h⟩
  · exact absurd h (by decide)
  · exact absurd h (by decide)
  · exact absurd h (by decide)
  · have hmark := t.isDigit_or_separator_of_mem_text (mem_of_mem_splitSign hmark)
    rcases h with rfl | rfl <;> exact absurd hmark (by decide)

end Timestamp

/-! ### Values and their texts -/

namespace Value

/-- A value and its text, unless the value is a binary number, or a value and itself. -/
inductive Restated : Value → Value → Prop
  | same (v : Value) : Restated v v
  | text (v : Value) (h : ∀ x, v ≠ .float x) : Restated v (.string v.text)

/-- The text of a value that is not a binary number has the numeric forms of the value. -/
lemma numbers_string_text {v : Value} (h : ∀ x, v ≠ .float x) :
    (string v.text).decimal? = v.decimal? ∧ (string v.text).binary? = v.binary? := by
  cases v with
  | null => decide
  | boolean b => cases b <;> decide
  | integer n => exact ⟨Decimal.ofText?_toString n, Binary64.ofText?_toString n.toInt⟩
  | float x => exact absurd rfl (h x)
  | string s => exact ⟨rfl, rfl⟩
  | bytes b =>
      cases hread : readBytes? b with
      | none =>
          obtain ⟨hdecimal, hbinary⟩ := ofText?_eq_none (not_numeral_readBytesLossy hread)
          simp [decimal?, binary?, text, hread, hdecimal, hbinary]
      | some s => simp [decimal?, binary?, text, hread, readBytesLossy_of_readBytes? hread]
  | timestamp t => exact ofText?_eq_none t.not_numeral_text

namespace Restated

variable {v v' w w' : Value}

/-- A value that is not a binary number is restated by its text. -/
lemma of_text_eq {s : String} (htext : v.text = s) (h : ∀ x, v ≠ .float x) :
    v.Restated (.string s) :=
  htext ▸ .text v h

/-- A restated value has the same text. -/
lemma text_eq (h : v.Restated v') : v'.text = v.text := by
  cases h <;> rfl

/-- A restated value has the same decimal form. -/
lemma decimal?_eq (h : v.Restated v') : v'.decimal? = v.decimal? := by
  cases h with
  | same => rfl
  | text h => exact (numbers_string_text h).1

/-- A restated value has the same binary form. -/
lemma float?_eq (h : v.Restated v') : v'.float? = v.float? := by
  cases h with
  | same => rfl
  | text h => rw [float?, float?, (numbers_string_text h).2]

/-- Restated values are in the same order as numbers. -/
lemma compareNumbers?_eq (hv : v.Restated v') (hw : w.Restated w') :
    v'.compareNumbers? w' = v.compareNumbers? w := by
  rw [compareNumbers?, compareNumbers?, hv.decimal?_eq, hw.decimal?_eq, hv.float?_eq, hw.float?_eq]

/-- Restated values are in the same order. -/
lemma compare_eq (hv : v.Restated v') (hw : w.Restated w') : v'.compare w' = v.compare w := by
  rw [Value.compare, Value.compare, compareNumbers?_eq hv hw, hv.text_eq, hw.text_eq]

/-- A restated value passes the same tests. -/
lemma accepts_eq (h : v.Restated v') (test : CellTest) : test.accepts v' = test.accepts v := by
  cases test with
  | sameText literal expected => rw [CellTest.accepts, CellTest.accepts, h.text_eq]
  | numeric relation literal =>
      rw [CellTest.accepts, CellTest.accepts, compareNumbers?_eq h (.same _)]
  | matching p expected => rw [CellTest.accepts, CellTest.accepts, h.text_eq]
  | never => rfl

end Restated

end Value

end RowQuery
