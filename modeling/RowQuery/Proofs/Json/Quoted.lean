/-
Texts between quotation marks.

The same text can be written in many ways between quotation marks: a character as it is, by a
letter after a backslash, or by the digits of its units. However a text is written, reading gives
it back; and what a table writes is one of the ways to write it.

* `Spells`: the ways to write a text between quotation marks;
* `Spells.unescape?_eq`: each of them is read as the text;
* `Spells.run_quoted`: none of them closes the quotation marks;
* `spells_tableEscaping`: the way in which a table writes a text.
-/
import Mathlib.Tactic
import RowQuery.Json.Lexeme
import RowQuery.Table.Writing

namespace RowQuery.Json

open Number

/-- The ways to write a text between quotation marks. -/
inductive Spells : List Char → List Char → Prop
  | nil : Spells [] []
  /-- A character as it is. -/
  | plain {c : Char} {raw text : List Char} (hquote : c ≠ '"') (hbackslash : c ≠ '\\')
      (hcontrol : isRawControl c = false) (rest : Spells raw text) :
      Spells (c :: raw) (c :: text)
  /-- A character by its letter. -/
  | letter {c letter : Char} {raw text : List Char} (hletter : (c, letter) ∈ letterEscapes)
      (rest : Spells raw text) : Spells ('\\' :: letter :: raw) (c :: text)
  /-- A character by its only unit. -/
  | unit {digits raw text : List Char} {n : ℕ} (hlength : digits.length = 4)
      (hvalue : hexValue? digits = some n) (hleading : isLeading n = false)
      (htrailing : isTrailing n = false) (rest : Spells raw text) :
      Spells ('\\' :: 'u' :: (digits ++ raw)) (Char.ofNat n :: text)
  /-- A character by its two units. -/
  | pair {digits digits' raw text : List Char} {m n : ℕ} (hlength : digits.length = 4)
      (hlength' : digits'.length = 4) (hvalue : hexValue? digits = some m)
      (hvalue' : hexValue? digits' = some n) (hleading : isLeading m = true)
      (htrailing : isTrailing n = true) (rest : Spells raw text) :
      Spells ('\\' :: 'u' :: (digits ++ '\\' :: 'u' :: (digits' ++ raw))) (pairChar m n :: text)

/-! ### Reading -/

/-- The letters of escapes are read as their characters; the one of units is none of them. -/
lemma ofLetter?_of_mem {c letter : Char} (h : (c, letter) ∈ letterEscapes) :
    ofLetter? letter = some c ∧ letter ≠ 'u' := by
  have hall : letterEscapes.all fun e => ofLetter? e.2 = some e.1 ∧ e.2 ≠ 'u' := by decide
  simpa using List.all_eq_true.mp hall (c, letter) h

/-- Four digits after a backslash and a `u` are a unit. -/
lemma pieces?_unit {digits raw : List Char} {n : ℕ} (hlength : digits.length = 4)
    (hvalue : hexValue? digits = some n) :
    pieces? ('\\' :: 'u' :: (digits ++ raw)) = (pieces? raw).map (.unit n :: ·) := by
  obtain _ | ⟨a, _ | ⟨b, _ | ⟨c, _ | ⟨d, _ | ⟨e, rest⟩⟩⟩⟩⟩ := digits <;> simp at hlength
  simp only [List.cons_append, List.nil_append]
  rw [pieces?, hvalue]
  cases pieces? raw <;> rfl

/-- A text is read from every way to write it. -/
lemma Spells.exists_pieces {raw text : List Char} (h : Spells raw text) :
    ∃ pieces, pieces? raw = some pieces ∧ join? none pieces = some text := by
  induction h with
  | nil => exact ⟨[], rfl, rfl⟩
  | @plain c raw text hquote hbackslash hcontrol rest ih =>
      obtain ⟨pieces, hpieces, hjoin⟩ := ih
      refine ⟨.char c :: pieces, ?_, by rw [join?, hjoin]; rfl⟩
      rw [pieces?, hpieces]
      · simp [hbackslash, hcontrol]
      · exact fun _ _ _ _ _ hc _ => hbackslash hc
      · exact fun _ _ hc _ => hbackslash hc
  | @letter c letter raw text hletter rest ih =>
      obtain ⟨pieces, hpieces, hjoin⟩ := ih
      obtain ⟨hread, hne⟩ := ofLetter?_of_mem hletter
      refine ⟨.char c :: pieces, ?_, by rw [join?, hjoin]; rfl⟩
      rw [pieces?, hread, hpieces]
      · rfl
      · exact fun _ _ _ _ _ hu _ => hne hu
  | @unit digits raw text n hlength hvalue hleading htrailing rest ih =>
      obtain ⟨pieces, hpieces, hjoin⟩ := ih
      refine ⟨.unit n :: pieces, by rw [pieces?_unit hlength hvalue, hpieces]; rfl, ?_⟩
      rw [join?, hleading, htrailing, hjoin]
      rfl
  | @pair digits digits' raw text m n hlength hlength' hvalue hvalue' hleading htrailing rest ih =>
      obtain ⟨pieces, hpieces, hjoin⟩ := ih
      refine ⟨.unit m :: .unit n :: pieces, ?_, ?_⟩
      · rw [pieces?_unit hlength hvalue, pieces?_unit hlength' hvalue', hpieces]
        rfl
      · rw [join?, hleading, if_pos rfl, join?, htrailing, if_pos rfl, hjoin]
        rfl

/-- A text is read from every way to write it between quotation marks. -/
lemma Spells.unescape?_eq {raw text : List Char} (h : Spells raw text) :
    unescape? raw = some (String.ofList text) := by
  obtain ⟨pieces, hpieces, hjoin⟩ := h.exists_pieces
  simp [unescape?, hpieces, hjoin]

/-! ### Quotation marks -/

/-- A hexadecimal digit is no quotation mark and no backslash. -/
lemma ne_of_hexDigit? {c : Char} (h : (hexDigit? c).isSome) : c ≠ '"' ∧ c ≠ '\\' := by
  constructor
  · rintro rfl
    exact absurd h (by decide)
  · rintro rfl
    exact absurd h (by decide)

/-- A number is written by digits only. -/
lemma isSome_of_mem_of_hexValue? {digits : List Char} {n : ℕ} (h : hexValue? digits = some n) :
    ∀ c ∈ digits, (hexDigit? c).isSome := by
  rw [hexValue?] at h
  generalize 0 = before at h
  induction digits generalizing before with
  | nil => exact fun c hc => absurd hc List.not_mem_nil
  | cons d digits ih =>
      rw [List.foldlM_cons] at h
      cases hd : hexDigit? d with
      | none =>
          rw [hd] at h
          cases h
      | some value =>
          rw [hd] at h
          intro c hc
          rcases List.mem_cons.mp hc with rfl | hc
          · rw [hd]
            rfl
          · exact ih _ h c hc

/-- Between quotation marks a character is kept that is neither a quotation mark nor a
backslash. -/
lemma run_quoted_of_plain {text : List Char} (htext : ∀ c ∈ text, c ≠ '"' ∧ c ≠ '\\')
    (lexemes : List Lexeme) (reversed : List Char) :
    (⟨lexemes, .quoted reversed⟩ : Lexing).run text
      = ⟨lexemes, .quoted (text.reverse ++ reversed)⟩ := by
  induction text generalizing reversed with
  | nil => rfl
  | cons c text ih =>
      obtain ⟨hquote, hbackslash⟩ := htext c List.mem_cons_self
      have hstep : (⟨lexemes, .quoted reversed⟩ : Lexing).step c
          = ⟨lexemes, .quoted (c :: reversed)⟩ := by
        simp [Lexing.step, hquote, hbackslash]
      rw [Lexing.run, List.foldl_cons, hstep]
      refine (ih (fun d hd => htext d (List.mem_cons_of_mem c hd)) (c :: reversed)).trans ?_
      simp

/-- Between quotation marks a backslash and what follows it are kept. -/
lemma run_quoted_backslash (c : Char) (raw : List Char) (lexemes : List Lexeme)
    (reversed : List Char) :
    (⟨lexemes, .quoted reversed⟩ : Lexing).run ('\\' :: c :: raw)
      = (⟨lexemes, .quoted (c :: '\\' :: reversed)⟩ : Lexing).run raw := rfl

/-- No way to write a text closes the quotation marks. -/
lemma Spells.run_quoted {raw text : List Char} (h : Spells raw text) (lexemes : List Lexeme)
    (reversed : List Char) :
    (⟨lexemes, .quoted reversed⟩ : Lexing).run raw
      = ⟨lexemes, .quoted (raw.reverse ++ reversed)⟩ := by
  induction h generalizing reversed with
  | nil => rfl
  | @plain c raw text hquote hbackslash hcontrol rest ih =>
      have hc : ∀ d ∈ [c], d ≠ '"' ∧ d ≠ '\\' := by simp [hquote, hbackslash]
      rw [← List.singleton_append, Lexing.run_append, run_quoted_of_plain hc, ih]
      simp
  | @letter c letter raw text hletter rest ih =>
      rw [run_quoted_backslash, ih]
      simp
  | @unit digits raw text n hlength hvalue hleading htrailing rest ih =>
      have hdigits : ∀ c ∈ digits, c ≠ '"' ∧ c ≠ '\\' :=
        fun c hc => ne_of_hexDigit? (isSome_of_mem_of_hexValue? hvalue c hc)
      rw [run_quoted_backslash, Lexing.run_append, run_quoted_of_plain hdigits, ih]
      simp
  | @pair digits digits' raw text m n hlength hlength' hvalue hvalue' hleading htrailing rest ih =>
      have hdigits : ∀ c ∈ digits, c ≠ '"' ∧ c ≠ '\\' :=
        fun c hc => ne_of_hexDigit? (isSome_of_mem_of_hexValue? hvalue c hc)
      have hdigits' : ∀ c ∈ digits', c ≠ '"' ∧ c ≠ '\\' :=
        fun c hc => ne_of_hexDigit? (isSome_of_mem_of_hexValue? hvalue' c hc)
      rw [run_quoted_backslash, Lexing.run_append, run_quoted_of_plain hdigits,
        run_quoted_backslash, Lexing.run_append, run_quoted_of_plain hdigits', ih]
      simp

/-! ### Writing -/

/-- A control character has four digits, which are read as its number. -/
lemma hexValue?_hexText_of_isControl {c : Char} (h : isControl c) :
    (hexText c.toNat).length = 4 ∧ hexValue? (hexText c.toNat) = some c.toNat
      ∧ isLeading c.toNat = false ∧ isTrailing c.toNat = false := by
  have hall : ∀ n < 160, (hexText n).length = 4 ∧ hexValue? (hexText n) = some n
      ∧ isLeading n = false ∧ isTrailing n = false := by decide +kernel
  refine hall c.toNat ?_
  simp only [isControl, Bool.or_eq_true, Bool.and_eq_true, decide_eq_true_eq] at h
  omega

/-- A character that a table writes is one way to write it. -/
lemma spells_tableEscaping_char (c : Char) {raw text : List Char} (rest : Spells raw text) :
    Spells (tableEscaping.char c ++ raw) (c :: text) := by
  rw [Escaping.char]
  cases hfind : tableEscaping.letters.find? (·.1 == c) with
  | some e =>
      obtain ⟨c', letter⟩ := e
      have hc : c' = c := by simpa using List.find?_some hfind
      have hmem : (c', letter) ∈ letterEscapes :=
        (List.mem_filter.mp (List.mem_of_find?_eq_some hfind)).1
      exact .letter (hc ▸ hmem) rest
  | none =>
      have hletter : ∀ e ∈ tableEscaping.letters, e.1 ≠ c := by
        simpa using List.find?_eq_none.mp hfind
      have hnumbered : tableEscaping.numbered c = isControl c := rfl
      simp only [hnumbered]
      split_ifs with hcontrol
      · obtain ⟨hlength, hvalue, hleading, htrailing⟩ := hexValue?_hexText_of_isControl hcontrol
        have hunit := Spells.unit hlength hvalue hleading htrailing rest
        rwa [Char.ofNat_toNat] at hunit
      · have hraw : isRawControl c = false := by
          simp only [isControl, Bool.or_eq_true, decide_eq_true_eq, not_or] at hcontrol
          exact decide_eq_false hcontrol.1
        exact .plain (hletter ('"', '"') (by simp [tableEscaping, letterEscapes])).symm
          (hletter ('\\', '\\') (by simp [tableEscaping, letterEscapes])).symm hraw rest

/-- A table writes a text in one of the ways to write it. -/
lemma spells_tableEscaping (text : List Char) : Spells (text.flatMap tableEscaping.char) text := by
  induction text with
  | nil => exact .nil
  | cons c text ih => exact spells_tableEscaping_char c ih

end RowQuery.Json
