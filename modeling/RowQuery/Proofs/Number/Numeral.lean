/-
Whole numbers written in digits, and the characters of a numeral.

An integer is written as a sign and its digits, and reading them gives the number back, as a
decimal and as a binary number. A numeral is made of few characters only, so most texts write no
number.

* `Decimal.readDigits?_whole`: digits before a point are read as the number that they write;
* `Decimal.ofText?_toString`, `Binary64.ofText?_toString`: the text of an integer is read as the
  integer;
* `Numeral`: the characters of a numeral: letters and digits, points, underscores, and signs if
  there is a mark for an exponent;
* `Decimal.numeral_of_ofText?`, `Binary64.numeral_of_ofText?`: a text that is read as a number is a
  numeral after its sign.
-/
import Mathlib.Data.List.TakeWhile
import Mathlib.Tactic
import RowQuery.Number.Decimal

namespace RowQuery.Number

variable {digits rest text : List Char} {negative : Bool}

/-! ### Digits with a sign -/

/-- Digits after a minus, or without one. -/
def signed (negative : Bool) (digits : List Char) : List Char :=
  (if negative then ['-'] else []) ++ digits

/-- The text of an integer is its sign and its digits. -/
lemma toList_toString (n : Int) :
    (toString n).toList = signed (n < 0) (Nat.toDigits 10 n.natAbs) := by
  cases n with
  | ofNat n =>
      have hsign : ¬ Int.ofNat n < 0 := by simp
      have htext : toString (Int.ofNat n) = String.ofList (Nat.toDigits 10 n) :=
        Nat.toString_eq_ofList_toDigits
      rw [htext]
      simp [signed]
  | negSucc n =>
      have hsign : Int.negSucc n < 0 := Int.negSucc_lt_zero n
      have htext : toString (Int.negSucc n) = "-" ++ String.ofList (Nat.toDigits 10 (n + 1)) :=
        congrArg ("-" ++ ·) Nat.toString_eq_ofList_toDigits
      rw [htext, String.toList_append]
      simp [signed, hsign]

/-- A text that begins with another character has no sign. -/
lemma splitSign_cons {c : Char} (hplus : c ≠ '+') (hminus : c ≠ '-') :
    splitSign (c :: rest) = (false, c :: rest) := by
  unfold splitSign
  split
  · next h => exact absurd (List.cons.inj h).1 hminus
  · next h => exact absurd (List.cons.inj h).1 hplus
  · rfl

/-- The sign before digits is read as their sign, whatever stands after them. -/
lemma splitSign_signed_append (negative : Bool) (rest : List Char) (hne : digits ≠ [])
    (hdigits : ∀ c ∈ digits, c.isDigit) :
    splitSign (signed negative (digits ++ rest)) = (negative, digits ++ rest) := by
  obtain ⟨c, digits, rfl⟩ := List.exists_cons_of_ne_nil hne
  cases negative with
  | true => rfl
  | false =>
      have hc : c.isDigit := hdigits c List.mem_cons_self
      exact splitSign_cons (by rintro rfl; simp at hc) (by rintro rfl; simp at hc)

/-- The sign before digits is read as their sign. -/
lemma splitSign_signed (negative : Bool) (hne : digits ≠ []) (hdigits : ∀ c ∈ digits, c.isDigit) :
    splitSign (signed negative digits) = (negative, digits) := by
  simpa using splitSign_signed_append negative [] hne hdigits

/-- The number that digits write is at least the one that was read before them. -/
lemma le_ofDigitChars (digits : List Char) (init : ℕ) : init ≤ Nat.ofDigitChars 10 digits init := by
  induction digits generalizing init with
  | nil => exact le_rfl
  | cons c digits ih =>
      rw [Nat.ofDigitChars_cons]
      have hle := ih (10 * init + (c.toNat - '0'.toNat))
      omega

/-! ### Integers -/

/-- An integer of 64 bits has a magnitude of `2 ^ 63` at most. -/
lemma natAbs_toInt_le (n : Int64) : n.toInt.natAbs ≤ 2 ^ 63 := by
  have hlow := n.le_toInt
  have hhigh := n.toInt_lt
  omega

namespace Decimal

/-- An integer of 64 bits fits into a decimal. -/
lemma natAbs_toInt_lt (n : Int64) : n.toInt.natAbs < coefficientLimit :=
  (natAbs_toInt_le n).trans_lt (by decide)

/-- An integer of 64 bits has a decimal form. -/
lemma isSome_ofInt? (n : Int64) : (ofInt? n.toInt).isSome := by
  simp [ofInt?, make?, natAbs_toInt_lt n]

/-- Digits before a point are read as the number that they write, as long as it fits. -/
lemma readDigits?_whole (negative : Bool) (rest : List Char) (coefficient : ℕ) (started : Bool)
    (hdigits : ∀ c ∈ digits, c.isDigit)
    (hfits : Nat.ofDigitChars 10 digits coefficient < coefficientLimit) :
    readDigits? negative ⟨coefficient, 0, false, started⟩ (digits ++ rest)
      = readDigits? negative
          ⟨Nat.ofDigitChars 10 digits coefficient, 0, false, started || !digits.isEmpty⟩ rest := by
  induction digits generalizing coefficient started with
  | nil => simp [Nat.ofDigitChars_nil]
  | cons c digits ih =>
      have hc : c.isDigit := hdigits c List.mem_cons_self
      have hnext : coefficient * 10 + digit c = 10 * coefficient + (c.toNat - '0'.toNat) := by
        rw [digit, Nat.mul_comm]
      rw [Nat.ofDigitChars_cons, ← hnext] at hfits ⊢
      have hlt : coefficient * 10 + digit c < coefficientLimit :=
        (le_ofDigitChars digits _).trans_lt hfits
      rw [List.cons_append, readDigits?, if_pos hc]
      simp only [Bool.not_false, if_true, hlt]
      rw [ih _ _ (fun d hd => hdigits d (List.mem_cons_of_mem c hd)) hfits]
      simp

/-- Digits alone are read as the number that they write, if it fits. -/
lemma readDigits?_digits (negative : Bool) (hne : digits ≠ []) (hdigits : ∀ c ∈ digits, c.isDigit)
    (hfits : Nat.ofDigitChars 10 digits 0 < coefficientLimit) :
    readDigits? negative ⟨0, 0, false, false⟩ digits
      = make? negative (Nat.ofDigitChars 10 digits 0) 0 := by
  have hread := readDigits?_whole negative [] 0 false hdigits hfits
  rw [List.append_nil] at hread
  rw [hread, readDigits?]
  simp [hne]

/-- The text of an integer is read as the integer. -/
lemma ofText?_toString (n : Int64) : ofText? (toString n.toInt) = ofInt? n.toInt := by
  have hsome := isSome_ofInt? n
  have hn := natAbs_toInt_lt n
  generalize n.toInt = n at hsome hn
  have hplain : readPlain? (toString n).toList = ofInt? n := by
    have hvalue : Nat.ofDigitChars 10 (Nat.toDigits 10 n.natAbs) 0 = n.natAbs :=
      Nat.ofDigitChars_ten_toDigits
    have hdigits : ∀ c ∈ Nat.toDigits 10 n.natAbs, c.isDigit :=
      fun c hc => Nat.isDigit_of_mem_toDigits (by decide) le_rfl hc
    have hread := readDigits?_digits (n < 0) Nat.toDigits_ne_nil hdigits (hvalue.trans_lt hn)
    rw [readPlain?, toList_toString, splitSign_signed _ Nat.toDigits_ne_nil hdigits]
    simp only [hread, hvalue, ofInt?]
    -- only the zero could lose a sign, and it has none
    by_cases hzero : n = 0
    · subst hzero
      rfl
    · simp [make?, hn, unsignZero, hzero]
  rw [ofText?, hplain, Option.orElse_eq_or]
  exact Option.or_of_isSome hsome

end Decimal

/-! ### The characters of a numeral -/

/-- A text with the characters of a numeral: letters and digits, points, underscores, and signs if
there is a mark for an exponent. -/
def Numeral (text : List Char) : Prop :=
  ∀ c ∈ text, c.isAlphanum ∨ c = '.' ∨ c = '_'
    ∨ (c = '+' ∨ c = '-') ∧ ∃ mark ∈ text, mark = 'e' ∨ mark = 'E'

/-- A text of plain characters, a mark, a sign perhaps and digits is a numeral. -/
lemma numeral_append {plain : List Char} {mark : Char}
    (hplain : ∀ c ∈ plain, c.isDigit ∨ c = '.' ∨ c = '_') (hmark : mark = 'e' ∨ mark = 'E')
    (hrest : ∀ c ∈ rest, c = '+' ∨ c = '-' ∨ c.isDigit) : Numeral (plain ++ mark :: rest) := by
  have hmem : mark ∈ plain ++ mark :: rest := by simp
  intro c hc
  rcases List.mem_append.mp hc with hc | hc
  · rcases hplain c hc with h | h | h
    · simp [Char.isAlphanum, h]
    · simp [h]
    · simp [h]
  rcases List.mem_cons.mp hc with rfl | hc
  · rcases hmark with rfl | rfl <;> exact .inl (by decide)
  · rcases hrest c hc with h | h | h
    · exact .inr (.inr (.inr ⟨.inl h, mark, hmem, hmark⟩))
    · exact .inr (.inr (.inr ⟨.inr h, mark, hmem, hmark⟩))
    · simp [Char.isAlphanum, h]

/-- A text of plain characters is a numeral. -/
lemma numeral_of_plain (hplain : ∀ c ∈ text, c.isDigit ∨ c = '.' ∨ c = '_') : Numeral text := by
  intro c hc
  rcases hplain c hc with h | h | h
  · simp [Char.isAlphanum, h]
  · simp [h]
  · simp [h]

/-- The characters after the sign of a text are characters of it. -/
lemma mem_of_mem_splitSign {c : Char} (hc : c ∈ (splitSign text).2) : c ∈ text := by
  unfold splitSign at hc
  split at hc
  · exact List.mem_cons_of_mem _ hc
  · exact List.mem_cons_of_mem _ hc
  · exact hc

/-- The characters after the first of a text are characters after its sign. -/
lemma mem_splitSign_cons {a c : Char} (hc : c ∈ rest) : c ∈ (splitSign (a :: rest)).2 := by
  by_cases ha : a = '+' ∨ a = '-'
  · rcases ha with rfl | rfl <;> exact hc
  · obtain ⟨hplus, hminus⟩ := not_or.mp ha
    rw [splitSign_cons hplus hminus]
    exact List.mem_cons_of_mem a hc

/-- The characters of a text are its sign and those after it. -/
lemma sign_or_mem_splitSign {c : Char} (hc : c ∈ text) :
    c = '+' ∨ c = '-' ∨ c ∈ (splitSign text).2 := by
  unfold splitSign
  split
  · rcases List.mem_cons.mp hc with hc | hc
    · exact .inr (.inl hc)
    · exact .inr (.inr hc)
  · rcases List.mem_cons.mp hc with hc | hc
    · exact .inl hc
    · exact .inr (.inr hc)
  · exact .inr (.inr hc)

/-- A text that is cut before a mark has its sign in the first part. -/
lemma splitSign_takeWhile {p : Char → Bool} (hplus : p '+') (hminus : p '-') (text : List Char) :
    (splitSign text).2 = (splitSign (text.takeWhile p)).2 ++ text.dropWhile p := by
  cases text with
  | nil => rfl
  | cons c rest =>
      by_cases hc : c = '+' ∨ c = '-'
      · rcases hc with rfl | rfl
        · simp [splitSign, hplus]
        · simp [splitSign, hminus]
      obtain ⟨hcplus, hcminus⟩ := not_or.mp hc
      rw [splitSign_cons hcplus hcminus]
      by_cases hp : p c
      · rw [List.takeWhile_cons_of_pos hp, List.dropWhile_cons_of_pos hp,
          splitSign_cons hcplus hcminus]
        simp
      · rw [List.takeWhile_cons_of_neg hp, List.dropWhile_cons_of_neg hp]
        rfl

namespace Decimal

/-- What is read without an exponent has digits, points and underscores only. -/
lemma plain_of_readDigits? {p : Progress} {d : Decimal}
    (h : readDigits? negative p text = some d) :
    ∀ c ∈ text, c.isDigit ∨ c = '.' ∨ c = '_' := by
  induction text generalizing p with
  | nil => simp
  | cons a text ih =>
      have hall : (text.all fun c => c.isDigit || c == '_') = true →
          ∀ c ∈ text, c.isDigit ∨ c = '.' ∨ c = '_' := by
        intro hall c hc
        have := List.all_eq_true.mp hall c hc
        grind
      rw [readDigits?] at h
      have ha : a.isDigit ∨ a = '.' ∨ a = '_' := by grind
      refine List.forall_mem_cons.mpr ⟨ha, ?_⟩
      grind

/-- What is read without an exponent has digits, points and underscores only, after its sign. -/
lemma plain_of_readPlain? {d : Decimal} (h : readPlain? text = some d) :
    ∀ c ∈ (splitSign text).2, c.isDigit ∨ c = '.' ∨ c = '_' := by
  obtain ⟨e, he, -⟩ := Option.map_eq_some_iff.mp h
  exact plain_of_readDigits? he

/-- An exponent has digits only, after its sign. -/
lemma sign_or_digit_of_readPower? {n : ℕ} (h : readPower? text = some n) :
    ∀ c ∈ text, c = '+' ∨ c = '-' ∨ c.isDigit := by
  have hdigits : ∀ {digits : List Char}, (if digits.isEmpty || !digits.all Char.isDigit then none
      else some (digitValue digits)) = some n → ∀ c ∈ digits, c.isDigit := by
    intro digits h c hc
    split at h
    · cases h
    · next hall =>
      simp only [Bool.or_eq_true, not_or, Bool.not_eq_true', Bool.not_eq_false] at hall
      exact List.all_eq_true.mp hall.2 c hc
  unfold readPower? at h
  split at h
  · intro c hc
    rcases List.mem_cons.mp hc with rfl | hc
    · exact .inl rfl
    · exact .inr (.inr (hdigits h c hc))
  · exact fun c hc => .inr (.inr (hdigits h c hc))

/-- A text that is read as a decimal is a numeral after its sign. -/
lemma numeral_of_ofText? {s : String} {d : Decimal} (h : ofText? s = some d) :
    Numeral (splitSign s.toList).2 := by
  rw [ofText?, Option.orElse_eq_or, Option.or_eq_some_iff] at h
  rcases h with h | ⟨-, h⟩
  · exact numeral_of_plain (plain_of_readPlain? h)
  rw [readScientific?] at h
  simp only [Option.bind_eq_bind, Option.bind_eq_some_iff] at h
  obtain ⟨base, hbase, h⟩ := h
  have hplain := plain_of_readPlain? hbase
  rw [splitSign_takeWhile (p := fun c => !(c == 'e' || c == 'E')) (by decide) (by decide)]
  have hmark := List.head?_dropWhile_not (fun c => !(c == 'e' || c == 'E')) s.toList
  split at h
  · next mark rest hdrop =>
    simp only [Option.bind_eq_some_iff] at h
    obtain ⟨power, hpower, -⟩ := h
    rw [hdrop] at hmark ⊢
    refine numeral_append hplain (by grind) fun c hc => ?_
    rcases List.mem_cons.mp hc with rfl | hc
    · exact .inr (.inl rfl)
    · exact sign_or_digit_of_readPower? hpower c hc
  · next mark rest _ hdrop =>
    simp only [Option.bind_eq_some_iff] at h
    obtain ⟨power, hpower, -⟩ := h
    rw [hdrop] at hmark ⊢
    exact numeral_append hplain (by grind) (sign_or_digit_of_readPower? hpower)
  · cases h

end Decimal

namespace Binary64

/-- A character that is a small letter when it is made small is a letter. -/
lemma isAlpha_of_toLower {c : Char} (h : c.toLower.isLower) : c.isAlpha := by
  unfold Char.toLower at h
  split at h
  · next hupper =>
    have hc : c.isUpper := decide_eq_true hupper
    exact Bool.or_eq_true_iff.mpr (.inl hc)
  · exact Bool.or_eq_true_iff.mpr (.inr h)

/-- A letter is no digit. -/
lemma not_isDigit_of_isAlpha {c : Char} (h : c.isAlpha) : ¬ c.isDigit := by
  intro hdigit
  have hnine := of_decide_eq_true (Bool.and_eq_true_iff.mp hdigit).2
  rcases Bool.or_eq_true_iff.mp h with h | h
  · have hletter : 'A'.val ≤ c.val := (of_decide_eq_true h).1
    exact absurd (UInt32.le_trans hletter hnine) (by decide)
  · have hletter : 'a'.val ≤ c.val := of_decide_eq_true (Bool.and_eq_true_iff.mp h).1
    exact absurd (UInt32.le_trans hletter hnine) (by decide)

/-- The words have letters only. -/
lemma isAlpha_of_readWord? {x : Binary64} (h : readWord? negative text = some x) :
    ∀ c ∈ text, c.isAlpha := by
  have hword : text.map Char.toLower ∈ ["inf".toList, "infinity".toList, "nan".toList] := by
    rw [readWord?] at h
    grind
  have hlower :
      (["inf".toList, "infinity".toList, "nan".toList].all (·.all Char.isLower)) = true := by
    decide
  have hall := List.all_eq_true.mp hlower _ hword
  exact fun c hc => isAlpha_of_toLower (List.all_eq_true.mp hall _ (List.mem_map_of_mem hc))

/-- An exponent is a mark, a sign perhaps, and digits. -/
lemma readExponent?_eq_some {n : ℤ} (h : readExponent? text = some n) :
    text = [] ∨ ∃ mark rest, text = mark :: rest ∧ (mark = 'e' ∨ mark = 'E')
      ∧ ∀ c ∈ rest, c = '+' ∨ c = '-' ∨ c.isDigit := by
  cases text with
  | nil => exact .inl rfl
  | cons mark rest =>
      refine .inr ⟨mark, rest, rfl, ?_⟩
      rw [readExponent?] at h
      split at h
      · next hmark =>
        refine ⟨by simpa using hmark, fun c hc => ?_⟩
        have hdigits : ∀ c ∈ (splitSign rest).2, c.isDigit := by
          grind [List.all_eq_true]
        rcases sign_or_mem_splitSign hc with h | h | h
        · exact .inl h
        · exact .inr (.inl h)
        · exact .inr (.inr (hdigits c h))
      · cases h

/-- Digits at the front of a text are digits. -/
lemma plain_splitDigits (text : List Char) :
    text = (splitDigits text).1 ++ (splitDigits text).2 ∧ ∀ c ∈ (splitDigits text).1, c.isDigit :=
  ⟨List.takeWhile_append_dropWhile.symm, fun c hc => List.all_eq_true.mp List.all_takeWhile c hc⟩

/-- A text of digits is taken as a whole. -/
lemma splitDigits_of_isDigit (hdigits : ∀ c ∈ digits, c.isDigit) :
    splitDigits digits = (digits, []) := by
  rw [splitDigits, List.takeWhile_eq_self_iff.mpr hdigits, List.dropWhile_eq_nil_iff.mpr hdigits]

/-- A point and digits after it are taken from the front of a text. -/
lemma plain_splitFraction (text : List Char) :
    ∃ plain, text = plain ++ (splitFraction text).2
      ∧ ∀ c ∈ plain, c.isDigit ∨ c = '.' ∨ c = '_' := by
  unfold splitFraction
  split
  · next rest =>
    obtain ⟨hrest, hdigits⟩ := plain_splitDigits rest
    refine ⟨'.' :: (splitDigits rest).1, congrArg ('.' :: ·) hrest, fun c hc => ?_⟩
    rcases List.mem_cons.mp hc with rfl | hc
    · exact .inr (.inl rfl)
    · exact .inl (hdigits c hc)
  · exact ⟨[], rfl, by simp⟩

/-- A number without its sign is plain characters, and then an exponent. -/
lemma plain_of_readUnsigned? {x : Binary64} (h : readUnsigned? negative text = some x) :
    ∃ plain rest, text = plain ++ rest ∧ (∀ c ∈ plain, c.isDigit ∨ c = '.' ∨ c = '_')
      ∧ ∃ n, readExponent? rest = some n := by
  obtain ⟨htext, hdigits⟩ := plain_splitDigits text
  obtain ⟨plain, hrest, hplain⟩ := plain_splitFraction (splitDigits text).2
  refine ⟨(splitDigits text).1 ++ plain, (splitFraction (splitDigits text).2).2, ?_, ?_, ?_⟩
  · rw [List.append_assoc, ← hrest, ← htext]
  · intro c hc
    rcases List.mem_append.mp hc with hc | hc
    · exact .inl (hdigits c hc)
    · exact hplain c hc
  · simp only [readUnsigned?] at h
    split at h
    · cases h
    · obtain ⟨n, hn, -⟩ := Option.bind_eq_some_iff.mp h
      exact ⟨n, hn⟩

/-- A text that is read as a binary number is a numeral after its sign. -/
lemma numeral_of_ofText? {s : String} {x : Binary64} (h : ofText? s = some x) :
    Numeral (splitSign s.toList).2 := by
  simp only [ofText?, Option.orElse_eq_or, Option.or_eq_some_iff] at h
  rcases h with h | ⟨-, h⟩
  · exact fun c hc => .inl (by simp [Char.isAlphanum, isAlpha_of_readWord? h c hc])
  obtain ⟨plain, rest, htext, hplain, n, hn⟩ := plain_of_readUnsigned? h
  rw [htext]
  rcases readExponent?_eq_some hn with rfl | ⟨mark, rest, rfl, hmark, hrest⟩
  · rw [List.append_nil]
    exact numeral_of_plain hplain
  · exact numeral_append hplain hmark hrest

/-- A number without a power of ten is rounded once. -/
lemma ofScientific_natAbs (n : ℤ) : ofScientific (n < 0) n.natAbs 0 = ofInt n := by
  by_cases hzero : n = 0
  · subst hzero
    decide +kernel
  · simp [ofScientific, ofInt, hzero]

/-- The text of an integer is read as the number nearest to it. -/
lemma ofText?_toString (n : ℤ) : ofText? (toString n) = some (ofInt n) := by
  have hdigits : ∀ c ∈ Nat.toDigits 10 n.natAbs, c.isDigit :=
    fun c hc => Nat.isDigit_of_mem_toDigits (by decide) le_rfl hc
  have hsplit := splitSign_signed (n < 0) Nat.toDigits_ne_nil hdigits
  obtain ⟨c, hc⟩ := List.exists_mem_of_ne_nil _ (Nat.toDigits_ne_nil (b := 10) (n := n.natAbs))
  have hword : readWord? (n < 0) (Nat.toDigits 10 n.natAbs) = none := by
    refine Option.eq_none_iff_forall_ne_some.mpr fun x hx => ?_
    exact not_isDigit_of_isAlpha (isAlpha_of_readWord? hx c hc) (hdigits c hc)
  have hplain : readUnsigned? (n < 0) (Nat.toDigits 10 n.natAbs) = some (ofInt n) := by
    have hvalue : digitValue (Nat.toDigits 10 n.natAbs) = n.natAbs := Nat.ofDigitChars_ten_toDigits
    have hexponent : readExponent? [] = some 0 := rfl
    simp [readUnsigned?, splitDigits_of_isDigit hdigits, splitFraction, hexponent, hvalue,
      Nat.toDigits_ne_nil, ofScientific_natAbs]
  rw [ofText?, toList_toString, hsplit]
  simp only [hword, hplain]
  rfl

end Binary64

end RowQuery.Number
