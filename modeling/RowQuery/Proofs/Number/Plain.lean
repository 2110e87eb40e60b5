/-
Binary numbers that have a decimal form.

A plain numeral is digits with at most one point among them. It is read as a decimal if its whole
part fits with one to spare, so that rounding cannot overflow, and it is not if its whole part does
not fit. The text of a finite binary number is such a numeral, and has a decimal form exactly if
the number is below `2 ^ 96`; so only numbers beyond every decimal are left to a conversion.

* `Plain`: a plain numeral and the number before its point;
* `Plain.isSome_ofText?`, `Plain.ofText?_eq_none`: which plain numerals are read as decimals;
* `Writes`, `writes_positionalDigits`: digits in their places write the number that they stand for;
* `Magnitude.nearestUnits_le`: how large a whole number can become when it is rounded;
* `plain_magnitudeDigits`: the digits of a magnitude, and which of them fit;
* `isSome_ofText?_text_iff`: which finite numbers have a decimal form;
* `Conversion.HasRange`: a conversion of the numbers up to a bound;
* `Decimal.ofBinary?_eq_none`: where no decimal is read, the program's conversion finds none.
-/
import RowQuery.Proofs.Number.Numeral
import RowQuery.Proofs.Number.Shortest

namespace RowQuery.Number

/-! ### Plain numerals -/

/-- A text of digits, perhaps with a point and digits after it, and the number before the point. -/
inductive Plain : List Char → ℕ → Prop
  | whole {whole : List Char} (hne : whole ≠ []) (hwhole : ∀ c ∈ whole, c.isDigit) :
      Plain whole (Nat.ofDigitChars 10 whole 0)
  | pointed {whole fraction : List Char} (hne : whole ≠ []) (hwhole : ∀ c ∈ whole, c.isDigit)
      (hfraction : ∀ c ∈ fraction, c.isDigit) :
      Plain (whole ++ '.' :: fraction) (Nat.ofDigitChars 10 whole 0)

variable {digits rest text : List Char} {negative : Bool} {n : ℕ}

/-- A plain numeral has digits and a point only. -/
lemma Plain.isDigit_or_point (h : Plain text n) : ∀ c ∈ text, c.isDigit ∨ c = '.' := by
  cases h with
  | whole _ hwhole => exact fun c hc => .inl (hwhole c hc)
  | pointed _ hwhole hfraction =>
      intro c hc
      rcases List.mem_append.mp hc with hc | hc
      · exact .inl (hwhole c hc)
      · rcases List.mem_cons.mp hc with rfl | hc
        · exact .inr rfl
        · exact .inl (hfraction c hc)

/-- A plain numeral begins with digits. -/
lemma Plain.splitSign_signed (h : Plain text n) :
    splitSign (signed negative text) = (negative, text) := by
  cases h with
  | whole hne hwhole => exact Number.splitSign_signed negative hne hwhole
  | pointed hne hwhole _ => exact splitSign_signed_append negative _ hne hwhole

/-! ### Reading plain numerals -/

namespace Decimal

/-- Digits whose number does not fit are not read. -/
lemma readDigits?_whole_eq_none (negative : Bool) (rest : List Char) (coefficient : ℕ)
    (started : Bool) (hdigits : ∀ c ∈ digits, c.isDigit)
    (hcoefficient : coefficient < coefficientLimit)
    (hlimit : coefficientLimit ≤ Nat.ofDigitChars 10 digits coefficient) :
    readDigits? negative ⟨coefficient, 0, false, started⟩ (digits ++ rest) = none := by
  induction digits generalizing coefficient started with
  | nil =>
      rw [Nat.ofDigitChars_nil] at hlimit
      omega
  | cons c digits ih =>
      have hc : c.isDigit := hdigits c List.mem_cons_self
      have hnext : coefficient * 10 + digit c = 10 * coefficient + (c.toNat - '0'.toNat) := by
        rw [digit, Nat.mul_comm]
      rw [Nat.ofDigitChars_cons, ← hnext] at hlimit
      rw [List.cons_append, readDigits?, if_pos hc]
      by_cases hfits : coefficient * 10 + digit c < coefficientLimit
      · simp only [Bool.not_false, if_true, hfits]
        exact ih _ _ (fun d hd => hdigits d (List.mem_cons_of_mem c hd)) hfits hlimit
      · simp [hfits]

/-- The parts of a decimal that fit make one. -/
lemma isSome_make? {coefficient places : ℕ} (hcoefficient : coefficient < coefficientLimit)
    (hplaces : places ≤ maxPlaces) : (make? negative coefficient places).isSome := by
  simp [make?, hcoefficient, hplaces]

/-- There is room to round a coefficient that fits with one to spare, or has places. -/
lemma isSome_roundOff? {p : Progress} {next : ℕ} (hcoefficient : p.coefficient < coefficientLimit)
    (hplaces : p.places ≤ maxPlaces)
    (hspare : p.places = 0 → p.coefficient + 1 < coefficientLimit) :
    (roundOff? negative p next).isSome := by
  rw [roundOff?]
  generalize hrounded : (if next < 5 then p.coefficient else p.coefficient + 1) = rounded
  have hle : rounded ≤ p.coefficient + 1 := by
    split at hrounded <;> omega
  split
  · next hlt => exact isSome_make? hlt hplaces
  · split
    · next hzero =>
      have := hspare hzero
      omega
    · exact isSome_make? (by omega) (by omega)

/-- Digits after the point are read, as many as fit. -/
lemma isSome_readDigits?_fraction (hdigits : ∀ c ∈ digits, c.isDigit) {coefficient places : ℕ}
    (hcoefficient : coefficient < coefficientLimit) (hplaces : places ≤ maxPlaces)
    (hspare : places = 0 → coefficient + 1 < coefficientLimit) :
    (readDigits? negative ⟨coefficient, places, true, true⟩ digits).isSome := by
  induction digits generalizing coefficient places with
  | nil => exact isSome_make? hcoefficient hplaces
  | cons c digits ih =>
      have hc : c.isDigit := hdigits c List.mem_cons_self
      have hrest : ∀ d ∈ digits, d.isDigit := fun d hd => hdigits d (List.mem_cons_of_mem c hd)
      rw [readDigits?, if_pos hc]
      simp only [Bool.not_true, Bool.false_eq_true, if_false]
      split
      · next hfits =>
        simp only [Bool.and_eq_true, decide_eq_true_eq] at hfits
        exact ih hrest hfits.2 hfits.1 (by omega)
      · have hall : (digits.all fun c => c.isDigit || c == '_') = true :=
          List.all_eq_true.mpr fun d hd => by simp [hrest d hd]
        rw [if_pos hall]
        exact isSome_roundOff? hcoefficient hplaces hspare

end Decimal

namespace Plain

open Decimal

/-- A plain numeral whose whole part fits with one to spare is read. -/
lemma isSome_readDigits? (h : Plain text n) (hn : n + 1 < coefficientLimit) :
    (readDigits? negative ⟨0, 0, false, false⟩ text).isSome := by
  cases h with
  | @whole whole hne hwhole =>
      rw [readDigits?_digits negative hne hwhole (by omega)]
      exact isSome_make? (by omega) (Nat.zero_le maxPlaces)
  | @pointed whole fraction hne hwhole hfraction =>
      have hstarted : (false || !whole.isEmpty) = true := by simp [hne]
      have hfits : Nat.ofDigitChars 10 whole 0 < coefficientLimit := by omega
      rw [readDigits?_whole _ _ _ _ hwhole hfits, hstarted, readDigits?]
      exact isSome_readDigits?_fraction hfraction hfits (Nat.zero_le maxPlaces) fun _ => hn

/-- A plain numeral whose whole part does not fit is not read. -/
lemma readDigits?_eq_none (h : Plain text n) (hn : coefficientLimit ≤ n) :
    readDigits? negative ⟨0, 0, false, false⟩ text = none := by
  have hzero : 0 < coefficientLimit := by decide
  cases h with
  | whole _ hwhole =>
      have hread := readDigits?_whole_eq_none negative [] 0 false hwhole hzero hn
      rwa [List.append_nil] at hread
  | pointed _ hwhole _ => exact readDigits?_whole_eq_none _ _ _ _ hwhole hzero hn

/-- A plain numeral with a sign has a decimal form if its whole part fits with one to spare. -/
lemma isSome_ofText? {s : String} (h : Plain text n) (hs : s.toList = signed negative text)
    (hn : n + 1 < coefficientLimit) : (ofText? s).isSome := by
  have hplain : (readPlain? s.toList).isSome := by
    rw [hs, readPlain?, h.splitSign_signed, Option.isSome_map]
    exact h.isSome_readDigits? hn
  rw [ofText?, Option.orElse_eq_or, Option.isSome_or, hplain, Bool.true_or]

/-- A plain numeral with a sign has no decimal form if its whole part does not fit. -/
lemma ofText?_eq_none {s : String} (h : Plain text n) (hs : s.toList = signed negative text)
    (hn : coefficientLimit ≤ n) : ofText? s = none := by
  have hplain : readPlain? s.toList = none := by
    rw [hs, readPlain?, h.splitSign_signed]
    simp only [h.readDigits?_eq_none hn, Option.map_none]
  -- there is no mark, so what stands before one is the whole text
  have hmark : ∀ c ∈ s.toList, (!(c == 'e' || c == 'E')) = true := by
    intro c hc
    rw [hs] at hc
    rcases List.mem_append.mp hc with hc | hc
    · split at hc
      · obtain rfl := List.mem_singleton.mp hc
        decide
      · cases hc
    · rcases h.isDigit_or_point c hc with hdigit | rfl
      · have hmarks : c ≠ 'e' ∧ c ≠ 'E' := by
          constructor <;> rintro rfl <;> simp at hdigit
        simp [hmarks]
      · decide
  have hbase := List.takeWhile_eq_self_iff.mpr hmark
  have hscientific : readScientific? s.toList = none := by
    simp only [readScientific?, hbase, hplain]
    rfl
  rw [ofText?, Option.orElse_eq_or, hplain, Option.none_or, hscientific]

end Plain

/-! ### Digits in their places -/

/-- A digit counts by the number of digits after it. -/
lemma ofDigitChars_cons_eq (c : Char) (digits : List Char) :
    Nat.ofDigitChars 10 (c :: digits) 0
      = 10 ^ digits.length * (c.toNat - '0'.toNat) + Nat.ofDigitChars 10 digits 0 := by
  rw [Nat.ofDigitChars_cons, Nat.ofDigitChars_eq_ofDigitChars_zero, Nat.mul_zero, Nat.zero_add]

/-- Digits write a number with as many digits at most. -/
lemma ofDigitChars_lt (hdigits : ∀ c ∈ digits, c.isDigit) :
    Nat.ofDigitChars 10 digits 0 < 10 ^ digits.length := by
  induction digits with
  | nil => decide
  | cons c digits ih =>
      have hc : c.toNat - '0'.toNat ≤ 9 := by
        have hdigit := hdigits c List.mem_cons_self
        simp only [Char.isDigit, Bool.and_eq_true, decide_eq_true_eq] at hdigit
        have hle : c.toNat ≤ '9'.toNat := hdigit.2
        simp only [Char.reduceToNat] at hle ⊢
        omega
      have hrest := ih fun d hd => hdigits d (List.mem_cons_of_mem c hd)
      have hfirst : 10 ^ digits.length * (c.toNat - '0'.toNat) ≤ 10 ^ digits.length * 9 :=
        Nat.mul_le_mul_left _ hc
      rw [ofDigitChars_cons_eq, List.length_cons, Nat.pow_succ]
      omega

/-- The digits before the last ones write the whole part of a quotient. -/
lemma ofDigitChars_append_bounds (whole : List Char) {fraction : List Char}
    (hfraction : ∀ c ∈ fraction, c.isDigit) :
    let s := Scientific.mk (Nat.ofDigitChars 10 (whole ++ fraction) 0) (-fraction.length)
    Nat.ofDigitChars 10 whole 0 ≤ s.value ∧ s.value < Nat.ofDigitChars 10 whole 0 + 1 := by
  intro s
  have hpow : (0 : ℚ) < 10 ^ fraction.length := by positivity
  have hvalue : s.value
      = Nat.ofDigitChars 10 whole 0 + Nat.ofDigitChars 10 fraction 0 / 10 ^ fraction.length := by
    have hcoefficient : s.coefficient
        = 10 ^ fraction.length * Nat.ofDigitChars 10 whole 0 + Nat.ofDigitChars 10 fraction 0 := by
      rw [← Nat.ofDigitChars_eq_ofDigitChars_zero, ← Nat.ofDigitChars_append]
    rw [Scientific.value, zpow_neg, zpow_natCast, hcoefficient]
    push_cast
    field_simp
  have hlt : (Nat.ofDigitChars 10 fraction 0 : ℚ) / 10 ^ fraction.length < 1 := by
    rw [div_lt_one hpow]
    exact_mod_cast ofDigitChars_lt hfraction
  have hnonneg : (0 : ℚ) ≤ Nat.ofDigitChars 10 fraction 0 / 10 ^ fraction.length := by positivity
  rw [hvalue]
  constructor <;> linarith

/-- A text is a plain numeral whose whole part is a number without its fraction. -/
def Writes (text : List Char) (s : Scientific) : Prop :=
  ∃ n, Plain text n ∧ n ≤ s.value ∧ s.value < n + 1

variable {exponent : ℤ}

/-- Zeros are digits, and so are digits among zeros. -/
lemma isDigit_of_mem_replicate_append (k : ℕ) (hdigits : ∀ c ∈ digits, c.isDigit) :
    ∀ c ∈ List.replicate k '0' ++ digits, c.isDigit := by
  intro c hc
  rcases List.mem_append.mp hc with hc | hc
  · obtain rfl := List.eq_of_mem_replicate hc
    decide
  · exact hdigits c hc

/-- Digits after a point, with zeros before them. -/
lemma writes_zeros_digits (hdigits : ∀ c ∈ digits, c.isDigit) {k : ℕ}
    (hk : -(digits.length + exponent) = k) :
    Writes ('0' :: '.' :: List.replicate k '0' ++ digits)
      ⟨Nat.ofDigitChars 10 digits 0, exponent⟩ := by
  have hfraction := isDigit_of_mem_replicate_append k hdigits
  have hbounds := ofDigitChars_append_bounds ['0'] hfraction
  have hexponent : exponent = -(List.replicate k '0' ++ digits).length := by
    rw [List.length_append, List.length_replicate]
    omega
  have hcoefficient : Nat.ofDigitChars 10 (['0'] ++ (List.replicate k '0' ++ digits)) 0
      = Nat.ofDigitChars 10 digits 0 := by
    simp [Nat.ofDigitChars_cons, Nat.ofDigitChars_append, Nat.ofDigitChars_replicate_zero]
  rw [hcoefficient, ← hexponent] at hbounds
  exact ⟨_, .pointed (List.cons_ne_nil '0' []) (by simp) hfraction, hbounds⟩

/-- Digits with a point among them. -/
lemma writes_take_drop (hdigits : ∀ c ∈ digits, c.isDigit) {k : ℕ}
    (hk : digits.length + exponent = k) (hpos : 0 < k) (hlt : k < digits.length) :
    Writes (digits.take k ++ '.' :: digits.drop k)
      ⟨Nat.ofDigitChars 10 digits 0, exponent⟩ := by
  have hwhole : digits.take k ≠ [] := by
    refine List.ne_nil_of_length_pos ?_
    rw [List.length_take]
    omega
  have hfraction : ∀ c ∈ digits.drop k, c.isDigit :=
    fun c hc => hdigits c (List.mem_of_mem_drop hc)
  have hbounds := ofDigitChars_append_bounds (digits.take k) hfraction
  have hexponent : exponent = -(digits.drop k).length := by
    rw [List.length_drop]
    omega
  rw [List.take_append_drop, ← hexponent] at hbounds
  exact ⟨_, .pointed hwhole (fun c hc => hdigits c (List.mem_of_mem_take hc)) hfraction, hbounds⟩

/-- Digits with zeros after them. -/
lemma writes_digits_zeros (hne : digits ≠ []) (hdigits : ∀ c ∈ digits, c.isDigit) (k : ℕ) :
    Writes (digits ++ List.replicate k '0') ⟨Nat.ofDigitChars 10 digits 0, k⟩ := by
  have hvalue : (Scientific.mk (Nat.ofDigitChars 10 digits 0) k).value
      = (Nat.ofDigitChars 10 (digits ++ List.replicate k '0') 0 : ℚ) := by
    rw [Scientific.value, zpow_natCast, Nat.ofDigitChars_append, Nat.ofDigitChars_replicate_zero]
    push_cast
    ring
  have hall : ∀ c ∈ digits ++ List.replicate k '0', c.isDigit := fun c hc =>
    isDigit_of_mem_replicate_append k hdigits c (List.perm_append_comm.mem_iff.mp hc)
  refine ⟨_, .whole (by simp [hne]) hall, ?_⟩
  rw [hvalue]
  exact ⟨le_rfl, lt_add_one _⟩

/-- Digits in their places are a plain numeral, whose whole part is the number without its
fraction. -/
lemma writes_positionalDigits (hne : digits ≠ []) (hdigits : ∀ c ∈ digits, c.isDigit)
    (exponent : ℤ) :
    Writes (Layout.plain.positionalDigits digits (digits.length + exponent))
      ⟨Nat.ofDigitChars 10 digits 0, exponent⟩ := by
  have hlength : 0 < digits.length := List.length_pos_of_ne_nil hne
  unfold Layout.positionalDigits
  split
  · -- all digits stand after the point
    next hplace =>
    obtain ⟨k, hk⟩ : ∃ k : ℕ, -(digits.length + exponent) = k :=
      Int.eq_ofNat_of_zero_le (by omega)
    rw [hk]
    exact writes_zeros_digits hdigits hk
  · next hplace =>
    split
    · -- the point stands among the digits
      next hplace' =>
      obtain ⟨k, hk⟩ := Int.eq_ofNat_of_zero_le (not_le.mp hplace).le
      rw [hk]
      exact writes_take_drop hdigits hk (by omega) (by omega)
    · -- there is no point
      next hplace' =>
      obtain ⟨k, rfl⟩ : ∃ k : ℕ, exponent = k := Int.eq_ofNat_of_zero_le (by omega)
      have hcount : ((digits.length : ℤ) + k).toNat - digits.length = k := by omega
      rw [hcount]
      simpa [Layout.plain] using writes_digits_zeros hne hdigits k

/-! ### Binary numbers -/

namespace Magnitude

/-- Rounding a whole number less than doubles it, a least unit aside. -/
lemma nearestUnits_le (n : ℕ) : nearestUnits n 1 ≤ 2 * (n * unitsOfOne) + 1 := by
  rw [nearestUnits]
  generalize n * unitsOfOne = scaled
  rw [Nat.div_one, Nat.one_mul, Nat.pow_eq]
  have hpow : 2 ^ shiftOf scaled ≤ scaled + 1 := by
    by_cases hzero : scaled = 0
    · rw [hzero]
      decide
    · calc 2 ^ shiftOf scaled ≤ 2 ^ scaled.log2 :=
            Nat.pow_le_pow_right (by decide) (Nat.sub_le _ _)
        _ ≤ scaled + 1 := (Nat.log2_self_le hzero).trans (Nat.le_succ scaled)
  have hround := roundToEven_le scaled (2 ^ shiftOf scaled)
  have hfloor := Nat.div_mul_le_self scaled (2 ^ shiftOf scaled)
  calc roundToEven scaled (2 ^ shiftOf scaled) * 2 ^ shiftOf scaled
      ≤ (scaled / 2 ^ shiftOf scaled + 1) * 2 ^ shiftOf scaled := Nat.mul_le_mul_right _ hround
    _ = scaled / 2 ^ shiftOf scaled * 2 ^ shiftOf scaled + 2 ^ shiftOf scaled := by
        rw [Nat.add_mul, Nat.one_mul]
    _ ≤ 2 * scaled + 1 := by omega

/-- The magnitude nearest to a ratio has the least units that the ratio is rounded to. -/
lemma units_of_nearest? {num den : ℕ} {m : Magnitude} (hm : nearest? num den = some m) :
    m.units = nearestUnits num den := by
  unfold nearest? at hm
  split at hm
  · rw [← Option.some_injective _ hm]
  · cases hm

/-- The magnitude `2 ^ 96`. -/
def limit : Magnitude :=
  ⟨2 ^ 96 * unitsOfOne, by decide +kernel, 1, 1170, by decide, by decide +kernel⟩

/-- The shortest digits of `2 ^ 96` write a number above it. -/
lemma shortest_limit : limit.shortest .up = ⟨7922816251426434, 13⟩ := by
  decide +kernel

/-- From `2 ^ 96` on, the shortest digits write a number that is not below it. -/
lemma le_shortest_up {m : Magnitude} (hm : 2 ^ 96 * unitsOfOne ≤ m.units) :
    2 ^ 96 ≤ (m.shortest .up).value := by
  rcases hm.lt_or_eq with hlt | heq
  · exact le_shortest hlt .up
  · obtain rfl : limit = m := by
      cases m
      simp only [limit, heq]
    rw [shortest_limit, Scientific.value]
    norm_num

end Magnitude

/-- The digits of a magnitude are a plain numeral, whose whole part fits with one to spare below
`2 ^ 96` and does not fit from there on. -/
lemma plain_magnitudeDigits (m : Magnitude) :
    ∃ n, Plain (Layout.plain.magnitudeDigits m) n
      ∧ (m.units < 2 ^ 96 * unitsOfOne → n + 1 < coefficientLimit)
      ∧ (2 ^ 96 * unitsOfOne ≤ m.units → coefficientLimit ≤ n) := by
  have hlimit : (coefficientLimit : ℚ) = 2 ^ 96 := by
    rw [coefficientLimit, Nat.pow_eq]
    push_cast
    rfl
  by_cases hzero : m.units = 0
  · have hdigits : Layout.plain.magnitudeDigits m = ['0'] := by
      rw [Layout.magnitudeDigits, if_pos hzero]
      rfl
    rw [hdigits]
    refine ⟨_, .whole (List.cons_ne_nil '0' []) (by simp), fun _ => by decide, fun hle => ?_⟩
    exact absurd (hle.trans_eq hzero) (by decide +kernel)
  · have hdigits : ∀ c ∈ Nat.toDigits 10 (m.shortest .up).coefficient, c.isDigit :=
      fun c hc => Nat.isDigit_of_mem_toDigits (by decide) le_rfl hc
    obtain ⟨n, hplain, hle, hlt⟩ :=
      writes_positionalDigits Nat.toDigits_ne_nil hdigits (m.shortest .up).exponent
    rw [Nat.ofDigitChars_ten_toDigits] at hle hlt
    refine ⟨n, ?_, fun hm => ?_, fun hm => ?_⟩
    · rw [Layout.magnitudeDigits, if_neg hzero]
      exact hplain
    · have hvalue := Magnitude.shortest_lt hm .up
      have hn : (n : ℚ) + 1 < coefficientLimit := by
        rw [hlimit]
        exact lt_sub_iff_add_lt.mp (hle.trans_lt hvalue)
      exact_mod_cast hn
    · have hvalue := Magnitude.le_shortest_up hm
      have hn : (coefficientLimit : ℚ) < n + 1 := by
        rw [hlimit]
        exact hvalue.trans_lt hlt
      exact Nat.lt_succ_iff.mp (by exact_mod_cast hn)

/-- **Which binary numbers have a decimal form.** The text of a finite binary number has a decimal
form exactly if the number is between `-2 ^ 96` and `2 ^ 96`. -/
theorem isSome_ofText?_text_iff (negative : Bool) (m : Magnitude) :
    (Decimal.ofText? (Layout.plain.text (.finite negative m))).isSome
      ↔ m.units < 2 ^ 96 * unitsOfOne := by
  obtain ⟨n, hplain, hbelow, hfrom⟩ := plain_magnitudeDigits m
  have htext : (Layout.plain.text (.finite negative m)).toList
      = signed negative (Layout.plain.magnitudeDigits m) := String.toList_ofList
  constructor
  · intro hsome
    by_contra hlimit
    rw [hplain.ofText?_eq_none htext (hfrom (not_lt.mp hlimit))] at hsome
    cases hsome
  · exact fun hlimit => hplain.isSome_ofText? htext (hbelow hlimit)

/-! ### Conversions -/

/-- A conversion has a range: with a finite number it converts every one that is not farther from
zero. -/
def Conversion.HasRange [Conversion] : Prop :=
  ∀ ⦃negative negative' : Bool⦄ ⦃m m' : Magnitude⦄, m'.units ≤ m.units →
    (toDecimal? (.finite negative m)).isSome → (toDecimal? (.finite negative' m')).isSome

namespace Decimal

/-- The whole part of a finite number fits exactly if the number is between `-2 ^ 96` and
`2 ^ 96`. -/
lemma isSome_ofBinary?_iff (negative : Bool) (m : Magnitude) :
    (ofBinary? (.finite negative m)).isSome ↔ m.units < 2 ^ 96 * unitsOfOne := by
  have hfits : m.units / unitsOfOne < coefficientLimit ↔ m.units < 2 ^ 96 * unitsOfOne := by
    rw [Nat.div_lt_iff_lt_mul Magnitude.unitsOfOne_pos, coefficientLimit, Nat.pow_eq]
  constructor
  · intro hsome
    by_contra hlt
    rw [ofBinary?, make?, dif_neg fun h => hlt (hfits.mp h.1)] at hsome
    cases hsome
  · exact fun hlt => isSome_make? (hfits.mpr hlt) (Nat.zero_le maxPlaces)

/-- The program's conversion has a range. -/
lemma hasRange_ofBinary? : Conversion.HasRange := by
  intro negative negative' m m' hle hsome
  exact (isSome_ofBinary?_iff negative' m').mpr
    (hle.trans_lt ((isSome_ofBinary?_iff negative m).mp hsome))

/-- A number whose text writes no decimal has none by the program's conversion either. -/
lemma ofBinary?_eq_none {x : Binary64} (h : ofText? (Layout.plain.text x) = none) :
    ofBinary? x = none := by
  cases x with
  | finite negative m =>
      rw [← Option.not_isSome_iff_eq_none, isSome_ofText?_text_iff] at h
      rwa [← Option.not_isSome_iff_eq_none, isSome_ofBinary?_iff]
  | nan => rfl
  | infinite => rfl

end Decimal

end RowQuery.Number
