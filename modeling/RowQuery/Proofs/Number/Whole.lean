/-
The text of large whole numbers.

A whole number of more than 53 bits is rounded when it becomes a binary number, and the text of the
binary number is that of a whole number again: its shortest digits, and zeros in the other places.
That one need not be the first, but it rounds to the same binary number.

* `Magnitude.firstOnGrid_of_ne_none`: the first grid with a point is no finer than any other;
* `Magnitude.exists_shortest_whole`: the shortest digits of a whole magnitude have no fraction;
* `exists_text_whole`: the text of a whole magnitude is that of a number that rounds to it;
* `Magnitude.nearestUnits_bounds`: what a number of more than 52 bits is rounded to;
* `exists_text_ofInt`: the text of the binary number nearest to one with the highest of 64 bits.
-/
import RowQuery.Proofs.Number.Nearest
import RowQuery.Proofs.Number.Plain

namespace RowQuery.Number

/-! ### The grid of whole numbers -/

/-- The centre of an interval is found on every grid that it is on. -/
lemma Interval.gridPoint?_ne_none_of_dvd {interval : Interval} {weight : ℕ} (tie : Tie)
    (hdvd : weight ∣ interval.centre) (hlow : interval.low < interval.centre)
    (hhigh : interval.centre < interval.high) : interval.gridPoint? tie weight ≠ none := by
  have hholds : interval.holds (interval.centre / weight * weight) := by
    rw [Nat.div_mul_cancel hdvd]
    exact holds_of_lt hlow hhigh
  unfold gridPoint?
  simp only [hholds]
  cases interval.holds ((interval.centre / weight + 1) * weight) with
  | false => simp
  | true => grind

/-- The interval of the same numbers. -/
lemma Interval.scale_one (interval : Interval) : interval.scale 1 = interval := by
  simp only [scale, Nat.mul_one]

namespace Magnitude

variable {m : Magnitude} {tie : Tie}

/-- The first grid on which a decimal is found is no finer than any other with one. -/
lemma firstOnGrid_of_ne_none {interval : Interval} {tries k : ℕ} {exponent : ℤ} (hk : k < tries)
    (h : onGrid? interval tie (exponent - k) ≠ none) :
    let s := firstOnGrid interval tie tries exponent
    onGrid? interval tie s.exponent = some s.coefficient ∧ exponent - k ≤ s.exponent := by
  induction tries generalizing k exponent with
  | zero => omega
  | succ tries ih =>
      cases hfound : onGrid? interval tie exponent with
      | some coefficient =>
          simp only [firstOnGrid, hfound]
          exact ⟨trivial, by omega⟩
      | none =>
          obtain ⟨j, rfl⟩ : ∃ j, k = j + 1 := by
            refine Nat.exists_eq_add_one_of_ne_zero ?_
            rintro rfl
            exact h (by simpa using hfound)
          have hexponent : exponent - (j + 1 : ℕ) = exponent - 1 - j := by omega
          rw [hexponent] at h ⊢
          simp only [firstOnGrid, hfound]
          exact ih (by omega) h

/-- A whole magnitude is found on the grid of whole numbers. -/
lemma onGrid?_zero_ne_none (tie : Tie) (hwhole : unitsOfOne ∣ m.units) (hpos : 0 < m.units) :
    onGrid? m.interval tie 0 ≠ none := by
  obtain ⟨hcentre, hhigh, -, -⟩ := m.interval_bounds
  have hgap := Nat.two_pow_pos (shiftOf m.units)
  have hlow : m.interval.low < m.interval.centre := by
    refine Nat.sub_lt (by omega) ?_
    split
    · exact hgap
    · exact Nat.mul_pos two_pos hgap
  rw [onGrid?, if_pos le_rfl]
  refine Interval.gridPoint?_ne_none_of_dvd tie ?_ hlow (by omega)
  rw [hcentre, quartersOfOne]
  simpa using Nat.mul_dvd_mul_left 4 hwhole

/-- The shortest digits of a whole magnitude that is not too large have no fraction, and write a
number in its interval. -/
lemma exists_shortest_whole (tie : Tie) (hwhole : unitsOfOne ∣ m.units) (hpos : 0 < m.units)
    (hle : m.units ≤ 2 ^ 64 * unitsOfOne) :
    ∃ c e : ℕ, m.shortest tie = ⟨c, e⟩ ∧ m.interval.holds (c * 10 ^ e * quartersOfOne) := by
  obtain ⟨q, hq, hone, -⟩ := unitsOfOne_eq
  have hleast : q ≤ m.units.log2 := by
    rw [Nat.le_log2 hpos.ne']
    exact hone ▸ Nat.le_of_dvd hpos hwhole
  have hgreatest : m.units.log2 ≤ 64 + q := by
    by_contra hlt
    have hpow : 2 ^ (65 + q) ≤ m.units :=
      (Nat.pow_le_pow_right (by decide) (by omega)).trans (Nat.log2_self_le hpos.ne')
    rw [hone, ← Nat.pow_add] at hle
    have hlt : 2 ^ (64 + q) < 2 ^ (65 + q) := Nat.pow_lt_pow_right (by decide) (by omega)
    omega
  obtain ⟨k, hk⟩ : ∃ k : ℕ, topExponent m.units = k := by
    refine Int.eq_ofNat_of_zero_le ?_
    rw [topExponent]
    omega
  have hk24 : k < 24 := by
    rw [topExponent] at hk
    omega
  have hzero : topExponent m.units - k = 0 := by omega
  have hsome : onGrid? m.interval tie (topExponent m.units - k) ≠ none := by
    rw [hzero]
    exact m.onGrid?_zero_ne_none tie hwhole hpos
  obtain ⟨hgrid, hexponent⟩ := firstOnGrid_of_ne_none hk24 hsome
  rw [hzero] at hexponent
  obtain ⟨e, he⟩ := Int.eq_ofNat_of_zero_le hexponent
  rw [onGrid?, if_pos hexponent] at hgrid
  have hholds := Interval.holds_of_gridPoint? hgrid
  rw [he, Int.toNat_natCast, Nat.pow_eq, ← Nat.mul_assoc] at hholds
  exact ⟨(m.shortest tie).coefficient, e, congrArg (Scientific.mk _) he, hholds⟩

end Magnitude

/-! ### The text of a whole number -/

/-- The digits of a number and zeros are those of the number times a power of ten. -/
lemma toDigits_mul_ten_pow {c : ℕ} (hc : 0 < c) (e : ℕ) :
    Nat.toDigits 10 (c * 10 ^ e) = Nat.toDigits 10 c ++ List.replicate e '0' := by
  induction e with
  | zero => simp
  | succ e ih =>
      have hpos : 0 < c * 10 ^ e := by positivity
      have happend := Nat.toDigits_append_toDigits (b := 10) (d := 0) (by decide) hpos (by decide)
      rw [ih, Nat.toDigits_zero, List.append_assoc, ← List.replicate_succ'] at happend
      rw [happend]
      ring_nf

/-- A positive magnitude whose shortest digits have no fraction is written as a whole number. -/
lemma text_eq_toString {m : Magnitude} {c e : ℕ} (hpos : 0 < m.units) (hc : 0 < c)
    (h : m.shortest .up = ⟨c, e⟩) :
    Layout.plain.text (.finite false m) = toString ((c * 10 ^ e : ℕ) : ℤ) := by
  have hlength := List.length_pos_of_ne_nil (Nat.toDigits_ne_nil (b := 10) (n := c))
  have hdigits : Layout.plain.magnitudeDigits m = Nat.toDigits 10 (c * 10 ^ e) := by
    rw [Layout.magnitudeDigits, if_neg hpos.ne', toDigits_mul_ten_pow hc]
    show Layout.plain.positionalDigits (Nat.toDigits 10 (m.shortest .up).coefficient)
      ((Nat.toDigits 10 (m.shortest .up).coefficient).length + (m.shortest .up).exponent) = _
    simp only [h]
    rw [Layout.positionalDigits, if_neg (by omega), if_neg (by omega)]
    have hcount : (((Nat.toDigits 10 c).length : ℤ) + e).toNat - (Nat.toDigits 10 c).length
        = e := by omega
    simp [hcount, Layout.plain]
  refine String.toList_injective ?_
  rw [toList_toString, Int.natAbs_natCast, ← hdigits]
  simp [Layout.text, signed]

/-- **The text of a whole magnitude** that is not too large is that of a whole number, which rounds
to the magnitude. -/
theorem exists_text_whole {m : Magnitude} (hwhole : unitsOfOne ∣ m.units) (hpos : 0 < m.units)
    (hle : m.units ≤ 2 ^ 64 * unitsOfOne) :
    ∃ n : ℕ, Layout.plain.text (.finite false m) = toString (n : ℤ)
      ∧ Magnitude.nearest? n 1 = some m ∧ m.interval.low ≤ n * Magnitude.quartersOfOne := by
  obtain ⟨c, e, hshortest, hholds⟩ := m.exists_shortest_whole .up hwhole hpos hle
  have hnearest : Magnitude.nearest? (c * 10 ^ e) 1 = some m := by
    refine Magnitude.nearest?_of_holds Nat.one_pos ?_
    rwa [Interval.scale_one]
  have hc : 0 < c := by
    refine Nat.pos_of_ne_zero ?_
    rintro rfl
    have hzero : Magnitude.nearestUnits 0 1 = 0 := by decide +kernel
    have hunits := Magnitude.units_of_nearest? hnearest
    rw [Nat.zero_mul, hzero] at hunits
    exact hpos.ne' hunits
  have hlow := (Interval.mem_of_holds hholds).1
  exact ⟨c * 10 ^ e, text_eq_toString hpos hc hshortest, hnearest, hlow⟩

/-- The texts of two integers are the same only if the integers are. -/
lemma toString_injective : Function.Injective (toString : ℤ → String) := by
  have hsplit (n : ℤ) :
      splitSign (toString n).toList = (decide (n < 0), Nat.toDigits 10 n.natAbs) := by
    rw [toList_toString]
    exact splitSign_signed _ Nat.toDigits_ne_nil
      fun c hc => Nat.isDigit_of_mem_toDigits (by decide) le_rfl hc
  intro a b h
  have hboth := (hsplit a).symm.trans ((congrArg (splitSign ·.toList) h).trans (hsplit b))
  obtain ⟨hsign, hdigits⟩ := Prod.mk.inj hboth
  have hvalue := congrArg (Nat.ofDigitChars 10 · 0) hdigits
  simp only [Nat.ofDigitChars_ten_toDigits] at hvalue
  have hsign : a < 0 ↔ b < 0 := decide_eq_decide.mp hsign
  omega

/-! ### Numbers with the highest of 64 bits -/

namespace Magnitude

/-- A number of more than 52 bits is rounded to a whole number with as many bits, or to the power of
two above them. -/
lemma nearestUnits_bounds {n p : ℕ} (hlow : 2 ^ (52 + p) ≤ n) (hhigh : n < 2 ^ (53 + p)) :
    unitsOfOne ∣ nearestUnits n 1 ∧ 2 ^ (52 + p) * unitsOfOne ≤ nearestUnits n 1
      ∧ nearestUnits n 1 ≤ 2 ^ (53 + p) * unitsOfOne := by
  obtain ⟨q, -, hone, -⟩ := unitsOfOne_eq
  rw [Nat.pow_add] at hlow hhigh
  have hscale (k : ℕ) : 2 ^ k * (1 * 2 ^ (p + q)) = 2 ^ k * 2 ^ p * 2 ^ q := by
    rw [Nat.one_mul, Nat.pow_add, Nat.mul_assoc]
  have hshift : shiftOf (n * 2 ^ q / 1) = p + q := by
    refine shiftOf_div Nat.one_pos (.inr ?_) ?_
    · exact (hscale 52).trans_le (Nat.mul_le_mul_right _ hlow)
    · exact (Nat.mul_lt_mul_of_pos_right hhigh (Nat.two_pow_pos q)).trans_eq (hscale 53).symm
  have hrounded : nearestUnits n 1 = roundToEven (n * 2 ^ q) (2 ^ (p + q)) * 2 ^ (p + q) := by
    simp only [nearestUnits, hone, hshift, Nat.one_mul, Nat.pow_eq]
  have hdiv : n * 2 ^ q / 2 ^ (p + q) = n / 2 ^ p := by
    rw [Nat.pow_add, Nat.mul_div_mul_right _ _ (Nat.two_pow_pos q)]
  have hfloor := le_roundToEven (n * 2 ^ q) (2 ^ (p + q))
  have hround := roundToEven_le (n * 2 ^ q) (2 ^ (p + q))
  rw [hdiv] at hfloor hround
  have hleast : 2 ^ 52 ≤ n / 2 ^ p := (Nat.le_div_iff_mul_le (Nat.two_pow_pos p)).mpr hlow
  have hgreatest : n / 2 ^ p < 2 ^ 53 := (Nat.div_lt_iff_lt_mul (Nat.two_pow_pos p)).mpr hhigh
  rw [hrounded, hone, Nat.pow_add 2 52, Nat.pow_add 2 53, Nat.mul_assoc, Nat.mul_assoc,
    ← Nat.pow_add]
  refine ⟨?_, Nat.mul_le_mul_right _ (by omega), Nat.mul_le_mul_right _ (by omega)⟩
  exact (Nat.pow_dvd_pow 2 (Nat.le_add_left q p)).mul_left _

/-- The magnitude `2 ^ 63`. -/
def highestBit : Magnitude :=
  ⟨2 ^ 63 * unitsOfOne, by decide +kernel, 1, 1137, by decide, by decide +kernel⟩

/-- The shortest digits of `2 ^ 63` write a number above it. -/
lemma shortest_highestBit : highestBit.shortest .up = ⟨9223372036854776, 3⟩ := by
  decide +kernel

/-- The text of a whole magnitude from `2 ^ 63` to `2 ^ 64` is that of a whole number from `2 ^ 63`
on, which rounds to the magnitude. -/
lemma exists_text_highestBit {m : Magnitude} (hwhole : unitsOfOne ∣ m.units)
    (hlow : 2 ^ 63 * unitsOfOne ≤ m.units) (hhigh : m.units ≤ 2 ^ 64 * unitsOfOne) :
    ∃ n : ℕ, 2 ^ 63 ≤ n ∧ Layout.plain.text (.finite false m) = toString (n : ℤ)
      ∧ nearest? n 1 = some m := by
  have hpos : 0 < m.units := by
    refine lt_of_lt_of_le ?_ hlow
    exact Nat.mul_pos (by decide) unitsOfOne_pos
  obtain ⟨n, htext, hnearest, hn⟩ := exists_text_whole hwhole hpos hhigh
  refine ⟨n, ?_, htext, hnearest⟩
  rcases hlow.lt_or_eq with hlt | heq
  · obtain ⟨q, -, hone, hquarters⟩ := unitsOfOne_eq
    have hbound : 4 * (2 ^ 53 * 2 ^ (10 + q)) ≤ m.interval.low := by
      refine le_low ?_
      rw [hone] at hlt
      rwa [Nat.pow_add, ← Nat.mul_assoc, ← Nat.pow_add 2 53 10]
    rw [hquarters] at hn
    rw [Nat.pow_add] at hbound
    refine Nat.le_of_mul_le_mul_right (c := 4 * 2 ^ q) ?_ (by positivity)
    calc 2 ^ 63 * (4 * 2 ^ q) = 4 * (2 ^ 53 * (2 ^ 10 * 2 ^ q)) := by ring
      _ ≤ n * (4 * 2 ^ q) := hbound.trans hn
  · -- the interval of the power reaches below it, but its shortest digits do not
    obtain rfl : highestBit = m := by
      cases m
      simp only [highestBit, heq]
    rw [text_eq_toString hpos (by decide) shortest_highestBit] at htext
    have hn : 9223372036854776 * 10 ^ 3 = n := by exact_mod_cast toString_injective htext
    omega

end Magnitude

/-- **The text of a rounded integer.** An integer of 64 bits with the highest bit is rounded to a
binary number, whose text is that of such an integer again, which is rounded to the same binary
number. -/
theorem exists_text_ofInt {a : ℤ} (hlow : 2 ^ 63 ≤ a) (hhigh : a < 2 ^ 64) :
    ∃ n : ℤ, 2 ^ 63 ≤ n ∧ Layout.plain.text (Binary64.ofInt a) = toString n
      ∧ Binary64.ofInt n = Binary64.ofInt a := by
  obtain ⟨k, rfl⟩ := Int.eq_ofNat_of_zero_le (show 0 ≤ a by omega)
  obtain ⟨hwhole, hleast, hgreatest⟩ :=
    Magnitude.nearestUnits_bounds (n := k) (p := 11) (by omega) (by omega)
  simp only [Nat.reduceAdd] at hleast hgreatest
  have hfinite : Magnitude.nearestUnits k 1 < unitsOfOverflow :=
    hgreatest.trans_lt (by decide +kernel)
  obtain ⟨m, hm⟩ : ∃ m, Magnitude.nearest? k 1 = some m := ⟨_, dif_pos hfinite⟩
  rw [← Magnitude.units_of_nearest? hm] at hwhole hleast hgreatest
  obtain ⟨n, hn, htext, hnearest⟩ := Magnitude.exists_text_highestBit hwhole hleast hgreatest
  have hof {j : ℕ} (hj : Magnitude.nearest? j 1 = some m) : Binary64.ofInt j = .finite false m := by
    have hsign : ¬ (j : ℤ) < 0 := by omega
    rw [Binary64.ofInt, Binary64.ofRatio, Int.natAbs_natCast, hj]
    simp [hsign]
  exact ⟨n, by exact_mod_cast hn, by rw [hof hm, htext], by rw [hof hm, hof hnearest]⟩

end RowQuery.Number
