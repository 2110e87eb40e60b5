/-
The shortest digits of a binary number lie in its interval.

The digits are those of a point of a decimal grid in the interval of the reals that round to the
number. The interval of a number below `2 ^ 96` ends more than one below it, and the interval of a
number above `2 ^ 96` begins there or later, so that the digits of a number tell on which side it
is. Only at `2 ^ 96` itself does the interval reach to both sides.

* `Scientific.value`: the rational number of a coefficient and a power of ten;
* `onGrid?_mem`, `firstOnGrid_cases`: a decimal that is found lies in the interval;
* `gap_dvd`: a magnitude is a multiple of the gap above it;
* `shortest_lt`, `le_shortest`: on which side of `2 ^ 96` the shortest digits are.
-/
import Mathlib.Tactic
import RowQuery.Number.Layout

namespace RowQuery.Number

/-- The rational number that a coefficient and a power of ten stand for. -/
def Scientific.value (s : Scientific) : ℚ := s.coefficient * (10 : ℚ) ^ s.exponent

/-! ### Points of a grid -/

namespace Interval

variable {interval : Interval} {tie : Tie} {weight point : ℕ}

/-- A point of the interval is between its bounds. -/
lemma mem_of_holds (h : interval.holds point) : interval.low ≤ point ∧ point ≤ interval.high := by
  rw [holds] at h
  split at h <;> simp only [Bool.and_eq_true, decide_eq_true_eq] at h <;> omega

/-- A point strictly between the bounds is in the interval. -/
lemma holds_of_lt (hlow : interval.low < point) (hhigh : point < interval.high) :
    interval.holds point := by
  rw [holds]
  split <;> simp only [Bool.and_eq_true, decide_eq_true_eq] <;> omega

/-- The point of a grid that is found is in the interval. -/
lemma holds_of_gridPoint? {k : ℕ} (h : interval.gridPoint? tie weight = some k) :
    interval.holds (k * weight) := by
  unfold gridPoint? at h
  generalize hbelow : interval.holds (interval.centre / weight * weight) = below at h
  generalize habove : interval.holds ((interval.centre / weight + 1) * weight) = above at h
  have hk : k = interval.centre / weight ∧ below ∨ k = interval.centre / weight + 1 ∧ above := by
    cases below <;> cases above <;> grind
  rcases hk with ⟨rfl, rfl⟩ | ⟨rfl, rfl⟩
  · exact hbelow
  · exact habove

/-- A grid that is finer than the part of the interval above its centre has a point in it. -/
lemma gridPoint?_ne_none (hweight : 0 < weight) (hlow : interval.low ≤ interval.centre)
    (hhigh : interval.centre + weight < interval.high) :
    interval.gridPoint? tie weight ≠ none := by
  have hbelow := Nat.div_mul_le_self interval.centre weight
  have habove : interval.centre < (interval.centre / weight + 1) * weight :=
    Nat.lt_mul_of_div_lt (Nat.lt_succ_self _) hweight
  have hholds : interval.holds ((interval.centre / weight + 1) * weight) := by
    refine holds_of_lt (by omega) ?_
    rw [Nat.add_mul, Nat.one_mul]
    omega
  unfold gridPoint?
  simp only [hholds]
  cases interval.holds (interval.centre / weight * weight) with
  | false => simp
  | true => grind

end Interval

namespace Magnitude

variable {interval : Interval} {tie : Tie}

/-- A decimal that is found on a grid is in the interval. -/
lemma onGrid?_mem {s : Scientific} (h : onGrid? interval tie s.exponent = some s.coefficient) :
    (interval.low : ℚ) ≤ s.value * quartersOfOne ∧ s.value * quartersOfOne ≤ interval.high := by
  rw [Scientific.value]
  rw [onGrid?] at h
  split at h
  · next hexponent =>
    obtain ⟨n, hn⟩ := Int.eq_ofNat_of_zero_le hexponent
    obtain ⟨hlow, hhigh⟩ := Interval.mem_of_holds (Interval.holds_of_gridPoint? h)
    rw [hn, Int.toNat_natCast, Nat.pow_eq] at hlow hhigh
    have hcast : (s.coefficient : ℚ) * (10 : ℚ) ^ s.exponent * quartersOfOne
        = ((s.coefficient * (10 ^ n * quartersOfOne) : ℕ) : ℚ) := by
      rw [hn, zpow_natCast]
      push_cast
      ring
    rw [hcast]
    exact ⟨by exact_mod_cast hlow, by exact_mod_cast hhigh⟩
  · next hexponent =>
    obtain ⟨n, hn⟩ := Int.eq_ofNat_of_zero_le (show 0 ≤ -s.exponent by omega)
    obtain ⟨hlow, hhigh⟩ := Interval.mem_of_holds (Interval.holds_of_gridPoint? h)
    rw [hn, Int.toNat_natCast] at hlow hhigh
    have hpow : (0 : ℚ) < 10 ^ n := by positivity
    have hcast : (s.coefficient : ℚ) * (10 : ℚ) ^ s.exponent * quartersOfOne
        = ((s.coefficient * quartersOfOne : ℕ) : ℚ) / 10 ^ n := by
      rw [show s.exponent = -(n : ℤ) by omega, zpow_neg, zpow_natCast]
      push_cast
      ring
    rw [hcast, le_div_iff₀ hpow, div_le_iff₀ hpow]
    exact ⟨by exact_mod_cast hlow, by exact_mod_cast hhigh⟩

/-- The first decimal that is found on a grid, unless there is none on any of them. -/
lemma firstOnGrid_cases (interval : Interval) (tie : Tie) (tries : ℕ) (exponent : ℤ) :
    let s := firstOnGrid interval tie tries exponent
    onGrid? interval tie s.exponent = some s.coefficient
      ∨ s.coefficient = 0 ∧ ∀ k < tries, onGrid? interval tie (exponent - k) = none := by
  induction tries generalizing exponent with
  | zero => exact .inr ⟨rfl, by simp⟩
  | succ tries ih =>
      cases hfound : onGrid? interval tie exponent with
      | some coefficient =>
          exact .inl (by simp [firstOnGrid, hfound])
      | none =>
          simp only [firstOnGrid, hfound]
          refine (ih (exponent - 1)).imp_right fun ⟨hzero, hnone⟩ => ⟨hzero, fun k hk => ?_⟩
          cases k with
          | zero => simpa using hfound
          | succ k =>
              have hk := hnone k (by omega)
              rwa [show exponent - 1 - (k : ℤ) = exponent - (k + 1 : ℕ) by omega] at hk

/-! ### The interval of a magnitude -/

variable {m : Magnitude}

/-- A magnitude is a multiple of the gap above it. -/
lemma gap_dvd (m : Magnitude) : 2 ^ shiftOf m.units ∣ m.units := by
  obtain ⟨-, mantissa, shift, hmantissa, hunits⟩ := m.representable
  have hunits : m.units = mantissa * 2 ^ shift := hunits
  have hmantissa : mantissa ≤ 2 ^ 53 := hmantissa
  by_cases hzero : m.units = 0
  · rw [hzero]
    exact dvd_zero _
  rcases hmantissa.lt_or_eq with hlt | rfl
  · have hlog : m.units.log2 < 53 + shift := by
      refine (Nat.log2_lt hzero).mpr ?_
      rw [hunits, Nat.pow_add]
      exact Nat.mul_lt_mul_of_pos_right hlt (Nat.two_pow_pos shift)
    have hshift : shiftOf m.units ≤ shift := by
      rw [shiftOf]
      omega
    rw [hunits] at hshift ⊢
    exact (Nat.pow_dvd_pow 2 hshift).mul_left mantissa
  · have hunits : m.units = 2 ^ (53 + shift) := by rw [hunits, ← Nat.pow_add]
    have hshift : shiftOf m.units ≤ 53 + shift := by
      rw [shiftOf, hunits, Nat.log2_two_pow]
      omega
    rw [hunits] at hshift ⊢
    exact Nat.pow_dvd_pow 2 hshift

/-- The bounds of the interval, up to two gaps away from the magnitude. -/
lemma interval_bounds (m : Magnitude) :
    m.interval.centre = 4 * m.units ∧ m.interval.high = 4 * m.units + 2 * 2 ^ shiftOf m.units
      ∧ m.interval.low ≤ 4 * m.units ∧ 4 * m.units ≤ m.interval.low + 2 * 2 ^ shiftOf m.units := by
  refine ⟨rfl, rfl, ?_, ?_⟩
  · exact Nat.sub_le _ _
  · have hgap : (if (decide (0 < shiftOf m.units) && m.units == Nat.pow 2 m.units.log2) = true
        then 2 ^ shiftOf m.units else 2 * 2 ^ shiftOf m.units) ≤ 2 * 2 ^ shiftOf m.units := by
      split <;> omega
    have hlow : 4 * m.units ≤ m.interval.low
        + (if (decide (0 < shiftOf m.units) && m.units == Nat.pow 2 m.units.log2) = true
        then 2 ^ shiftOf m.units else 2 * 2 ^ shiftOf m.units) := Nat.sub_le_iff_le_add.mp le_rfl
    omega

/-- The interval of a magnitude below a power of two ends two gaps below it at least. -/
lemma high_add_le {p : ℕ} (hm : m.units < 2 ^ 53 * 2 ^ p) :
    m.interval.high + 2 * 2 ^ p ≤ 4 * (2 ^ 53 * 2 ^ p) := by
  obtain ⟨-, hhigh, -, -⟩ := m.interval_bounds
  by_cases hlog : m.units.log2 = 52 + p
  · -- the gap is that of the numbers just below the power
    have hshift : shiftOf m.units = p := by rw [shiftOf, hlog, Nat.add_sub_cancel_left]
    obtain ⟨k, hk⟩ := m.gap_dvd
    rw [hshift] at hhigh hk
    have hk53 : k < 2 ^ 53 := by
      rw [hk, Nat.mul_comm] at hm
      exact Nat.lt_of_mul_lt_mul_right hm
    have hunits : m.units ≤ (2 ^ 53 - 1) * 2 ^ p := by
      rw [hk, Nat.mul_comm]
      exact Nat.mul_le_mul_right _ (by omega)
    omega
  · have hlt : m.units.log2 < 52 + p := by
      by_cases hzero : m.units = 0
      · rw [hzero, Nat.log2_zero]
        omega
      · have hlt : m.units.log2 < 53 + p := by
          rw [Nat.log2_lt hzero, Nat.pow_add]
          exact hm
        omega
    have hunits : m.units < 2 ^ 52 * 2 ^ p := by
      calc m.units < 2 ^ (m.units.log2 + 1) := Nat.lt_log2_self
        _ ≤ 2 ^ (52 + p) := Nat.pow_le_pow_right (by decide) hlt
        _ = 2 ^ 52 * 2 ^ p := Nat.pow_add 2 52 p
    have hgap : 2 ^ shiftOf m.units ≤ 2 ^ p := by
      refine Nat.pow_le_pow_right (by decide) ?_
      rw [shiftOf]
      omega
    omega

/-- The interval of a magnitude above a power of two begins there or later. -/
lemma le_low {p : ℕ} (hm : 2 ^ 53 * 2 ^ p < m.units) :
    4 * (2 ^ 53 * 2 ^ p) ≤ m.interval.low := by
  obtain ⟨-, -, -, hlow⟩ := m.interval_bounds
  have hpos : m.units ≠ 0 := by omega
  have hlog : 53 + p ≤ m.units.log2 := by
    rw [Nat.le_log2 hpos, Nat.pow_add]
    exact hm.le
  obtain ⟨j, hj⟩ := Nat.exists_eq_add_of_le hlog
  have hshift : shiftOf m.units = p + 1 + j := by
    rw [shiftOf]
    omega
  have hunits : 2 ^ 52 * 2 ^ shiftOf m.units ≤ m.units := by
    refine le_trans (le_of_eq ?_) (Nat.log2_self_le hpos)
    rw [← Nat.pow_add, hshift, hj]
    congr 1
    omega
  by_cases hzero : j = 0
  · -- the gap divides the power as well, so the magnitude is a gap above it
    have hgap : 2 ^ shiftOf m.units = 2 * 2 ^ p := by
      rw [hshift, hzero, Nat.add_zero, Nat.pow_succ, Nat.mul_comm]
    obtain ⟨k, hk⟩ := m.gap_dvd
    rw [hgap] at hlow hk
    have hk52 : 2 ^ 52 < k := by
      by_contra hle
      have hle := Nat.mul_le_mul_left (2 * 2 ^ p) (not_lt.mp hle)
      omega
    have hunits : 2 * 2 ^ p * (2 ^ 52 + 1) ≤ m.units := by
      rw [hk]
      exact Nat.mul_le_mul_left _ hk52
    omega
  · have hgap : 2 ^ (p + 2) ≤ 2 ^ shiftOf m.units :=
      Nat.pow_le_pow_right (by decide) (by omega)
    rw [Nat.pow_add] at hgap
    omega

/-! ### The shortest digits -/

/-- A power of ten is at most the power of two with more than three times the exponent. -/
lemma ten_pow_le (n : ℕ) : 10 ^ n ≤ 2 ^ (10 * ((n + 2) / 3)) := by
  calc 10 ^ n ≤ 10 ^ (3 * ((n + 2) / 3)) := Nat.pow_le_pow_right (by decide) (by omega)
    _ = 1000 ^ ((n + 2) / 3) := Nat.pow_mul 10 3 _
    _ ≤ 1024 ^ ((n + 2) / 3) := Nat.pow_le_pow_left (by decide) _
    _ = 2 ^ (10 * ((n + 2) / 3)) := (Nat.pow_mul 2 10 _).symm

/-- One is a power of two, counted in least units. -/
lemma unitsOfOne_eq : ∃ q, q = 1074 ∧ unitsOfOne = 2 ^ q ∧ quartersOfOne = 4 * 2 ^ q := by
  obtain ⟨q, hq, hone⟩ : ∃ q, q = 1074 ∧ unitsOfOne = 2 ^ q := ⟨1074, rfl, Nat.pow_eq⟩
  exact ⟨q, hq, hone, by rw [quartersOfOne, hone]⟩

/-- One is positive. -/
lemma unitsOfOne_pos : 0 < unitsOfOne := by
  obtain ⟨q, -, hone, -⟩ := unitsOfOne_eq
  rw [hone]
  exact Nat.two_pow_pos q

/-- A magnitude has at most 2098 bits. -/
lemma log2_units_lt (m : Magnitude) (hpos : m.units ≠ 0) : m.units.log2 < 2098 := by
  obtain ⟨p, hp, hoverflow⟩ : ∃ p, p = 2098 ∧ unitsOfOverflow = 2 ^ p :=
    ⟨2098, rfl, Nat.pow_eq⟩
  have hlt : m.units < 2 ^ p := m.representable.1.trans_eq hoverflow
  exact hp ▸ (Nat.log2_lt hpos).mpr hlt

/-- From `2 ^ 96` on, a decimal is found on the last grid at least. -/
lemma onGrid?_last_ne_none (hm : 2 ^ 96 * unitsOfOne ≤ m.units) (tie : Tie) :
    onGrid? m.interval tie (topExponent m.units - 23) ≠ none := by
  obtain ⟨q, hq, hone, hquarters⟩ := unitsOfOne_eq
  obtain ⟨hcentre, hhigh, hlow, -⟩ := m.interval_bounds
  rw [hone] at hm
  have hpos : m.units ≠ 0 := by
    have hlimit : 0 < 2 ^ 96 * 2 ^ q := by positivity
    omega
  have hleast : 96 + q ≤ m.units.log2 := by
    rw [Nat.le_log2 hpos, Nat.pow_add]
    exact hm
  have hgreatest := m.log2_units_lt hpos
  obtain ⟨n, hn⟩ : ∃ n : ℕ, topExponent m.units - 23 = n := by
    refine Int.eq_ofNat_of_zero_le ?_
    rw [topExponent]
    omega
  have hweight : 10 ^ n * quartersOfOne < 2 * 2 ^ shiftOf m.units := by
    have hexponent : 10 * ((n + 2) / 3) + (2 + q) < 1 + shiftOf m.units := by
      rw [topExponent] at hn
      rw [shiftOf]
      omega
    calc 10 ^ n * quartersOfOne ≤ 2 ^ (10 * ((n + 2) / 3)) * quartersOfOne :=
          Nat.mul_le_mul_right _ (ten_pow_le n)
      _ = 2 ^ (10 * ((n + 2) / 3) + (2 + q)) := by
          rw [hquarters, Nat.pow_add, Nat.pow_add 2 2 q]
      _ < 2 ^ (1 + shiftOf m.units) := Nat.pow_lt_pow_right (by decide) hexponent
      _ = 2 * 2 ^ shiftOf m.units := Nat.pow_add 2 1 _
  have hpositive : 0 < 10 ^ n * quartersOfOne := by
    rw [hquarters]
    positivity
  rw [hn, onGrid?, if_pos (Int.natCast_nonneg n), Int.toNat_natCast, Nat.pow_eq]
  refine Interval.gridPoint?_ne_none hpositive (hlow.trans_eq hcentre.symm) ?_
  rw [hcentre, hhigh]
  omega

/-- The shortest digits of a magnitude below `2 ^ 96` write a number that is more than one below
it. -/
lemma shortest_lt (hm : m.units < 2 ^ 96 * unitsOfOne) (tie : Tie) :
    (m.shortest tie).value < 2 ^ 96 - 1 := by
  obtain ⟨q, -, hone, hquarters⟩ := unitsOfOne_eq
  rw [hone] at hm
  clear hone
  rcases firstOnGrid_cases m.interval tie 24 (topExponent m.units) with hfound | ⟨hzero, -⟩
  · obtain ⟨-, hhigh⟩ := onGrid?_mem hfound
    have hbound : m.interval.high + 2 * 2 ^ (43 + q) ≤ 4 * (2 ^ 53 * 2 ^ (43 + q)) := by
      refine high_add_le ?_
      rw [← pow_add, show 53 + (43 + q) = 96 + q by omega, pow_add]
      exact hm
    have hbound : (m.interval.high : ℚ) + 2 * (2 ^ 43 * 2 ^ q) ≤ 4 * (2 ^ 96 * 2 ^ q) := by
      rw [← pow_add, ← pow_add, show 96 + q = 53 + (43 + q) by omega, pow_add 2 53]
      exact_mod_cast hbound
    rw [hquarters] at hhigh
    push_cast at hhigh
    rw [shortest]
    have hpow : (0 : ℚ) < 2 ^ q := by positivity
    generalize (2 : ℚ) ^ q = one at *
    generalize Scientific.value _ = value at *
    nlinarith
  · have hvalue : (m.shortest tie).value = 0 := by
      rw [Scientific.value, shortest, hzero]
      simp
    rw [hvalue]
    norm_num

/-- The shortest digits of a magnitude above `2 ^ 96` write a number that is not below it. -/
lemma le_shortest (hm : 2 ^ 96 * unitsOfOne < m.units) (tie : Tie) :
    2 ^ 96 ≤ (m.shortest tie).value := by
  rcases firstOnGrid_cases m.interval tie 24 (topExponent m.units) with hfound | ⟨-, hnone⟩
  · obtain ⟨q, -, hone, hquarters⟩ := unitsOfOne_eq
    rw [hone] at hm
    clear hone
    obtain ⟨hlow, -⟩ := onGrid?_mem hfound
    have hbound : 4 * (2 ^ 53 * 2 ^ (43 + q)) ≤ m.interval.low := by
      refine le_low ?_
      rw [← pow_add, show 53 + (43 + q) = 96 + q by omega, pow_add]
      exact hm
    have hbound : 4 * (2 ^ 96 * 2 ^ q) ≤ (m.interval.low : ℚ) := by
      rw [← pow_add, show 96 + q = 53 + (43 + q) by omega, pow_add 2 53]
      exact_mod_cast hbound
    rw [hquarters] at hlow
    push_cast at hlow
    rw [shortest]
    have hpow : (0 : ℚ) < 2 ^ q := by positivity
    generalize (2 : ℚ) ^ q = one at *
    generalize Scientific.value _ = value at *
    nlinarith
  · exact absurd (hnone 23 (by decide)) (onGrid?_last_ne_none hm.le tie)

end Magnitude

end RowQuery.Number
