/-
The numbers that round to a magnitude.

The interval of a magnitude holds the numbers that are nearer to it than to any other magnitude, and
its bounds if a tie goes to it. So a decimal that is found in the interval rounds to the magnitude.
Between the magnitude and the lower bound the numbers may have a bit less than the magnitude: this
is where it is a power of two, and the gap below it half the one above.

* `roundToEven_eq`: what rounds to a whole number;
* `Magnitude.eq_mul_two_pow`: the significant bits of a magnitude;
* `Magnitude.nearestUnits_of_holds`, `Magnitude.nearest?_of_holds`: what rounds to a magnitude.
-/
import RowQuery.Proofs.Number.Shortest

namespace RowQuery.Number

/-- A ratio at most a half away from a whole number rounds to it, if it is nearer or the whole
number is even. -/
lemma roundToEven_eq {k num den : ℕ} (hden : 0 < den) (hlow : 2 * (k * den) ≤ 2 * num + den)
    (hhigh : 2 * num ≤ 2 * (k * den) + den)
    (htie : k % 2 ≠ 0 → 2 * (k * den) < 2 * num + den ∧ 2 * num < 2 * (k * den) + den) :
    roundToEven num den = k := by
  have hdiv := Nat.div_add_mod' num den
  have hmod := Nat.mod_lt num hden
  rw [roundToEven]
  generalize num / den = whole at *
  generalize num % den = rest at *
  have hle : whole ≤ k := by
    by_contra hlt
    have hmul : (k + 1) * den ≤ whole * den := Nat.mul_le_mul_right den (by omega)
    rw [Nat.add_mul, Nat.one_mul] at hmul
    omega
  have hge : k ≤ whole + 1 := by
    by_contra hlt
    have hmul : (whole + 2) * den ≤ k * den := Nat.mul_le_mul_right den (by omega)
    rw [Nat.add_mul] at hmul
    omega
  simp only [Bool.or_eq_true, decide_eq_true_eq, Bool.and_eq_true, beq_iff_eq]
  rcases (show whole = k ∨ k = whole + 1 by omega) with rfl | rfl
  · split
    · rfl
    · omega
  · rw [Nat.add_mul, Nat.one_mul] at hlow hhigh htie
    split
    · omega
    · rfl

namespace Magnitude

/-- A magnitude is a multiple of the gap above it, with 53 bits, or fewer if the gap is a least
unit. -/
lemma eq_mul_two_pow (m : Magnitude) :
    ∃ k, m.units = k * 2 ^ shiftOf m.units ∧ k < 2 ^ 53 ∧ (shiftOf m.units = 0 ∨ 2 ^ 52 ≤ k) := by
  obtain ⟨k, hk⟩ := m.gap_dvd
  rw [Nat.mul_comm] at hk
  refine ⟨k, hk, ?_, ?_⟩
  · have hlt : m.units < 2 ^ (53 + shiftOf m.units) :=
      Nat.lt_log2_self.trans_le (Nat.pow_le_pow_right (by decide) (by rw [shiftOf]; omega))
    rw [Nat.pow_add] at hlt
    generalize shiftOf m.units = s at *
    exact Nat.lt_of_mul_lt_mul_right (hk ▸ hlt)
  · refine or_iff_not_imp_left.mpr fun hshift => ?_
    have hzero : m.units ≠ 0 := by
      rintro hzero
      rw [hzero] at hshift
      exact hshift rfl
    have hle : 2 ^ (52 + shiftOf m.units) ≤ m.units :=
      (Nat.pow_le_pow_right (by decide) (by rw [shiftOf] at hshift ⊢; omega)).trans
        (Nat.log2_self_le hzero)
    rw [Nat.pow_add] at hle
    generalize shiftOf m.units = s at *
    exact Nat.le_of_mul_le_mul_right (hk ▸ hle) (Nat.two_pow_pos s)

/-- A number with 53 bits before the point, and some more, has as many below its leading ones. -/
lemma shiftOf_div {scaled den p : ℕ} (hden : 0 < den)
    (hlow : p = 0 ∨ 2 ^ 52 * (den * 2 ^ p) ≤ scaled) (hhigh : scaled < 2 ^ 53 * (den * 2 ^ p)) :
    shiftOf (scaled / den) = p := by
  have hlt : scaled / den < 2 ^ (53 + p) := by
    rw [Nat.div_lt_iff_lt_mul hden, Nat.pow_add, Nat.mul_assoc, Nat.mul_comm (2 ^ p)]
    exact hhigh
  by_cases hzero : scaled / den = 0
  · rw [hzero]
    rcases hlow with rfl | hlow
    · rfl
    · have hpos : 0 < 2 ^ 52 * (den * 2 ^ p) := by positivity
      have hmul : den ≤ den * 2 ^ p := Nat.le_mul_of_pos_right den (Nat.two_pow_pos p)
      rw [Nat.div_eq_zero_iff] at hzero
      omega
  have hlog := (Nat.log2_lt hzero).mpr hlt
  rw [shiftOf]
  rcases hlow with rfl | hlow
  · omega
  · have hle : 2 ^ (52 + p) ≤ scaled / den := by
      rw [Nat.le_div_iff_mul_le hden, Nat.pow_add, Nat.mul_assoc, Nat.mul_comm (2 ^ p)]
      exact hlow
    have hlog' := (Nat.le_log2 hzero).mpr hle
    omega

/-- A ratio rounds to a whole number of gaps that it is at most a half away from, if it is nearer or
the whole number is even. -/
lemma nearestUnits_eq {num den scaled k p : ℕ} (hden : 0 < den)
    (hscaled : num * unitsOfOne = scaled) (hshift : shiftOf (scaled / den) = p)
    (hlow : 2 * (k * (den * 2 ^ p)) ≤ 2 * scaled + den * 2 ^ p)
    (hhigh : 2 * scaled ≤ 2 * (k * (den * 2 ^ p)) + den * 2 ^ p)
    (htie : k % 2 ≠ 0 → 2 * (k * (den * 2 ^ p)) < 2 * scaled + den * 2 ^ p
      ∧ 2 * scaled < 2 * (k * (den * 2 ^ p)) + den * 2 ^ p) :
    nearestUnits num den = k * 2 ^ p := by
  have hpos : 0 < den * 2 ^ p := Nat.mul_pos hden (Nat.two_pow_pos p)
  rw [nearestUnits]
  simp only [hscaled, hshift, Nat.pow_eq]
  rw [roundToEven_eq hpos hlow hhigh htie]

/-- The points of the interval of a magnitude, at any scale: half a gap away at most, or a quarter
if the magnitude is a power of two and they are below it, and nearer if the magnitude has an odd
number of gaps. -/
lemma bounds_of_holds {m : Magnitude} {s k den point : ℕ} (hs : shiftOf m.units = s)
    (hk : m.units = k * 2 ^ s) (h : (m.interval.scale den).holds point) :
    point ≤ 4 * (k * (den * 2 ^ s)) + 2 * (den * 2 ^ s)
    ∧ 4 * (k * (den * 2 ^ s)) ≤ point + 2 * (den * 2 ^ s)
    ∧ (k % 2 ≠ 0 → point < 4 * (k * (den * 2 ^ s)) + 2 * (den * 2 ^ s)
        ∧ 4 * (k * (den * 2 ^ s)) < point + 2 * (den * 2 ^ s))
    ∧ (0 < s → m.units = 2 ^ m.units.log2 → 4 * (k * (den * 2 ^ s)) ≤ point + den * 2 ^ s) := by
  have hclosed : m.interval.closed = (k % 2 == 0) := by
    show (m.units / Nat.pow 2 (shiftOf m.units) % 2 == 0) = (k % 2 == 0)
    rw [hs, Nat.pow_eq, hk, Nat.mul_div_cancel _ (Nat.two_pow_pos s)]
  have hhigh : m.interval.high * den = 4 * (k * (den * 2 ^ s)) + 2 * (den * 2 ^ s) := by
    show (4 * m.units + 2 * Nat.pow 2 (shiftOf m.units)) * den = _
    rw [hs, Nat.pow_eq, hk]
    ring
  have hlow : 4 * (k * (den * 2 ^ s)) ≤ m.interval.low * den + 2 * (den * 2 ^ s) := by
    obtain ⟨-, -, -, hlow⟩ := m.interval_bounds
    rw [hs, hk] at hlow
    calc 4 * (k * (den * 2 ^ s)) = 4 * (k * 2 ^ s) * den := by ring
      _ ≤ (m.interval.low + 2 * 2 ^ s) * den := Nat.mul_le_mul_right den hlow
      _ = m.interval.low * den + 2 * (den * 2 ^ s) := by ring
  have hnarrow : 0 < s → m.units = 2 ^ m.units.log2 →
      4 * (k * (den * 2 ^ s)) ≤ m.interval.low * den + den * 2 ^ s := by
    intro hpos hpow
    have hlow : m.interval.low = 4 * m.units - 2 ^ s := by
      have hcondition : (decide (0 < s) && m.units == Nat.pow 2 m.units.log2) = true := by
        simp only [hpos, decide_true, Bool.true_and, beq_iff_eq]
        exact hpow
      show 4 * m.units
        - (if (decide (0 < shiftOf m.units) && m.units == Nat.pow 2 m.units.log2) = true
          then Nat.pow 2 (shiftOf m.units) else 2 * Nat.pow 2 (shiftOf m.units)) = _
      rw [hs, if_pos hcondition, Nat.pow_eq]
    rw [hlow, hk, Nat.sub_mul]
    have hleft : 4 * (k * 2 ^ s) * den = 4 * (k * (den * 2 ^ s)) := by ring
    rw [hleft, Nat.mul_comm (2 ^ s)]
    omega
  rw [Interval.holds, Interval.scale] at h
  simp only [hclosed, hhigh] at h
  generalize den * 2 ^ s = gap at *
  generalize k * gap = middle at *
  split at h <;> simp only [Bool.and_eq_true, decide_eq_true_eq, beq_iff_eq] at * <;> omega

/-- **What rounds to a magnitude.** A ratio in the interval of a magnitude has it as the nearest
one. -/
theorem nearestUnits_of_holds {m : Magnitude} {num den : ℕ} (hden : 0 < den)
    (h : (m.interval.scale den).holds (num * quartersOfOne)) : nearestUnits num den = m.units := by
  obtain ⟨k, hk, hk53, hk52⟩ := m.eq_mul_two_pow
  generalize hs : shiftOf m.units = s at hk hk52
  obtain ⟨hhigh, hlow, hodd, hpower⟩ := bounds_of_holds hs hk h
  have hquarters : num * quartersOfOne = 4 * (num * unitsOfOne) := by
    rw [quartersOfOne]
    ring
  rw [hquarters] at hhigh hlow hodd hpower
  generalize hscaled : num * unitsOfOne = scaled at hhigh hlow hodd hpower
  have hgap : 0 < den * 2 ^ s := Nat.mul_pos hden (Nat.two_pow_pos s)
  have hmiddle : k * (den * 2 ^ s) ≤ (2 ^ 53 - 1) * (den * 2 ^ s) :=
    Nat.mul_le_mul_right _ (by omega)
  by_cases hbits : s = 0 ∨ 2 ^ 52 * (den * 2 ^ s) ≤ scaled
  · -- the ratio has as many bits as the magnitude
    have hshift : shiftOf (scaled / den) = s := shiftOf_div hden hbits (by omega)
    rw [hk]
    exact nearestUnits_eq hden hscaled hshift (by omega) (by omega) (by omega)
  · -- the ratio has one bit less, so the magnitude is a power of two and the gap is half as large
    obtain ⟨hpos, hless⟩ := not_or.mp hbits
    have hk' : k = 2 ^ 52 := by
      by_contra hne
      have hmul : (2 ^ 52 + 1) * (den * 2 ^ s) ≤ k * (den * 2 ^ s) :=
        Nat.mul_le_mul_right _ (by omega)
      omega
    obtain ⟨r, rfl⟩ := Nat.exists_eq_add_one_of_ne_zero hpos
    have hunits : m.units = 2 ^ (52 + (r + 1)) := by rw [hk, hk', Nat.pow_add 2 52]
    have hpower := hpower (Nat.succ_pos r) (by rw [hunits, Nat.log2_two_pow])
    have hhalf : den * 2 ^ (r + 1) = 2 * (den * 2 ^ r) := by ring
    rw [hhalf] at hless hpower hhigh hgap
    rw [hk'] at hpower hhigh
    have hshift : shiftOf (scaled / den) = r :=
      shiftOf_div hden (.inr (by omega)) (by omega)
    have hnearest : nearestUnits num den = 2 ^ 53 * 2 ^ r := by
      refine nearestUnits_eq hden hscaled hshift (by omega) (by omega) fun hodd => ?_
      exact absurd (by norm_num) hodd
    rw [hnearest, hunits]
    ring

/-- A ratio in the interval of a magnitude rounds to it. -/
lemma nearest?_of_holds {m : Magnitude} {num den : ℕ} (hden : 0 < den)
    (h : (m.interval.scale den).holds (num * quartersOfOne)) : nearest? num den = some m := by
  have hunits := nearestUnits_of_holds hden h
  rw [nearest?, dif_pos (hunits.trans_lt m.representable.1)]
  cases m
  simp only [hunits]

end Magnitude

end RowQuery.Number
