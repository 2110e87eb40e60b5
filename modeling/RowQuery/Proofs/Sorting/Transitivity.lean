/-
Where the order of numbers is transitive.

Two values are compared by their decimal forms if both have one, and by their binary forms
otherwise. So if two of three values have decimal forms and the third has none, two orders meet,
and the three may be in no order: they are not exactly if the two are in another order as decimals
than as binary numbers and the third lies between them. Numbers are always in order, as one without
a decimal form is beyond all that have one if the conversion of binary numbers has a range; texts
that write numbers need not be.

* `Value.units?`: the binary form of a value as a whole number of least units;
* `Value.Splits`: a value between two others that are ordered in two ways;
* `Value.compareNumbers?_trans`, `Value.Splits.exists_circle`: three values are in order unless
  one splits the two others, and not if one does;
* `Value.IsNumber`, `Value.IsNumber.natAbs_lt`: integers and binary numbers, and which of them have
  a decimal form;
* `Value.IsNumber.not_splits`: no integer or binary number splits two others;
* `Value.number_order_trans`: the three together.
-/
import RowQuery.Proofs.Number.Plain
import RowQuery.Proofs.Sorting.Comparison

namespace RowQuery

open Number

namespace Value

variable {a b c x y z : Value} {i j k : ℤ}

/-! ### Binary forms in least units -/

/-- The binary form of a value, counted in least units. -/
def units? (v : Value) : Option ℤ := v.float?.bind Binary64.units?

/-- Binary forms are in the order of their least units. -/
lemma compareFloats?_eq (a b : Value) :
    a.compareFloats? b = a.units?.bind fun i => b.units?.map (Ord.compare i) := by
  rw [compareFloats?, units?, units?]
  cases a.float? with
  | none => cases b.float? <;> rfl
  | some x =>
      cases b.float? with
      | none => cases hx : x.units? <;> simp [hx]
      | some y =>
          show x.compare? y = x.units?.bind fun i => y.units?.map (Ord.compare i)
          rw [Binary64.compare?]
          cases x.units? with
          | none => rfl
          | some i => cases y.units? <;> rfl

/-- Two values with binary forms are in the order of their least units. -/
lemma compareFloats?_of_units (ha : a.units? = some i) (hb : b.units? = some j) :
    a.compareFloats? b = some (Ord.compare i j) := by
  rw [compareFloats?_eq, ha, hb]
  rfl

/-- One binary form is not greater than another exactly if it has not more least units. -/
lemma compareFloats?_ne_gt_iff (ha : a.units? = some i) (hb : b.units? = some j) :
    a.compareFloats? b ≠ some .gt ↔ i ≤ j := by
  rw [compareFloats?_of_units ha hb, Ne, Option.some_inj]
  exact compare_le_iff_le

section

variable [Conversion]

/-- Two values of which one has no decimal form are compared only if both have binary forms. -/
lemma exists_units (h : (a.compareNumbers? b).isSome)
    (hnone : a.decimal? = none ∨ b.decimal? = none) :
    ∃ i j, a.units? = some i ∧ b.units? = some j := by
  rw [compareNumbers?_of_eq_none hnone, compareFloats?_eq] at h
  cases ha : a.units? with
  | none => simp [ha] at h
  | some i =>
      cases hb : b.units? with
      | none => simp [ha, hb] at h
      | some j => exact ⟨i, j, rfl, rfl⟩

/-- Two values of which one has no decimal form are in the order of their least units. -/
lemma compareNumbers?_ne_gt_iff (hnone : a.decimal? = none ∨ b.decimal? = none)
    (ha : a.units? = some i) (hb : b.units? = some j) :
    a.compareNumbers? b ≠ some .gt ↔ i ≤ j := by
  rw [compareNumbers?_of_eq_none hnone]
  exact compareFloats?_ne_gt_iff ha hb

/-! ### Three values -/

/-- One value splits two others: it has no decimal form, they do, as decimals they are in another
order than as binary numbers, and as binary numbers it lies between them or is equal to one. -/
structure Splits (z x y : Value) : Prop where
  no_decimal : z.decimal? = none
  decimals : x.decimal?.isSome ∧ y.decimal?.isSome
  differ : x.compareNumbers? y ≠ x.compareFloats? y
  between : x.compareFloats? z ≠ some .gt ∧ z.compareFloats? y ≠ some .gt
    ∨ y.compareFloats? z ≠ some .gt ∧ z.compareFloats? x ≠ some .gt

/-- Whether two values can be compared does not depend on their order. -/
lemma isSome_compareNumbers?_comm (h : (a.compareNumbers? b).isSome) :
    (b.compareNumbers? a).isSome := by
  rwa [compareNumbers?_swap, Option.isSome_map]

/-- Two values that are split are split in either order. -/
lemma Splits.symm (h : z.Splits x y) : z.Splits y x := by
  refine ⟨h.no_decimal, h.decimals.symm, fun heq => h.differ ?_, h.between.symm⟩
  rw [compareNumbers?_swap, heq, ← compareFloats?_swap]

/-- Two values that are not split by a third one without a decimal form are in the order of their
binary forms, or the third one is beyond both. -/
lemma eq_or_beyond (hz : z.decimal? = none) (hsplits : ¬ z.Splits x y) (hi : x.units? = some i)
    (hj : y.units? = some j) (hk : z.units? = some k) :
    x.compareNumbers? y = x.compareFloats? y ∨ k < i ∧ k < j ∨ i < k ∧ j < k := by
  by_cases hdiffer : x.compareNumbers? y = x.compareFloats? y
  · exact .inl hdiffer
  refine .inr ?_
  have hdecimals : x.decimal?.isSome ∧ y.decimal?.isSome := by
    by_contra hnone
    rw [not_and_or, Option.not_isSome_iff_eq_none, Option.not_isSome_iff_eq_none] at hnone
    exact hdiffer (compareNumbers?_of_eq_none hnone)
  have hbetween : ¬ (i ≤ k ∧ k ≤ j ∨ j ≤ k ∧ k ≤ i) := by
    rw [← compareFloats?_ne_gt_iff hi hk, ← compareFloats?_ne_gt_iff hk hj,
      ← compareFloats?_ne_gt_iff hj hk, ← compareFloats?_ne_gt_iff hk hi]
    exact fun hbetween => hsplits ⟨hz, hdecimals, hdiffer, hbetween⟩
  omega

/-- Three values of which none splits the two others are in order. -/
lemma compareNumbers?_trans (hab : (a.compareNumbers? b).isSome)
    (hbc : (b.compareNumbers? c).isSome) (hac : (a.compareNumbers? c).isSome)
    (hsplits : ¬ (a.Splits b c ∨ b.Splits a c ∨ c.Splits a b))
    (hle : a.compareNumbers? b ≠ some .gt) (hle' : b.compareNumbers? c ≠ some .gt) :
    a.compareNumbers? c ≠ some .gt := by
  obtain ⟨hsa, hsb, hsc⟩ : ¬ a.Splits b c ∧ ¬ b.Splits a c ∧ ¬ c.Splits a b := by
    simpa only [not_or] using hsplits
  cases ha : a.decimal? with
  | none =>
      obtain ⟨i, j, hi, hj⟩ := exists_units hab (.inl ha)
      obtain ⟨-, k, -, hk⟩ := exists_units hac (.inl ha)
      rw [compareNumbers?_ne_gt_iff (.inl ha) hi hj] at hle
      rw [compareNumbers?_ne_gt_iff (.inl ha) hi hk]
      rcases eq_or_beyond ha hsa hj hk hi with heq | hbeyond
      · rw [heq, compareFloats?_ne_gt_iff hj hk] at hle'
        omega
      · omega
  | some p =>
  cases hb : b.decimal? with
  | none =>
      obtain ⟨i, j, hi, hj⟩ := exists_units hab (.inr hb)
      obtain ⟨-, k, -, hk⟩ := exists_units hbc (.inl hb)
      rw [compareNumbers?_ne_gt_iff (.inr hb) hi hj] at hle
      rw [compareNumbers?_ne_gt_iff (.inl hb) hj hk] at hle'
      rcases eq_or_beyond hb hsb hi hk hj with heq | hbeyond
      · rw [heq, compareFloats?_ne_gt_iff hi hk]
        omega
      · omega
  | some q =>
  cases hc : c.decimal? with
  | none =>
      obtain ⟨i, k, hi, hk⟩ := exists_units hac (.inr hc)
      obtain ⟨j, -, hj, -⟩ := exists_units hbc (.inr hc)
      rw [compareNumbers?_ne_gt_iff (.inr hc) hj hk] at hle'
      rw [compareNumbers?_ne_gt_iff (.inr hc) hi hk]
      rcases eq_or_beyond hc hsc hi hj hk with heq | hbeyond
      · rw [heq, compareFloats?_ne_gt_iff hi hj] at hle
        omega
      · omega
  | some r =>
      -- all are decimals, and these are in an order
      have hnot : ∀ {v w : Value} {d e : Decimal}, v.decimal? = some d → w.decimal? = some e →
          (v.compareNumbers? w ≠ some .gt ↔ d.value ≤ e.value) := by
        intro v w d e hd he
        rw [compareNumbers?_of_decimal hd he, Decimal.compare_eq, Ne, Option.some_inj]
        exact compare_le_iff_le
      rw [hnot ha hb] at hle
      rw [hnot hb hc] at hle'
      rw [hnot ha hc]
      exact hle.trans hle'

/-- Two values of which one has no decimal form are in the order of their least units. -/
lemma compareNumbers?_eq_gt (hnone : a.decimal? = none ∨ b.decimal? = none)
    (ha : a.units? = some i) (hb : b.units? = some j) (hlt : j < i) :
    a.compareNumbers? b = some .gt := by
  rw [compareNumbers?_of_eq_none hnone, compareFloats?_of_units ha hb, compare_gt_iff_gt.mpr hlt]

/-- Two values and a third one without a decimal form that lies between them are in a circle if the
two are in another order than their binary forms. -/
lemma exists_circle (hz : z.decimal? = none) (hx : x.units? = some i) (hy : y.units? = some j)
    (hk : z.units? = some k) (hik : i ≤ k) (hkj : k ≤ j) {o : Ordering}
    (hxy : x.compareNumbers? y = some o) (hdiffer : o ≠ Ord.compare i j) :
    ∃ p q r, [p, q, r].Perm [x, y, z] ∧ p.compareNumbers? q ≠ some .gt
      ∧ q.compareNumbers? r ≠ some .gt ∧ p.compareNumbers? r = some .gt := by
  have hyx : y.compareNumbers? x = some o.swap := by
    rw [compareNumbers?_swap, hxy]
    rfl
  have hxz := compareNumbers?_ne_gt_iff (.inr hz) hx hk
  have hzx := compareNumbers?_ne_gt_iff (.inl hz) hk hx
  have hyz := compareNumbers?_ne_gt_iff (.inr hz) hy hk
  have hzy := compareNumbers?_ne_gt_iff (.inl hz) hk hy
  cases o with
  | gt => exact ⟨x, z, y, .cons x (.swap y z []), hxz.mpr hik, hzy.mpr hkj, hxy⟩
  | lt =>
      -- as binary numbers the three are equal
      have hji : j ≤ i := by
        by_contra hlt
        exact hdiffer (compare_lt_iff_lt.mpr (not_le.mp hlt)).symm
      refine ⟨y, z, x, ?_, hyz.mpr (hji.trans hik), hzx.mpr (hkj.trans hji), hyx⟩
      have hperm : ([y, z] ++ [x]).Perm ([x] ++ [y, z]) := List.perm_append_comm
      exact hperm
  | eq =>
      have hij : i < j := by
        refine lt_of_le_of_ne (hik.trans hkj) fun heq => hdiffer ?_
        exact (compare_eq_iff_eq.mpr heq).symm
      have hyx : y.compareNumbers? x ≠ some .gt := by
        rw [hyx]
        decide
      by_cases hlt : k < j
      · exact ⟨y, x, z, .swap x y [z], hyx, hxz.mpr hik,
          compareNumbers?_eq_gt (.inr hz) hy hk hlt⟩
      · refine ⟨z, y, x, ?_, hzy.mpr hkj, hyx, compareNumbers?_eq_gt (.inl hz) hk hx (by omega)⟩
        exact List.reverse_perm [x, y, z]

/-- Three values of which one splits the two others are in a circle. -/
lemma Splits.exists_circle (h : z.Splits x y) (hxy : (x.compareNumbers? y).isSome)
    (hxz : (x.compareNumbers? z).isSome) (hyz : (y.compareNumbers? z).isSome) :
    ∃ p q r, [p, q, r].Perm [x, y, z] ∧ p.compareNumbers? q ≠ some .gt
      ∧ q.compareNumbers? r ≠ some .gt ∧ p.compareNumbers? r = some .gt := by
  obtain ⟨i, k, hi, hk⟩ := exists_units hxz (.inr h.no_decimal)
  obtain ⟨j, -, hj, -⟩ := exists_units hyz (.inr h.no_decimal)
  obtain ⟨o, ho⟩ := Option.isSome_iff_exists.mp hxy
  have hdiffer := h.differ
  rw [ho, compareFloats?_of_units hi hj, Ne, Option.some_inj] at hdiffer
  rcases h.between with ⟨hik, hkj⟩ | ⟨hjk, hki⟩
  · rw [compareFloats?_ne_gt_iff hi hk] at hik
    rw [compareFloats?_ne_gt_iff hk hj] at hkj
    exact Value.exists_circle h.no_decimal hi hj hk hik hkj ho hdiffer
  · rw [compareFloats?_ne_gt_iff hj hk] at hjk
    rw [compareFloats?_ne_gt_iff hk hi] at hki
    have hyx : y.compareNumbers? x = some o.swap := by
      rw [compareNumbers?_swap, ho]
      rfl
    have hdiffer' : o.swap ≠ Ord.compare j i := by
      intro heq
      have hswap : Ord.compare j i = (Ord.compare i j).swap := Std.OrientedCmp.eq_swap
      rw [hswap, Ordering.swap_inj] at heq
      exact hdiffer heq
    obtain ⟨p, q, r, hperm, hcircle⟩ :=
      Value.exists_circle h.no_decimal hj hi hk hjk hki hyx hdiffer'
    exact ⟨p, q, r, hperm.trans (.swap x y [z]), hcircle⟩

end

/-! ### Numbers -/

/-- Integers and binary numbers. -/
def IsNumber : Value → Prop
  | integer _ => True
  | float _ => True
  | _ => False

/-- A finite binary number has the least units of its magnitude. -/
lemma natAbs_of_float {negative : Bool} {m : Magnitude}
    (hi : (float (.finite negative m)).units? = some i) : i.natAbs = m.units := by
  have hunits : (if negative then -(m.units : ℤ) else m.units) = i := Option.some_injective _ hi
  rw [← hunits]
  cases negative with
  | true => exact Int.natAbs_neg _
  | false => rfl

/-- An integer is less than `2 ^ 96`, also when it is rounded to a binary number. -/
lemma natAbs_lt_of_integer {n : Int64} (hi : (integer n).units? = some i) :
    i.natAbs < 2 ^ 96 * unitsOfOne := by
  have hbinary : (float (Binary64.ofInt n.toInt)).units? = some i := hi
  rw [Binary64.ofInt, Binary64.ofRatio] at hbinary
  cases hm : Magnitude.nearest? n.toInt.natAbs 1 with
  | some m =>
      rw [hm, Option.elim_some] at hbinary
      have hle := Magnitude.nearestUnits_le n.toInt.natAbs
      have hmul := Nat.mul_le_mul_right unitsOfOne (natAbs_toInt_le n)
      have hone : 0 < unitsOfOne := Magnitude.unitsOfOne_pos
      rw [natAbs_of_float hbinary, Magnitude.units_of_nearest? hm]
      generalize unitsOfOne = one at *
      omega
  | none =>
      rw [hm, Option.elim_none] at hbinary
      cases hbinary

/-- A number with a binary form is an integer or a finite binary number. -/
lemma IsNumber.integer_or_finite (hx : x.IsNumber) (hi : x.units? = some i) :
    (∃ n, x = integer n) ∨ ∃ negative m, x = float (.finite negative m) ∧ i.natAbs = m.units := by
  cases x with
  | integer n => exact .inl ⟨n, rfl⟩
  | float f =>
      cases f with
      | finite negative m => exact .inr ⟨negative, m, rfl, natAbs_of_float hi⟩
      | nan => cases hi
      | infinite => cases hi
  | _ => exact hx.elim

section

variable [Conversion]

/-- An integer has a decimal form. -/
lemma isSome_decimal?_integer (n : Int64) : (integer n).decimal?.isSome :=
  Decimal.isSome_ofInt? n

/-- A finite binary number has a decimal form exactly if it is below `2 ^ 96` or is converted. -/
lemma isSome_decimal?_float_iff (negative : Bool) (m : Magnitude) :
    (float (.finite negative m)).decimal?.isSome
      ↔ m.units < 2 ^ 96 * unitsOfOne
        ∨ (Conversion.toDecimal? (.finite negative m)).isSome := by
  rw [decimal?, Option.orElse_eq_or, Option.isSome_or, Bool.or_eq_true, isSome_ofText?_text_iff]

/-- A number without a decimal form is a finite binary number of `2 ^ 96` or more that is not
converted. -/
lemma IsNumber.exists_float (hx : x.IsNumber) (hdecimal : x.decimal? = none)
    (hi : x.units? = some i) :
    ∃ negative m, i.natAbs = m.units ∧ 2 ^ 96 * unitsOfOne ≤ m.units
      ∧ ¬ (Conversion.toDecimal? (.finite negative m)).isSome := by
  rw [← Option.not_isSome_iff_eq_none] at hdecimal
  rcases hx.integer_or_finite hi with ⟨n, rfl⟩ | ⟨negative, m, rfl, hm⟩
  · exact absurd (isSome_decimal?_integer n) hdecimal
  · rw [isSome_decimal?_float_iff, not_or] at hdecimal
    exact ⟨negative, m, hm, not_lt.mp hdecimal.1, hdecimal.2⟩

/-- If the conversion has a range, a number with a decimal form is nearer to zero than one
without. -/
lemma IsNumber.natAbs_lt (hrange : Conversion.HasRange) (hx : x.IsNumber) (hz : z.IsNumber)
    (hdecimal : x.decimal?.isSome) (hnone : z.decimal? = none) (hi : x.units? = some i)
    (hk : z.units? = some k) : i.natAbs < k.natAbs := by
  obtain ⟨negative, m, hm, hlimit, hconverted⟩ := hz.exists_float hnone hk
  rw [hm]
  rcases hx.integer_or_finite hi with ⟨n, rfl⟩ | ⟨negative', m', rfl, hm'⟩
  · exact (natAbs_lt_of_integer hi).trans_le hlimit
  · rw [hm']
    rcases (isSome_decimal?_float_iff negative' m').mp hdecimal with hlt | hconverted'
    · exact hlt.trans_le hlimit
    · -- were it not nearer, the number without a decimal form would be converted too
      by_contra hle
      exact hconverted (hrange (not_lt.mp hle) hconverted')

/-- No number splits two others: without a decimal form it is beyond all that have one. -/
lemma IsNumber.not_splits (hrange : Conversion.HasRange) (hx : x.IsNumber) (hy : y.IsNumber)
    (hz : z.IsNumber) (hxz : (x.compareNumbers? z).isSome) (hyz : (y.compareNumbers? z).isSome) :
    ¬ z.Splits x y := by
  intro h
  obtain ⟨i, k, hi, hk⟩ := exists_units hxz (.inr h.no_decimal)
  obtain ⟨j, -, hj, -⟩ := exists_units hyz (.inr h.no_decimal)
  have hik := hx.natAbs_lt hrange hz h.decimals.1 h.no_decimal hi hk
  have hjk := hy.natAbs_lt hrange hz h.decimals.2 h.no_decimal hj hk
  have hbetween := h.between
  rw [compareFloats?_ne_gt_iff hi hk, compareFloats?_ne_gt_iff hk hj,
    compareFloats?_ne_gt_iff hj hk, compareFloats?_ne_gt_iff hk hi] at hbetween
  omega

/-! ### The order of numbers -/

/-- **Where the order of numbers is transitive.** Of three values that can all be compared as
numbers, the first is not greater than the third if it is not greater than the second, and the
second not than the third, unless one of them splits the two others. If one does, then the three
are in a circle in some order. Among integers and binary numbers none does, if the conversion of
binary numbers has a range. -/
theorem number_order_trans (a b c : Value) (hab : (a.compareNumbers? b).isSome)
    (hbc : (b.compareNumbers? c).isSome) (hac : (a.compareNumbers? c).isSome) :
    let split := a.Splits b c ∨ b.Splits a c ∨ c.Splits a b
    (¬ split → a.compareNumbers? b ≠ some .gt → b.compareNumbers? c ≠ some .gt →
        a.compareNumbers? c ≠ some .gt)
    ∧ (split → ∃ p q r, [p, q, r].Perm [a, b, c] ∧ p.compareNumbers? q ≠ some .gt
        ∧ q.compareNumbers? r ≠ some .gt ∧ p.compareNumbers? r = some .gt)
    ∧ (Conversion.HasRange → a.IsNumber → b.IsNumber → c.IsNumber → ¬ split) := by
  intro split
  have hba := isSome_compareNumbers?_comm hab
  have hcb := isSome_compareNumbers?_comm hbc
  have hca := isSome_compareNumbers?_comm hac
  refine ⟨compareNumbers?_trans hab hbc hac, ?_, ?_⟩
  · rintro (h | h | h)
    · obtain ⟨p, q, r, hperm, hcircle⟩ := h.exists_circle hbc hba hca
      have hrotate : ([b, c] ++ [a]).Perm ([a] ++ [b, c]) := List.perm_append_comm
      exact ⟨p, q, r, hperm.trans hrotate, hcircle⟩
    · obtain ⟨p, q, r, hperm, hcircle⟩ := h.exists_circle hac hab hcb
      exact ⟨p, q, r, hperm.trans (.cons a (.swap b c [])), hcircle⟩
    · exact h.exists_circle hab hac hbc
  · rintro hrange ha hb hc (h | h | h)
    · exact hb.not_splits hrange hc ha hba hca h
    · exact ha.not_splits hrange hc hb hab hcb h
    · exact ha.not_splits hrange hb hc hac hbc h

end

/-- A tiny binary number is less than one without a decimal form, as the negative integer that is
less than the tiny one is. -/
theorem number_order_trans_three_numbers :
    let tiny := Value.float (Binary64.ofScientific false 1 (-29))
    let huge := Value.float (Binary64.ofScientific false 1 29)
    Conversion.HasRange ∧ tiny.decimal?.isSome ∧ huge.decimal? = none
    ∧ ((integer (-1)).compareNumbers? tiny).isSome ∧ (tiny.compareNumbers? huge).isSome
    ∧ ((integer (-1)).compareNumbers? huge).isSome
    ∧ (integer (-1)).compareNumbers? huge ≠ some .gt := by
  intro tiny huge
  have hleft : ((integer (-1)).compareNumbers? tiny).isSome := by decide +kernel
  have hright : (tiny.compareNumbers? huge).isSome := by decide +kernel
  have hends : ((integer (-1)).compareNumbers? huge).isSome := by decide +kernel
  obtain ⟨htrans, -, hnumbers⟩ := number_order_trans (integer (-1)) tiny huge hleft hright hends
  have hrange : Conversion.HasRange := Decimal.hasRange_ofBinary?
  refine ⟨hrange, by decide +kernel, by decide +kernel, hleft, hright, hends, ?_⟩
  exact htrans (hnumbers hrange trivial trivial trivial) (by decide +kernel) (by decide +kernel)

/-- The order of numbers is not transitive on texts that write numbers: `2 ^ 96` has no decimal form
and rounds to the same binary number as the two numbers before it, which do have one. -/
theorem not_forall_number_order_trans :
    ¬ ∀ a b c : Value, (a.compareNumbers? b).isSome → (b.compareNumbers? c).isSome →
      (a.compareNumbers? c).isSome → a.compareNumbers? b ≠ some .gt →
      b.compareNumbers? c ≠ some .gt → a.compareNumbers? c ≠ some .gt := by
  intro h
  have hle := h (string "79228162514264337593543950335") (string "79228162514264337593543950336")
    (string "79228162514264337593543950334") (by decide +kernel) (by decide +kernel)
    (by decide +kernel) (by decide +kernel) (by decide +kernel)
  exact hle (by decide +kernel)

end Value

end RowQuery
