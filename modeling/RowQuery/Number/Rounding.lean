/-
Rounding of ratios of natural numbers to whole numbers.

* `roundToEven`: the nearest whole number, a half going to the even neighbour;
* `le_roundToEven`, `roundToEven_le`: the result is one of the two whole neighbours.
-/

namespace RowQuery.Number

/-- The whole number nearest to `num / den`, a half going to the even neighbour. -/
def roundToEven (num den : Nat) : Nat :=
  let whole := num / den
  let rest := num % den
  if 2 * rest < den || (2 * rest == den && whole % 2 == 0) then whole else whole + 1

/-- Rounding never goes below the whole part. -/
theorem le_roundToEven (num den : Nat) : num / den ≤ roundToEven num den := by
  unfold roundToEven
  dsimp only
  split <;> omega

/-- Rounding goes up by one at most. -/
theorem roundToEven_le (num den : Nat) : roundToEven num den ≤ num / den + 1 := by
  unfold roundToEven
  dsimp only
  split <;> omega

/-- A whole ratio rounds to itself. -/
theorem roundToEven_mul (whole den : Nat) (h : 0 < den) :
    roundToEven (whole * den) den = whole := by
  simp [roundToEven, Nat.mul_div_cancel _ h, h]

end RowQuery.Number
