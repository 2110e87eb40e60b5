/-
The order of rows.

Two cells are compared as numbers if both are numbers and by their texts otherwise, so exchanging
two rows reverses their order, but three rows need not be in one order. They are where every
column has cells of one kind only. All of this holds however binary numbers are converted to
decimals.

* `Decimal.value`: decimals are compared as the rational numbers they stand for;
* `Value.compareNumbers?_swap` and the instances after it: exchanging two values, or two rows,
  reverses their order;
* `Homogeneous`: every cell of a column has a decimal form, or none is a number;
* `transOn_compareRows`: on homogeneous columns the order of rows is transitive;
* `SortKey.reversed`, `compareRows_reversed`: keys in the other direction reverse the order of rows;
* `compare_swap_and_reversed`: all that reverses an order.
-/
import RowQuery.Proofs.Sorting.Merge

namespace RowQuery

open Number
open Std (OrientedCmp TransCmp)

/-! ### Numbers -/

namespace Number

/-- The rational number that a decimal stands for. -/
def Decimal.value (d : Decimal) : ℚ := d.signedCoefficient / 10 ^ d.places

/-- Decimals are in the order of their values. -/
lemma Decimal.compare_eq (a b : Decimal) : a.compare b = Ord.compare a.value b.value := by
  have hpos : ∀ d : Decimal, (0 : ℚ) < 10 ^ d.places := fun d => by positivity
  have hlt : ∀ c d : Decimal, c.value < d.value
      ↔ c.signedCoefficient * Nat.pow 10 d.places < d.signedCoefficient * Nat.pow 10 c.places := by
    intro c d
    rw [value, value, div_lt_div_iff₀ (hpos c) (hpos d)]
    exact_mod_cast Iff.rfl
  rw [Decimal.compare]
  rcases lt_trichotomy a.value b.value with h | h | h
  · rw [compare_lt_iff_lt.mpr h, compare_lt_iff_lt]
    exact (hlt a b).mp h
  · rw [compare_eq_iff_eq.mpr h, compare_eq_iff_eq]
    refine le_antisymm ?_ ?_
    · exact not_lt.mp fun hba => h.not_gt ((hlt b a).mpr hba)
    · exact not_lt.mp fun hab => h.not_lt ((hlt a b).mpr hab)
  · rw [compare_gt_iff_gt.mpr h, compare_gt_iff_gt]
    exact (hlt b a).mp h

/-- The order of decimals is an order. -/
instance : TransCmp Decimal.compare where
  eq_swap {a b} := by
    rw [Decimal.compare_eq, Decimal.compare_eq]
    exact OrientedCmp.eq_swap
  isLE_trans {a b c} hab hbc := by
    rw [Decimal.compare_eq] at hab hbc ⊢
    exact TransCmp.isLE_trans hab hbc

/-- Exchanging two binary numbers reverses their order. -/
lemma Binary64.compare?_swap (a b : Binary64) :
    a.compare? b = (b.compare? a).map Ordering.swap := by
  rw [compare?, compare?]
  cases a.units? with
  | none => cases b.units? <;> rfl
  | some x =>
      cases b.units? with
      | none => rfl
      | some y => exact congrArg some OrientedCmp.eq_swap

end Number

/-! ### Values -/

namespace Value

variable {a b : Value}

/-- The order of the binary forms of two values, if both have one. -/
def compareFloats? (a b : Value) : Option Ordering :=
  match a.float?, b.float? with
  | some x, some y => x.compare? y
  | _, _ => none

/-- Exchanging two values reverses the order of their binary forms. -/
lemma compareFloats?_swap (a b : Value) :
    a.compareFloats? b = (b.compareFloats? a).map Ordering.swap := by
  rw [compareFloats?, compareFloats?]
  cases a.float? with
  | none => cases b.float? <;> rfl
  | some x =>
      cases b.float? with
      | none => rfl
      | some y => exact x.compare?_swap y

/-- The order of two texts does not depend on how binary numbers are converted. -/
lemma compare_string_congr (c c' : Conversion) (s s' : String) :
    @Value.compare c (string s) (string s') = @Value.compare c' (string s) (string s') := rfl

variable [Conversion]

/-- Two values with decimal forms are compared by them. -/
lemma compareNumbers?_of_decimal {x y : Decimal} (ha : a.decimal? = some x)
    (hb : b.decimal? = some y) : a.compareNumbers? b = some (x.compare y) := by
  rw [compareNumbers?, ha, hb]

/-- Two values that have not both decimal forms are compared by their binary ones. -/
lemma compareNumbers?_of_eq_none (h : a.decimal? = none ∨ b.decimal? = none) :
    a.compareNumbers? b = a.compareFloats? b := by
  rw [compareNumbers?, compareFloats?]
  rcases h with h | h
  · rewrite [h]
    cases b.decimal? <;> rfl
  · rewrite [h]
    cases a.decimal? <;> rfl

/-- Exchanging two values reverses their order as numbers. -/
lemma compareNumbers?_swap (a b : Value) :
    a.compareNumbers? b = (b.compareNumbers? a).map Ordering.swap := by
  by_cases h : a.decimal? = none ∨ b.decimal? = none
  · rw [compareNumbers?_of_eq_none h, compareNumbers?_of_eq_none h.symm]
    exact compareFloats?_swap a b
  · obtain ⟨ha, hb⟩ := not_or.mp h
    obtain ⟨x, hx⟩ := Option.ne_none_iff_exists'.mp ha
    obtain ⟨y, hy⟩ := Option.ne_none_iff_exists'.mp hb
    have hswap : x.compare y = (y.compare x).swap := OrientedCmp.eq_swap
    rw [compareNumbers?_of_decimal hx hy, compareNumbers?_of_decimal hy hx, hswap, Option.map_some]

/-- Exchanging two values reverses their order. -/
instance : OrientedCmp Value.compare where
  eq_swap {a b} := by
    rw [Value.compare, Value.compare, a.compareNumbers?_swap b]
    cases b.compareNumbers? a with
    | none =>
        show Ord.compare a.text b.text = (Ord.compare b.text a.text).swap
        exact OrientedCmp.eq_swap
    | some o => rfl

/-- Two values with decimal forms are in the order of these. -/
lemma compare_of_decimal {x y : Decimal} (ha : a.decimal? = some x) (hb : b.decimal? = some y) :
    a.compare b = x.compare y := by
  rw [Value.compare, compareNumbers?_of_decimal ha hb, Option.getD_some]

/-- A value that is no number is compared by its text. -/
lemma compare_of_no_number (hdecimal : a.decimal? = none) (hfloat : a.float? = none) :
    a.compare b = Ord.compare a.text b.text := by
  rw [Value.compare, compareNumbers?_of_eq_none (.inl hdecimal), compareFloats?, hfloat]
  rfl

end Value

/-! ### Rows -/

variable [Conversion]

/-- The value of a row in a column; a missing cell has the null value. -/
def Row.cell (r : Row) (column : String) : Value := (r.get? column).getD .null

/-- In a column every cell has a decimal form, or none is a number. -/
def Homogeneous (rows : List Row) (column : String) : Prop :=
  (∀ r ∈ rows, (r.cell column).decimal?.isSome)
    ∨ ∀ r ∈ rows, (r.cell column).decimal? = none ∧ (r.cell column).float? = none

instance (rows : List Row) (column : String) : Decidable (Homogeneous rows column) := by
  unfold Homogeneous
  infer_instance

/-- Exchanging two rows reverses their order in a column. -/
instance (key : SortKey) : OrientedCmp key.compare where
  eq_swap {a b} := by
    have hswap : ((a.get? key.column).getD .null).compare ((b.get? key.column).getD .null)
        = (((b.get? key.column).getD .null).compare ((a.get? key.column).getD .null)).swap :=
      OrientedCmp.eq_swap
    rw [SortKey.compare, SortKey.compare, hswap]
    cases key.direction <;> rfl

/-- Exchanging two rows reverses their order. -/
instance (keys : List SortKey) : OrientedCmp (compareRows keys) where
  eq_swap {a b} := by
    induction keys with
    | nil => rfl
    | cons key rest ih =>
        have hkey : key.compare a b = (key.compare b a).swap := OrientedCmp.eq_swap
        rw [compareRows, compareRows, hkey, ih, Ordering.swap_then]

/-- The order by a single key is that of its column. -/
lemma compareRows_singleton (key : SortKey) : compareRows [key] = key.compare := by
  funext a b
  rw [compareRows, compareRows, Ordering.then_eq]

/-- In a homogeneous column the order of the values is transitive. -/
lemma Homogeneous.isLE_trans {rows : List Row} {column : String} (h : Homogeneous rows column)
    {a b c : Row} (ha : a ∈ rows) (hb : b ∈ rows) (hc : c ∈ rows)
    (hab : ((a.cell column).compare (b.cell column)).isLE)
    (hbc : ((b.cell column).compare (c.cell column)).isLE) :
    ((a.cell column).compare (c.cell column)).isLE := by
  rcases h with h | h
  · obtain ⟨x, hx⟩ := Option.isSome_iff_exists.mp (h a ha)
    obtain ⟨y, hy⟩ := Option.isSome_iff_exists.mp (h b hb)
    obtain ⟨z, hz⟩ := Option.isSome_iff_exists.mp (h c hc)
    rw [Value.compare_of_decimal hx hy] at hab
    rw [Value.compare_of_decimal hy hz] at hbc
    rw [Value.compare_of_decimal hx hz]
    exact TransCmp.isLE_trans hab hbc
  · rw [Value.compare_of_no_number (h a ha).1 (h a ha).2] at hab ⊢
    rw [Value.compare_of_no_number (h b hb).1 (h b hb).2] at hbc
    exact TransCmp.isLE_trans hab hbc

/-- In a homogeneous column the order of the rows is transitive, in either direction. -/
lemma Homogeneous.transOn_compare {rows : List Row} {key : SortKey}
    (h : Homogeneous rows key.column) : TransOn key.compare rows := by
  intro a ha b hb c hc hab hbc
  cases hdirection : key.direction with
  | ascending =>
      simp only [SortKey.compare, hdirection] at hab hbc ⊢
      exact h.isLE_trans ha hb hc hab hbc
  | descending =>
      simp only [SortKey.compare, hdirection, Ordering.isLE_swap,
        OrientedCmp.isGE_iff_isLE] at hab hbc ⊢
      exact h.isLE_trans hc hb ha hbc hab

/-- On homogeneous columns the order of the rows is transitive. -/
lemma transOn_compareRows {rows : List Row} {keys : List SortKey}
    (h : ∀ key ∈ keys, Homogeneous rows key.column) : TransOn (compareRows keys) rows := by
  induction keys with
  | nil => intro a _ b _ c _ _ _; rfl
  | cons key rest ih =>
      have hkey := (h key List.mem_cons_self).transOn_compare
      have hrest := ih fun other hother => h other (List.mem_cons_of_mem key hother)
      intro a ha b hb c hc hab hbc
      rw [compareRows] at hab hbc ⊢
      have hle : ∀ {o p : Ordering}, (o.then p).isLE → o.isLE := by
        intro o p hop
        cases o <;> simp_all
      have hac := hkey a ha b hb c hc (hle hab) (hle hbc)
      rcases Ordering.isLE_iff_eq_lt_or_eq_eq.mp hac with hlt | heq
      · simp [hlt]
      -- equal at both ends, the three rows are equal in the column, and the rest decides
      have hca : (key.compare c a).isLE := by simp [OrientedCmp.eq_comm.mp heq]
      have hab' : key.compare a b = .eq :=
        OrientedCmp.isLE_antisymm (hle hab) (hkey b hb c hc a ha (hle hbc) hca)
      have hbc' : key.compare b c = .eq :=
        OrientedCmp.isLE_antisymm (hle hbc) (hkey c hc a ha b hb hca (hle hab))
      rw [hab', Ordering.eq_then] at hab
      rw [hbc', Ordering.eq_then] at hbc
      rw [heq, Ordering.eq_then]
      exact hrest a ha b hb c hc hab hbc

/-! ### Reversed keys -/

/-- The other direction. -/
def Direction.reversed : Direction → Direction
  | ascending => descending
  | descending => ascending

/-- The same column in the other direction. -/
def SortKey.reversed (key : SortKey) : SortKey := { key with direction := key.direction.reversed }

/-- In the other direction a key reverses the order of two rows. -/
lemma SortKey.compare_reversed (key : SortKey) (a b : Row) :
    key.reversed.compare a b = (key.compare a b).swap := by
  cases hdirection : key.direction with
  | ascending => simp [SortKey.compare, reversed, hdirection, Direction.reversed]
  | descending => simp [SortKey.compare, reversed, hdirection, Direction.reversed]

/-- Keys in the other direction reverse the order of rows: the first column in which two rows differ
is the same. -/
lemma compareRows_reversed (keys : List SortKey) (a b : Row) :
    compareRows (keys.map SortKey.reversed) a b = (compareRows keys a b).swap := by
  induction keys with
  | nil => rfl
  | cons key rest ih =>
      rw [List.map_cons, compareRows, compareRows, key.compare_reversed, ih, Ordering.swap_then]

/-- **What reverses an order.** Exchanging two values reverses their order as numbers, and they have
none in one direction exactly if they have none in the other. Exchanging two rows reverses their
order by any keys, and so does the other direction of every key. -/
theorem compare_swap_and_reversed (v w : Value) (a b : Row) (keys : List SortKey) :
    v.compareNumbers? w = (w.compareNumbers? v).map Ordering.swap
    ∧ (v.compareNumbers? w = none ↔ w.compareNumbers? v = none)
    ∧ compareRows keys a b = (compareRows keys b a).swap
    ∧ compareRows (keys.map SortKey.reversed) a b = (compareRows keys a b).swap := by
  have hswap := v.compareNumbers?_swap w
  refine ⟨hswap, ?_, OrientedCmp.eq_swap, compareRows_reversed keys a b⟩
  rw [hswap, Option.map_eq_none_iff]

end RowQuery
