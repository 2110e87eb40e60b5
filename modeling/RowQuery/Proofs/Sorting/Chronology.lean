/-
Timestamps in order.

Timestamps are no numbers, so rows are compared by their texts. In the years 0 to 9999 these have
the same fields of digits in the same places, from the year down to the second, and are in the
order of the fields. The text of a midnight ends with the day; so it comes before every other text
of that day, as midnight does.

* `compare_ofList`, `compare_append`, `compare_digits`: texts are compared character by character,
  part by part, and digits as the numbers that they write;
* `Timestamp.chronological`: the order by year, month, day, hour, minute and second;
* `Timestamp.compare_dateText`, `Timestamp.compare_clockText`: the two parts of the text of a
  timestamp are in this order;
* `compareRows_timestamps`: rows are compared by their timestamps;
* `isStableSort_chronological`: rows sorted by their timestamps.
-/
import Mathlib.Data.String.Basic
import RowQuery.Proofs.Number.Plain
import RowQuery.Proofs.Restated.Value
import RowQuery.Proofs.Sorting.Rows

namespace RowQuery

open Number
open Std (OrientedCmp ReflCmp)

/-! ### The order of texts -/

/-- Texts are in the order of their lists of characters. -/
lemma compare_ofList (s t : List Char) :
    compare (String.ofList s) (String.ofList t) = compare s t := by
  have hlist : ∀ {s t : List Char}, s < t → compare s t = .lt := by
    intro s t h
    induction h with
    | nil => rfl
    | cons _ ih => simp [List.compare_cons_cons, ih]
    | rel h =>
        rw [List.compare_cons_cons, compare_lt_iff_lt.mpr h]
        rfl
  have htext : ∀ {s t : List Char}, s < t → String.ofList s < String.ofList t := by
    intro s t h
    rwa [String.lt_iff_toList_lt, String.toList_ofList, String.toList_ofList]
  rcases lt_trichotomy s t with h | rfl | h
  · rw [hlist h, compare_lt_iff_lt]
    exact htext h
  · have hself : compare s s = .eq := ReflCmp.compare_self
    rw [hself, compare_eq_iff_eq]
  · have hswap : compare s t = (compare t s).swap := OrientedCmp.eq_swap
    rw [hswap, hlist h, Ordering.swap_lt, compare_gt_iff_gt]
    exact htext h

/-- Lists whose first parts have the same length are compared by these first. -/
lemma compare_append {s s' : List Char} (h : s.length = s'.length) (t t' : List Char) :
    compare (s ++ t) (s' ++ t') = (compare s s').then (compare t t') := by
  induction s generalizing s' with
  | nil =>
      obtain rfl := List.eq_nil_of_length_eq_zero h.symm
      rfl
  | cons c s ih =>
      cases s' with
      | nil => cases h
      | cons c' s' =>
          rw [List.cons_append, List.cons_append, List.compare_cons_cons, List.compare_cons_cons,
            ih (Nat.succ_inj.mp h), Ordering.then_assoc]

/-- Behind the same character the rest decides. -/
lemma compare_cons_self (c : Char) (s t : List Char) : compare (c :: s) (c :: t) = compare s t := by
  have hself : compare c c = .eq := ReflCmp.compare_self
  rw [List.compare_cons_cons, hself, Ordering.eq_then]

/-! ### The order of digits -/

/-- Numbers are compared by their quotients first and then by their remainders. -/
lemma compare_mul_add {p x y : ℕ} (a b : ℕ) (hx : x < p) (hy : y < p) :
    compare (p * a + x) (p * b + y) = (compare a b).then (compare x y) := by
  have hlt : ∀ {a b x : ℕ} (y : ℕ), x < p → a < b → p * a + x < p * b + y := by
    intro a b x y hx hab
    calc p * a + x < p * (a + 1) := by rw [Nat.mul_succ]; omega
      _ ≤ p * b := Nat.mul_le_mul_left p hab
      _ ≤ p * b + y := Nat.le_add_right _ y
  rcases lt_trichotomy a b with h | rfl | h
  · rw [compare_lt_iff_lt.mpr h, compare_lt_iff_lt.mpr (hlt y hx h)]
    rfl
  · have hself : compare a a = .eq := ReflCmp.compare_self
    rw [hself, Ordering.eq_then, ← cmp_eq_compare, ← cmp_eq_compare, cmp_add_left]
  · rw [compare_gt_iff_gt.mpr h, compare_gt_iff_gt.mpr (hlt x hy h)]
    rfl

/-- A digit is in the order of its value. -/
lemma compare_digit {c d : Char} (hc : c.isDigit) (hd : d.isDigit) :
    compare c d = compare (c.toNat - '0'.toNat) (d.toNat - '0'.toNat) := by
  have hmono : StrictMonoOn (fun c : Char => c.toNat - '0'.toNat) {c | c.isDigit} := by
    intro c hc d _ hlt
    have hlow : '0'.toNat ≤ c.toNat := by
      simp only [Set.mem_ofPred_eq, Char.isDigit, Bool.and_eq_true, decide_eq_true_eq] at hc
      exact hc.1
    have hval : c.toNat < d.toNat := hlt
    show c.toNat - '0'.toNat < d.toNat - '0'.toNat
    omega
  rw [← cmp_eq_compare, ← cmp_eq_compare]
  exact (hmono.cmp_map_eq hc hd).symm

/-- As many digits as others are in the order of the numbers that they write. -/
lemma compare_digits {ds es : List Char} (hlength : ds.length = es.length)
    (hds : ∀ c ∈ ds, c.isDigit) (hes : ∀ c ∈ es, c.isDigit) :
    compare ds es = compare (Nat.ofDigitChars 10 ds 0) (Nat.ofDigitChars 10 es 0) := by
  induction ds generalizing es with
  | nil =>
      obtain rfl := List.eq_nil_of_length_eq_zero hlength.symm
      rfl
  | cons d ds ih =>
      cases es with
      | nil => cases hlength
      | cons e es =>
          obtain ⟨hd, hds⟩ := List.forall_mem_cons.mp hds
          obtain ⟨he, hes⟩ := List.forall_mem_cons.mp hes
          have hsame : ds.length = es.length := Nat.succ_inj.mp hlength
          have hlt : Nat.ofDigitChars 10 es 0 < 10 ^ ds.length := hsame ▸ ofDigitChars_lt hes
          -- the first digit counts more than all digits after it
          calc compare (d :: ds) (e :: es)
              = (compare d e).then (compare ds es) := List.compare_cons_cons
            _ = (compare (d.toNat - '0'.toNat) (e.toNat - '0'.toNat)).then
                  (compare (Nat.ofDigitChars 10 ds 0) (Nat.ofDigitChars 10 es 0)) := by
                rw [compare_digit hd he, ih hsame hds hes]
            _ = compare (10 ^ ds.length * (d.toNat - '0'.toNat) + Nat.ofDigitChars 10 ds 0)
                  (10 ^ ds.length * (e.toNat - '0'.toNat) + Nat.ofDigitChars 10 es 0) :=
                (compare_mul_add _ _ (ofDigitChars_lt hds) hlt).symm
            _ = compare (Nat.ofDigitChars 10 (d :: ds) 0) (Nat.ofDigitChars 10 (e :: es) 0) := by
                rw [ofDigitChars_cons_eq, ofDigitChars_cons_eq, hsame]

namespace Timestamp

variable {s t : Timestamp}

/-! ### Fields of a fixed width -/

/-- A number with zeros in front of it is as wide as it should be, if it fits. -/
lemma length_padded {width n : ℕ} (hwidth : 0 < width) (hn : n < 10 ^ width) :
    (padded width n).length = width := by
  have hle : (Nat.toDigits 10 n).length ≤ width :=
    (Nat.length_toDigits_le_iff (by omega) hwidth).mpr hn
  rw [padded, List.length_append, List.length_replicate]
  omega

/-- Zeros in front of a number do not change it. -/
lemma ofDigitChars_padded (width n : ℕ) : Nat.ofDigitChars 10 (padded width n) 0 = n := by
  rw [padded, Nat.ofDigitChars_append, Nat.ofDigitChars_replicate_zero, Nat.mul_zero,
    Nat.ofDigitChars_ten_toDigits]

/-- Numbers written with the same width are in their order. -/
lemma compare_padded {width m n : ℕ} (hwidth : 0 < width) (hm : m < 10 ^ width)
    (hn : n < 10 ^ width) : compare (padded width m) (padded width n) = compare m n := by
  have hlength : (padded width m).length = (padded width n).length := by
    rw [length_padded hwidth hm, length_padded hwidth hn]
  rw [compare_digits hlength (fun _ => isDigit_of_mem_padded) (fun _ => isDigit_of_mem_padded),
    ofDigitChars_padded, ofDigitChars_padded]

/-- Three numbers with a mark between them are compared one after the other, if the first ones
have the same width and the others two digits. -/
lemma compare_marked {first first' : List Char} {m m' n n' : ℕ} (mark : Char)
    (hlength : first.length = first'.length) (hm : m < 100) (hm' : m' < 100) (hn : n < 100)
    (hn' : n' < 100) :
    compare (first ++ mark :: padded 2 m ++ mark :: padded 2 n)
        (first' ++ mark :: padded 2 m' ++ mark :: padded 2 n')
      = (compare first first').then ((compare m m').then (compare n n')) := by
  have hwidth : (padded 2 m).length = (padded 2 m').length := by
    rw [length_padded two_pos hm, length_padded two_pos hm']
  rw [List.append_assoc, List.append_assoc, compare_append hlength, List.cons_append,
    List.cons_append, compare_cons_self, compare_append hwidth, compare_cons_self,
    compare_padded two_pos hm hm', compare_padded two_pos hn hn']

/-! ### The order of timestamps -/

/-- The second of the minute; a leap second is second 60. -/
def secondOfMinute (t : Timestamp) : ℕ :=
  if t.fields.nanosecond < 1000000000 then t.fields.second else 60

/-- The order of the dates of two timestamps. -/
def compareDates : Timestamp → Timestamp → Ordering :=
  compareLex (compareOn (·.fields.year)) <|
    compareLex (compareOn (·.fields.month)) (compareOn (·.fields.day))

/-- The order of the times of day of two timestamps, fractions of a second aside. -/
def compareTimes : Timestamp → Timestamp → Ordering :=
  compareLex (compareOn (·.fields.hour)) <|
    compareLex (compareOn (·.fields.minute)) (compareOn (·.secondOfMinute))

/-- The order of two timestamps by year, month, day, hour, minute and second. -/
def chronological : Timestamp → Timestamp → Ordering := compareLex compareDates compareTimes

instance : OrientedCmp compareTimes := inferInstanceAs (OrientedCmp (compareLex _ _))

/-- The second is written as it counts. -/
lemma shownSecond_eq (t : Timestamp) : t.shownSecond = t.secondOfMinute := by
  have hfraction := t.valid.2.2.2.2
  rw [shownSecond, secondOfMinute]
  split_ifs <;> omega

/-- Midnight is when the hour, the minute and the second are zero. -/
lemma isMidnight_iff :
    t.isMidnight ↔ t.fields.hour = 0 ∧ t.fields.minute = 0 ∧ t.secondOfMinute = 0 := by
  simp [isMidnight, shownSecond_eq, and_assoc]

/-- Midnight comes before every other time of the day. -/
lemma compareTimes_of_isMidnight (hs : s.isMidnight) (ht : ¬ t.isMidnight) :
    compareTimes s t = .lt := by
  have hfirst : ∀ {n : ℕ} {o : Ordering}, (n = 0 → o = .lt) → (compare 0 n).then o = .lt := by
    intro n o h
    obtain rfl | hpos := Nat.eq_zero_or_pos n
    · exact h rfl
    · rw [compare_lt_iff_lt.mpr hpos, Ordering.lt_then]
  obtain ⟨hhour, hminute, hsecond⟩ := isMidnight_iff.mp hs
  rw [isMidnight_iff] at ht
  show (compare s.fields.hour _).then ((compare s.fields.minute _).then
    (compare s.secondOfMinute _)) = .lt
  rw [hhour, hminute, hsecond]
  refine hfirst fun hhour' => hfirst fun hminute' => compare_lt_iff_lt.mpr ?_
  exact Nat.pos_of_ne_zero fun hsecond' => ht ⟨hhour', hminute', hsecond'⟩

/-- Midnights are at the same time of the day. -/
lemma compareTimes_of_midnights (hs : s.isMidnight) (ht : t.isMidnight) :
    compareTimes s t = .eq := by
  obtain ⟨hhour, hminute, hsecond⟩ := isMidnight_iff.mp hs
  obtain ⟨hhour', hminute', hsecond'⟩ := isMidnight_iff.mp ht
  show (compare s.fields.hour t.fields.hour).then ((compare s.fields.minute t.fields.minute).then
    (compare s.secondOfMinute t.secondOfMinute)) = .eq
  rw [hhour, hhour', hminute, hminute', hsecond, hsecond']
  rfl

/-! ### Their texts -/

/-- The year is written with four digits. -/
def HasFourDigitYear (t : Timestamp) : Prop := 0 ≤ t.fields.year ∧ t.fields.year ≤ 9999

lemma daysInMonth_le (year : ℤ) (month : ℕ) : daysInMonth year month ≤ 31 := by
  rw [daysInMonth]
  split_ifs <;> omega

/-- All fields after the year have two digits at most. -/
lemma fields_lt (t : Timestamp) : (t.fields.month < 100 ∧ t.fields.day < 100)
    ∧ t.fields.hour < 100 ∧ t.fields.minute < 100 ∧ t.shownSecond < 100 := by
  obtain ⟨⟨-, -, -, hmonth, -, hday⟩, hhour, hminute, hsecond, -⟩ := t.valid
  have hdays := daysInMonth_le t.fields.year t.fields.month
  have hshown : t.shownSecond ≤ t.fields.second + 1 := by
    rw [shownSecond]
    split_ifs <;> omega
  omega

lemma HasFourDigitYear.yearText_eq (h : t.HasFourDigitYear) :
    yearText t.fields.year = padded 4 t.fields.year.toNat :=
  if_pos h

lemma HasFourDigitYear.toNat_lt (h : t.HasFourDigitYear) : t.fields.year.toNat < 10 ^ 4 := by
  have hle := h.2
  omega

lemma HasFourDigitYear.length_yearText (h : t.HasFourDigitYear) :
    (yearText t.fields.year).length = 4 := by
  rw [h.yearText_eq, length_padded four_pos h.toNat_lt]

lemma HasFourDigitYear.length_dateText (h : t.HasFourDigitYear) : t.dateText.length = 10 := by
  obtain ⟨⟨hmonth, hday⟩, -⟩ := t.fields_lt
  simp [dateText, h.length_yearText, length_padded two_pos hmonth, length_padded two_pos hday]

/-- Years with four digits are written in their order. -/
lemma compare_yearText (hs : s.HasFourDigitYear) (ht : t.HasFourDigitYear) :
    compare (yearText s.fields.year) (yearText t.fields.year)
      = compare s.fields.year t.fields.year := by
  have hmono : StrictMonoOn Int.toNat {n | 0 ≤ n} := by
    intro m hm n _ hlt
    have hnonneg : 0 ≤ m := hm
    omega
  rw [hs.yearText_eq, ht.yearText_eq, compare_padded four_pos hs.toNat_lt ht.toNat_lt,
    ← cmp_eq_compare, ← cmp_eq_compare]
  exact hmono.cmp_map_eq hs.1 ht.1

/-- Dates with such years are written in their order. -/
lemma compare_dateText (hs : s.HasFourDigitYear) (ht : t.HasFourDigitYear) :
    compare s.dateText t.dateText = compareDates s t := by
  obtain ⟨⟨hmonth, hday⟩, -⟩ := s.fields_lt
  obtain ⟨⟨hmonth', hday'⟩, -⟩ := t.fields_lt
  have hlength : (yearText s.fields.year).length = (yearText t.fields.year).length := by
    rw [hs.length_yearText, ht.length_yearText]
  rw [dateText, dateText, compare_marked '-' hlength hmonth hmonth' hday hday',
    compare_yearText hs ht]
  rfl

/-- Times of day are written in their order. -/
lemma compare_timeText (s t : Timestamp) : compare s.timeText t.timeText = compareTimes s t := by
  obtain ⟨-, hhour, hminute, hsecond⟩ := s.fields_lt
  obtain ⟨-, hhour', hminute', hsecond'⟩ := t.fields_lt
  have hlength : (padded 2 s.fields.hour).length = (padded 2 t.fields.hour).length := by
    rw [length_padded two_pos hhour, length_padded two_pos hhour']
  rw [timeText, timeText, compare_marked ':' hlength hminute hminute' hsecond hsecond',
    compare_padded two_pos hhour hhour', shownSecond_eq, shownSecond_eq]
  rfl

/-- What follows the date in the text of a timestamp. -/
def clockText (t : Timestamp) : List Char := if t.isMidnight then [] else ' ' :: t.timeText

lemma text_eq (t : Timestamp) : t.text = String.ofList (t.dateText ++ t.clockText) := by
  rw [text, clockText]
  split_ifs <;> simp

/-- What follows the date is in the order of the times of day: nothing follows at midnight, and
this is before everything else. -/
lemma compare_clockText (s t : Timestamp) : compare s.clockText t.clockText = compareTimes s t := by
  rw [clockText, clockText]
  split_ifs with hs ht ht
  · rw [compareTimes_of_midnights hs ht]
    rfl
  · rw [compareTimes_of_isMidnight hs ht]
    rfl
  · have hswap : compareTimes s t = (compareTimes t s).swap := OrientedCmp.eq_swap
    rw [hswap, compareTimes_of_isMidnight ht hs]
    rfl
  · rw [compare_cons_self, compare_timeText]

/-- Timestamps with four digits in the year are written in their order. -/
lemma compare_text (hs : s.HasFourDigitYear) (ht : t.HasFourDigitYear) :
    compare s.text t.text = chronological s t := by
  have hlength : s.dateText.length = t.dateText.length := by
    rw [hs.length_dateText, ht.length_dateText]
  calc compare s.text t.text
      = compare (s.dateText ++ s.clockText) (t.dateText ++ t.clockText) := by
        rw [text_eq, text_eq, compare_ofList]
    _ = (compare s.dateText t.dateText).then (compare s.clockText t.clockText) :=
        compare_append hlength _ _
    _ = (compareDates s t).then (compareTimes s t) := by
        rw [compare_dateText hs ht, compare_clockText]
    _ = chronological s t := rfl

end Timestamp

/-! ### Rows -/

variable {column : String}

/-- A column of timestamps is in the order of these: they are no numbers, so it is their texts
that are compared. -/
lemma SortKey.compare_timestamps {a b : Row} {s t : Timestamp}
    (ha : a.get? column = some (.timestamp s)) (hb : b.get? column = some (.timestamp t))
    (hs : s.HasFourDigitYear) (ht : t.HasFourDigitYear) :
    (SortKey.mk column .ascending).compare a b = s.chronological t := by
  have hvalues : (Value.timestamp s).compare (.timestamp t) = s.chronological t := by
    rw [Value.compare_of_no_number rfl rfl]
    exact Timestamp.compare_text hs ht
  rw [SortKey.compare, ha, hb]
  exact hvalues

/-- **Timestamps in order.** Two rows with timestamps in a column, in the years 0 to 9999, are
compared by this column in the order of year, month, day, hour, minute and second, a leap second
being second 60. -/
theorem compareRows_timestamps {a b : Row} {s t : Timestamp}
    (ha : a.get? column = some (.timestamp s)) (hb : b.get? column = some (.timestamp t))
    (hs : 0 ≤ s.fields.year ∧ s.fields.year ≤ 9999)
    (ht : 0 ≤ t.fields.year ∧ t.fields.year ≤ 9999) :
    compareRows [⟨column, .ascending⟩] a b = s.chronological t := by
  rw [compareRows_singleton]
  exact SortKey.compare_timestamps ha hb hs ht

/-- A leap second comes before the midnight after it, whose text ends with the day. -/
theorem compareRows_leapSecond :
    let leap : Timestamp := ⟨⟨2016, 12, 31, 23, 59, 59, 1500000000⟩, by decide⟩
    let midnight : Timestamp := ⟨⟨2017, 1, 1, 0, 0, 0, 250000000⟩, by decide⟩
    let row := fun t : Timestamp => Row.ofList [("at", .timestamp t)]
    (row leap).get? "at" = some (.timestamp leap)
    ∧ (row midnight).get? "at" = some (.timestamp midnight)
    ∧ (0 ≤ leap.fields.year ∧ leap.fields.year ≤ 9999)
    ∧ (0 ≤ midnight.fields.year ∧ midnight.fields.year ≤ 9999)
    ∧ leap.secondOfMinute = 60
    ∧ leap.text = "2016-12-31 23:59:60" ∧ midnight.text = "2017-01-01"
    ∧ compareRows [⟨"at", .ascending⟩] (row leap) (row midnight) = leap.chronological midnight
    ∧ leap.chronological midnight = .lt := by
  intro leap midnight row
  have hleap : (row leap).get? "at" = some (.timestamp leap) := Row.get?_insert_self _ _ _
  have hmidnight : (row midnight).get? "at" = some (.timestamp midnight) :=
    Row.get?_insert_self _ _ _
  have hyear : 0 ≤ leap.fields.year ∧ leap.fields.year ≤ 9999 := by decide
  have hyear' : 0 ≤ midnight.fields.year ∧ midnight.fields.year ≤ 9999 := by decide
  exact ⟨hleap, hmidnight, hyear, hyear', rfl, by decide +kernel, by decide +kernel,
    compareRows_timestamps hleap hmidnight hyear hyear', by decide⟩

/-- **Rows by time.** Rows that all have timestamps in a column, in the years 0 to 9999, are sorted
by this column in the order of these, and rows of the same second keep their order. -/
theorem isStableSort_chronological {rows : List Row} {time : Row → Timestamp}
    (h : ∀ r ∈ rows, r.get? column = some (.timestamp (time r)) ∧ (time r).HasFourDigitYear) :
    IsStableSort (fun a b => (time a).chronological (time b)) rows
      (sortRows [⟨column, .ascending⟩] rows) := by
  have hcolumn : Homogeneous rows column := by
    refine .inr fun r hr => ?_
    rw [Row.cell, (h r hr).1]
    exact ⟨rfl, rfl⟩
  have hcolumns : ∀ key ∈ [SortKey.mk column .ascending], Homogeneous rows key.column :=
    List.forall_mem_singleton.mpr hcolumn
  refine (isStableSort_sortRows (transOn_compareRows hcolumns)).congr fun a ha b hb => ?_
  rw [compareRows_singleton]
  exact SortKey.compare_timestamps (h a ha).1 (h b hb).1 (h a ha).2 (h b hb).2

end RowQuery
