/-
Where patterns lead.

A pattern leads from one position of a text to another if it matches what stands between them.
Matching follows sets of positions through the pattern, and gives up repeating a part once no
position is new; it reaches the positions to which the pattern leads, and no others.

* `Times`: a relation of positions a number of times, one after the other;
* `Pattern.Leads`: where a pattern leads on a text, by recursion on the pattern;
* `Follows`: a step from set to set takes every position where a relation leads;
* `Follows.iterate`, `Follows.spread`: repeated steps follow the repeated relation;
* `Pattern.follows_reach`, `Pattern.isIn_iff`: matching follows where the pattern leads.
-/
import Mathlib.Tactic
import RowQuery.Pattern.Basic

namespace RowQuery

/-! ### Repeated relations -/

/-- A relation a number of times, one after the other. -/
def Times (r : Nat → Nat → Prop) : Nat → Nat → Nat → Prop
  | 0, i, j => j = i
  | n + 1, i, j => ∃ k, r i k ∧ Times r n k j

variable {r s : Nat → Nat → Prop}

@[simp] lemma times_zero {i j : Nat} : Times r 0 i j ↔ j = i := Iff.rfl

lemma times_succ {n i j : Nat} : Times r (n + 1) i j ↔ ∃ k, r i k ∧ Times r n k j := Iff.rfl

/-- A number of times and then another one is their sum. -/
lemma times_add {m n i j : Nat} :
    Times r (m + n) i j ↔ ∃ k, Times r m i k ∧ Times r n k j := by
  induction m generalizing i with
  | zero => simp
  | succ m ih =>
      rw [Nat.add_right_comm, times_succ]
      simp only [ih, times_succ]
      constructor
      · rintro ⟨k, hk, l, hl, hj⟩
        exact ⟨l, ⟨k, hk, hl⟩, hj⟩
      · rintro ⟨l, ⟨k, hk, hl⟩, hj⟩
        exact ⟨k, hk, l, hl, hj⟩

/-- What a relation keeps, its repetitions keep. -/
lemma Times.keeps {P : Nat → Prop} (hkeeps : ∀ i j, P i → r i j → P j) {n i j : Nat}
    (h : Times r n i j) (hi : P i) : P j := by
  induction n generalizing i with
  | zero => exact (times_zero.mp h) ▸ hi
  | succ n ih =>
      obtain ⟨k, hk, hrest⟩ := h
      exact ih hrest (hkeeps i k hi hk)

/-- Repetitions of a relation that never leads back lead forward. -/
lemma Times.le (hforward : ∀ i j, r i j → i ≤ j) {n i j : Nat} (h : Times r n i j) : i ≤ j :=
  h.keeps (P := (i ≤ ·)) (fun k l hk hl => hk.trans (hforward k l hl)) le_rfl

/-- A relation that never leads back need not be repeated where it stays: as many times are enough
as there are positions to go. -/
lemma Times.exists_le (hforward : ∀ i j, r i j → i ≤ j) {n i j : Nat} (h : Times r n i j) :
    ∃ m ≤ j - i, Times r m i j := by
  induction n generalizing i with
  | zero =>
      obtain rfl := times_zero.mp h
      exact ⟨0, by omega, rfl⟩
  | succ n ih =>
      obtain ⟨k, hk, hrest⟩ := h
      obtain ⟨m, hm, hshort⟩ := ih hrest
      have hik := hforward i k hk
      have hkj := hrest.le hforward
      rcases hik.eq_or_lt with rfl | hlt
      · exact ⟨m, hm, hshort⟩
      · exact ⟨m + 1, by omega, k, hk, hshort⟩

/-! ### Where a pattern leads -/

/-- The character before a position, if there is one. -/
def charBefore (text : List Char) (i : Nat) : Option Char :=
  if i = 0 then none else text[i - 1]?

namespace Pattern

/-- A pattern leads from a position to another one if it matches what stands between them: a set
of characters one of its own, an assertion nothing, where it holds; a repetition so many matches
of its body, one after the other. -/
def Leads (text : List Char) : Pattern → Nat → Nat → Prop
  | .empty, i, j => j = i
  | .leaf (.oneOf set), i, j => j = i + 1 ∧ ∃ c, text[i]? = some c ∧ set.holds c = true
  | .leaf (.assertion a), i, j =>
    j = i ∧ i ≤ text.length ∧ a.holds (charBefore text i) text[i]? = true
  | .sequence first second, i, j => ∃ k, Leads text first i k ∧ Leads text second k j
  | .choice first second, i, j => Leads text first i j ∨ Leads text second i j
  | .repeated body least greatest _, i, j =>
    ∃ n, least ≤ n ∧ (∀ most ∈ greatest, n ≤ max least most) ∧ Times (Leads text body) n i j
  | .group _ body, i, j => Leads text body i j

variable {text : List Char}

/-- A pattern leads forward, and not beyond the end. -/
lemma Leads.le {p : Pattern} {i j : Nat} (h : p.Leads text i j) :
    i ≤ j ∧ j ≤ max i text.length := by
  induction p generalizing i j with
  | empty =>
      obtain rfl : j = i := h
      omega
  | leaf a =>
      cases a with
      | oneOf set =>
          obtain ⟨rfl, c, hc, -⟩ := h
          have hi := (List.getElem?_eq_some_iff.mp hc).1
          omega
      | assertion a =>
          obtain ⟨rfl, -, -⟩ := h
          omega
  | sequence first second ihf ihs =>
      obtain ⟨k, hk, hj⟩ := h
      have hfirst := ihf hk
      have hsecond := ihs hj
      omega
  | choice first second ihf ihs => exact h.elim ihf ihs
  | repeated body least greatest greedy ih =>
      obtain ⟨n, -, -, htimes⟩ := h
      refine htimes.keeps (P := fun k => i ≤ k ∧ k ≤ max i text.length) (fun k l hk hl => ?_)
        (by omega)
      have hstep := ih hl
      omega
  | group index body ih => exact ih h

end Pattern

/-! ### Sets of positions -/

/-- From a set of positions a step takes those to which a relation leads from one in the set. -/
def Follows (step : Nat → Nat) (r : Nat → Nat → Prop) : Prop :=
  ∀ positions j, (step positions).testBit j = true ↔ ∃ i, positions.testBit i = true ∧ r i j

namespace Follows

variable {step other : Nat → Nat}

/-- One step after another follows the one relation and then the other. -/
lemma comp (hr : Follows step r) (hs : Follows other s) :
    Follows (fun positions => other (step positions)) fun i j => ∃ k, r i k ∧ s k j := by
  intro positions j
  rw [hs]
  simp only [hr positions]
  constructor
  · rintro ⟨k, ⟨i, hi, hk⟩, hj⟩
    exact ⟨i, hi, k, hk, hj⟩
  · rintro ⟨i, hi, k, hk, hj⟩
    exact ⟨k, ⟨i, hi, hk⟩, hj⟩

/-- Two steps from the same set follow the one relation or the other. -/
lemma union (hr : Follows step r) (hs : Follows other s) :
    Follows (fun positions => step positions ||| other positions) fun i j => r i j ∨ s i j := by
  intro positions j
  rw [Nat.testBit_or, Bool.or_eq_true, hr, hs]
  simp only [and_or_left, exists_or]

/-- A set that a step leaves as it is stays so under the repeated relation. -/
lemma times_of_fixed (h : Follows step r) {positions : Nat} (hfixed : step positions = positions)
    (n j : Nat) :
    positions.testBit j = true ↔ ∃ i, positions.testBit i = true ∧ Times r n i j := by
  induction n with
  | zero => simp
  | succ n ih =>
      have hcomp : (∃ i, positions.testBit i = true ∧ Times r (n + 1) i j)
          ↔ ∃ k, (step positions).testBit k = true ∧ Times r n k j := by
        simp only [h positions, times_succ]
        constructor
        · rintro ⟨i, hi, k, hk, hj⟩
          exact ⟨k, ⟨i, hi, hk⟩, hj⟩
        · rintro ⟨k, ⟨i, hi, hk⟩, hj⟩
          exact ⟨i, hi, k, hk, hj⟩
      rw [hcomp, hfixed]
      exact ih

/-- A step applied a number of times follows the relation as often. -/
lemma iterate (h : Follows step r) (n : Nat) :
    Follows (RowQuery.iterate step n) (Times r n) := by
  intro positions
  induction n generalizing positions with
  | zero => simp [RowQuery.iterate]
  | succ n ih =>
      intro j
      rw [RowQuery.iterate]
      split
      · next hfixed => exact h.times_of_fixed hfixed (n + 1) j
      · rw [ih (step positions) j]
        simp only [h positions, times_succ]
        constructor
        · rintro ⟨k, ⟨i, hi, hk⟩, hj⟩
          exact ⟨i, hi, k, hk, hj⟩
        · rintro ⟨i, hi, k, hk, hj⟩
          exact ⟨k, ⟨i, hi, hk⟩, hj⟩

/-- Spreading follows the relation up to a number of times. -/
lemma spread (h : Follows step r) (n : Nat) :
    Follows (RowQuery.spread step n) fun i j => ∃ m ≤ n, Times r m i j := by
  intro positions
  induction n generalizing positions with
  | zero => simp [RowQuery.spread]
  | succ n ih =>
      intro j
      have hnext : ∀ k, (positions ||| step positions).testBit k = true
          ↔ positions.testBit k = true ∨ ∃ i, positions.testBit i = true ∧ r i k := by
        intro k
        rw [Nat.testBit_or, Bool.or_eq_true, h]
      rw [RowQuery.spread]
      split
      · next hclosed =>
        -- no step leads out of the set, so no number of steps does
        have hkeeps : ∀ i k, positions.testBit i = true → r i k → positions.testBit k = true :=
          fun i k hi hk => by
            rw [← hclosed]
            exact (hnext k).mpr (.inr ⟨i, hi, hk⟩)
        constructor
        · exact fun hj => ⟨j, hj, 0, by omega, rfl⟩
        · rintro ⟨i, hi, m, -, hm⟩
          exact hm.keeps hkeeps hi
      · rw [ih (positions ||| step positions) j]
        simp only [hnext]
        constructor
        · rintro ⟨k, hk | ⟨i, hi, hk⟩, m, hm, hj⟩
          · exact ⟨k, hk, m, by omega, hj⟩
          · exact ⟨i, hi, m + 1, by omega, k, hk, hj⟩
        · rintro ⟨i, hi, m, hm, hj⟩
          cases m with
          | zero => exact ⟨i, .inl hi, 0, by omega, hj⟩
          | succ m =>
              obtain ⟨k, hk, hj⟩ := hj
              exact ⟨k, .inr ⟨i, hi, hk⟩, m, by omega, hj⟩

/-- A step that follows a relation follows every relation that is the same. -/
lemma congr (h : Follows step r) (hrs : ∀ i j, r i j ↔ s i j) : Follows step s :=
  fun positions j => (h positions j).trans (exists_congr fun i => and_congr_right fun _ => hrs i j)

end Follows

/-! ### Matching -/

/-- The characters before and after each position. -/
lemma getElem?_neighbours (before : Option Char) (text : List Char) (i : Nat) :
    (neighbours before text)[i]?
      = if i ≤ text.length then some (if i = 0 then before else text[i - 1]?, text[i]?)
        else none := by
  induction text generalizing before i with
  | nil => cases i <;> simp [neighbours]
  | cons c rest ih =>
      cases i with
      | zero => simp [neighbours]
      | succ i =>
          rw [neighbours, List.getElem?_cons_succ, ih]
          cases i <;> simp

namespace Pattern

variable {text : List Char}

/-- A leaf on a text follows where it leads. -/
lemma follows_leaf (text : List Char) (a : Atom) :
    Follows (a.on text).apply (Leads text (.leaf a)) := by
  intro positions j
  cases a with
  | oneOf set =>
      have hadmitted : ∀ i, (bits (text.map set.holds)).testBit i = true
          ↔ ∃ c, text[i]? = some c ∧ set.holds c = true := by
        intro i
        rw [testBit_bits, List.getD_eq_getElem?_getD, List.getElem?_map]
        cases text[i]? <;> simp
      simp only [Atom.on, Move.apply, Leads, if_true, Nat.testBit_shiftLeft, Nat.testBit_and,
        Bool.and_eq_true, decide_eq_true_eq, hadmitted]
      constructor
      · rintro ⟨hj, hi, hc⟩
        exact ⟨j - 1, hi, by omega, hc⟩
      · rintro ⟨i, hi, rfl, hc⟩
        exact ⟨by omega, by simpa using hi, by simpa using hc⟩
  | assertion a =>
      have hadmitted : ∀ i,
          (bits ((neighbours none text).map fun p => a.holds p.1 p.2)).testBit i = true
          ↔ i ≤ text.length ∧ a.holds (charBefore text i) text[i]? = true := by
        intro i
        rw [testBit_bits, List.getD_eq_getElem?_getD, List.getElem?_map, getElem?_neighbours]
        split
        · next hi => simp [hi, charBefore]
        · next hi => simp [hi]
      simp only [Atom.on, Move.apply, Leads, Bool.false_eq_true, if_false, Nat.testBit_and,
        Bool.and_eq_true, hadmitted]
      constructor
      · rintro ⟨hj, ha⟩
        exact ⟨j, hj, rfl, ha⟩
      · rintro ⟨i, hi, rfl, ha⟩
        exact ⟨hi, ha⟩

/-- As many repetitions as there are positions are all there need to be. -/
lemma repeated_iff {body : Pattern} {least : Nat} {greatest : Option Nat} {greedy : Bool}
    {i j : Nat} :
    (∃ k, Times (Leads text body) least i k
        ∧ ∃ m ≤ (match greatest with
          | none => text.length + 1
          | some most => most - least), Times (Leads text body) m k j)
      ↔ Leads text (.repeated body least greatest greedy) i j := by
  have hforward : ∀ i j, Leads text body i j → i ≤ j := fun i j h => h.le.1
  constructor
  · rintro ⟨k, hk, m, hm, hj⟩
    refine ⟨least + m, by omega, fun most hmost => ?_, times_add.mpr ⟨k, hk, hj⟩⟩
    obtain rfl := Option.mem_def.mp hmost
    have hm : m ≤ most - least := hm
    omega
  · rintro ⟨n, hleast, hmost, htimes⟩
    rw [← Nat.add_sub_cancel' hleast] at htimes
    obtain ⟨k, hk, hj⟩ := times_add.mp htimes
    cases greatest with
    | some most =>
        have hn := hmost most rfl
        exact ⟨k, hk, n - least, by show n - least ≤ most - least; omega, hj⟩
    | none =>
        -- without a limit, repetitions that stay at a position are left out
        obtain ⟨m, hm, hshort⟩ := hj.exists_le hforward
        have hend : j ≤ max k text.length :=
          hj.keeps (P := fun l => k ≤ l ∧ l ≤ max k text.length)
            (fun l l' hl hl' => by have := hl'.le; omega) (by omega) |>.2
        exact ⟨k, hk, m, by show m ≤ text.length + 1; omega, hshort⟩

/-- Matching a pattern on a text follows where the pattern leads. -/
theorem follows_reach (text : List Char) (p : Pattern) :
    Follows ((Pattern.on p text).reach (text.length + 1)) (p.Leads text) := by
  induction p with
  | empty => exact fun positions j => by simp [Pattern.on, Regular.map, Regular.reach, Leads]
  | leaf a => exact follows_leaf text a
  | sequence first second ihf ihs => exact ihf.comp ihs
  | choice first second ihf ihs => exact ihf.union ihs
  | repeated body least greatest greedy ih =>
      exact ((ih.iterate least).comp (ih.spread _)).congr fun i j => repeated_iff
  | group index body ih => exact ih

/-- **What it is for a pattern to be in a text.** A pattern is in a text exactly if it leads from
some position of the text to some position. -/
theorem isIn_iff (p : Pattern) (text : String) :
    p.isIn text = true ↔ ∃ i ≤ text.toList.length, ∃ j, p.Leads text.toList i j := by
  have hall : ∀ i, (Nat.pow 2 (text.toList.length + 1) - 1).testBit i = true
      ↔ i ≤ text.toList.length := by
    intro i
    rw [Nat.pow_eq, Nat.testBit_two_pow_sub_one, decide_eq_true_eq, Nat.lt_succ_iff]
  have hne : ∀ n : Nat, n ≠ 0 ↔ ∃ j, n.testBit j = true := fun n => by
    constructor
    · exact fun hn => Nat.exists_testBit_of_ne_zero hn
    · rintro ⟨j, hj⟩ rfl
      simp at hj
  rw [isIn, bne_iff_ne, hne]
  simp only [follows_reach text.toList p _ _, hall]
  constructor
  · rintro ⟨j, i, hi, h⟩
    exact ⟨i, hi, j, h⟩
  · rintro ⟨i, hi, j, h⟩
    exact ⟨j, i, hi, h⟩

end Pattern

end RowQuery
