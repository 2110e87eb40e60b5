/-
Sets of characters, as spans of code points.

* `Span`, `CharSet`: the spans of a set stand in ascending order, and no two of them touch;
* `CharSet.ofSpans`, `CharSet.ofTable`: the set of any spans, and of the rows of a table;
* `union`, `inter`, `complement`, `diff`, `symmDiff`: the operations of sets;
* `holds_ofSpans`, `holds_union`: joining spans that touch keeps every character.
-/
import RowQuery.Text.CodeRange

namespace RowQuery.Text

/-! ### Spans -/

/-- The code points from the first to the last. -/
structure Span where
  first : Nat
  last : Nat
deriving DecidableEq, Repr

namespace Span

/-- Membership of a code point. -/
def has (s : Span) (code : Nat) : Bool := s.first ≤ code && code ≤ s.last

/-- The span between two code points, whichever comes first. -/
def between (a b : Nat) : Span := ⟨min a b, max a b⟩

/-- The greatest code point. -/
def greatest : Nat := 0x10FFFF

/-- The code point after another one; surrogates are left out. -/
def after (code : Nat) : Nat := if code = 0xD7FF then 0xE000 else code + 1

/-- The code point before another one; surrogates are left out. -/
def before (code : Nat) : Nat := if code = 0xE000 then 0xD7FF else code - 1

/-- Joins the spans that touch, in a list by ascending starts with a span in front. -/
def joinFrom (s : Span) : List Span → List Span
  | [] => [s]
  | t :: rest =>
    if t.first ≤ s.last + 1 then joinFrom ⟨s.first, max s.last t.last⟩ rest
    else s :: joinFrom t rest

/-- Joins the spans that touch, in a list by ascending starts. -/
def join : List Span → List Span
  | [] => []
  | s :: rest => joinFrom s rest

/-- The common parts of two ascending lists. -/
def inter : List Span → List Span → List Span
  | s :: rest, t :: others =>
    let first := max s.first t.first
    let last := min s.last t.last
    let common := if first ≤ last then [⟨first, last⟩] else []
    common ++ if s.last < t.last then inter rest (t :: others) else inter (s :: rest) others
  | _, _ => []
termination_by a b => a.length + b.length

/-- The ends of the gaps after a code point, up to the greatest one. Between spans that have only
surrogates between them the ends of the gap are in the wrong order. -/
def gapsAfter (last : Nat) : List Span → List (Nat × Nat)
  | [] => if last < greatest then [(after last, greatest)] else []
  | s :: rest => (after last, before s.first) :: gapsAfter s.last rest

/-- The ends of the gaps in an ascending list. -/
def gaps : List Span → List (Nat × Nat)
  | [] => [(0, greatest)]
  | s :: rest => (if s.first = 0 then [] else [(0, before s.first)]) ++ gapsAfter s.last rest

end Span

/-- The spans of a row of a table. -/
def CodeRange.spans (row : CodeRange) : List Span :=
  if row.step ≤ 1 then [⟨row.first, row.last⟩]
  else (List.range ((row.last - row.first) / row.step + 1)).map fun i =>
    ⟨row.first + i * row.step, row.first + i * row.step⟩

/-! ### Sets -/

/-- A set of characters. -/
structure CharSet where
  /-- In ascending order, and apart from each other. -/
  spans : List Span
deriving DecidableEq, Repr

namespace CharSet

/-- Membership of a code point. -/
def hasCode (a : CharSet) (code : Nat) : Bool := a.spans.any (·.has code)

/-- Membership of a character. -/
def holds (a : CharSet) (c : Char) : Bool := a.hasCode c.toNat

/-- No characters. -/
def none : CharSet := ⟨[]⟩

/-- All characters. -/
def all : CharSet := ⟨[⟨0, Span.greatest⟩]⟩

/-- Whether a span starts no later than another one. -/
def startsBefore (s t : Span) : Bool := s.first ≤ t.first

/-- The set of some spans, in any order. -/
def ofSpans (spans : List Span) : CharSet := ⟨Span.join (spans.mergeSort startsBefore)⟩

/-- The set of the rows of a table. -/
def ofTable (rows : List CodeRange) : CharSet := ofSpans (rows.flatMap (·.spans))

/-- The code points from the first to the last. -/
def codes (first last : Nat) : CharSet := ⟨[⟨first, last⟩]⟩

/-- The characters from the first to the last. -/
def range (first last : Char) : CharSet := codes first.toNat last.toNat

/-- The set of one character. -/
def single (c : Char) : CharSet := range c c

/-- The characters of two sets. -/
def union (a b : CharSet) : CharSet := ofSpans (a.spans ++ b.spans)

/-- The characters of some sets. -/
def anyOf (sets : List CharSet) : CharSet := ofSpans (sets.flatMap (·.spans))

/-- The characters that two sets have in common. -/
def inter (a b : CharSet) : CharSet := ⟨Span.inter a.spans b.spans⟩

/-- The characters that are not in a set. Where only surrogates are missing between two spans,
the characters at both sides of them count as missing too. -/
def complement (a : CharSet) : CharSet := ⟨(Span.gaps a.spans).map fun (s, t) => .between s t⟩

/-- The characters of a set that are not in another one. -/
def diff (a b : CharSet) : CharSet :=
  a.inter ⟨((Span.gaps b.spans).filter fun (s, t) => s ≤ t).map fun (s, t) => ⟨s, t⟩⟩

/-- The characters of exactly one of two sets. -/
def symmDiff (a b : CharSet) : CharSet := (a.union b).diff (a.inter b)

/-- The one character of a set that has just one. -/
def single? (a : CharSet) : Option Char :=
  match a.spans with
  | [s] => if s.first = s.last && s.first.isValidChar then some (Char.ofNat s.first) else .none
  | _ => .none

/-- Whether a set has no character beyond ASCII. -/
def isAscii (a : CharSet) : Bool := a.spans.all (·.last < 0x80)

/-! ### Membership -/

/-- A character is in its own set, alone. -/
@[simp] theorem holds_single (a c : Char) : (single a).holds c = (c == a) := by
  have h : c.toNat = a.toNat ↔ c = a := ⟨fun h => Char.toNat_inj.mp h, congrArg _⟩
  rw [Bool.eq_iff_iff, beq_iff_eq, ← h]
  simp only [holds, hasCode, single, range, codes, List.any_cons, List.any_nil, Span.has,
    Bool.or_false, Bool.and_eq_true, decide_eq_true_eq]
  omega

/-- Joining two spans that touch keeps every code point. -/
theorem has_joined {s t : Span} (hstart : s.first ≤ t.first) (htouch : t.first ≤ s.last + 1)
    (code : Nat) : Span.has ⟨s.first, max s.last t.last⟩ code = (s.has code || t.has code) := by
  rw [Bool.eq_iff_iff]
  simp only [Span.has, Bool.or_eq_true, Bool.and_eq_true, decide_eq_true_eq]
  omega

/-- Joining keeps every code point. -/
theorem any_joinFrom (code : Nat) (s : Span) (l : List Span)
    (h : (s :: l).Pairwise fun s t => s.first ≤ t.first) :
    (Span.joinFrom s l).any (·.has code) = (s :: l).any (·.has code) := by
  induction l generalizing s with
  | nil => rfl
  | cons t rest ih =>
    have hst : s.first ≤ t.first := List.rel_of_pairwise_cons h (by simp)
    rw [Span.joinFrom]
    split
    case isTrue htouch =>
      rw [ih]
      · simp only [List.any_cons, has_joined hst htouch, Bool.or_assoc]
      · refine List.pairwise_cons.mpr ⟨fun u hu => ?_, ?_⟩
        · exact List.rel_of_pairwise_cons h (List.mem_cons_of_mem t hu)
        · exact (List.pairwise_cons.mp (List.pairwise_cons.mp h).2).2
    case isFalse =>
      rw [List.any_cons, ih t (List.pairwise_cons.mp h).2]
      rfl

/-- Sorted spans stand by ascending starts. -/
theorem pairwise_sorted (spans : List Span) :
    (spans.mergeSort startsBefore).Pairwise fun s t => s.first ≤ t.first := by
  have htrans : ∀ a b c : Span, startsBefore a b → startsBefore b c → startsBefore a c := by
    simp only [startsBefore, decide_eq_true_eq]
    omega
  have htotal : ∀ a b : Span, (startsBefore a b || startsBefore b a) = true := by
    simp only [startsBefore, Bool.or_eq_true, decide_eq_true_eq]
    omega
  exact (List.pairwise_mergeSort htrans htotal spans).imp of_decide_eq_true

/-- The set of some spans has the code points of the spans. -/
theorem hasCode_ofSpans (spans : List Span) (code : Nat) :
    (ofSpans spans).hasCode code = spans.any (·.has code) := by
  have hsorted := pairwise_sorted spans
  rw [hasCode, ofSpans, ← (List.mergeSort_perm spans startsBefore).any_eq]
  generalize spans.mergeSort startsBefore = sorted at hsorted ⊢
  cases sorted with
  | nil => rfl
  | cons s rest => exact any_joinFrom code s rest hsorted

/-- A character is in a union if it is in one of the sets. -/
@[simp] theorem holds_union (a b : CharSet) (c : Char) :
    (a.union b).holds c = (a.holds c || b.holds c) := by
  rw [holds, union, hasCode_ofSpans, List.any_append]
  rfl

/-- A character is in the union of some sets if it is in one of them. -/
@[simp] theorem holds_anyOf (sets : List CharSet) (c : Char) :
    (anyOf sets).holds c = sets.any (·.holds c) := by
  rw [holds, anyOf, hasCode_ofSpans, List.any_flatMap]
  rfl

end CharSet

end RowQuery.Text
