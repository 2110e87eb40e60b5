/-
What a literal with wildcards matches.

A literal is the pieces between its percent signs. Its pattern matches a text from end to end if
the text is the pieces in their order with any texts in the gaps between them.

* `Glob.pieces_ne_nil`, `Glob.intercalate_pieces`, `Glob.wildcard_not_mem`: a literal is its
  pieces with a percent sign between each two of them;
* `Glob.filled`: pieces with texts in the gaps;
* `Glob.leads_items`: where the pieces lead, and the end of the text after them;
* `Glob.isIn_pattern_iff`: the texts in which the pattern of a literal is.
-/
import RowQuery.Pattern.Glob
import RowQuery.Proofs.Pattern.Leading

namespace RowQuery

open Text

/-- Every character is one of all characters. -/
lemma holds_all (c : Char) : CharSet.all.holds c = true := by
  have hvalid : c.toNat ≤ Span.greatest := by
    rw [Char.toNat, Span.greatest]
    rcases c.valid with h | ⟨-, h⟩ <;> omega
  simp [CharSet.all, CharSet.holds, CharSet.hasCode, Span.has, hvalid]

namespace Glob

/-! ### Pieces -/

/-- A percent sign begins a new piece. -/
lemma pieces_wildcard (rest : List Char) : pieces (wildcard :: rest) = [] :: pieces rest := by
  rw [pieces, if_pos (beq_self_eq_true wildcard)]

/-- There is always a piece. -/
lemma pieces_ne_nil (literal : List Char) : pieces literal ≠ [] := by
  cases literal with
  | nil => simp [pieces]
  | cons c rest =>
      rw [pieces]
      split
      · simp
      · split <;> simp

/-- Any other character stands at the front of the first piece. -/
lemma exists_pieces_cons {c : Char} (hc : c ≠ wildcard) (rest : List Char) :
    ∃ piece others, pieces rest = piece :: others
      ∧ pieces (c :: rest) = (c :: piece) :: others := by
  obtain ⟨piece, others, hrest⟩ := List.exists_cons_of_ne_nil (pieces_ne_nil rest)
  refine ⟨piece, others, hrest, ?_⟩
  rw [pieces, if_neg (by simpa using hc), hrest]

/-- No piece has a percent sign. -/
lemma wildcard_not_mem {literal piece : List Char} (h : piece ∈ pieces literal) :
    wildcard ∉ piece := by
  induction literal generalizing piece with
  | nil =>
      obtain rfl : piece = [] := by simpa [pieces] using h
      exact List.not_mem_nil
  | cons c rest ih =>
      by_cases hc : c = wildcard
      · rw [hc, pieces_wildcard] at h
        rcases List.mem_cons.mp h with rfl | h
        · exact List.not_mem_nil
        · exact ih h
      · obtain ⟨first, others, hrest, hpieces⟩ := exists_pieces_cons hc rest
        rw [hpieces] at h
        rw [hrest] at ih
        rcases List.mem_cons.mp h with rfl | h
        · exact fun hmem => (List.mem_cons.mp hmem).elim (Ne.symm hc) (ih List.mem_cons_self)
        · exact ih (List.mem_cons_of_mem first h)

/-- The pieces with a percent sign between each two of them are the literal. -/
lemma intercalate_pieces (literal : List Char) :
    [wildcard].intercalate (pieces literal) = literal := by
  induction literal with
  | nil => rfl
  | cons c rest ih =>
      by_cases hc : c = wildcard
      · obtain ⟨piece, others, hrest⟩ := List.exists_cons_of_ne_nil (pieces_ne_nil rest)
        rw [hc, pieces_wildcard, hrest, List.intercalate_cons_cons, ← hrest, ih]
        rfl
      · obtain ⟨piece, others, hrest, hpieces⟩ := exists_pieces_cons hc rest
        rw [hrest] at ih
        rw [hpieces]
        cases others with
        | nil => simpa using ih
        | cons other others =>
            rw [List.intercalate_cons_cons] at ih ⊢
            rw [← ih]
            rfl

/-- A literal without percent signs is one piece. -/
lemma pieces_eq_singleton {literal : List Char} (h : wildcard ∉ literal) :
    pieces literal = [literal] := by
  induction literal with
  | nil => rfl
  | cons c rest ih =>
      obtain ⟨hc, hrest⟩ := not_or.mp (mt List.mem_cons.mpr h)
      obtain ⟨piece, others, heq, hpieces⟩ := exists_pieces_cons (Ne.symm hc) rest
      rw [ih hrest, List.cons.injEq] at heq
      rw [hpieces, ← heq.1, ← heq.2]

/-! ### Pieces with texts in the gaps -/

/-- Pieces with texts in the gaps between them. -/
def filled : List (List Char) → List (List Char) → List Char
  | piece :: rest, gap :: gaps => piece ++ gap ++ filled rest gaps
  | pieces, _ => pieces.flatten

/-- A text is the pieces of a literal with some texts in the gaps. -/
def Matches (literal text : String) : Prop :=
  ∃ gaps, gaps.length + 1 = (pieces literal.toList).length
    ∧ text.toList = filled (pieces literal.toList) gaps

/-- Without percent signs, a literal matches itself. -/
lemma matches_iff_eq {literal text : String} (h : wildcard ∉ literal.toList) :
    Matches literal text ↔ text = literal := by
  rw [Matches, pieces_eq_singleton h]
  constructor
  · rintro ⟨gaps, hlength, htext⟩
    obtain rfl : gaps = [] := by simpa using hlength
    exact String.toList_injective (by simpa [filled] using htext)
  · rintro rfl
    exact ⟨[], rfl, by simp [filled]⟩

/-! ### Where the pattern of a literal leads -/

section Leads

variable {text : List Char} {i j : Nat}

/-- A sequence leads where its first part leads and then the others. -/
lemma leads_sequenceOf_cons (p : Pattern) (rest : List Pattern) :
    Pattern.Leads text (.sequenceOf (p :: rest)) i j
      ↔ ∃ k, p.Leads text i k ∧ Pattern.Leads text (.sequenceOf rest) k j := by
  cases rest with
  | nil => simp [Regular.sequenceOf, Pattern.Leads]
  | cons q rest => rfl

/-- The characters of a piece lead over the piece. -/
lemma leads_pieceItems (piece : List Char) (rest : List Pattern) :
    Pattern.Leads text (.sequenceOf (pieceItems piece ++ rest)) i j
      ↔ piece <+: text.drop i
        ∧ Pattern.Leads text (.sequenceOf rest) (i + piece.length) j := by
  induction piece generalizing i with
  | nil => simp [pieceItems]
  | cons c piece ih =>
      have hprefix : c :: piece <+: text.drop i
          ↔ text[i]? = some c ∧ piece <+: text.drop (i + 1) := by
        cases htext : text[i]? with
        | none =>
            have hdrop := List.drop_eq_nil_of_le (List.getElem?_eq_none_iff.mp htext)
            simp [hdrop]
        | some d =>
            obtain ⟨hi, hd⟩ := List.getElem?_eq_some_iff.mp htext
            rw [List.drop_eq_getElem_cons hi, hd, List.cons_prefix_cons, Option.some.injEq]
            exact and_congr_left fun _ => eq_comm
      rw [pieceItems, List.map_cons, List.cons_append, leads_sequenceOf_cons, hprefix]
      have hlength : i + (c :: piece).length = i + 1 + piece.length := by
        rw [List.length_cons]
        omega
      rw [hlength]
      constructor
      · rintro ⟨k, ⟨rfl, d, hd, hhas⟩, hrest⟩
        obtain rfl : d = c := by simpa using hhas
        obtain ⟨hpiece, hrest⟩ := ih.mp hrest
        exact ⟨⟨hd, hpiece⟩, hrest⟩
      · rintro ⟨⟨hc, hpiece⟩, hrest⟩
        exact ⟨i + 1, ⟨rfl, c, hc, by simp⟩, ih.mpr ⟨hpiece, hrest⟩⟩

/-- Any run of characters leads forward to any position of the text. -/
lemma leads_anything : anything.Leads text i j ↔ i ≤ j ∧ j ≤ max i text.length := by
  constructor
  · exact fun h => h.le
  · rintro ⟨hij, hj⟩
    refine ⟨j - i, Nat.zero_le _, by simp, ?_⟩
    -- one character after the other is taken until the position is reached
    induction hn : j - i generalizing i with
    | zero => exact (by omega : j = i)
    | succ n ih =>
        have hi : i < text.length := by omega
        exact ⟨i + 1, ⟨rfl, text[i], List.getElem?_eq_getElem hi, holds_all _⟩,
          ih (by omega) (by omega) (by omega)⟩

/-- The end of a text leads to itself, from itself. -/
lemma leads_textEnd :
    Pattern.Leads text (.leaf (.assertion .textEnd)) i j ↔ j = text.length ∧ i = text.length := by
  constructor
  · rintro ⟨rfl, hi, hend⟩
    have hlength : text.length ≤ j := by simpa [Assertion.holds] using hend
    omega
  · rintro ⟨rfl, rfl⟩
    exact ⟨rfl, le_rfl, by simp [Assertion.holds]⟩

/-- A part of a text is a piece, some text and an end exactly if it begins with the piece and the
end stands somewhere behind it. -/
lemma exists_gap_iff {piece last : List Char} :
    (i ≤ text.length ∧ ∃ gap, text.drop i = piece ++ gap ++ last)
      ↔ piece <+: text.drop i
        ∧ ∃ k, i + piece.length ≤ k ∧ k ≤ text.length ∧ text.drop k = last := by
  constructor
  · rintro ⟨hi, gap, hdrop⟩
    have hlength := congrArg List.length hdrop
    simp only [List.length_drop, List.length_append] at hlength
    refine ⟨⟨gap ++ last, by rw [hdrop, List.append_assoc]⟩, i + piece.length + gap.length,
      by omega, by omega, ?_⟩
    rw [← List.drop_drop, ← List.drop_drop, hdrop]
    simp
  · rintro ⟨hpiece, k, hfrom, hto, rfl⟩
    refine ⟨by omega, (text.drop (i + piece.length)).take (k - (i + piece.length)), ?_⟩
    have hlast : text.drop k = (text.drop (i + piece.length)).drop (k - (i + piece.length)) := by
      rw [List.drop_drop]
      congr 1
      omega
    rw [hlast, List.append_assoc, List.take_append_drop, ← List.drop_drop]
    exact List.prefix_append_drop hpiece

/-- The last piece and the end lead to the end exactly if the piece is the rest of the text. -/
lemma leads_last_piece (piece : List Char) :
    Pattern.Leads text (.sequenceOf (pieceItems piece ++ [.leaf (.assertion .textEnd)])) i j
      ↔ j = text.length ∧ i ≤ text.length ∧ text.drop i = piece := by
  rw [leads_pieceItems]
  show piece <+: text.drop i
      ∧ Pattern.Leads text (.leaf (.assertion .textEnd)) (i + piece.length) j ↔ _
  rw [leads_textEnd]
  constructor
  · rintro ⟨hpiece, rfl, hlength⟩
    have hsame : piece.length = (text.drop i).length := by
      rw [List.length_drop]
      omega
    exact ⟨rfl, by omega, (hpiece.eq_of_length hsame).symm⟩
  · rintro ⟨rfl, hi, rfl⟩
    refine ⟨List.prefix_rfl, rfl, ?_⟩
    rw [List.length_drop]
    omega

/-- With one piece more before others there is one text more in the gaps. -/
lemma exists_filled_cons {piece next l : List Char} {rest : List (List Char)} :
    (∃ gaps, gaps.length + 1 = (piece :: next :: rest).length
        ∧ l = filled (piece :: next :: rest) gaps)
      ↔ ∃ gaps, gaps.length + 1 = (next :: rest).length
        ∧ ∃ gap, l = piece ++ gap ++ filled (next :: rest) gaps := by
  constructor
  · rintro ⟨gaps, hgaps, hl⟩
    cases gaps with
    | nil => simp at hgaps
    | cons gap gaps => exact ⟨gaps, Nat.succ.inj hgaps, gap, hl⟩
  · rintro ⟨gaps, hgaps, gap, hl⟩
    exact ⟨gap :: gaps, congrArg Nat.succ hgaps, hl⟩

/-- From a position the pieces and the end lead to the end exactly if the rest of the text is the
pieces with some texts in the gaps. -/
lemma leads_items {pieces : List (List Char)} (hne : pieces ≠ []) :
    Pattern.Leads text (.sequenceOf (items pieces ++ [.leaf (.assertion .textEnd)])) i j
      ↔ j = text.length ∧ i ≤ text.length
        ∧ ∃ gaps, gaps.length + 1 = pieces.length ∧ text.drop i = filled pieces gaps := by
  induction pieces generalizing i with
  | nil => exact absurd rfl hne
  | cons piece rest ih =>
      cases rest with
      | nil =>
          have hfilled : (∃ gaps, gaps.length + 1 = [piece].length
              ∧ text.drop i = filled [piece] gaps) ↔ text.drop i = piece := by
            simp [filled]
          rw [items, leads_last_piece, hfilled]
      | cons next rest =>
          have hitems : items (piece :: next :: rest)
              = pieceItems piece ++ anything :: items (next :: rest) := by
            rw [items]
            simp
          rw [hitems, List.append_assoc, leads_pieceItems, List.cons_append,
            leads_sequenceOf_cons]
          simp only [ih (List.cons_ne_nil next rest), leads_anything, exists_filled_cons]
          constructor
          · rintro ⟨hpiece, k, ⟨hfrom, -⟩, rfl, hto, gaps, hgaps, hdrop⟩
            obtain ⟨hi, gap, hgap⟩ := exists_gap_iff.mpr ⟨hpiece, k, hfrom, hto, hdrop⟩
            exact ⟨rfl, hi, gaps, hgaps, gap, hgap⟩
          · rintro ⟨rfl, hi, gaps, hgaps, hgap⟩
            obtain ⟨hpiece, k, hfrom, hto, hdrop⟩ := exists_gap_iff.mp ⟨hi, hgap⟩
            exact ⟨hpiece, k, ⟨hfrom, hto.trans (le_max_right _ _)⟩, rfl, hto, gaps, hgaps, hdrop⟩

end Leads

/-- The pattern of a literal is in a text exactly if the literal matches the text. -/
theorem isIn_pattern_iff (literal text : String) :
    (pattern literal).isIn text = true ↔ Matches literal text := by
  have hstart : ∀ i k, Pattern.Leads text.toList (.leaf (.assertion .textStart)) i k
      ↔ k = i ∧ i = 0 := by
    intro i k
    constructor
    · rintro ⟨rfl, hk, hbefore⟩
      refine ⟨rfl, by_contra fun hne => ?_⟩
      have hlt : k - 1 < text.toList.length := by omega
      simp [Assertion.holds, charBefore, hne] at hbefore
      omega
    · rintro ⟨rfl, rfl⟩
      exact ⟨rfl, Nat.zero_le _, rfl⟩
  rw [Pattern.isIn_iff, pattern, List.cons_append]
  simp only [leads_sequenceOf_cons, hstart, leads_items (pieces_ne_nil literal.toList)]
  constructor
  · rintro ⟨i, -, j, k, ⟨rfl, rfl⟩, -, -, gaps, hgaps, htext⟩
    exact ⟨gaps, hgaps, by simpa using htext⟩
  · rintro ⟨gaps, hgaps, htext⟩
    exact ⟨0, Nat.zero_le _, _, 0, ⟨rfl, rfl⟩, rfl, Nat.zero_le _, gaps, hgaps,
      by simpa using htext⟩

end Glob

end RowQuery
