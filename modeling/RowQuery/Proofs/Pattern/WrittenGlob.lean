/-
The written pattern of a literal with wildcards.

The pattern of a literal is written as any other pattern, with a backslash before every character
that has a meaning in patterns, and is read as such. What is read is the pattern of the literal.

* `Glob.reader`: a reader that has read some parts of such a pattern;
* `Glob.Reads`: what a text adds to the parts, whatever follows it;
* `Glob.reads_escapeText`, `Glob.reads_gap`, `Glob.reads_pieces`: pieces and what stands between
  them are read as the items of the pattern;
* `Glob.ofText?_patternText`: the written pattern of a literal is read as its pattern.
-/
import RowQuery.Pattern.Reading
import RowQuery.Proofs.Pattern.Glob

namespace RowQuery

open Text

namespace Glob

/-- A reader that has read the flags of a written literal and then some parts, given in reverse. -/
def reader (parts : List Piece) : PatternReader :=
  { group := { branches := [], parts, flags := { dotMatchesNewline := true }, index := none }
    outer := [], names := [], groups := 0 }

/-! ### One step -/

/-- A step of the reader is a step of the whole run. -/
lemma run?_of_step? {parts parts' : List Piece} {c : Char} {rest rest' : List Char}
    (h : (reader parts).step? c rest = some (reader parts', rest')) (fuel : Nat) :
    (reader parts).run? (fuel + 1) (c :: rest) = (reader parts').run? fuel rest' := by
  have hskip : skip (reader parts).group.flags (c :: rest) = c :: rest := rfl
  rw [PatternReader.run?, hskip]
  simp only [h]

lemma metaCharacters_eq : metaCharacters
    = ['\\', '.', '+', '*', '?', '(', ')', '|', '[', ']', '\x7b', '\x7d', '^', '$', '#', '&', '-',
      '~'] := rfl

/-- A character with a meaning in patterns stands for itself after a backslash. -/
lemma readEscape?_metaCharacter {c : Char} (h : c ∈ metaCharacters) (f : Flags)
    (rest : List Char) : readEscape? f (c :: rest) = some (.char c, rest) := by
  rw [metaCharacters_eq] at h
  simp only [List.mem_cons, List.not_mem_nil, or_false] at h
  rcases h with rfl | rfl | rfl | rfl | rfl | rfl | rfl | rfl | rfl | rfl | rfl | rfl | rfl | rfl
    | rfl | rfl | rfl | rfl <;> rfl

/-- A character with a meaning in patterns is read after a backslash. -/
lemma step?_backslash {c : Char} (h : c ∈ metaCharacters) (parts : List Piece)
    (rest : List Char) :
    (reader parts).step? '\\' (c :: rest)
      = some (reader (.simple (.oneOf (.single c)) :: parts), rest) := by
  have hread := readEscape?_metaCharacter h (reader parts).group.flags rest
  exact (congrArg (Option.bind · _) hread).trans rfl

/-- Any other character stands for itself. -/
lemma step?_plain {c : Char} (h : c ∉ metaCharacters) (parts : List Piece) (rest : List Char) :
    (reader parts).step? c rest
      = some (reader (.simple (.oneOf (.single c)) :: parts), rest) := by
  rw [metaCharacters_eq] at h
  simp only [List.mem_cons, List.not_mem_nil, or_false, not_or] at h
  unfold PatternReader.step?
  split
  case h_13 => rfl
  all_goals simp at h

/-- The start and the end of the text are parts of their own. -/
lemma step?_textStart (parts : List Piece) (rest : List Char) :
    (reader parts).step? '^' rest
      = some (reader (.simple (.assertion .textStart) :: parts), rest) := rfl

lemma step?_textEnd (parts : List Piece) (rest : List Char) :
    (reader parts).step? '$' rest
      = some (reader (.simple (.assertion .textEnd) :: parts), rest) := rfl

/-- A star repeats the last part, and prefers more of it unless a question mark follows. -/
lemma step?_star (parts : List Piece) {rest : List Char} (h : rest.head? ≠ some '?') :
    (reader (.simple (.oneOf .all) :: parts)).step? '*' rest
      = some (reader (⟨some anything, 1⟩ :: parts), rest) := by
  have hgreedy : readGreedy rest = (true, rest) := by
    cases rest with
    | nil => rfl
    | cons c rest =>
        rw [readGreedy]
        rintro _ ⟨⟩
        simp at h
  show (reader (.simple (.oneOf .all) :: parts)).repeated? 0 none rest = _
  rw [PatternReader.repeated?, hgreedy]
  rfl

/-! ### Texts -/

/-- What a text adds to the parts that a reader has, whatever follows: the reader goes on after the
text, with no less to spend than the text left. A question mark after the text would belong to
the last part. -/
def Reads (text : List Char) (added : List Piece) : Prop :=
  ∀ parts rest fuel, rest.head? ≠ some '?' → text.length ≤ fuel →
    ∃ left, fuel ≤ left + text.length
      ∧ (reader parts).run? fuel (text ++ rest) = (reader (added.reverse ++ parts)).run? left rest

/-- One text after the other adds what the two add. -/
lemma Reads.append {first second : List Char} {added others : List Piece} (h : Reads first added)
    (h' : Reads second others) (hhead : second.head? ≠ some '?') :
    Reads (first ++ second) (added ++ others) := by
  intro parts rest fuel hrest hfuel
  rw [List.length_append] at hfuel
  have hnext : (second ++ rest).head? ≠ some '?' := by
    cases second with
    | nil => exact hrest
    | cons c second => exact hhead
  obtain ⟨left, hleft, hrun⟩ := h parts (second ++ rest) fuel hnext (by omega)
  obtain ⟨left', hleft', hrun'⟩ := h' (added.reverse ++ parts) rest left hrest (by omega)
  refine ⟨left', ?_, ?_⟩
  · rw [List.length_append]
    omega
  · rw [List.append_assoc, hrun, hrun', List.reverse_append, List.append_assoc]

/-- Nothing adds nothing. -/
lemma reads_nil : Reads [] [] := fun _ _ fuel _ _ => ⟨fuel, by simp, rfl⟩

/-- The part that a character of a piece is read as. -/
def charPiece (c : Char) : Piece := .simple (.oneOf (.single c))

/-- A character as it is written adds its set. -/
lemma reads_escapeText_singleton (c : Char) : Reads (escapeText [c]) [charPiece c] := by
  intro parts rest fuel _ hfuel
  by_cases hc : c ∈ metaCharacters
  · have htext : escapeText [c] = ['\\', c] := by simp [escapeText, hc]
    rw [htext] at hfuel ⊢
    obtain ⟨left, rfl⟩ := Nat.exists_eq_add_of_le' hfuel
    exact ⟨left + 1, by simp, run?_of_step? (step?_backslash hc parts rest) (left + 1)⟩
  · have htext : escapeText [c] = [c] := by simp [escapeText, hc]
    rw [htext] at hfuel ⊢
    obtain ⟨left, rfl⟩ := Nat.exists_eq_add_of_le' hfuel
    exact ⟨left, by simp, run?_of_step? (step?_plain hc parts rest) left⟩

/-- No piece as it is written begins with a question mark. -/
lemma head?_escapeText (piece : List Char) : (escapeText piece).head? ≠ some '?' := by
  cases piece with
  | nil => simp [escapeText]
  | cons c piece =>
      rw [escapeText, List.flatMap_cons]
      split
      · simp
      · next hc =>
        have hne : c ≠ '?' := by
          rintro rfl
          exact hc (by decide)
        simpa using hne

/-- A piece as it is written adds its characters. -/
lemma reads_escapeText (piece : List Char) : Reads (escapeText piece) (piece.map charPiece) := by
  induction piece with
  | nil => exact reads_nil
  | cons c piece ih =>
      have hcons : escapeText (c :: piece) = escapeText [c] ++ escapeText piece := by
        simp [escapeText]
      rw [hcons]
      exact (reads_escapeText_singleton c).append ih (head?_escapeText piece)

/-- What stands between two pieces adds any run of characters. -/
lemma reads_gap : Reads ".*".toList [⟨some anything, 1⟩] := by
  intro parts rest fuel hrest hfuel
  obtain ⟨left, rfl⟩ := Nat.exists_eq_add_of_le' hfuel
  refine ⟨left, by simp, ?_⟩
  have hdot : (reader parts).step? '.' ('*' :: rest)
      = some (reader (.simple (.oneOf .all) :: parts), '*' :: rest) := rfl
  exact (run?_of_step? hdot (left + 1)).trans (run?_of_step? (step?_star parts hrest) left)

/-! ### Literals -/

/-- The parts as which pieces are read, with what stands between them. -/
def itemPieces : List (List Char) → List Piece
  | [] => []
  | [piece] => piece.map charPiece
  | piece :: rest => piece.map charPiece ++ ⟨some anything, 1⟩ :: itemPieces rest

/-- The patterns of the parts are the items of the pattern. -/
lemma filterMap_itemPieces (pieces : List (List Char)) :
    (itemPieces pieces).filterMap (·.pattern) = items pieces := by
  have hpiece : ∀ piece : List Char,
      (piece.map charPiece).filterMap (·.pattern) = pieceItems piece := by
    intro piece
    rw [List.filterMap_map, pieceItems, ← List.filterMap_eq_map]
    rfl
  induction pieces with
  | nil => rfl
  | cons piece rest ih =>
      cases rest with
      | nil => rw [itemPieces, items, hpiece]
      | cons next rest =>
          rw [itemPieces, items, List.filterMap_append, hpiece, List.filterMap_cons, ih]
          · simp
          · simp

/-- Pieces as they are written, with what stands between them. -/
def writtenPieces (pieces : List (List Char)) : List Char :=
  ".*".toList.intercalate (pieces.map escapeText)

lemma writtenPieces_cons_cons (piece next : List Char) (rest : List (List Char)) :
    writtenPieces (piece :: next :: rest)
      = escapeText piece ++ ".*".toList ++ writtenPieces (next :: rest) := by
  rw [writtenPieces, List.map_cons, List.map_cons, List.intercalate_cons_cons]
  rfl

/-- The pieces as they are written do not begin with a question mark. -/
lemma head?_writtenPieces (pieces : List (List Char)) :
    (writtenPieces pieces).head? ≠ some '?' := by
  cases pieces with
  | nil => simp [writtenPieces]
  | cons piece rest =>
      cases rest with
      | nil => simpa [writtenPieces] using head?_escapeText piece
      | cons next rest =>
          rw [writtenPieces_cons_cons, List.append_assoc]
          cases hpiece : escapeText piece with
          | nil => simp
          | cons c others =>
              have hhead := head?_escapeText piece
              rw [hpiece] at hhead
              exact hhead

/-- The pieces as they are written add the items of the pattern. -/
lemma reads_pieces {pieces : List (List Char)} (hne : pieces ≠ []) :
    Reads (writtenPieces pieces) (itemPieces pieces) := by
  induction pieces with
  | nil => exact absurd rfl hne
  | cons piece rest ih =>
      cases rest with
      | nil => simpa [itemPieces, writtenPieces] using reads_escapeText piece
      | cons next rest =>
          have hrest := ih (List.cons_ne_nil next rest)
          have hgap := (reads_escapeText piece).append reads_gap (by decide)
          have hall := hgap.append hrest (head?_writtenPieces (next :: rest))
          rw [writtenPieces_cons_cons, itemPieces]
          · simpa using hall
          · simp

/-- The parts of a literal are nested at most one deep. -/
lemma depth_itemPieces {pieces : List (List Char)} {p : Piece} (h : p ∈ itemPieces pieces) :
    p.depth ≤ 1 := by
  have hpiece : ∀ piece : List Char, p ∈ piece.map charPiece → p.depth ≤ 1 := by
    intro piece hp
    obtain ⟨c, -, rfl⟩ := List.mem_map.mp hp
    exact Nat.zero_le _
  induction pieces with
  | nil => exact absurd h List.not_mem_nil
  | cons piece rest ih =>
      cases rest with
      | nil => exact hpiece piece h
      | cons next rest =>
          rw [itemPieces, List.mem_append, List.mem_cons] at h
          · rcases h with h | rfl | h
            · exact hpiece piece h
            · exact le_rfl
            · exact ih h
          · simp

/-- The items of a pattern are no sequences. -/
lemma parts_items {pieces : List (List Char)} {p : Pattern} (h : p ∈ items pieces) :
    Pattern.parts p = [p] := by
  have hpiece : ∀ piece : List Char, p ∈ pieceItems piece → Pattern.parts p = [p] := by
    intro piece hp
    obtain ⟨c, -, rfl⟩ := List.mem_map.mp hp
    rfl
  induction pieces with
  | nil => exact absurd h List.not_mem_nil
  | cons piece rest ih =>
      cases rest with
      | nil => exact hpiece piece h
      | cons next rest =>
          rw [items, List.mem_append, List.mem_cons] at h
          · rcases h with h | rfl | h
            · exact hpiece piece h
            · rfl
            · exact ih h
          · simp

/-- Two or more parts are a sequence, one level deeper than the deepest of them. -/
lemma sequence_of_two_le {parts : List Piece} (h : 2 ≤ parts.length) :
    Piece.sequence parts
      = ⟨some (.series (parts.reverse.filterMap (·.pattern))),
          parts.foldl (fun d p => max d p.depth) 0 + 1⟩ := by
  match parts, h with
  | _ :: _ :: _, _ => rfl

/-- Parts that are nested at most one deep are so together. -/
lemma foldl_depth_le {parts : List Piece} (h : ∀ p ∈ parts, p.depth ≤ 1) :
    parts.foldl (fun d p => max d p.depth) 0 ≤ 1 := by
  refine List.foldlRecOn parts _ (motive := (· ≤ 1)) (Nat.zero_le 1) fun d hd p hp => ?_
  exact max_le hd (h p hp)

/-- When the end has been read, the pattern is that of the literal. -/
lemma finish?_reader (literal : List Char) :
    (reader (.simple (.assertion .textEnd) :: (itemPieces (pieces literal)).reverse
        ++ [.simple (.assertion .textStart), ⟨none, 0⟩])).finish?
      = some (.sequenceOf (.leaf (.assertion .textStart) :: items (pieces literal)
          ++ [.leaf (.assertion .textEnd)])) := by
  set parts : List Piece := .simple (.assertion .textEnd) :: (itemPieces (pieces literal)).reverse
    ++ [.simple (.assertion .textStart), ⟨none, 0⟩] with hparts
  have hdepth : ∀ p ∈ parts, p.depth ≤ 1 := by
    intro p hp
    simp only [hparts, List.cons_append, List.mem_cons, List.mem_append, List.mem_reverse,
      List.not_mem_nil, or_false] at hp
    rcases hp with rfl | hp | rfl | rfl
    · exact Nat.zero_le _
    · exact depth_itemPieces hp
    · exact Nat.zero_le _
    · exact Nat.zero_le _
  have hpatterns : parts.reverse.filterMap (·.pattern)
      = .leaf (.assertion .textStart) :: items (pieces literal)
          ++ [.leaf (.assertion .textEnd)] := by
    simp [hparts, Piece.simple, filterMap_itemPieces]
  have hseries : Pattern.series (parts.reverse.filterMap (·.pattern))
      = .sequenceOf (.leaf (.assertion .textStart) :: items (pieces literal)
          ++ [.leaf (.assertion .textEnd)]) := by
    have hitems : (items (pieces literal)).flatMap Pattern.parts = items (pieces literal) := by
      calc (items (pieces literal)).flatMap Pattern.parts
          = (items (pieces literal)).flatMap fun p => [p] :=
            List.flatMap_congr fun p hp => parts_items hp
        _ = items (pieces literal) := List.flatMap_singleton' _
    rw [hpatterns, Pattern.series, List.flatMap_append, List.flatMap_cons, hitems]
    rfl
  have hlength : 2 ≤ parts.length := by simp [hparts]
  have hpiece : (reader parts).group.piece
      = ⟨some (.sequenceOf (.leaf (.assertion .textStart) :: items (pieces literal)
          ++ [.leaf (.assertion .textEnd)])),
        parts.foldl (fun d p => max d p.depth) 0 + 1⟩ := by
    rw [← hseries]
    exact sequence_of_two_le hlength
  have hnesting : parts.foldl (fun d p => max d p.depth) 0 + 1 ≤ PatternReader.maxNesting := by
    have hle := foldl_depth_le hdepth
    rw [PatternReader.maxNesting]
    omega
  rw [PatternReader.finish?, hpiece]
  simp [reader, hnesting]

/-- A literal as it is written: flags, the start, the pieces, the end. -/
lemma toList_patternText (literal : String) :
    (patternText literal).toList
      = '(' :: '?' :: 's' :: ')' :: '^' :: (writtenPieces (pieces literal.toList) ++ ['$']) := by
  have hopening : "(?s)^".toList = ['(', '?', 's', ')', '^'] := rfl
  show String.toList (String.ofList ("(?s)^".toList ++ writtenPieces (pieces literal.toList)
    ++ ['$'])) = _
  rw [String.toList_ofList, hopening, List.append_assoc]
  rfl

/-- The flags are read first. -/
lemma run?_start (fuel : Nat) (rest : List Char) :
    PatternReader.start.run? (fuel + 1) ('(' :: '?' :: 's' :: ')' :: rest)
      = (reader [⟨none, 0⟩]).run? fuel rest := rfl

/-- **The written pattern of a literal.** Read as a pattern, it is the pattern of the literal. -/
theorem ofText?_patternText (literal : String) :
    Pattern.ofText? (patternText literal) = some (pattern literal) := by
  have hread := reads_pieces (pieces_ne_nil literal.toList)
  have hfinish := finish?_reader literal.toList
  rw [Pattern.ofText?, toList_patternText]
  generalize writtenPieces (pieces literal.toList) = written at hread ⊢
  obtain ⟨left, hleft, hrun⟩ := hread [.simple (.assertion .textStart), ⟨none, 0⟩] ['$']
    (written.length + 5) (by decide) (by omega)
  obtain ⟨left, rfl⟩ : ∃ n, left = n + 2 := ⟨left - 2, by omega⟩
  have hlength : ('(' :: '?' :: 's' :: ')' :: '^' :: (written ++ ['$'])).length + 1
      = written.length + 5 + 1 + 1 := by simp
  rw [hlength, run?_start, run?_of_step? (step?_textStart _ _), hrun,
    run?_of_step? (step?_textEnd _ _)]
  exact hfinish

end Glob

end RowQuery
