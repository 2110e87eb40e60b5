/-
JSON text read lexeme by lexeme.

A text is first cut into lexemes and then read. Both go from left to right, so a reader can be
followed through the text itself: what it makes of a text is what it makes of the rest after the
first lexeme.

* `Reader.readText?`: what a reader makes of a text;
* `readText?_blanks`, `readText?_mark`, `readText?_quoted`, `readText?_word`: a text that begins with
  blanks, a mark, a text between quotation marks, or a word;
* `EndsWord`: a text at whose beginning a word ends.
-/
import RowQuery.Json.Reading
import RowQuery.Proofs.Json.Quoted

namespace RowQuery.Json

/-! ### Lexemes before a text -/

namespace Lexing

/-- What has been read, with earlier lexemes before it. -/
def behind (s : Lexing) (earlier : List Lexeme) : Lexing :=
  { s with reversed := s.reversed ++ earlier }

variable (s : Lexing) (earlier : List Lexeme)

/-- Ending a word leaves earlier lexemes alone. -/
lemma flush_behind : (s.behind earlier).flush = s.flush.behind earlier := by
  obtain ⟨reversed, mode⟩ := s
  cases mode <;> rfl

/-- A character leaves earlier lexemes alone. -/
lemma step_behind (c : Char) : (s.behind earlier).step c = (s.step c).behind earlier := by
  have hflush := s.flush_behind earlier
  obtain ⟨reversed, mode⟩ := s
  cases mode with
  | quoted text => simp only [step, behind]; split_ifs <;> rfl
  | escaped text => rfl
  | between => simp only [step, hflush]; split_ifs <;> rfl
  | word text => simp only [step, hflush]; split_ifs <;> rfl

/-- A text leaves earlier lexemes alone. -/
lemma run_behind (text : List Char) :
    (s.behind earlier).run text = (s.run text).behind earlier := by
  induction text generalizing s with
  | nil => rfl
  | cons c text ih => exact (congrArg (run · text) (s.step_behind earlier c)).trans (ih (s.step c))

/-- Earlier lexemes come before those of a text. -/
lemma lexemes?_behind :
    (s.behind earlier).lexemes? = s.lexemes?.map (earlier.reverse ++ ·) := by
  rw [lexemes?, lexemes?, flush_behind, behind]
  cases s.flush.mode <;> simp

end Lexing

/-! ### Words -/

/-- Whether a character goes on a word. -/
def isWordChar (c : Char) : Bool := c != '"' && !isBlank c && !marks.contains c

/-- A text at whose beginning a word ends. -/
def EndsWord : List Char → Prop
  | [] => True
  | c :: _ => isWordChar c = false

namespace Lexing

/-- The characters of a word are gathered. -/
lemma run_word {word : List Char} (h : ∀ c ∈ word, isWordChar c) (s : Lexing)
    (reversed : List Char) (hmode : s.mode = .word reversed) :
    s.run word = { s with mode := .word (word.reverse ++ reversed) } := by
  induction word generalizing s reversed with
  | nil => rw [List.reverse_nil, List.nil_append, ← hmode]; rfl
  | cons c word ih =>
      have hstep : s.step c = { s with mode := .word (c :: reversed) } := by
        have hc := h c List.mem_cons_self
        simp only [isWordChar, Bool.and_eq_true, bne_iff_ne, Bool.not_eq_true'] at hc
        simp only [step, take, hmode, hc, beq_iff_eq, if_false, Bool.false_eq_true]
      have hrest := ih (fun d hd => h d (List.mem_cons_of_mem c hd)) (s.step c) (c :: reversed)
        (by rw [hstep])
      rw [run, List.foldl_cons, ← run, hrest, hstep, List.reverse_cons,
        List.append_assoc, List.singleton_append]

/-- A word that ends is a lexeme. -/
lemma flush_word {s : Lexing} {reversed : List Char} (hmode : s.mode = .word reversed) :
    s.flush = ⟨.word reversed.reverse :: s.reversed, .between⟩ := by
  rw [flush, hmode]

/-- A character that does not go on a word ends it. -/
lemma step_flush {s : Lexing} {reversed : List Char} {c : Char} (hmode : s.mode = .word reversed)
    (hc : isWordChar c = false) : s.step c = s.flush.step c := by
  simp only [isWordChar, Bool.and_eq_false_iff, bne_eq_false_iff_eq, Bool.not_eq_false'] at hc
  simp only [step, hmode, flush_word hmode]
  rcases hc with (rfl | hblank) | hmark
  · rfl
  · simp only [hblank, if_true]
    rfl
  · simp only [hmark, if_true]
    rfl

end Lexing

/-! ### The first lexeme -/

namespace Reader

/-- What a reader makes of a text. -/
def readText? (r : Reader) (text : List Char) : Option Json := do
  (← r.run (← (Lexing.start.run text).lexemes?)).value?

variable {r : Reader} {text rest : List Char}

/-- A text whose first lexeme is known is read from that lexeme on. -/
lemma readText?_of_lexemes? {lexeme : Lexeme}
    (h : (Lexing.start.run text).lexemes? = ((⟨[lexeme], .between⟩ : Lexing).run rest).lexemes?) :
    r.readText? text = (r.step lexeme).bind (·.readText? rest) := by
  have hfirst : (⟨[lexeme], .between⟩ : Lexing) = Lexing.start.behind [lexeme] := rfl
  rw [hfirst, Lexing.run_behind, Lexing.lexemes?_behind] at h
  rw [readText?, h]
  cases hrest : (Lexing.start.run rest).lexemes? with
  | none => cases r.step lexeme <;> simp [readText?, hrest]
  | some lexemes => cases hstep : r.step lexeme <;> simp [readText?, hrest, run, hstep]

/-- Blanks before a text do not count. -/
lemma readText?_blanks {blanks : List Char} (h : ∀ c ∈ blanks, isBlank c) :
    r.readText? (blanks ++ text) = r.readText? text := by
  induction blanks with
  | nil => rfl
  | cons c blanks ih =>
      have hstep : Lexing.start.step c = Lexing.start := by
        have hquote : c ≠ '"' := by
          rintro rfl
          exact absurd (h '"' List.mem_cons_self) (by decide)
        simp [Lexing.step, Lexing.start, Lexing.flush, hquote, h c List.mem_cons_self]
      have hrun : Lexing.start.run (c :: blanks ++ text) = Lexing.start.run (blanks ++ text) :=
        congrArg (Lexing.run · (blanks ++ text)) hstep
      rw [readText?, hrun]
      exact ih fun d hd => h d (List.mem_cons_of_mem c hd)

/-- A mark is a lexeme. -/
lemma readText?_mark {c : Char} (hc : c ∈ marks) :
    r.readText? (c :: text) = (r.step (.mark c)).bind (·.readText? text) := by
  have hstep : Lexing.start.step c = ⟨[.mark c], .between⟩ := by
    fin_cases hc <;> rfl
  exact readText?_of_lexemes? (congrArg (fun s => (Lexing.run s text).lexemes?) hstep)

/-- What stands between quotation marks is a lexeme. -/
lemma readText?_quoted {raw spelled : List Char} (h : Spells raw spelled) :
    r.readText? ('"' :: (raw ++ '"' :: text)) = (r.step (.quoted raw)).bind (·.readText? text) := by
  refine readText?_of_lexemes? (congrArg Lexing.lexemes? ?_)
  have hopen : Lexing.start.run ('"' :: (raw ++ '"' :: text))
      = (⟨[], .quoted []⟩ : Lexing).run (raw ++ '"' :: text) := rfl
  have hclose : (⟨[], .quoted raw.reverse⟩ : Lexing).run ('"' :: text)
      = (⟨[.quoted raw.reverse.reverse], .between⟩ : Lexing).run text := rfl
  rw [hopen, Lexing.run_append, h.run_quoted, List.append_nil, hclose, List.reverse_reverse]

/-- A word that ends before the rest is a lexeme. -/
lemma readText?_word {word : List Char} (hne : word ≠ []) (h : ∀ c ∈ word, isWordChar c)
    (hrest : EndsWord rest) :
    r.readText? (word ++ rest) = (r.step (.word word)).bind (·.readText? rest) := by
  obtain ⟨c, word, rfl⟩ := List.exists_cons_of_ne_nil hne
  have hbegin : Lexing.start.step c = (⟨[], .word []⟩ : Lexing).step c := by
    have hc := h c List.mem_cons_self
    simp only [isWordChar, Bool.and_eq_true, bne_iff_ne, Bool.not_eq_true'] at hc
    simp only [Lexing.step, Lexing.start, hc, beq_iff_eq, if_false, Bool.false_eq_true]
    rfl
  have hword : Lexing.start.run (c :: word) = ⟨[], .word (c :: word).reverse⟩ := by
    have hrun := Lexing.run_word h ⟨[], .word []⟩ [] rfl
    rw [List.append_nil] at hrun
    exact (congrArg (Lexing.run · word) hbegin).trans hrun
  refine readText?_of_lexemes? ?_
  rw [Lexing.run_append, hword]
  have hflush : (⟨[], .word (c :: word).reverse⟩ : Lexing).flush
      = ⟨[.word (c :: word)], .between⟩ := by
    rw [Lexing.flush_word rfl, List.reverse_reverse]
  cases rest with
  | nil => rw [Lexing.run, List.foldl_nil, Lexing.lexemes?, hflush]; rfl
  | cons d rest =>
      have hstep : (⟨[], .word (c :: word).reverse⟩ : Lexing).step d
          = (⟨[.word (c :: word)], .between⟩ : Lexing).step d := by
        rw [Lexing.step_flush rfl hrest, hflush]
      exact congrArg (fun s => (Lexing.run s rest).lexemes?) hstep

end Reader

/-- A text is read from the start. -/
lemma ofText?_eq_readText? (text : String) : ofText? text = Reader.start.readText? text.toList := rfl

end RowQuery.Json
