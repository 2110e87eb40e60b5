/-
Texts scanned piece by piece.

Between two pieces of a text the scan stands outside quotes, and a word that is being read may
still go on. A blank or a mark ends it, so the pieces of a text can be read one after the other.

* `Scan.Bare`, `Scan.Settled`: outside quotes with given tokens so far, and no word going on;
* `Scan.Reads`: the eight things that one character does (`Scan.reads`);
* `Bare.step_blank`, `Bare.step_mark`: blanks and marks settle a scan;
* `Settled.run_marks`, `Settled.run_word`, `Settled.run_quote`: the tokens of marks, of a word
  without quotes, and of a quoted text;
* `Bare.tokenize_eq`, `Bare.tokenizeStrict_eq`: the tokens of a whole text.
-/
import Mathlib.Tactic
import RowQuery.Text.Quoted
import RowQuery.Token.Scan

namespace RowQuery

open Text

namespace Scan

variable {s : Scan} {ts : List Token}

/-- Outside quotes, with the given tokens if the word that is being read ended here. -/
structure Bare (s : Scan) (ts : List Token) : Prop where
  mode_eq : s.mode = .bare
  tokens_eq : s.tokens = ts

/-- Outside quotes, with the given tokens, and no word is being read. -/
structure Settled (s : Scan) (ts : List Token) : Prop where
  mode_eq : s.mode = .bare
  word_eq : s.word = none
  reversed_eq : s.reversed.reverse = ts

/-- A settled scan is outside quotes. -/
lemma Settled.bare (h : s.Settled ts) : s.Bare ts := by
  refine ⟨h.mode_eq, ?_⟩
  rw [tokens, flush, h.word_eq]
  exact h.reversed_eq

/-- Nothing has been read at the start. -/
lemma settled_start : start.Settled [] := ⟨rfl, rfl, rfl⟩

@[simp] lemma run_nil (s : Scan) : s.run [] = s := rfl

@[simp] lemma run_cons (s : Scan) (c : Char) (text : List Char) :
    s.run (c :: text) = (s.step c).run text := rfl

/-! ### One character -/

/-- A character that goes into a word outside quotes. -/
structure IsWordChar (c : Char) : Prop where
  ne_single : c ≠ '\''
  ne_double : c ≠ '"'
  not_blank : isBlank c = false
  not_mark : c ∉ marks

@[simp] lemma mode_flush (s : Scan) : s.flush.mode = s.mode := by
  rw [flush]
  split <;> rfl

@[simp] lemma mode_take (s : Scan) (c : Char) : (s.take c).mode = s.mode := by
  rw [take]
  split <;> rfl

@[simp] lemma reversed_take (s : Scan) (c : Char) : (s.take c).reversed = s.reversed := by
  rw [take]
  split <;> rfl

/-- What a character does to a scan, its place aside. -/
inductive Reads (s : Scan) (c : Char) : Scan → Prop
  | opening (hmode : s.mode = .bare) (hc : c = '\'' ∨ c = '"') : Reads s c (s.openQuote c)
  | blank (hmode : s.mode = .bare) (hc : isBlank c = true) : Reads s c s.flush
  | mark (hmode : s.mode = .bare) (hc : c ∈ marks) :
      Reads s c { s.flush with reversed := .mark c :: s.flush.reversed }
  | word (hmode : s.mode = .bare) (hc : IsWordChar c) : Reads s c (s.take c)
  | backslash {delimiter : Char} {opened : ℕ} (hmode : s.mode = .quoted delimiter opened)
      (hc : c = '\\') : Reads s c { s with mode := .escaped delimiter opened }
  | closing {delimiter : Char} {opened : ℕ} (hmode : s.mode = .quoted delimiter opened)
      (hc : c ≠ '\\') (hclose : c = delimiter) : Reads s c { s with mode := .bare }
  | inside {delimiter : Char} {opened : ℕ} (hmode : s.mode = .quoted delimiter opened)
      (hc : c ≠ '\\') (hclose : c ≠ delimiter) : Reads s c (s.take c)
  | escaped {delimiter : Char} {opened : ℕ} (hmode : s.mode = .escaped delimiter opened) :
      Reads s c { s.take c with mode := .quoted delimiter opened }

/-- It does nothing else. -/
lemma reads (s : Scan) (c : Char) : Reads s c (s.read c) := by
  rw [read]
  cases hmode : s.mode with
  | bare =>
      dsimp only
      split_ifs with hquote hblank hmark
      · exact .opening hmode (by simpa using hquote)
      · exact .blank hmode hblank
      · exact .mark hmode (by simpa using hmark)
      · obtain ⟨hsingle, hdouble⟩ : c ≠ '\'' ∧ c ≠ '"' := by simpa using hquote
        exact .word hmode ⟨hsingle, hdouble, by simpa using hblank, by simpa using hmark⟩
  | quoted delimiter opened =>
      dsimp only
      split_ifs with hbackslash hclose
      · exact .backslash hmode (by simpa using hbackslash)
      · exact .closing hmode (by simpa using hbackslash) (by simpa using hclose)
      · exact .inside hmode (by simpa using hbackslash) (by simpa using hclose)
  | escaped delimiter opened => exact .escaped hmode

/-! ### Blanks and marks -/

/-- Outside quotes, a scan settles when its word is ended. -/
lemma Bare.settled_flush (h : s.Bare ts) : s.flush.Settled ts := by
  have htokens : s.flush.reversed.reverse = ts := h.tokens_eq
  refine ⟨s.mode_flush.trans h.mode_eq, ?_, htokens⟩
  rw [flush]
  split <;> simp_all

/-- A blank is no quote. -/
lemma ne_quote_of_isBlank {c : Char} (h : isBlank c = true) : c ≠ '\'' ∧ c ≠ '"' := by
  constructor <;> rintro rfl <;> exact absurd h (by decide)

/-- A mark is no quote and no blank. -/
lemma ne_quote_of_mem_marks {c : Char} (h : c ∈ marks) :
    c ≠ '\'' ∧ c ≠ '"' ∧ isBlank c = false := by
  fin_cases h <;> decide

/-- A blank ends the word. -/
lemma Bare.step_blank (h : s.Bare ts) {c : Char} (hc : isBlank c = true) :
    (s.step c).Settled ts := by
  obtain ⟨hsingle, hdouble⟩ := ne_quote_of_isBlank hc
  obtain ⟨hmode, hword, hreversed⟩ := h.settled_flush
  have hread : s.read c = s.flush := by simp [read, h.mode_eq, hsingle, hdouble, hc]
  rw [step, hread]
  exact ⟨hmode, hword, hreversed⟩

/-- A mark ends the word and is a token. -/
lemma Bare.step_mark (h : s.Bare ts) {c : Char} (hc : c ∈ marks) :
    (s.step c).Settled (ts ++ [.mark c]) := by
  obtain ⟨hsingle, hdouble, hblank⟩ := ne_quote_of_mem_marks hc
  obtain ⟨hmode, hword, hreversed⟩ := h.settled_flush
  have hread : s.read c = { s.flush with reversed := .mark c :: s.flush.reversed } := by
    simp [read, h.mode_eq, hsingle, hdouble, hblank, hc]
  rw [step, hread]
  exact ⟨hmode, hword, by rw [List.reverse_cons, hreversed]⟩

/-- Marks are tokens on their own. -/
lemma Settled.run_marks {text : List Char} (h : s.Settled ts) (hmarks : ∀ c ∈ text, c ∈ marks) :
    (s.run text).Settled (ts ++ text.map Token.mark) := by
  induction text generalizing s ts with
  | nil => simpa using h
  | cons c text ih =>
      have hstep := h.bare.step_mark (hmarks c (by simp))
      simpa using ih hstep fun d hd => hmarks d (by simp [hd])

/-! ### Words without quotes -/

/-- Outside quotes, a character of a word is taken into it. -/
lemma step_of_isWordChar {c : Char} (hmode : s.mode = .bare) (hc : IsWordChar c) :
    s.step c = { s.take c with length := s.length + 1 } := by
  rw [step]
  simp [read, hmode, hc.ne_single, hc.ne_double, hc.not_blank, hc.not_mark]

/-- A word that goes on takes in the characters of words. -/
lemma run_of_isWordChar {text : List Char} (htext : ∀ c ∈ text, IsWordChar c)
    (reversed : List Token) (w : OpenWord) (n : Nat) :
    run ⟨reversed, some w, .bare, n⟩ text
      = ⟨reversed, some ⟨text.reverse ++ w.reversed, w.quoted⟩, .bare, n + text.length⟩ := by
  induction text generalizing w n with
  | nil => rfl
  | cons c text ih =>
      rw [run_cons, step_of_isWordChar rfl (htext c (by simp)), take,
        ih (fun d hd => htext d (by simp [hd]))]
      simp [Nat.add_comm, Nat.add_left_comm]

/-- A word without quotes is a token. -/
lemma Settled.run_word {text : List Char} (h : s.Settled ts) (hne : text ≠ [])
    (htext : ∀ c ∈ text, IsWordChar c) :
    (s.run text).Bare (ts ++ [.word (String.ofList text) false]) := by
  obtain ⟨c, rest, rfl⟩ := List.exists_cons_of_ne_nil hne
  obtain ⟨reversed, word, mode, n⟩ := s
  obtain ⟨rfl, rfl, rfl⟩ := h
  rw [run_cons, step_of_isWordChar rfl (htext c (by simp)), take,
    run_of_isWordChar fun d hd => htext d (by simp [hd])]
  exact ⟨rfl, by simp [tokens, flush]⟩

/-! ### Quoted texts -/

/-- Inside quotes every escaped text is taken in as it was. -/
lemma run_escape (text : List Char) (reversed : List Token) (w : OpenWord) (opened n : Nat) :
    run ⟨reversed, some w, .quoted apostrophe opened, n⟩ (escape text)
      = ⟨reversed, some ⟨text.reverse ++ w.reversed, w.quoted⟩, .quoted apostrophe opened,
          n + (escape text).length⟩ := by
  induction text generalizing w n with
  | nil => rfl
  | cons c text ih =>
      have hchar : run ⟨reversed, some w, .quoted apostrophe opened, n⟩ (escapeChar c)
          = ⟨reversed, some ⟨c :: w.reversed, w.quoted⟩, .quoted apostrophe opened,
              n + (escapeChar c).length⟩ := by
        by_cases hc : (c == apostrophe || c == '\\') = true
        · rw [escapeChar, if_pos hc]
          rfl
        · obtain ⟨hquote, hbackslash⟩ : c ≠ apostrophe ∧ c ≠ '\\' := by simpa using hc
          rw [escapeChar, if_neg hc, run_cons, run_nil, step, read]
          simp [hquote, hbackslash, take]
      rw [escape_cons, run_append, hchar, ih]
      simp [Nat.add_assoc]

/-- A quoted text is a token. -/
lemma Settled.run_quote (h : s.Settled ts) (text : String) :
    (s.run (quote text).toList).Bare (ts ++ [.word text true]) := by
  obtain ⟨reversed, word, mode, n⟩ := s
  obtain ⟨rfl, rfl, rfl⟩ := h
  have hopen : step ⟨reversed, none, .bare, n⟩ apostrophe
      = ⟨reversed, some ⟨[], true⟩, .quoted apostrophe n, n + 1⟩ := rfl
  rw [quote, String.toList_ofList, List.cons_append, run_cons, hopen, run_append, run_escape]
  refine ⟨rfl, ?_⟩
  simp [tokens, flush, step, read, apostrophe]

/-! ### Whole texts -/

/-- The tokens of a text after which the scan stands outside quotes. -/
lemma Bare.tokenize_eq {text : String} (h : (scan text).Bare ts) : tokenize text = ts := by
  rw [tokenize, h.tokens_eq]

/-- No quote is open then, so the strict reading gives the same tokens. -/
lemma Bare.tokenizeStrict_eq {text : String} (h : (scan text).Bare ts) :
    tokenizeStrict text = .ok ts := by
  rw [tokenizeStrict, openedAt?, h.mode_eq, h.tokens_eq]

end Scan

end RowQuery
