/-
Tokens as they are written.

A mark and a word without quotes are written as they are, a quoted word between apostrophes. With a
blank between every two, tokens are read back as they were; and whatever a text holds, its tokens
can be written like this.

* `Token.Writable`, `Token.text`: the tokens that can be written, and how;
* `Token.Writable.bare_scan`, `Spaced.bare_scan_tokens`: written tokens are read as these tokens;
* `Scan.Writable`: all that has been read so far can be written (`Writable.read`, `Writable.run`);
* `tokenize_spacedText`: reading undoes writing, and what is read can be written.
-/
import RowQuery.Proofs.Token.Boundary

namespace RowQuery

open Text

/-! ### Writing tokens -/

instance (c : Char) : Decidable (Scan.IsWordChar c) :=
  decidable_of_iff (c ≠ '\'' ∧ c ≠ '"' ∧ isBlank c = false ∧ c ∉ marks)
    ⟨fun ⟨hsingle, hdouble, hblank, hmark⟩ => ⟨hsingle, hdouble, hblank, hmark⟩,
      fun h => ⟨h.ne_single, h.ne_double, h.not_blank, h.not_mark⟩⟩

namespace Token

/-- A token that can be written: a word without quotes has characters, and these are those of
words. -/
def Writable : Token → Prop
  | word text quoted =>
    quoted = true ∨ (text ≠ "" ∧ ∀ c ∈ text.toList, Scan.IsWordChar c)
  | mark c => c ∈ marks

instance decidableWritable : (t : Token) → Decidable t.Writable
  | word text quoted =>
    -- by the characters of the word, not by all characters
    letI : Decidable (∀ c ∈ text.toList, Scan.IsWordChar c) := List.decidableBAll _ _
    inferInstanceAs (Decidable (quoted = true ∨ (_ ∧ _)))
  | mark c => inferInstanceAs (Decidable (c ∈ marks))

/-- The written form of a token. -/
def text : Token → String
  | word text true => quote text
  | word text false => text
  | mark c => String.singleton c

/-- A written token is read as that token. -/
lemma Writable.bare_scan {t : Token} (h : t.Writable) : (scan t.text).Bare [t] := by
  cases t with
  | mark c =>
      have hread := (Scan.settled_start.bare.step_mark h).bare
      simpa [scan, text] using hread
  | word text quoted =>
      cases quoted with
      | true => exact Scan.settled_start.run_quote text
      | false =>
          obtain ⟨hne, hchars⟩ := h.resolve_left Bool.false_ne_true
          simpa [scan, Token.text] using Scan.settled_start.run_word (by simpa using hne) hchars

end Token

/-- Written tokens with blanks between are read as these tokens. -/
lemma Spaced.bare_scan_tokens (tokens : List Token) {text : String}
    (h : Spaced (tokens.map Token.text) text) (htokens : ∀ t ∈ tokens, t.Writable) :
    (scan text).Bare tokens := by
  have hread : ∀ t ∈ tokens, tokenize t.text = [t] :=
    fun t ht => (htokens t ht).bare_scan.tokenize_eq
  have hwords : ∀ w ∈ tokens.map Token.text, (scan w).Bare (tokenize w) := by
    intro w hw
    obtain ⟨t, ht, rfl⟩ := List.mem_map.mp hw
    rw [hread t ht]
    exact (htokens t ht).bare_scan
  have hscan := h.bare_scan hwords
  rwa [List.flatMap_map, List.flatMap_congr hread, List.flatMap_singleton'] at hscan

/-- Tokens with one blank between every two. -/
def spacedText (tokens : List Token) : String := " ".intercalate (tokens.map Token.text)

/-! ### What is read -/

/-- A word being read that could end here. -/
def OpenWord.Writable (w : OpenWord) : Prop :=
  w.quoted = true ∨ (w.reversed ≠ [] ∧ ∀ c ∈ w.reversed, Scan.IsWordChar c)

namespace Scan

/-- A quoted word is being read. -/
def InQuotedWord (s : Scan) : Prop := ∃ w, s.word = some w ∧ w.quoted = true

/-- All that has been read can be written, and inside quotes the word counts as quoted. -/
structure Writable (s : Scan) : Prop where
  tokens : ∀ t ∈ s.reversed, t.Writable
  word : ∀ w, s.word = some w → w.Writable
  inside : s.mode = .bare ∨ s.InQuotedWord

variable {s : Scan} {c : Char}

/-- Nothing read is nothing to write. -/
lemma writable_start : start.Writable := ⟨by simp [start], by simp [start], .inl rfl⟩

/-- A word that has ended is a token that can be written. -/
lemma Writable.mem_flush (h : s.Writable) : ∀ t ∈ s.flush.reversed, t.Writable := by
  rw [flush]
  cases hword : s.word with
  | none => exact h.tokens
  | some w =>
      intro t ht
      rcases List.mem_cons.mp ht with rfl | ht
      · rcases h.word w hword with hquoted | ⟨hne, hchars⟩
        · exact .inl hquoted
        · exact .inr ⟨by simpa using hne, by simpa using hchars⟩
      · exact h.tokens t ht

/-- Ending the word outside quotes. -/
lemma Writable.flush (h : s.Writable) (hmode : s.mode = .bare) : s.flush.Writable := by
  have hflush := Bare.settled_flush ⟨hmode, rfl⟩
  exact ⟨h.mem_flush, by simp [hflush.word_eq], .inl hflush.mode_eq⟩

/-- A quoted word takes any character and remains one. -/
lemma InQuotedWord.take (h : s.InQuotedWord) (c : Char) : (s.take c).InQuotedWord := by
  obtain ⟨w, hword, hquoted⟩ := h
  exact ⟨{ w with reversed := c :: w.reversed }, by rw [Scan.take, hword], hquoted⟩

/-- Taking a character of a word, or any character into a quoted word. -/
lemma Writable.take (h : s.Writable) (hc : IsWordChar c ∨ s.InQuotedWord) :
    (s.take c).Writable := by
  refine ⟨by simpa using h.tokens, ?_, ?_⟩
  · rw [Scan.take]
    cases hword : s.word with
    | none =>
        have hchar : IsWordChar c := hc.resolve_right (by simp [InQuotedWord, hword])
        simp [OpenWord.Writable, hchar]
    | some w =>
        rintro _ ⟨⟩
        rcases h.word w hword with hquoted | ⟨hne, hchars⟩
        · exact .inl hquoted
        · rcases hc with hchar | ⟨w', hw', hquoted⟩
          · exact .inr ⟨by simp, by simpa [hchar] using hchars⟩
          · obtain rfl : w = w' := by simpa [hword] using hw'
            exact .inl hquoted
  · rw [mode_take]
    exact h.inside.imp_right (·.take c)

/-- What a character adds can be written. -/
lemma Writable.read (h : s.Writable) (c : Char) : (s.read c).Writable := by
  have hreads := s.reads c
  generalize s.read c = s' at hreads
  cases hreads with
  | opening hmode hc =>
      exact ⟨h.tokens, by simp [openQuote, OpenWord.Writable],
        .inr ⟨_, rfl, rfl⟩⟩
  | blank hmode hc => exact h.flush hmode
  | mark hmode hc =>
      obtain ⟨htokens, hword, hinside⟩ := h.flush hmode
      refine ⟨fun t ht => ?_, hword, hinside⟩
      rcases List.mem_cons.mp ht with rfl | ht
      · exact hc
      · exact htokens t ht
  | word hmode hc => exact h.take (.inl hc)
  | backslash hmode hc => exact ⟨h.tokens, h.word, .inr (h.inside.resolve_left (by simp [hmode]))⟩
  | closing hmode hc hclose => exact ⟨h.tokens, h.word, .inl rfl⟩
  | inside hmode hc hclose => exact h.take (.inr (h.inside.resolve_left (by simp [hmode])))
  | escaped hmode =>
      have hquoted := h.inside.resolve_left (by simp [hmode])
      obtain ⟨htokens, hword, -⟩ := h.take (.inr hquoted)
      exact ⟨htokens, hword, .inr (hquoted.take c)⟩

/-- What a text adds can be written. -/
lemma Writable.run (h : s.Writable) (text : List Char) : (s.run text).Writable := by
  induction text generalizing s with
  | nil => exact h
  | cons c text ih =>
      obtain ⟨htokens, hword, hinside⟩ := h.read c
      exact ih ⟨htokens, hword, hinside⟩

end Scan

/-- The tokens of a text can be written. -/
lemma writable_of_mem_tokenize {text : String} {t : Token} (h : t ∈ tokenize text) :
    t.Writable :=
  (Scan.writable_start.run text.toList).mem_flush t (List.mem_reverse.mp h)

/-! ### Writing and reading -/

/-- **Written tokens are read back.** Tokens that can be written, with one blank between every two,
are read as these tokens, also by a strict reading; and the tokens of any text can be written. -/
theorem tokenize_spacedText :
    (∀ tokens : List Token, (∀ t ∈ tokens, t.Writable) →
      tokenize (spacedText tokens) = tokens ∧ tokenizeStrict (spacedText tokens) = .ok tokens)
    ∧ ∀ text : String, ∀ t ∈ tokenize text, t.Writable := by
  refine ⟨fun tokens h => ?_, fun text t ht => writable_of_mem_tokenize ht⟩
  have hscan := (spaced_intercalate (tokens.map Token.text)).bare_scan_tokens tokens h
  exact ⟨hscan.tokenize_eq, hscan.tokenizeStrict_eq⟩

/-- An empty quoted word, and a quoted one with both quotes and a backslash at its end. -/
theorem tokenize_spacedText_five :
    let tokens : List Token := [.word "a\\b" false, .mark '!', .word "" true, .mark ',',
      .word "it's \"x\"\\" true]
    (∀ t ∈ tokens, t.Writable)
      ∧ spacedText tokens = "a\\b ! '' , 'it\\'s \"x\"\\\\'"
      ∧ tokenize (spacedText tokens) = tokens
      ∧ tokenizeStrict (spacedText tokens) = .ok tokens := by
  have hwritable : ∀ t ∈ [Token.word "a\\b" false, .mark '!', .word "" true, .mark ',',
      .word "it's \"x\"\\" true], t.Writable := by decide +kernel
  exact ⟨hwritable, by decide +kernel, tokenize_spacedText.1 _ hwritable⟩

end RowQuery
