/-
Texts joined at a blank or a mark.

No word goes on over a blank or a mark. So once the quotes of a text are closed, what comes after a
blank or a mark is scanned as if it stood alone, only its places are counted from the start of the
whole text.

* `Scan.behind`: a scan with an earlier text before it, which changes nothing else (`run_behind`);
* `Settled.run_eq`: a scan between two words remembers no more than its tokens and its place;
* `scan_append_blank`, `scan_append_mark`: the scan of two texts with a blank or a mark between;
* `Spaced`: words with blanks between and around them (`Spaced.bare_scan`);
* `tokenize_append_boundary`: the tokens of two texts joined, and where a quote is left open.
-/
import RowQuery.Proofs.Token.Scan

namespace RowQuery

open Text

/-! ### Strict readings -/

variable {text : String} {ts : List Token} {p : ℕ}

/-- The strict reading gives tokens exactly where the scan ends outside quotes. -/
lemma tokenizeStrict_eq_ok_iff : tokenizeStrict text = .ok ts ↔ (scan text).Bare ts := by
  constructor
  · intro h
    rw [tokenizeStrict, Scan.openedAt?] at h
    cases hmode : (scan text).mode with
    | bare =>
        rw [hmode] at h
        exact ⟨hmode, Except.ok.inj h⟩
    | quoted delimiter opened =>
        rw [hmode] at h
        cases h
    | escaped delimiter opened =>
        rw [hmode] at h
        cases h
  · exact Scan.Bare.tokenizeStrict_eq

/-- Some tokens, where no quote is left open. -/
lemma exists_tokenizeStrict_iff :
    (∃ ts, tokenizeStrict text = .ok ts) ↔ (scan text).openedAt? = none := by
  rw [tokenizeStrict]
  cases (scan text).openedAt? <;> simp

/-- An error, at the quote that is left open. -/
lemma tokenizeStrict_eq_error_iff_openedAt? :
    tokenizeStrict text = .error (.unterminatedQuote p) ↔ (scan text).openedAt? = some p := by
  rw [tokenizeStrict]
  cases (scan text).openedAt? <;> simp

/-! ### An earlier text -/

/-- Offsets counted from `n` characters before. -/
def ScanMode.later (n : ℕ) : ScanMode → ScanMode
  | bare => bare
  | quoted delimiter opened => quoted delimiter (opened + n)
  | escaped delimiter opened => escaped delimiter (opened + n)

namespace Scan

/-- What has been read, with the tokens of an earlier text of `n` characters before it. -/
def behind (s : Scan) (earlier : List Token) (n : ℕ) : Scan :=
  ⟨s.reversed ++ earlier.reverse, s.word, s.mode.later n, s.length + n⟩

section Behind

variable (s : Scan) (earlier : List Token) (n : ℕ)

/-- Ending a word leaves the earlier text alone. -/
lemma flush_behind : (s.behind earlier n).flush = s.flush.behind earlier n := by
  obtain ⟨reversed, word, mode, length⟩ := s
  cases word <;> rfl

/-- So does taking a character into it. -/
lemma take_behind (c : Char) : (s.behind earlier n).take c = (s.take c).behind earlier n := by
  obtain ⟨reversed, word, mode, length⟩ := s
  cases word <;> rfl

/-- A character leaves the earlier text alone. -/
lemma step_behind (c : Char) : (s.behind earlier n).step c = (s.step c).behind earlier n := by
  have hread : (s.behind earlier n).read c = (s.read c).behind earlier n := by
    have hmode : (s.behind earlier n).mode = s.mode.later n := rfl
    rw [read, read, hmode, flush_behind, take_behind]
    cases s.mode with
    | bare => dsimp only [ScanMode.later]; split_ifs <;> rfl
    | quoted delimiter opened => dsimp only [ScanMode.later]; split_ifs <;> rfl
    | escaped delimiter opened => rfl
  rw [step, hread, step]
  simp only [behind, Nat.add_right_comm]

/-- A text leaves the earlier text alone. -/
lemma run_behind (text : List Char) :
    (s.behind earlier n).run text = (s.run text).behind earlier n := by
  induction text generalizing s with
  | nil => rfl
  | cons c text ih => rw [run_cons, step_behind, ih, run_cons]

/-- The tokens of the earlier text come first. -/
lemma tokens_behind : (s.behind earlier n).tokens = earlier ++ s.tokens := by
  rw [tokens, flush_behind, behind, tokens, List.reverse_append, List.reverse_reverse]

/-- An open quote stands that much later. -/
lemma openedAt?_behind : (s.behind earlier n).openedAt? = s.openedAt?.map (· + n) := by
  obtain ⟨reversed, word, mode, length⟩ := s
  cases mode <;> rfl

end Behind

variable {s : Scan} {a b : String} {ts' : List Token} {c : Char}

/-- Outside quotes it stays outside quotes. -/
lemma Bare.behind (h : s.Bare ts) (earlier : List Token) (n : ℕ) :
    (s.behind earlier n).Bare (earlier ++ ts) :=
  ⟨by rw [Scan.behind, h.mode_eq]; rfl, by rw [tokens_behind, h.tokens_eq]⟩

/-- Between two words a scan remembers its tokens and its place only. -/
lemma Settled.eq_behind (h : s.Settled ts) : s = start.behind ts s.length := by
  obtain ⟨reversed, word, mode, length⟩ := s
  obtain ⟨rfl, rfl, rfl⟩ := h
  simp [Scan.behind, start, ScanMode.later]

/-- There a text is scanned as if it stood alone. -/
lemma Settled.run_eq (h : s.Settled ts) (text : List Char) :
    s.run text = (start.run text).behind ts s.length := by
  rw [← run_behind, ← h.eq_behind]

/-- Every character counts. -/
lemma length_run (s : Scan) (text : List Char) : (s.run text).length = s.length + text.length := by
  induction text generalizing s with
  | nil => rfl
  | cons c text ih =>
      have hstep : (s.step c).length = s.length + 1 := rfl
      rw [run_cons, ih, hstep, List.length_cons, Nat.add_right_comm, Nat.add_assoc]

/-- From the start of a text they make up its place. -/
lemma length_run_start (text : List Char) : (start.run text).length = text.length := by
  rw [length_run]
  exact Nat.zero_add _

/-- The scan of a text ends at its length. -/
lemma length_scan (text : String) : (scan text).length = text.length := by
  rw [scan, length_run_start, String.length_toList]

/-! ### Two texts joined -/

/-- A text after one character more. -/
lemma scan_append_singleton (a b : String) (c : Char) :
    scan (a ++ String.singleton c ++ b) = ((scan a).step c).run b.toList := by
  simp [scan, run_append]

/-- A text that comes after a scan has settled. -/
lemma scan_append_of_settled (h : ((scan a).step c).Settled ts) (b : String) :
    scan (a ++ String.singleton c ++ b) = (scan b).behind ts (a.length + 1) := by
  rw [scan_append_singleton, h.run_eq, step, length_scan]
  rfl

/-- After closed quotes and a blank a text is scanned as if it stood alone. -/
lemma Bare.scan_append_blank (h : (scan a).Bare ts) (hc : isBlank c = true) (b : String) :
    scan (a ++ String.singleton c ++ b) = (scan b).behind ts (a.length + 1) :=
  scan_append_of_settled (h.step_blank hc) b

/-- So it is after closed quotes and a mark, which is a token. -/
lemma Bare.scan_append_mark (h : (scan a).Bare ts) (hc : c ∈ marks) (b : String) :
    scan (a ++ String.singleton c ++ b) = (scan b).behind (ts ++ [.mark c]) (a.length + 1) :=
  scan_append_of_settled (h.step_mark hc) b

/-- Texts with a blank between. -/
lemma Bare.append_blank (h : (scan a).Bare ts) (hc : isBlank c = true) (h' : (scan b).Bare ts') :
    (scan (a ++ String.singleton c ++ b)).Bare (ts ++ ts') := by
  rw [h.scan_append_blank hc]
  exact h'.behind ts _

/-- Texts with a mark between. -/
lemma Bare.append_mark (h : (scan a).Bare ts) (hc : c ∈ marks) (h' : (scan b).Bare ts') :
    (scan (a ++ String.singleton c ++ b)).Bare (ts ++ [.mark c] ++ ts') := by
  rw [h.scan_append_mark hc]
  exact h'.behind _ _

end Scan

/-! ### Words with blanks between -/

/-- A text in which the given words stand one after the other, with blanks between every two and
any number of blanks around them. -/
inductive Spaced : List String → String → Prop
  | nothing : Spaced [] ""
  | word (w : String) : Spaced [w] w
  | join {ws ws' : List String} {a b : String} {c : Char} (ha : Spaced ws a)
      (hc : isBlank c = true) (hb : Spaced ws' b) :
      Spaced (ws ++ ws') (a ++ String.singleton c ++ b)

/-- Words with one blank between every two. -/
lemma spaced_intercalate (words : List String) : Spaced words (" ".intercalate words) := by
  induction words with
  | nil => exact .nothing
  | cons w words ih =>
      cases words with
      | nil => exact .word w
      | cons w' words =>
          have hblank : String.singleton ' ' = " " := by decide
          have hjoin := Spaced.join (.word w) (by decide : isBlank ' ' = true) ih
          rw [hblank] at hjoin
          rw [String.intercalate_cons_cons]
          exact hjoin

/-- The tokens of such a text are those of its words. -/
lemma Spaced.bare_scan {words : List String} (h : Spaced words text)
    (hwords : ∀ w ∈ words, (scan w).Bare (tokenize w)) :
    (scan text).Bare (words.flatMap tokenize) := by
  induction h with
  | nothing => exact Scan.settled_start.bare
  | word w => simpa using hwords w (by simp)
  | join ha hc hb iha ihb =>
      rw [List.flatMap_append]
      exact (iha fun w hw => hwords w (by simp [hw])).append_blank hc
        (ihb fun w hw => hwords w (by simp [hw]))

/-! ### The tokens of joined texts -/

/-- **Texts joined at a blank or a mark.** Where a text has all its quotes closed and a blank or a
mark follows it, the tokens of the whole are its own, the mark, and those of the rest. A strict
reading of the whole succeeds exactly if one of the rest does, and otherwise names the same quote,
counted from the start of the whole. -/
theorem tokenize_append_boundary {before : String} {tokens : List Token}
    (hbefore : tokenizeStrict before = .ok tokens) (after : String) (c : Char) :
    (isBlank c = true →
      tokenize (before ++ String.singleton c ++ after) = tokenize before ++ tokenize after)
    ∧ (c ∈ marks →
      tokenize (before ++ String.singleton c ++ after)
        = tokenize before ++ [.mark c] ++ tokenize after)
    ∧ (isBlank c = true ∨ c ∈ marks →
      ((∃ ts, tokenizeStrict (before ++ String.singleton c ++ after) = .ok ts)
        ↔ ∃ ts, tokenizeStrict after = .ok ts)
      ∧ ∀ p, tokenizeStrict after = .error (.unterminatedQuote p)
        ↔ tokenizeStrict (before ++ String.singleton c ++ after)
          = .error (.unterminatedQuote (p + before.length + 1))) := by
  have hbare := tokenizeStrict_eq_ok_iff.mp hbefore
  rw [hbare.tokenize_eq]
  refine ⟨fun hc => ?_, fun hc => ?_, fun hc => ?_⟩
  · rw [tokenize, hbare.scan_append_blank hc, Scan.tokens_behind, tokenize]
  · rw [tokenize, hbare.scan_append_mark hc, Scan.tokens_behind, tokenize]
  · have hopened : (scan (before ++ String.singleton c ++ after)).openedAt?
        = (scan after).openedAt?.map (· + (before.length + 1)) := by
      rcases hc with hc | hc
      · rw [hbare.scan_append_blank hc, Scan.openedAt?_behind]
      · rw [hbare.scan_append_mark hc, Scan.openedAt?_behind]
    refine ⟨?_, fun p => ?_⟩
    · rw [exists_tokenizeStrict_iff, exists_tokenizeStrict_iff, hopened, Option.map_eq_none_iff]
    · rw [tokenizeStrict_eq_error_iff_openedAt?, tokenizeStrict_eq_error_iff_openedAt?, hopened,
        Option.map_eq_some_iff]
      constructor
      · exact fun h => ⟨p, h, (Nat.add_assoc ..).symm⟩
      · rintro ⟨q, hq, hplace⟩
        obtain rfl : q = p := by omega
        exact hq

/-- A quote that is left open after a comma, and after a blank. -/
theorem tokenize_append_comma_or_blank :
    let before := "name='a, b'"
    let after := "id \"x"
    tokenizeStrict before = .ok [.word "name" false, .mark '=', .word "a, b" true]
      ∧ ',' ∈ marks ∧ isBlank ' ' = true
      ∧ tokenizeStrict after = .error (.unterminatedQuote 3)
      ∧ tokenizeStrict (before ++ String.singleton ',' ++ after)
        = .error (.unterminatedQuote (3 + before.length + 1))
      ∧ tokenize (before ++ String.singleton ',' ++ after)
        = tokenize before ++ [.mark ','] ++ tokenize after
      ∧ tokenize (before ++ String.singleton ' ' ++ after) = tokenize before ++ tokenize after := by
  intro before after
  have hbefore : tokenizeStrict before
      = .ok [.word "name" false, .mark '=', .word "a, b" true] := by decide +kernel
  have hafter : tokenizeStrict after = .error (.unterminatedQuote 3) := by decide +kernel
  have hcomma : ',' ∈ marks := by simp [marks]
  have hblank : isBlank ' ' = true := by decide
  obtain ⟨-, htokens, hstrict⟩ := tokenize_append_boundary hbefore after ','
  exact ⟨hbefore, hcomma, hblank, hafter, ((hstrict (.inr hcomma)).2 3).mp hafter, htokens hcomma,
    (tokenize_append_boundary hbefore after ' ').1 hblank⟩

end RowQuery
