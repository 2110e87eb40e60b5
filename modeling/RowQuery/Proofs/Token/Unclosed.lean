/-
Quotes that are never closed.

Whether a quote opens, closes, or is text depends on everything before it. Still a strict reading
names the right one: the quote at which what comes before has all its quotes closed, and after
which the same quote never stands again, unless a backslash takes it.

* `unescaped`: the characters that no backslash takes;
* `OpenedAt`: a text taken apart at the quote that is open at its end;
* `ScanMode.Reflects`: a mode knows that quote, which every character keeps up (`reflects_step`,
  `reflects_run`);
* `openedAt?_run`: a quote that stands nowhere in the rest stays open;
* `NeverClosed`, `tokenizeStrict_eq_error_iff`: the quotes that a strict reading names.
-/
import RowQuery.Proofs.Token.Boundary

namespace RowQuery

open Text

/-! ### Characters behind a backslash -/

/-- The characters of a text, where every backslash skips the one after it. -/
def unescaped : List Char → List Char
  | [] => []
  | [c] => if c = '\\' then [] else [c]
  | c :: d :: rest => if c = '\\' then unescaped rest else c :: unescaped (d :: rest)

/-- A backslash skips the character after it. -/
lemma unescaped_backslash (rest : List Char) :
    unescaped ('\\' :: rest) = unescaped (rest.drop 1) := by
  cases rest <;> simp [unescaped]

/-- Another character skips none. -/
lemma unescaped_cons {c : Char} (hc : c ≠ '\\') (rest : List Char) :
    unescaped (c :: rest) = c :: unescaped rest := by
  cases rest <;> simp [unescaped, hc]

/-- A text inside quotes that does not close them: it ends outside an escape, and the delimiter
stands in it behind backslashes only. -/
structure Inside (delimiter : Char) (text : List Char) : Prop where
  append : ∀ rest, unescaped (text ++ rest) = unescaped text ++ unescaped rest
  not_mem : delimiter ∉ unescaped text

namespace Inside

variable {delimiter c : Char} {text : List Char}

/-- Nothing closes nothing. -/
lemma nil : Inside delimiter [] := ⟨fun _ => rfl, List.not_mem_nil⟩

/-- One more character that is no backslash and not the delimiter. -/
lemma concat (h : Inside delimiter text) (hc : c ≠ '\\') (hclose : c ≠ delimiter) :
    Inside delimiter (text ++ [c]) := by
  have hchar : unescaped (text ++ [c]) = unescaped text ++ [c] := by
    rw [h.append, unescaped_cons hc]
    rfl
  refine ⟨fun rest => ?_, ?_⟩
  · rw [List.append_assoc, h.append, List.singleton_append, unescaped_cons hc, hchar,
      List.append_assoc, List.singleton_append]
  · rw [hchar]
    simpa [hclose.symm] using h.not_mem

/-- One more escape, of any character. -/
lemma concat_escape (h : Inside delimiter text) (c : Char) :
    Inside delimiter (text ++ ['\\', c]) := by
  have hescape : unescaped (text ++ ['\\', c]) = unescaped text := by
    rw [h.append, unescaped_backslash]
    exact List.append_nil _
  refine ⟨fun rest => ?_, by rw [hescape]; exact h.not_mem⟩
  rw [List.append_assoc, h.append, List.cons_append, unescaped_backslash, hescape]
  rfl

end Inside

/-! ### Where the open quote stands -/

/-- A text taken apart at the quote that is open at its end: all quotes before it are closed, and
behind it come characters that do not close it, and the tail of the text. -/
def OpenedAt (text : List Char) (delimiter : Char) (opened : ℕ) (tail : List Char) : Prop :=
  ∃ before inside, text = before ++ delimiter :: (inside ++ tail) ∧ before.length = opened
    ∧ (delimiter = '\'' ∨ delimiter = '"') ∧ (Scan.start.run before).mode = .bare
    ∧ Inside delimiter inside

/-- What the mode of a scan says of the text that has been read. -/
def ScanMode.Reflects (text : List Char) : ScanMode → Prop
  | bare => True
  | quoted delimiter opened => OpenedAt text delimiter opened []
  | escaped delimiter opened => OpenedAt text delimiter opened ['\\']

namespace Scan

variable {s : Scan} {text : List Char} {delimiter : Char} {opened : ℕ}

@[simp] lemma mode_step (s : Scan) (c : Char) : (s.step c).mode = (s.read c).mode := rfl

/-- Every character keeps up what the mode says. -/
lemma reflects_step (h : (start.run text).mode.Reflects text) (c : Char) :
    ((start.run text).step c).mode.Reflects (text ++ [c]) := by
  have hreads := (start.run text).reads c
  rw [mode_step]
  generalize (start.run text).read c = s' at hreads
  cases hreads with
  | opening hmode hc => exact ⟨text, [], rfl, (length_run_start text).symm, hc, hmode, .nil⟩
  | blank hmode hc => rw [mode_flush, hmode]; trivial
  | mark hmode hc =>
      change ((start.run text).flush.mode).Reflects _
      rw [mode_flush, hmode]
      trivial
  | word hmode hc => rw [mode_take, hmode]; trivial
  | backslash hmode hc =>
      rw [hmode] at h
      obtain ⟨before, inside, rfl, hbefore, hquote, hbare, hinside⟩ := h
      exact ⟨before, inside, by simp [hc], hbefore, hquote, hbare, hinside⟩
  | closing hmode hc hclose => trivial
  | inside hmode hc hclose =>
      rw [hmode] at h
      rw [mode_take, hmode]
      obtain ⟨before, inside, rfl, hbefore, hquote, hbare, hinside⟩ := h
      exact ⟨before, inside ++ [c], by simp, hbefore, hquote, hbare, hinside.concat hc hclose⟩
  | escaped hmode =>
      rw [hmode] at h
      obtain ⟨before, inside, rfl, hbefore, hquote, hbare, hinside⟩ := h
      exact ⟨before, inside ++ ['\\', c], by simp, hbefore, hquote, hbare,
        hinside.concat_escape c⟩

/-- So it says where the open quote of a text stands. -/
lemma reflects_run (text : List Char) : (start.run text).mode.Reflects text := by
  induction text using List.reverseRecOn with
  | nil => trivial
  | append_singleton text c ih =>
      rw [run_append]
      exact reflects_step ih c

/-- A quote that does not stand in the rest, the characters behind backslashes aside, is still open
at its end. -/
lemma openedAt?_run (text : List Char) :
    (s.mode = .quoted delimiter opened → delimiter ∉ unescaped text →
      (s.run text).openedAt? = some opened)
    ∧ (s.mode = .escaped delimiter opened → delimiter ∉ unescaped (text.drop 1) →
      (s.run text).openedAt? = some opened) := by
  induction text generalizing s with
  | nil => exact ⟨fun hmode _ => by rw [run_nil, openedAt?, hmode],
      fun hmode _ => by rw [run_nil, openedAt?, hmode]⟩
  | cons c text ih =>
      refine ⟨fun hmode h => ?_, fun hmode h => ?_⟩
      · by_cases hc : c = '\\'
        · have hstep : (s.step c).mode = .escaped delimiter opened := by
            simp [read, hmode, hc]
          rw [hc, unescaped_backslash] at h
          exact ih.2 hstep h
        · rw [unescaped_cons hc, List.mem_cons, not_or] at h
          have hstep : (s.step c).mode = .quoted delimiter opened := by
            simp [read, hmode, hc, Ne.symm h.1]
          exact ih.1 hstep h.2
      · have hstep : (s.step c).mode = .quoted delimiter opened := by
          simp [read, hmode]
        exact ih.1 hstep h

end Scan

/-! ### The quotes that a strict reading names -/

/-- The quote at an offset of a text is never closed: all quotes before it are closed, and behind it
the same quote does not stand again, the characters behind backslashes aside. -/
def NeverClosed (text : String) (p : ℕ) : Prop :=
  ∃ delimiter, text.toList[p]? = some delimiter ∧ (delimiter = '\'' ∨ delimiter = '"')
    ∧ (∃ tokens, tokenizeStrict (String.ofList (text.toList.take p)) = .ok tokens)
    ∧ delimiter ∉ unescaped (text.toList.drop (p + 1))

/-- No quote is open outside quotes. -/
lemma Scan.openedAt?_eq_none_iff {s : Scan} : s.openedAt? = none ↔ s.mode = .bare := by
  rw [openedAt?]
  cases s.mode <;> simp

/-- A text before which all quotes are closed. -/
lemma exists_tokenizeStrict_ofList_iff {before : List Char} :
    (∃ tokens, tokenizeStrict (String.ofList before) = .ok tokens)
      ↔ (Scan.start.run before).mode = .bare := by
  rw [exists_tokenizeStrict_iff, Scan.openedAt?_eq_none_iff, scan, String.toList_ofList]

/-- Where a quote is open at the end of a text, it is never closed. -/
lemma OpenedAt.neverClosed {text : String} {delimiter : Char} {p : ℕ} {tail : List Char}
    (h : OpenedAt text.toList delimiter p tail) (htail : unescaped tail = []) :
    NeverClosed text p := by
  obtain ⟨before, inside, htext, rfl, hquote, hbare, hinside⟩ := h
  refine ⟨delimiter, by simp [htext], hquote, ?_, ?_⟩
  · rw [htext, List.take_left]
    exact exists_tokenizeStrict_ofList_iff.mpr hbare
  · have hdrop : text.toList.drop (before.length + 1) = inside ++ tail := by simp [htext]
    rw [hdrop, hinside.append, htail, List.append_nil]
    exact hinside.not_mem

/-- The quote that is open at the end of a text is the one that is never closed. -/
lemma openedAt?_scan_eq_some_iff {text : String} {p : ℕ} :
    (scan text).openedAt? = some p ↔ NeverClosed text p := by
  constructor
  · intro h
    have hreflects := Scan.reflects_run text.toList
    rw [Scan.openedAt?, scan] at h
    cases hmode : (Scan.start.run text.toList).mode with
    | bare => simp [hmode] at h
    | quoted delimiter opened =>
        rw [hmode] at hreflects h
        cases h
        exact hreflects.neverClosed rfl
    | escaped delimiter opened =>
        rw [hmode] at hreflects h
        cases h
        exact hreflects.neverClosed rfl
  · rintro ⟨delimiter, hplace, hquote, hbefore, hafter⟩
    obtain ⟨hp, hdelimiter⟩ := List.getElem?_eq_some_iff.mp hplace
    have htext : text.toList = text.toList.take p ++ delimiter :: text.toList.drop (p + 1) := by
      rw [← hdelimiter, List.cons_getElem_drop_succ, List.take_append_drop]
    have hbare := exists_tokenizeStrict_ofList_iff.mp hbefore
    have hlength : (Scan.start.run (text.toList.take p)).length = p := by
      rw [Scan.length_run_start, List.length_take_of_le hp.le]
    have hopen : ((Scan.start.run (text.toList.take p)).step delimiter).mode
        = .quoted delimiter p := by
      rcases hquote with rfl | rfl <;> simp [Scan.read, hbare, Scan.openQuote, hlength]
    rw [scan, htext, Scan.run_append, Scan.run_cons]
    exact (Scan.openedAt?_run _).1 hopen hafter

/-- **The place of an unterminated quote.** A strict reading fails at a place exactly if the quote
there is never closed, and succeeds exactly if every quote is. -/
theorem tokenizeStrict_eq_error_iff (text : String) :
    (∀ p, tokenizeStrict text = .error (.unterminatedQuote p) ↔ NeverClosed text p)
    ∧ ((∃ tokens, tokenizeStrict text = .ok tokens) ↔ ∀ p, ¬ NeverClosed text p) := by
  refine ⟨fun p => ?_, ?_⟩
  · rw [tokenizeStrict_eq_error_iff_openedAt?, openedAt?_scan_eq_some_iff]
  · rw [exists_tokenizeStrict_iff, Option.eq_none_iff_forall_ne_some]
    exact forall_congr' fun p => not_congr openedAt?_scan_eq_some_iff

end RowQuery
