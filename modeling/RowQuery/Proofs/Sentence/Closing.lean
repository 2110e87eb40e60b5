/-
Where the tokens of a condition end.

A parenthesis that closes nothing ends a condition, whatever comes after it, and parentheses that
are open at the end of the tokens are closed there. So it makes no difference how many of the open
ones are closed at the end, nor whether one too many is.

* `heeded`: the tokens before the first parenthesis that closes nothing (`Level.read_heeded`: the
  others are not read);
* `ClosesOpen`: every parenthesis that closes, closes one that is open (`ClosesOpen.heeded_append`:
  all such tokens are heeded);
* `Condition.ofTokens_append_close`: closing parentheses at the end are optional, and one too many
  ends the condition.
-/
import RowQuery.Proofs.Sentence.Reading

namespace RowQuery

/-! ### The tokens that are read -/

/-- The tokens before the first parenthesis that closes nothing, `n` parentheses being open before
them. -/
def heeded (n : ℕ) : List Token → List Token
  | [] => []
  | token :: rest =>
    if token = .mark '(' then token :: heeded (n + 1) rest
    else if token = .mark ')' then if n = 0 then [] else token :: heeded (n - 1) rest
    else token :: heeded n rest

variable {n : ℕ} {rest : List Token}

lemma heeded_open : heeded n (.mark '(' :: rest) = .mark '(' :: heeded (n + 1) rest := by
  rw [heeded, if_pos rfl]

lemma heeded_unbalanced : heeded 0 (.mark ')' :: rest) = [] := by
  rw [heeded, if_neg (by decide), if_pos rfl, if_pos rfl]

lemma heeded_close : heeded (n + 1) (.mark ')' :: rest) = .mark ')' :: heeded n rest := by
  rw [heeded, if_neg (by decide), if_pos rfl, if_neg n.succ_ne_zero, Nat.add_sub_cancel]

/-- A token that is no parenthesis is heeded. -/
lemma heeded_of_ne {token : Token} (hopen : token ≠ .mark '(') (hclose : token ≠ .mark ')') :
    heeded n (token :: rest) = token :: heeded n rest := by
  rw [heeded, if_neg hopen, if_neg hclose]

/-- Heeded after tokens that are, too. -/
lemma heeded_append_of_ne {tokens : List Token} {token : Token}
    (htokens : ∀ rest, heeded n (tokens ++ rest) = tokens ++ heeded n rest)
    (hopen : token ≠ .mark '(') (hclose : token ≠ .mark ')') (rest : List Token) :
    heeded n (tokens ++ [token] ++ rest) = tokens ++ [token] ++ heeded n rest := by
  rw [List.append_assoc, htokens, List.singleton_append, heeded_of_ne hopen hclose,
    List.append_assoc, List.singleton_append]

/-- Of closing parentheses those are heeded that close an open one. -/
lemma heeded_replicate_close :
    heeded n (List.replicate (n + 1) (.mark ')') ++ rest) = List.replicate n (.mark ')') := by
  induction n with
  | zero => exact heeded_unbalanced
  | succ n ih =>
      rw [List.replicate_succ, List.cons_append, heeded_close, ih, ← List.replicate_succ]

/-- Of tokens that are all heeded every beginning is heeded whole. -/
lemma heeded_eq_of_append {tokens more : List Token}
    (h : heeded n (tokens ++ more) = tokens ++ more) : heeded n tokens = tokens := by
  induction tokens generalizing n with
  | nil => rfl
  | cons token tokens ih =>
      rw [List.cons_append, heeded] at h
      rw [heeded]
      split_ifs at h ⊢
      all_goals exact congrArg (token :: ·) (ih (List.cons.inj h).2)

/-- Reading looks at no other tokens. -/
lemma Level.read_heeded (level : Level) (outer : List Level) (tokens : List Token) :
    level.read outer (heeded outer.length tokens) = level.read outer tokens := by
  induction level, outer, tokens using read_induction with
  | nil level outer => rw [heeded]
  | full level outer rest hfull =>
      rw [heeded_open, read_open, read_open, if_pos hfull, if_pos hfull]
  | opening level outer rest hroom ih =>
      rw [heeded_open, read_open, read_open, if_neg hroom, if_neg hroom]
      exact ih
  | unbalanced level rest => rw [List.length_nil, heeded_unbalanced, read, read, closeAll]
  | closing level parent outer rest ih =>
      rw [List.length_cons, heeded_close, read_close, read_close]
      simp only [ih]
  | mark level outer c rest hopen hclose ih =>
      rw [heeded_of_ne (by simpa using hopen) (by simpa using hclose),
        read_mark_of_ne hopen hclose, read_mark_of_ne hopen hclose]
      simp only [ih]
  | word level outer text quoted rest ih =>
      rw [heeded_of_ne (by simp) (by simp), read_word, read_word]
      simp only [ih]

/-! ### Parentheses that close an open one -/

/-- No beginning of the tokens closes more parentheses than are open: those that it opens, and `n`
before it. -/
def ClosesOpen (n : ℕ) (tokens : List Token) : Prop :=
  ∀ first, first <+: tokens → first.count (.mark ')') ≤ n + first.count (.mark '(')

instance (n : ℕ) (tokens : List Token) : Decidable (ClosesOpen n tokens) :=
  decidable_of_iff
    (∀ first ∈ tokens.inits, first.count (.mark ')') ≤ n + first.count (.mark '('))
    (by simp only [ClosesOpen, List.mem_inits])

/-- Behind the first token as many parentheses are open as it leaves. -/
lemma ClosesOpen.of_cons {token : Token} {m : ℕ} (h : ClosesOpen n (token :: rest))
    (hm : n + [token].count (.mark '(') = m + [token].count (.mark ')')) : ClosesOpen m rest := by
  intro first hfirst
  have hcount := h (token :: first) (List.cons_prefix_cons.mpr ⟨rfl, hfirst⟩)
  rw [← List.singleton_append, List.count_append, List.count_append] at hcount
  omega

/-- Tokens whose parentheses close open ones are heeded, and leave `k` parentheses open to those
after them. -/
lemma ClosesOpen.heeded_append {tokens : List Token} {k : ℕ} (h : ClosesOpen n tokens)
    (hk : n + tokens.count (.mark '(') = tokens.count (.mark ')') + k) (more : List Token) :
    heeded n (tokens ++ more) = tokens ++ heeded k more := by
  induction tokens generalizing n with
  | nil =>
      obtain rfl : n = k := by simpa using hk
      rfl
  | cons token rest ih =>
      rw [List.cons_append, List.cons_append]
      by_cases hopen : token = .mark '('
      · subst hopen
        have hrest : ClosesOpen (n + 1) rest := h.of_cons (by simp)
        rw [heeded_open, ih hrest (by simp at hk; omega)]
      by_cases hclose : token = .mark ')'
      · subst hclose
        -- the parenthesis alone closes one of those that are open before it
        have hpos : 1 ≤ n := by simpa using h [.mark ')'] ⟨rest, rfl⟩
        obtain ⟨m, rfl⟩ := Nat.exists_eq_add_of_le' hpos
        have hrest : ClosesOpen m rest := h.of_cons (by simp)
        rw [heeded_close, ih hrest (by simp at hk; omega)]
      · have hrest : ClosesOpen n rest := h.of_cons (by simp [hopen, hclose])
        rw [heeded_of_ne hopen hclose, ih hrest (by simpa [hopen, hclose] using hk)]

/-! ### The main statement -/

namespace Condition

/-- Refusing operators without a meaning does not look at the tokens again. -/
lemma ofTokensResolved_congr {tokens others : List Token} (h : ofTokens tokens = ofTokens others) :
    ofTokensResolved tokens = ofTokensResolved others := by
  rw [ofTokensResolved, h, ← ofTokensResolved]

/-- **Closing parentheses at the end are optional.** If every parenthesis closes an open one and
`k` stay open at the end, the tokens spell the same, condition or error, when up to `k` parentheses
close them, and when one more closes nothing, whatever comes after that. -/
theorem ofTokens_append_close {tokens : List Token} {k : ℕ} (hne : tokens ≠ [])
    (hcloses : ClosesOpen 0 tokens)
    (hk : tokens.count (.mark '(') = tokens.count (.mark ')') + k) :
    (∀ j ≤ k, ofTokens (tokens ++ List.replicate j (.mark ')')) = ofTokens tokens
        ∧ ofTokensResolved (tokens ++ List.replicate j (.mark ')')) = ofTokensResolved tokens)
    ∧ ∀ rest, ofTokens (tokens ++ (List.replicate (k + 1) (.mark ')') ++ rest)) = ofTokens tokens
        ∧ ofTokensResolved (tokens ++ (List.replicate (k + 1) (.mark ')') ++ rest))
          = ofTokensResolved tokens := by
  have hclosed : ∀ j, ofTokens (tokens ++ List.replicate j (.mark ')')) = ofTokens tokens := by
    intro j
    rw [ofTokens_eq (by simp [hne]), ofTokens_eq hne, Level.read_append_replicate_close]
  have hended : ∀ rest, ofTokens (tokens ++ (List.replicate (k + 1) (.mark ')') ++ rest))
      = ofTokens tokens := by
    intro rest
    have hheeded : heeded 0 (tokens ++ (List.replicate (k + 1) (.mark ')') ++ rest))
        = tokens ++ List.replicate k (.mark ')') := by
      rw [hcloses.heeded_append (by simpa using hk), heeded_replicate_close]
    have hread := Level.read_heeded .start []
      (tokens ++ (List.replicate (k + 1) (.mark ')') ++ rest))
    rw [List.length_nil, hheeded, Level.read_append_replicate_close] at hread
    rw [ofTokens_eq (by simp [hne]), ofTokens_eq hne, hread]
  exact ⟨fun j _ => ⟨hclosed j, ofTokensResolved_congr (hclosed j)⟩,
    fun rest => ⟨hended rest, ofTokensResolved_congr (hended rest)⟩⟩

/-- A comparison, and one behind a parenthesis that stays open. -/
def leftOpen : List Token :=
  [.word "a" false, .mark '=', .word "1" false, .word "and" false, .mark '(', .word "b" false,
    .mark '=', .word "2" false]

/-- The parenthesis may be closed, and closed twice before tokens that spell nothing. -/
theorem ofTokens_leftOpen :
    leftOpen ≠ [] ∧ ClosesOpen 0 leftOpen
    ∧ leftOpen.count (.mark '(') = leftOpen.count (.mark ')') + 1
    ∧ ofTokens (leftOpen ++ List.replicate 1 (.mark ')'))
      = .ok (some (.join .and (.comparison "a" .equal "1") (.comparison "b" .equal "2")))
    ∧ ofTokens (leftOpen ++ (List.replicate 2 (.mark ')') ++ [.mark '(', .mark '=']))
      = .ok (some (.join .and (.comparison "a" .equal "1") (.comparison "b" .equal "2"))) := by
  have hcloses : ClosesOpen 0 leftOpen := by decide
  have hcount : leftOpen.count (.mark '(') = leftOpen.count (.mark ')') + 1 := by decide
  have hread : ofTokens leftOpen
      = .ok (some (.join .and (.comparison "a" .equal "1") (.comparison "b" .equal "2"))) := by
    decide +kernel
  have hsame := ofTokens_append_close (by decide) hcloses hcount
  exact ⟨by decide, hcloses, hcount, (hsame.1 1 le_rfl).1.trans hread,
    (hsame.2 [.mark '(', .mark '=']).1.trans hread⟩

end Condition

end RowQuery
