/-
Layouts: any tokens, as trees, and the condition they amount to.

Besides sentences, many other tokens fill the slots of a level. Between two connectives its words
and marks may stand in any order, and so may whole parentheses; two conditions may stand side by
side until the connective after them. A layout says of any tokens what they amount to, without
slots.

* `Part`: what tokens amount to, which is nothing, a condition, or no condition at all;
* `Part.ofWords`: the words and the marks since the last connective;
* `Progress`: the conditions and connectives of a level so far, with `add`, `link` and `connect`;
* `Layout`: the trees, with their `tokens` and the `part` they amount to;
* `Completes`: tokens are read like others that close every parenthesis or end before one that
  closes nothing;
* `exists_layout_completes`: all tokens are read like those of some layout.
-/
import RowQuery.Proofs.Sentence.Basic

namespace RowQuery

/-! ### What tokens amount to -/

/-- What the tokens of a level, or of a piece of one, amount to. -/
inductive Part
  | nothing
  | condition (x : Condition)
  | malformed
deriving DecidableEq, Repr

/-- The comparison of a column with a literal by any operator. -/
def Condition.compared (column operator literal : String) : Condition :=
  match Relation.ofText? operator with
  | some relation => .comparison column relation literal
  | none => .unresolved column operator literal

/-- A comparison has one level. -/
@[simp] lemma Condition.depth_compared (column operator literal : String) :
    (compared column operator literal).depth = 1 := by
  rw [compared]
  split <;> rfl

/-- The words since the last connective, and the marks among them or around them. Two words are a
comparison if there are marks, whatever the order; marks without a word are nothing. -/
def Part.ofWords (words : List String) (marks : String) : Part :=
  match words with
  | [] => .nothing
  | [column, literal] =>
    if marks = "" ∨ (Connective.ofWord? marks).isSome then .malformed
    else .condition (.compared column marks literal)
  | _ => .malformed

/-- More than two words are too many. -/
lemma Part.ofWords_of_three_le {words : List String} (marks : String) (h : 3 ≤ words.length) :
    ofWords words marks = .malformed := by
  obtain _ | ⟨a, _ | ⟨b, _ | ⟨c, rest⟩⟩⟩ := words
  · simp at h
  · simp at h
  · simp at h
  · rfl

/-- Words spell no condition that is deeper than a comparison. -/
lemma Part.depth_of_ofWords_eq {words : List String} {marks : String} {x : Condition}
    (h : ofWords words marks = .condition x) : x.depth = 1 := by
  obtain _ | ⟨column, _ | ⟨literal, _ | ⟨c, rest⟩⟩⟩ := words
  · cases h
  · cases h
  · rw [ofWords] at h
    split_ifs at h
    cases h
    exact Condition.depth_compared column marks literal
  · cases h

/-- The conditions and connectives of a level so far. -/
inductive Progress
  | empty
  /-- A connective before the first condition. -/
  | led (k : Connective)
  | whole (x : Condition)
  /-- A condition and the connective that will join the next one to it. -/
  | joining (x : Condition) (k : Connective)
  /-- Two conditions side by side, which wait for the connective after them. -/
  | apart (x y : Condition)
  /-- What no further token can make a condition. -/
  | broken
deriving DecidableEq, Repr

namespace Progress

/-- What a comparison or a pair of parentheses amounts to is added. Beside two conditions that wait
for a connective there is no room, not even for nothing; elsewhere nothing does not count. -/
def add : Progress → Part → Progress
  | broken, _ => broken
  | apart .., _ => broken
  | p, .nothing => p
  | _, .malformed => broken
  | empty, .condition x => whole x
  | led k, .condition x => joining x k
  | whole x, .condition y => apart x y
  | joining x k, .condition y => whole (.join k x y)

/-- A connective is added. It joins the two conditions side by side, if there are any, and
otherwise waits for a condition, in place of one that waits already; but before the first
condition there may be only one. -/
def link (k : Connective) : Progress → Progress
  | empty => led k
  | led _ => broken
  | whole x => joining x k
  | joining x _ => joining x k
  | apart x y => whole (.join k x y)
  | broken => broken

/-- A comparison is added and the connective after it, which first joins two conditions that
stand side by side before the comparison. -/
def connect (p : Progress) (part : Part) (k : Connective) : Progress :=
  match p with
  | apart .. => (p.link k).add part
  | _ => (p.add part).link k

/-- Behind a condition that stands alone, a comparison and the connective after it are joined in
either order. -/
lemma connect_whole (x : Condition) (part : Part) (k : Connective) :
    (whole x).connect part k = (joining x k).add part := by
  cases part <;> rfl

/-- What the level amounts to if it ends here; a connective that still waits does not count. -/
def part : Progress → Part
  | empty => .nothing
  | led _ => .nothing
  | whole x => .condition x
  | joining x _ => .condition x
  | apart .. => .malformed
  | broken => .malformed

/-- Parts that are nothing do not count at the end. -/
lemma part_add_nothing (p : Progress) : (p.add .nothing).part = p.part := by
  cases p <;> rfl

/-- The same with the words and marks since the last connective. -/
def finish (p : Progress) (words : List String) (marks : String) : Part :=
  (p.add (.ofWords words marks)).part

end Progress

/-! ### Layouts -/

/-- Tokens in the order in which they are read, with parentheses in pairs. -/
inductive Layout
  | nil
  | word (before : Layout) (a : Operand)
  | mark (before : Layout) (c : Char) (not_parenthesis : c ≠ '(' ∧ c ≠ ')')
  | group (before inner : Layout)
  | junction (before : Layout) (j : Junction)

namespace Layout

/-- The tokens of a layout. -/
def tokens : Layout → List Token
  | nil => []
  | word before a => before.tokens ++ [a.token]
  | mark before c _ => before.tokens ++ [.mark c]
  | group before inner => before.tokens ++ .mark '(' :: (inner.tokens ++ [.mark ')'])
  | junction before j => before.tokens ++ [j.token]

/-- The words since the last connective, those in parentheses aside. -/
def words : Layout → List String
  | nil => []
  | word before a => before.words ++ [a.text]
  | mark before _ _ => before.words
  | group before _ => before.words
  | junction .. => []

/-- The marks since the last connective, those in parentheses aside. -/
def marks : Layout → String
  | nil => ""
  | word before _ => before.marks
  | mark before c _ => before.marks.push c
  | group before _ => before.marks
  | junction .. => ""

/-- The conditions and connectives of the level, without the words since the last connective.
Parentheses count at once, so before the comparison among whose words they stand. -/
def progress : Layout → Progress
  | nil => .empty
  | word before _ => before.progress
  | mark before _ _ => before.progress
  | group before inner => before.progress.add (inner.progress.finish inner.words inner.marks)
  | junction before j =>
    before.progress.connect (.ofWords before.words before.marks) j.connective

/-- What a layout amounts to. -/
def part (l : Layout) : Part := l.progress.finish l.words l.marks

end Layout

/-! ### All tokens are laid out -/

/-- Tokens are read like others: closing parentheses may be missing at their end, and one that
closes nothing ends them. -/
def Completes (tokens whole : List Token) : Prop :=
  (∃ n, tokens ++ List.replicate n (.mark ')') = whole)
    ∨ ∃ rest, tokens = whole ++ .mark ')' :: rest

namespace Layout

/-- The tokens of layouts inside each other, every one but the outermost behind a parenthesis
that is still open. -/
def openTokens (l : Layout) : List Layout → List Token
  | [] => l.tokens
  | parent :: outer => parent.openTokens outer ++ .mark '(' :: l.tokens

/-- The innermost layout stands at the end. -/
lemma openTokens_append {l next : Layout} {tokens : List Token}
    (h : next.tokens = l.tokens ++ tokens) (outer : List Layout) :
    next.openTokens outer = l.openTokens outer ++ tokens := by
  cases outer with
  | nil => exact h
  | cons parent outer => simp [openTokens, h]

/-- A closing parenthesis adds the innermost layout to the one around it. -/
lemma openTokens_group (l parent : Layout) (outer : List Layout) :
    (parent.group l).openTokens outer = l.openTokens (parent :: outer) ++ [.mark ')'] := by
  have htokens : (parent.group l).tokens
      = parent.tokens ++ (.mark '(' :: (l.tokens ++ [.mark ')'])) := rfl
  rw [openTokens_append htokens, openTokens]
  simp

/-- Layouts inside each other are completed by closing parentheses. -/
lemma exists_tokens_eq_openTokens (l : Layout) (outer : List Layout) :
    ∃ whole : Layout,
      l.openTokens outer ++ List.replicate outer.length (.mark ')') = whole.tokens := by
  induction outer generalizing l with
  | nil => exact ⟨l, by simp [openTokens]⟩
  | cons parent outer ih =>
      obtain ⟨whole, hwhole⟩ := ih (parent.group l)
      refine ⟨whole, ?_⟩
      rw [openTokens_group, List.append_assoc] at hwhole
      exact hwhole

/-- Whatever comes after layouts inside each other, it is laid out with them. -/
lemma exists_completes_openTokens (l : Layout) (outer : List Layout) (rest : List Token) :
    ∃ whole : Layout, Completes (l.openTokens outer ++ rest) whole.tokens := by
  induction rest generalizing l outer with
  | nil =>
      obtain ⟨whole, hwhole⟩ := l.exists_tokens_eq_openTokens outer
      exact ⟨whole, .inl ⟨outer.length, by simpa using hwhole⟩⟩
  | cons token rest ih =>
      -- a token that the innermost layout takes
      have extend (next : Layout) (h : next.tokens = l.tokens ++ [token]) :
          ∃ whole : Layout, Completes (l.openTokens outer ++ token :: rest) whole.tokens := by
        have hnext := ih next outer
        rwa [openTokens_append h, List.append_assoc] at hnext
      cases token with
      | word text quoted =>
          by_cases hkeyword : quoted = false ∧ ∃ k, isKeyword text (Connective.text k) = true
          · obtain ⟨rfl, k, hk⟩ := hkeyword
            exact extend (l.junction ⟨text, k, hk⟩) rfl
          · refine extend (l.word ⟨text, quoted, fun hquoted k => ?_⟩) rfl
            have hnot := not_and.mp hkeyword hquoted
            simpa using not_exists.mp hnot k
      | mark c =>
          by_cases hopen : c = '('
          · subst hopen
            simpa [openTokens, tokens] using ih nil (l :: outer)
          by_cases hclose : c = ')'
          · subst hclose
            cases outer with
            | nil => exact ⟨l, .inr ⟨rest, rfl⟩⟩
            | cons parent outer =>
                have hnext := ih (parent.group l) outer
                rwa [openTokens_group, List.append_assoc] at hnext
          · exact extend (l.mark c ⟨hopen, hclose⟩) rfl

end Layout

/-- All tokens are read like those of some layout. -/
lemma exists_layout_completes (tokens : List Token) :
    ∃ l : Layout, Completes tokens l.tokens := by
  simpa [Layout.openTokens, Layout.tokens] using
    Layout.nil.exists_completes_openTokens [] tokens

end RowQuery
