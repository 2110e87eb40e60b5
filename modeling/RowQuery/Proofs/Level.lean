/-
One token read into a level.

* `checked_cases`, `checked_bind`, `checked_bind_of_lt`, `checked_bind_cases`: the check of the
  heights after a token;
* `read_word`, `read_mark`, `read_open`, `read_close`: what each kind of token does to the level
  and to the levels around it;
* `read_induction`: induction by these kinds of tokens;
* `read_append_replicate_close`: parentheses that close at the end change nothing;
* `read_operand`, `read_marks`: an operand, and the marks of an operator, while no clause is too
  high.
-/
import RowQuery.Proofs.Sentence.Basic

namespace RowQuery

namespace Level

variable {level : Level} {outer : List Level} {rest : List Token}

/-- With a level within the limit the reading goes on. -/
lemma checked_bind {α : Type} (next : Level → Except ParseError α)
    (hjoined : level.joined.height ≤ maxDepth) (hcurrent : level.current.height ≤ maxDepth) :
    level.checked >>= next = next level := by
  rw [checked, if_neg (by simp [hjoined, hcurrent])]
  rfl

/-- With a level whose joined conditions are too high the reading ends. -/
lemma checked_bind_of_lt {α : Type} (next : Level → Except ParseError α)
    (hjoined : maxDepth < level.joined.height) : level.checked >>= next = .error .tooDeep := by
  rw [checked, if_pos (by simp [hjoined])]
  rfl

/-- A level that does not pass the check is too deep. -/
lemma checked_cases (level : Level) :
    level.checked = .error .tooDeep ∨ level.checked = .ok level := by
  rw [checked]
  split_ifs
  · exact .inl rfl
  · exact .inr rfl

/-- After the check the reading goes on with a level within the limit, or it has ended. -/
lemma checked_bind_cases {α : Type} (level : Level) (next : Level → Except ParseError α) :
    (level.checked >>= next = .error .tooDeep)
      ∨ level.joined.height ≤ maxDepth ∧ level.checked >>= next = next level := by
  rw [checked]
  split_ifs with hhigh
  · exact .inl rfl
  · refine .inr ⟨?_, rfl⟩
    simp only [gt_iff_lt, Bool.or_eq_true, decide_eq_true_eq, not_or, not_lt] at hhigh
    exact hhigh.1

/-! ### The kinds of tokens -/

/-- A word goes to the innermost level. -/
lemma read_word (text : String) (quoted : Bool) :
    level.read outer (.word text quoted :: rest)
      = (level.readWord text quoted).checked >>= fun l => l.read outer rest := by
  rw [read]

/-- A mark that is no parenthesis goes to the current clause. -/
lemma read_mark_of_ne {c : Char} (hopen : c ≠ '(') (hclose : c ≠ ')') :
    level.read outer (.mark c :: rest)
      = checked { level with current := level.current.appendOperator c }
          >>= fun l => l.read outer rest := by
  rw [read]
  · exact hopen
  · exact fun _ => hclose
  · exact fun _ _ _ => hclose

/-- A mark of an operator goes to the current clause. -/
lemma read_mark {c : Char} (h : c ∈ operatorMarks) :
    level.read outer (.mark c :: rest)
      = checked { level with current := level.current.appendOperator c }
          >>= fun l => l.read outer rest :=
  read_mark_of_ne (Operator.ne_of_mem h).1 (Operator.ne_of_mem h).2.1

/-- An opening parenthesis begins a level, unless too many are open. -/
lemma read_open :
    level.read outer (.mark '(' :: rest)
      = if outer.length ≥ maxDepth then .error .tooDeep else start.read (level :: outer) rest := by
  rw [read]

/-- A closing parenthesis adds a level to the one around it. -/
lemma read_close {parent : Level} :
    level.read (parent :: outer) (.mark ')' :: rest)
      = (parent.add level).checked >>= fun l => l.read outer rest := by
  rw [read]

/-- Induction on what is left to read, by what the next token does to the levels. Behind a check
the reading may go on from any level. -/
@[elab_as_elim]
lemma read_induction {motive : Level → List Level → List Token → Prop}
    (nil : ∀ level outer, motive level outer [])
    (full : ∀ level outer rest, outer.length ≥ maxDepth → motive level outer (.mark '(' :: rest))
    (opening : ∀ level outer rest, ¬ outer.length ≥ maxDepth →
      motive start (level :: outer) rest → motive level outer (.mark '(' :: rest))
    (unbalanced : ∀ level rest, motive level [] (.mark ')' :: rest))
    (closing : ∀ level parent outer rest, (∀ next, motive next outer rest) →
      motive level (parent :: outer) (.mark ')' :: rest))
    (mark : ∀ level outer c rest, c ≠ '(' → c ≠ ')' → (∀ next, motive next outer rest) →
      motive level outer (.mark c :: rest))
    (word : ∀ level outer text quoted rest, (∀ next, motive next outer rest) →
      motive level outer (.word text quoted :: rest))
    (level : Level) (outer : List Level) (tokens : List Token) : motive level outer tokens := by
  induction level, outer, tokens using read.induct with
  | case1 level outer => exact nil level outer
  | case2 level outer rest hfull => exact full level outer rest hfull
  | case3 level outer rest hroom ih => exact opening level outer rest hroom ih
  | case4 level rest => exact unbalanced level rest
  | case5 level parent outer rest ih => exact closing level parent outer rest ih
  | case6 level outer c rest hopen hclose hclose' ih =>
      have hne : c ≠ ')' := by
        cases outer with
        | nil => exact hclose rfl
        | cons parent outer => exact hclose' parent outer rfl
      exact mark level outer c rest hopen hne ih
  | case7 level outer text quoted rest ih => exact word level outer text quoted rest ih

/-! ### Closing parentheses at the end -/

/-- Parentheses that close the levels at the end of the tokens change nothing, nor do more of
them. -/
lemma read_replicate_close (level : Level) (outer : List Level) (n : Nat) :
    level.read outer (List.replicate n (.mark ')')) = level.closeAll outer := by
  induction n generalizing level outer with
  | zero => rw [List.replicate_zero, read]
  | succ n ih =>
      rw [List.replicate_succ]
      cases outer with
      | nil => rw [read, closeAll]
      | cons parent outer =>
          rw [read, closeAll]
          simp only [ih]

/-- Closing parentheses after all other tokens change nothing. -/
lemma read_append_replicate_close (level : Level) (outer : List Level) (tokens : List Token)
    (n : Nat) :
    level.read outer (tokens ++ List.replicate n (.mark ')')) = level.read outer tokens := by
  induction level, outer, tokens using read_induction with
  | nil level outer => rw [List.nil_append, read_replicate_close, read]
  | full level outer rest hfull =>
      rw [List.cons_append, read_open, read_open, if_pos hfull, if_pos hfull]
  | opening level outer rest hroom ih =>
      rw [List.cons_append, read_open, read_open, if_neg hroom, if_neg hroom, ih]
  | unbalanced level rest => rw [List.cons_append, read, read]
  | closing level parent outer rest ih =>
      rw [List.cons_append, read_close, read_close]
      simp only [ih]
  | mark level outer c rest hopen hclose ih =>
      rw [List.cons_append, read_mark_of_ne hopen hclose, read_mark_of_ne hopen hclose]
      simp only [ih]
  | word level outer text quoted rest ih =>
      rw [List.cons_append, read_word, read_word]
      simp only [ih]

/-! ### The tokens of a comparison -/

variable {joined current : Clause}

/-- An operand goes into the current clause. -/
lemma read_operand (a : Operand) (hjoined : joined.height ≤ maxDepth)
    (hcurrent : (current.push (.text a.text)).height ≤ maxDepth) :
    read ⟨joined, current⟩ outer (a.token :: rest)
      = read ⟨joined, current.push (.text a.text)⟩ outer rest := by
  have hread : readWord ⟨joined, current⟩ a.text a.quoted
      = ⟨joined, current.push (.text a.text)⟩ := by
    rw [readWord, a.keyword?_eq_none]
  rw [Operand.token, read_word, hread, checked_bind _ hjoined hcurrent]

/-- The marks of an operator go behind each other into the current clause. -/
lemma read_marks (marks : List Char) (hmarks : ∀ c ∈ marks, c ∈ operatorMarks)
    (hjoined : joined.height ≤ maxDepth) (hcurrent : current.height ≤ maxDepth) :
    read ⟨joined, current⟩ outer (marks.map Token.mark ++ rest)
      = read ⟨joined, { current with operator := current.operator ++ String.ofList marks }⟩
          outer rest := by
  induction marks generalizing current with
  | nil => simp
  | cons c marks ih =>
      have htext : current.operator.push c ++ String.ofList marks
          = current.operator ++ String.ofList (c :: marks) := by
        simp [← String.toList_inj]
      have hnext : (current.appendOperator c).height ≤ maxDepth := hcurrent
      have hrest := ih (fun d hd => hmarks d (by simp [hd])) hnext
      rw [List.map_cons, List.cons_append, read_mark (hmarks c (by simp)),
        checked_bind _ hjoined hcurrent]
      simpa only [Clause.appendOperator, htext] using hrest

end Level

end RowQuery
