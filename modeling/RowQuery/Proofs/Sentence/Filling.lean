/-
The slots of a level fill as its layout says.

The clauses of a level are always in one of few forms, and each form shows how far the conditions
of the level have come. Every token moves both alike, so that at the end the clause of a level
spells what its layout amounts to.

* `Slot.Spells`, `Slot.Fails`: a slot with a condition, and one that spoils every clause around it;
* `Slot.Shows`, `Clause.Shows`, `Clause.Drafts`: what a slot, the joined clauses and the current
  clause show;
* `Clause.Shows.push`, `Clause.Shows.pushConnective`: adding to the joined clauses is adding to the
  progress;
* `Layout.reaches_tokens`: reading the tokens of a layout leaves a level that shows the layout,
  unless it is too deep;
* `Layout.read_of_completes`: so does reading any tokens that the layout completes.
-/
import RowQuery.Proofs.Clause
import RowQuery.Proofs.Level
import RowQuery.Proofs.Sentence.Layout

namespace RowQuery

/-! ### Slots -/

namespace Slot

/-- A clause that spells a condition no deeper than the clause is high. -/
structure Spells (s : Slot) (x : Condition) : Prop where
  exists_eq : ∃ c : Clause, s = c.asSlot
  condition_eq : s.condition = .ok x
  depth_le : x.depth ≤ s.height

/-- A clause that spells no condition. -/
structure Fails (s : Slot) : Prop where
  exists_eq : ∃ c : Clause, s = c.asSlot
  condition_eq : ∃ e, s.condition = .error e

/-- What a slot amounts to. -/
inductive Shows : Slot → Part → Prop
  | nothing : Shows .vacant .nothing
  | condition {s : Slot} {x : Condition} (h : s.Spells x) : Shows s (.condition x)
  | malformed {s : Slot} (h : s.Fails) : Shows s .malformed

variable {left right s : Slot} {x y : Condition} {k : Connective}

lemma Spells.ne_vacant (h : s.Spells x) : s ≠ .vacant := by
  obtain ⟨c, rfl⟩ := h.exists_eq
  simp [Clause.asSlot]

lemma Fails.ne_vacant (h : s.Fails) : s ≠ .vacant := by
  obtain ⟨c, rfl⟩ := h.exists_eq
  simp [Clause.asSlot]

/-- A vacant slot amounts to nothing. -/
lemma Shows.eq_nothing {part : Part} (h : Shows .vacant part) : part = .nothing := by
  cases h with
  | nothing => rfl
  | condition h => exact absurd rfl h.ne_vacant
  | malformed h => exact absurd rfl h.ne_vacant

/-- A clause with nothing but a clause in it, whatever its operator, spells the same condition. -/
lemma Spells.wrapped (h : s.Spells x) (operator : String) :
    (Clause.measured ⟨s, operator, .vacant, 0⟩).asSlot.Spells x := by
  obtain ⟨⟨c, rfl⟩, hx, hdepth⟩ := h
  refine ⟨⟨_, rfl⟩, (Clause.condition_vacant c operator _).trans hx, ?_⟩
  show x.depth ≤ 1 + max c.asSlot.height 0
  omega

/-- Two clauses and the connective between them spell the conditions joined. -/
lemma Spells.joined (hleft : left.Spells x) (hright : right.Spells y) :
    (Clause.joined left k right).asSlot.Spells (.join k x y) := by
  obtain ⟨⟨c, rfl⟩, hx, hxdepth⟩ := hleft
  obtain ⟨⟨d, rfl⟩, hy, hydepth⟩ := hright
  refine ⟨⟨_, rfl⟩, Clause.condition_joined k hx hy, ?_⟩
  rw [Condition.depth, Clause.height_asSlot, Clause.height_joined]
  omega

/-- Two clauses side by side fail. -/
lemma Spells.apart (hleft : left.Spells x) (hright : right.Spells y) :
    (Clause.apart left right).asSlot.Fails := by
  obtain ⟨c, rfl⟩ := hleft.exists_eq
  obtain ⟨d, rfl⟩ := hright.exists_eq
  exact ⟨⟨_, rfl⟩, _, Clause.condition_clauses c d "" _⟩

/-- A clause fails if what stands on its left does. -/
lemma Fails.of_left (h : left.Fails) (operator : String) (right : Slot) (n : Nat) :
    (clause left operator right n).Fails := by
  obtain ⟨⟨c, rfl⟩, e, he⟩ := h
  refine ⟨⟨⟨_, operator, right, n⟩, rfl⟩, ?_⟩
  cases right with
  | vacant => exact ⟨e, (Clause.condition_vacant c operator n).trans he⟩
  | text text => exact Clause.exists_condition_text c operator text n
  | clause l o r m =>
      have hc : ∃ e, c.condition = .error e := ⟨e, he⟩
      exact Clause.exists_condition_clauses (d := ⟨l, o, r, m⟩) (.inl hc) operator n

/-- A clause fails if what stands on its right does. -/
lemma Fails.of_right (h : right.Fails) (c : Clause) (operator : String) (n : Nat) :
    (clause c.asSlot operator right n).Fails := by
  obtain ⟨⟨d, rfl⟩, hd⟩ := h
  exact ⟨⟨⟨_, operator, d.asSlot, n⟩, rfl⟩,
    Clause.exists_condition_clauses (c := c) (.inr hd) operator n⟩

end Slot

/-! ### The clauses joined so far -/

namespace Clause

/-- A clause with a failing one in it. -/
def Broken (c : Clause) : Prop :=
  c.left.Fails ∨ (∃ d : Clause, c.left = d.asSlot) ∧ c.right.Fails

/-- What the joined clauses of a level show. -/
inductive Shows : Clause → Progress → Prop
  | empty (n : Nat) : Shows ⟨.vacant, "", .vacant, n⟩ .empty
  | led (k : Connective) (n : Nat) : Shows ⟨.vacant, k.text, .vacant, n⟩ (.led k)
  | alone {s : Slot} {x : Condition} (hs : s.Spells x) : Shows (alone s) (.whole x)
  | joined {left right : Slot} {x y : Condition} (hleft : left.Spells x) (hright : right.Spells y)
      (k : Connective) : Shows (joined left k right) (.whole (.join k x y))
  | joining {left : Slot} {x : Condition} (hleft : left.Spells x) (k : Connective) :
      Shows (joining left k) (.joining x k)
  | apart {left right : Slot} {x y : Condition} (hleft : left.Spells x) (hright : right.Spells y) :
      Shows (apart left right) (.apart x y)
  | broken {c : Clause} (h : c.Broken) : Shows c .broken

variable {c : Clause} {p : Progress} {s : Slot} {part : Part}

/-- A broken clause fails, whatever its operator. -/
lemma Broken.fails (h : c.Broken) (operator : String) (n : Nat) :
    (Slot.clause c.left operator c.right n).Fails := by
  obtain hleft | ⟨⟨d, hd⟩, hright⟩ := h
  · exact hleft.of_left operator c.right n
  · rw [hd]
    exact hright.of_right d operator n

/-- A clause around a broken one is broken. -/
lemma Broken.under (h : c.Broken) (operator : String) (right : Slot) :
    (c.under operator right).Broken :=
  .inl (h.fails c.operator _)

/-- A broken clause has something on its left. -/
lemma Broken.left_ne_vacant (h : c.Broken) : c.left ≠ .vacant := by
  obtain hleft | ⟨⟨d, hd⟩, -⟩ := h
  · exact hleft.ne_vacant
  · simp [hd, asSlot]

/-- Nothing that is added repairs a broken clause. -/
lemma Broken.place (h : c.Broken) (s : Slot) (pending : Option Connective) :
    (c.place s pending).Broken := by
  have hleft := h.left_ne_vacant
  rw [Clause.place]
  by_cases hright : c.right = .vacant
  · have hfails : c.left.Fails := h.resolve_right fun hfull => hfull.2.ne_vacant hright
    have hfilled : Broken { c with right := s } := .inl hfails
    simp only [hright, hleft, bne_self_eq_false, Bool.and_false, Bool.false_eq_true, if_false,
      beq_iff_eq]
    cases pending with
    | none => exact .inl hfails
    | some k => exact hfilled.under k.text .vacant
  · rw [if_pos (by simp [hleft, hright])]
    exact h.under _ _

/-- What stands beside a condition is added to it without a connective. -/
lemma Shows.of_apart {left : Slot} {x : Condition} (hleft : left.Spells x) (hs : s.Shows part) :
    (Clause.apart left s).Shows ((Progress.whole x).add part) := by
  cases hs with
  | nothing => exact .alone hleft
  | condition hs => exact .apart hleft hs
  | malformed hs => exact .broken (.inr ⟨hleft.exists_eq, hs⟩)

/-- What stands behind a condition and its connective is joined to it. -/
lemma Shows.of_joined {left : Slot} {x : Condition} (hleft : left.Spells x) (hs : s.Shows part)
    (k : Connective) : (Clause.joined left k s).Shows ((Progress.joining x k).add part) := by
  cases hs with
  | nothing => exact .joining hleft k
  | condition hs => exact .joined hleft hs k
  | malformed hs => exact .broken (.inr ⟨hleft.exists_eq, hs⟩)

/-- Adding to the joined clauses is adding to the progress. -/
lemma Shows.push (h : c.Shows p) (hs : s.Shows part) : (c.push s).Shows (p.add part) := by
  cases h with
  | empty n =>
      rw [push_vacant]
      cases hs with
      | nothing => exact .empty 1
      | condition hs => exact .alone hs
      | malformed hs => exact .broken (.inl hs)
  | led k n =>
      rw [push_vacant]
      cases hs with
      | nothing => exact .led k 1
      | condition hs => exact .joining hs k
      | malformed hs => exact .broken (.inl hs)
  | alone hleft =>
      rw [push_alone hleft.ne_vacant]
      exact .of_apart hleft hs
  | joined hleft hright k =>
      rw [push_joined hleft.ne_vacant hright.ne_vacant]
      exact .of_apart (hleft.joined hright) hs
  | joining hleft k =>
      rw [push_joining hleft.ne_vacant]
      exact .of_joined hleft hs k
  | apart hleft hright =>
      -- both sides are taken, so the new clause has the two without a connective on its left
      rw [push_apart hleft.ne_vacant hright.ne_vacant]
      exact .broken (.inl (hleft.apart hright))
  | broken h => exact .broken (h.place s none)

/-- Adding to the joined clauses with the connective after it is the same in the progress. -/
lemma Shows.pushConnective (h : c.Shows p) (hs : s.Shows part) (k : Connective) :
    (c.pushConnective s k).Shows (p.connect part k) := by
  cases h with
  | empty n =>
      rw [pushConnective_vacant]
      cases hs with
      | nothing => exact .led k 1
      | condition hs => exact .joining hs k
      | malformed hs => exact .broken (.inl hs)
  | led first n =>
      rw [pushConnective_led]
      cases hs with
      | nothing => exact .broken (.inl ⟨⟨_, rfl⟩, _, by rfl⟩)
      | condition hs => exact .joining (hs.wrapped first.text) k
      | malformed hs => exact .broken (.inl (hs.of_left _ _ _))
  | alone hleft =>
      rw [pushConnective_alone_right hleft.ne_vacant, Progress.connect_whole]
      exact .of_joined hleft hs k
  | joined hleft hright first =>
      rw [pushConnective_joined_right hleft.ne_vacant hright.ne_vacant, Progress.connect_whole]
      exact .of_joined (hleft.joined hright) hs k
  | joining hleft first =>
      rw [pushConnective_joining hleft.ne_vacant]
      cases hs with
      | nothing => exact .joining (hleft.wrapped first.text) k
      | condition hs => exact .joining (hleft.joined hs) k
      | malformed hs =>
          obtain ⟨d, rfl⟩ := hleft.exists_eq
          exact .broken (.inl (hs.of_right d _ _))
  | apart hleft hright =>
      -- the connective joins the two, and the operand before it comes to stand beside them
      rw [pushConnective_apart hleft.ne_vacant hright.ne_vacant]
      exact .of_apart (hleft.joined hright) hs
  | broken h =>
      refine .broken ?_
      rw [Clause.pushConnective]
      split_ifs
      · have hrenamed : Broken { c with operator := k.text } := h
        exact hrenamed.place s none
      · exact h.place s (some k)

/-- The clause of a level spells what the level amounts to. -/
lemma Shows.operand (h : c.Shows p) : c.operand.Shows p.part := by
  cases h with
  | empty n => exact .nothing
  | led k n => exact .nothing
  | alone hs =>
      rw [operand_of_left hs.ne_vacant]
      exact .condition (hs.wrapped "")
  | joined hleft hright k =>
      rw [operand_of_left hleft.ne_vacant]
      exact .condition (hleft.joined hright)
  | joining hleft k =>
      rw [operand_of_left hleft.ne_vacant]
      exact .condition (hleft.wrapped k.text)
  | apart hleft hright =>
      rw [operand_of_left hleft.ne_vacant]
      exact .malformed (hleft.apart hright)
  | broken h =>
      rw [operand_of_left h.left_ne_vacant]
      exact .malformed (h.fails c.operator c.height)

/-- A clause spells the condition that it shows as an operand, and none if it shows none. -/
lemma condition_of_operand_shows (h : c.operand.Shows part) :
    (∃ x, part = .condition x ∧ c.condition = .ok x)
      ∨ (∀ x, part ≠ .condition x) ∧ ∃ e, c.condition = .error e := by
  rw [operand] at h
  split_ifs at h with hempty
  · refine .inr ⟨by simp [h.eq_nothing], .emptyCondition, ?_⟩
    rw [condition, asSlot, (isEmpty_iff.mp hempty).1]
    rfl
  · cases h with
    | condition h => exact .inl ⟨_, rfl, h.condition_eq⟩
    | malformed h => exact .inr ⟨by simp, h.condition_eq⟩

/-! ### The clause after the last connective -/

/-- What the current clause of a level shows: the words and marks since the last connective. With
more than two words it is a clause beside a text. -/
inductive Drafts : Clause → List String → String → Prop
  | blank (marks : String) : Drafts ⟨.vacant, marks, .vacant, 0⟩ [] marks
  | column (a marks : String) : Drafts ⟨.text a, marks, .vacant, 1⟩ [a] marks
  | comparison (a b marks : String) : Drafts ⟨.text a, marks, .text b, 1⟩ [a, b] marks
  | overfull (c : Clause) (operator text : String) (n : Nat) {words : List String}
      (marks : String) (h : 3 ≤ words.length) :
      Drafts ⟨c.asSlot, operator, .text text, n⟩ words marks

variable {words : List String} {marks : String}

/-- A word is added to the current clause. -/
lemma Drafts.push (h : c.Drafts words marks) (text : String) :
    (c.push (.text text)).Drafts (words ++ [text]) marks := by
  cases h with
  | blank marks => exact .column text marks
  | column a marks => exact .comparison a text marks
  | comparison a b marks => exact .overfull ⟨.text a, marks, .text b, 1⟩ "" text _ marks (by simp)
  | overfull c operator last n marks h =>
      exact .overfull ⟨c.asSlot, operator, .text last, _⟩ "" text _ marks (by simp; omega)

/-- A mark is added to the current clause. -/
lemma Drafts.appendOperator (h : c.Drafts words marks) (mark : Char) :
    (c.appendOperator mark).Drafts words (marks.push mark) := by
  cases h with
  | blank marks => exact .blank _
  | column a marks => exact .column a _
  | comparison a b marks => exact .comparison a b _
  | overfull c operator text n marks h => exact .overfull c _ text n _ h

/-- Two texts spell a comparison unless what stands between them is a connective or nothing. -/
lemma condition_texts (column operator literal : String) (n : Nat) :
    (Slot.clause (.text column) operator (.text literal) n).condition
      = match Connective.ofWord? operator with
        | some k => .error (.connectiveOperand k)
        | none =>
          if operator = "" then .error .missingOperator
          else .ok (.compared column operator literal) := by
  rewrite [Slot.condition]
  · cases Connective.ofWord? operator with
    | some k => rfl
    | none =>
        rw [Condition.compared]
        cases Relation.ofText? operator <;> rfl

/-- The current clause spells the comparison of its words. -/
lemma Drafts.operand (h : c.Drafts words marks) : c.operand.Shows (.ofWords words marks) := by
  cases h with
  | blank marks => exact .nothing
  | column a marks => exact .malformed ⟨⟨_, rfl⟩, _, rfl⟩
  | comparison a b marks =>
      have hcondition := condition_texts a marks b 1
      rw [operand_of_left (by simp), Part.ofWords]
      cases hmarks : Connective.ofWord? marks with
      | some k =>
          rw [hmarks] at hcondition
          rw [if_pos (.inr rfl)]
          exact .malformed ⟨⟨_, rfl⟩, _, hcondition⟩
      | none =>
          rw [hmarks] at hcondition
          by_cases hempty : marks = ""
          · rw [if_pos (.inl hempty)]
            exact .malformed ⟨⟨_, rfl⟩, _, hcondition.trans (if_pos hempty)⟩
          · rw [if_neg (by simp [hempty])]
            exact .condition
              ⟨⟨_, rfl⟩, hcondition.trans (if_neg hempty), by simp [asSlot, Slot.height]⟩
  | overfull c operator text n marks h =>
      rw [Part.ofWords_of_three_le marks h, operand_of_left (by simp [asSlot])]
      exact .malformed ⟨⟨_, rfl⟩, exists_condition_text c operator text n⟩

/-! ### How deep a condition becomes -/

/-- A comparison that is added at the end of a level makes no condition deeper than the limit,
though the clause around both may be higher. -/
lemma Shows.depth_le {x : Condition} (h : c.Shows p) (hheight : c.height ≤ maxDepth)
    (hpart : ∀ y, part = .condition y → y.depth = 1) (hx : (p.add part).part = .condition x) :
    x.depth ≤ maxDepth := by
  have hlow : 2 ≤ maxDepth := by decide
  cases h with
  | empty n | led k n =>
      cases part with
      | condition y =>
          cases hx
          have hone := hpart x rfl
          omega
      | nothing | malformed => cases hx
  | alone hs =>
      have hdepth := hs.depth_le
      rw [height_alone] at hheight
      cases part with
      | nothing => cases hx; omega
      | condition | malformed => cases hx
  | joined hleft hright k =>
      have hdepth := (hleft.joined hright (k := k)).depth_le
      rw [height_asSlot] at hdepth
      cases part with
      | nothing => cases hx; omega
      | condition | malformed => cases hx
  | joining hleft k =>
      have hdepth := hleft.depth_le
      rw [height_joining] at hheight
      cases part with
      | nothing => cases hx; omega
      | condition y =>
          -- the height of the waiting clause leaves room for one join around its condition
          have hone := hpart y rfl
          cases hx
          rw [Condition.depth]
          omega
      | malformed => cases hx
  | apart hleft hright => cases hx
  | broken h => cases hx

end Clause

/-! ### Levels -/

/-- A level shows a layout. -/
structure Level.Shows (level : Level) (l : Layout) : Prop where
  joined : level.joined.Shows l.progress
  current : level.current.Drafts l.words l.marks

/-- A reading has ended as too deep, or it goes on from a level within the limit that shows the
layout. -/
def Level.Reaches (result : Except ParseError Clause) (l : Layout) (outer : List Level)
    (rest : List Token) : Prop :=
  result = .error .tooDeep
    ∨ ∃ level : Level, level.Shows l ∧ level.joined.height ≤ maxDepth
      ∧ result = level.read outer rest

namespace Level.Shows

variable {level inner : Level} {l m : Layout}

/-- The clause of a level spells what its layout amounts to. -/
lemma closed (h : level.Shows l) : level.closed.operand.Shows l.part := by
  have hcurrent := h.current.operand
  have hadd := (h.joined.push hcurrent).operand
  rw [Level.closed]
  split_ifs with hempty
  · rw [Clause.operand, if_pos hempty] at hcurrent
    rw [Layout.part, Progress.finish, hcurrent.eq_nothing, Progress.part_add_nothing]
    exact h.joined.operand
  · exact hadd

/-- No condition that a level within the limit spells is deeper than the limit. -/
lemma depth_le (h : level.Shows l) (hheight : level.joined.height ≤ maxDepth) {x : Condition}
    (hx : l.part = .condition x) : x.depth ≤ maxDepth :=
  h.joined.depth_le hheight (fun _ => Part.depth_of_ofWords_eq) hx

/-- An operand is read. -/
lemma word (h : level.Shows l) (a : Operand) :
    (level.readWord a.text a.quoted).Shows (l.word a) := by
  rw [Level.readWord, a.keyword?_eq_none]
  exact ⟨h.joined, h.current.push a.text⟩

/-- A mark is read. -/
lemma mark (h : level.Shows l) (c : Char) (hc : c ≠ '(' ∧ c ≠ ')') :
    Shows { level with current := level.current.appendOperator c } (l.mark c hc) :=
  ⟨h.joined, h.current.appendOperator c⟩

/-- A level is added to the one around it. -/
lemma group (h : level.Shows l) (hinner : inner.Shows m) : (level.add inner).Shows (l.group m) :=
  ⟨h.joined.push hinner.closed, h.current⟩

/-- A connective is read. -/
lemma junction (h : level.Shows l) (j : Junction) :
    (level.readWord j.text false).Shows (l.junction j) := by
  have hword : Connective.ofWord? j.text = some j.connective :=
    Connective.ofWord?_eq_some_iff.mpr j.keyword
  simp only [Level.readWord, Bool.false_eq_true, if_false, hword]
  exact ⟨h.joined.pushConnective h.current.operand j.connective, .blank ""⟩

/-- After the check of a level that shows a layout, the reading goes on from it. -/
lemma reaches_checked (h : level.Shows l) (outer : List Level) (rest : List Token) :
    Reaches (level.checked >>= fun next => next.read outer rest) l outer rest := by
  obtain hdeep | ⟨hheight, hnext⟩ := checked_bind_cases level (fun next => next.read outer rest)
  · exact .inl hdeep
  · exact .inr ⟨level, h, hheight, hnext⟩

end Level.Shows

/-- Reading the tokens of a layout leaves a level that shows it, unless it is too deep. -/
lemma Layout.reaches_tokens (l : Layout) (outer : List Level) (rest : List Token) :
    Level.Reaches (Level.start.read outer (l.tokens ++ rest)) l outer rest := by
  induction l generalizing outer rest with
  | nil => exact .inr ⟨.start, ⟨.empty 0, .blank ""⟩, Nat.zero_le _, rfl⟩
  | word before a ih =>
      rw [tokens, List.append_assoc]
      obtain hdeep | ⟨level, hshows, -, hread⟩ := ih outer ([a.token] ++ rest)
      · exact .inl hdeep
      rw [hread, List.singleton_append, Operand.token, Level.read_word]
      exact (hshows.word a).reaches_checked outer rest
  | mark before c hc ih =>
      rw [tokens, List.append_assoc]
      obtain hdeep | ⟨level, hshows, -, hread⟩ := ih outer ([.mark c] ++ rest)
      · exact .inl hdeep
      rw [hread, List.singleton_append, Level.read_mark_of_ne hc.1 hc.2]
      exact (hshows.mark c hc).reaches_checked outer rest
  | group before inner ihbefore ihinner =>
      have htokens : (before.group inner).tokens ++ rest
          = before.tokens ++ (.mark '(' :: (inner.tokens ++ (.mark ')' :: rest))) := by
        simp [tokens]
      rw [htokens]
      obtain hdeep | ⟨level, hshows, -, hread⟩ :=
        ihbefore outer (.mark '(' :: (inner.tokens ++ (.mark ')' :: rest)))
      · exact .inl hdeep
      -- the level that has been read waits outside while the inner layout is read
      rw [hread, Level.read_open]
      split_ifs with hfull
      · exact .inl rfl
      obtain hdeep | ⟨innermost, hinner, -, hread⟩ := ihinner (level :: outer) (.mark ')' :: rest)
      · exact .inl hdeep
      rw [hread, Level.read_close]
      exact (hshows.group hinner).reaches_checked outer rest
  | junction before j ih =>
      rw [tokens, List.append_assoc]
      obtain hdeep | ⟨level, hshows, -, hread⟩ := ih outer ([j.token] ++ rest)
      · exact .inl hdeep
      rw [hread, List.singleton_append, Junction.token, Level.read_word]
      exact (hshows.junction j).reaches_checked outer rest

/-- Reading tokens that a layout completes ends with a clause that shows the layout, unless it is
too deep. -/
lemma Layout.read_of_completes {l : Layout} {tokens : List Token}
    (h : Completes tokens l.tokens) :
    Level.start.read [] tokens = .error .tooDeep
      ∨ ∃ c : Clause, Level.start.read [] tokens = .ok c ∧ c.operand.Shows l.part
        ∧ ∀ x, l.part = .condition x → x.depth ≤ maxDepth := by
  obtain ⟨n, hn⟩ | ⟨rest, rfl⟩ := h
  -- the missing parentheses are as good as read
  · have hreaches := l.reaches_tokens [] []
    rw [List.append_nil, ← hn, Level.read_append_replicate_close] at hreaches
    obtain hdeep | ⟨level, hshows, hheight, hread⟩ := hreaches
    · exact .inl hdeep
    rw [Level.read, Level.closeAll] at hread
    exact .inr ⟨level.closed, hread, hshows.closed, fun x => hshows.depth_le hheight⟩
  · obtain hdeep | ⟨level, hshows, hheight, hread⟩ := l.reaches_tokens [] (.mark ')' :: rest)
    · exact .inl hdeep
    rw [hread, Level.read]
    exact .inr ⟨level.closed, rfl, hshows.closed, fun x => hshows.depth_le hheight⟩

end RowQuery
