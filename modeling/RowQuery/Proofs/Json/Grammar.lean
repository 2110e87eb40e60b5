/-
The grammar of JSON text, and the reading of it.

A value is written as a word, as a text between quotation marks, or as items between brackets, with
commas between them and blanks wherever lexemes meet. Every text that the grammar allows is read as
the value that it writes, as long as not too many brackets stand inside each other.

* `Blanks`, `Separated`, `Enclosed`, `Member`: blanks, and what stands between two brackets;
* `WritesScalar`, `Writes`: the ways to write a value, with at most so many brackets inside each
  other. Of numbers these are the integers that the format can hold exactly;
* `Reader.Yields`: what a reader does with a text that writes a value;
* `takes_writes`, `ofText?_of_writes`: what is written is read.
-/
import RowQuery.Proofs.Json.Lexemes
import RowQuery.Proofs.Number.Numeral

namespace RowQuery.Json

open Number

/-! ### The grammar -/

/-- Blanks only. -/
def Blanks (text : List Char) : Prop := ∀ c ∈ text, isBlank c

instance (text : List Char) : Decidable (Blanks text) :=
  decidable_of_iff (text.all isBlank) List.all_eq_true

/-- No text is no blank. -/
lemma blanks_nil : Blanks [] := fun _ hc => absurd hc List.not_mem_nil

/-- Blanks after blanks are blanks. -/
lemma Blanks.append {text text' : List Char} (h : Blanks text) (h' : Blanks text') :
    Blanks (text ++ text') :=
  fun c hc => (List.mem_append.mp hc).elim (h c) (h' c)

/-- Texts of items one after the other, with a comma between every two, and blanks anywhere around
the commas and the texts. -/
inductive Separated {α : Type} (Item : List Char → α → Prop) : List Char → List α → Prop
  | last {before text after : List Char} {a : α} (hbefore : Blanks before) (item : Item text a)
      (hafter : Blanks after) : Separated Item (before ++ (text ++ after)) [a]
  | cons {before text after more : List Char} {a : α} {items : List α} (hbefore : Blanks before)
      (item : Item text a) (hafter : Blanks after) (rest : Separated Item more items) :
      Separated Item (before ++ (text ++ (after ++ ',' :: more))) (a :: items)

/-- Texts of items between two brackets, or nothing but blanks between them. -/
inductive Enclosed {α : Type} (opening closing : Char) (Item : List Char → α → Prop) :
    List Char → List α → Prop
  | empty {blanks : List Char} (hblanks : Blanks blanks) :
      Enclosed opening closing Item (opening :: (blanks ++ [closing])) []
  | items {text : List Char} {items : List α} (hitems : Separated Item text items) :
      Enclosed opening closing Item (opening :: (text ++ [closing])) items

/-- A name between quotation marks, a colon, and the text of a value. -/
inductive Member (Value : List Char → Json → Prop) : List Char → String × Json → Prop
  | mk {raw name before after text : List Char} {v : Json} (hname : Spells raw name)
      (hbefore : Blanks before) (hafter : Blanks after) (hvalue : Value text v) :
      Member Value ('"' :: (raw ++ '"' :: (before ++ ':' :: (after ++ text))))
        (String.ofList name, v)

/-- Members as an object; of two with one name the later one counts. -/
def ofMembers (members : List (String × Json)) : Json :=
  .object (members.foldl (fun held m => Entry.insertEntry m.1 m.2 held) [])

/-- The ways to write a value without brackets. -/
inductive WritesScalar : List Char → Json → Prop
  | null : WritesScalar "null".toList .null
  | boolean (b : Bool) : WritesScalar (if b then "true" else "false").toList (.boolean b)
  | integer (n : ℤ) (hlow : -2 ^ 63 ≤ n) (hhigh : n < 2 ^ 64) :
      WritesScalar (toString n).toList (.integer n)
  | string {raw text : List Char} (htext : Spells raw text) :
      WritesScalar ('"' :: (raw ++ ['"'])) (.string (String.ofList text))

/-- The ways to write a value with at most so many brackets inside each other. -/
def Writes : ℕ → List Char → Json → Prop
  | 0, text, v => WritesScalar text v
  | depth + 1, text, v =>
    WritesScalar text v
      ∨ (∃ items, Enclosed '[' ']' (Writes depth) text items ∧ v = .array items)
      ∨ ∃ members, Enclosed '\x7b' '\x7d' (Member (Writes depth)) text members ∧ v = ofMembers members

/-! ### Words -/

/-- The leading digit of a positive number is no zero. -/
lemma head?_toDigits_ne {n : ℕ} (hn : 0 < n) : (Nat.toDigits 10 n).head? ≠ some '0' := by
  induction n using Nat.strong_induction_on with
  | _ n ih =>
      rw [Nat.toDigits_eq_if (by decide)]
      split_ifs with hlt
      · interval_cases n <;> decide
      · have hrest := ih (n / 10) (by omega) (by omega)
        rwa [List.head?_append_of_ne_nil _ Nat.toDigits_ne_nil]

/-- The digits of a number are those of a whole number. -/
lemma isWhole_toDigits (n : ℕ) : isWhole (Nat.toDigits 10 n) = true := by
  rcases Nat.eq_zero_or_pos n with rfl | hn
  · decide
  · obtain ⟨c, digits, hdigits⟩ := List.exists_cons_of_ne_nil (Nat.toDigits_ne_nil (b := 10) (n := n))
    have hhead := head?_toDigits_ne hn
    rw [hdigits] at hhead ⊢
    have hc : c ≠ '0' := by simpa using hhead
    simp [isWhole, hc]

/-- The characters of an integer are digits, or a minus. -/
lemma isDigit_or_minus_of_mem_toString {n : ℤ} {c : Char} (h : c ∈ (toString n).toList) :
    c.isDigit ∨ c = '-' := by
  rw [toList_toString, signed, List.mem_append] at h
  rcases h with hsign | hdigit
  · exact .inr (by split_ifs at hsign <;> simp_all)
  · exact .inl (Nat.isDigit_of_mem_toDigits (by decide) le_rfl hdigit)

/-- A minus before digits is read as their sign. -/
lemma splitMinus_signed {digits : List Char} (negative : Bool) (hdigits : ∀ c ∈ digits, c.isDigit) :
    splitMinus (signed negative digits) = (negative, digits) := by
  cases negative with
  | true => rfl
  | false =>
      rw [signed, if_neg (by decide), List.nil_append]
      unfold splitMinus
      split
      · have hminus := hdigits '-' List.mem_cons_self
        exact absurd hminus (by decide)
      · rfl

/-- The parts of an integer. -/
lemma numberWord_toString (n : ℤ) :
    NumberWord.ofText? (toString n).toList
      = some ⟨n < 0, Nat.toDigits 10 n.natAbs, none, none⟩ := by
  have hdigits : ∀ c ∈ Nat.toDigits 10 n.natAbs, c.isDigit :=
    fun c hc => Nat.isDigit_of_mem_toDigits (by decide) le_rfl hc
  rw [toList_toString, NumberWord.ofText?, splitMinus_signed _ hdigits]
  simp [Binary64.splitDigits_of_isDigit hdigits, isWhole_toDigits, splitFraction?]

/-- An integer that 64 bits hold with its sign, or without one, is kept exactly. -/
lemma integer?_natAbs {n : ℤ} (hlow : -2 ^ 63 ≤ n) (hhigh : n < 2 ^ 64) :
    (⟨n < 0, Nat.toDigits 10 n.natAbs, none, none⟩ : NumberWord).integer? = some n := by
  have hvalue : digitValue (Nat.toDigits 10 n.natAbs) = n.natAbs := Nat.ofDigitChars_ten_toDigits
  simp only [NumberWord.integer?, hvalue, coefficientLimit, Option.isSome_none, Bool.or_self,
    Bool.false_eq_true, if_false, decide_eq_true_eq]
  rcases lt_or_ge n 0 with hn | hn
  · have habs : (n.natAbs : ℤ) = -n := by omega
    have hfits : 0 < n.natAbs ∧ n.natAbs ≤ Nat.pow 2 63 := by
      constructor
      · omega
      · have hpow : Nat.pow 2 63 = 2 ^ 63 := rfl
        omega
    rw [if_pos hn, if_pos hfits, habs, neg_neg]
  · have habs : (n.natAbs : ℤ) = n := by omega
    have hfits : n.natAbs < Nat.pow 2 64 := by
      have hpow : Nat.pow 2 64 = 2 ^ 64 := rfl
      omega
    rw [if_neg (by omega), if_pos hfits, habs]

/-- The text of an integer that 64 bits hold is read as the integer. -/
lemma ofWord?_toString {n : ℤ} (hlow : -2 ^ 63 ≤ n) (hhigh : n < 2 ^ 64) :
    ofWord? (toString n).toList = some (.integer n) := by
  have hne : ∀ {word : String} (c : Char), c ∈ word.toList → ¬ (c.isDigit ∨ c = '-') →
      ((toString n).toList == word.toList) = false := by
    intro word c hmem hc
    refine beq_false_of_ne fun heq => hc (isDigit_or_minus_of_mem_toString (n := n) ?_)
    rwa [heq]
  rw [ofWord?, hne 'n' (by decide) (by decide), hne 't' (by decide) (by decide),
    hne 'f' (by decide) (by decide), numberWord_toString]
  simp only [Bool.false_eq_true, if_false, Option.bind_some, NumberWord.value?,
    integer?_natAbs hlow hhigh]

/-- The characters of an integer go on a word. -/
lemma isWordChar_of_mem_toString {n : ℤ} {c : Char} (h : c ∈ (toString n).toList) :
    isWordChar c = true := by
  have hother : (['"', ' ', '\t', '\n', '\r'] ++ marks).all fun c => !c.isDigit && c != '-' := by
    decide
  have hnot : c ∉ ['"', ' ', '\t', '\n', '\r'] ++ marks := by
    intro hmem
    have hc := List.all_eq_true.mp hother c hmem
    rcases isDigit_or_minus_of_mem_toString h with hdigit | rfl
    · simp [hdigit] at hc
    · simp at hc
  simpa [isWordChar, isBlank, not_or, and_assoc] using hnot

/-! ### Reading -/

/-- A word ends before a mark, and before blanks and a mark. -/
lemma endsWord_blanks {blanks rest : List Char} {c : Char} (hblanks : Blanks blanks)
    (hc : c ∈ marks) : EndsWord (blanks ++ c :: rest) := by
  cases blanks with
  | nil => simp [EndsWord, isWordChar, hc]
  | cons b blanks => simp [EndsWord, isWordChar, hblanks b List.mem_cons_self]

namespace Reader

/-- A value comes next, or a closing bracket without one. -/
def AwaitsValue (r : Reader) (frames : List Frame) : Prop :=
  ∀ lexeme, lexeme ≠ .mark ']' → r.step lexeme = beginValue frames lexeme

/-- A name comes next, or a closing bracket without one. -/
def AwaitsName (r : Reader) (members : List (String × Json)) (frames : List Frame) : Prop :=
  ∀ lexeme, lexeme ≠ .mark '\x7d' → r.step lexeme = readName members frames lexeme

/-- A text, up to a place where a word ends, is taken for the text of a value. -/
def Yields (r : Reader) (frames : List Frame) (text : List Char) (v : Json) : Prop :=
  ∀ rest, EndsWord rest → r.readText? (text ++ rest) = (⟨.after v, frames⟩ : Reader).readText? rest

variable {r : Reader} {frames : List Frame} {text rest : List Char} {v : Json}

/-- The first item of an array may be a value. -/
lemma awaitsValue_firstItem (frames : List Frame) :
    (⟨.firstItem, frames⟩ : Reader).AwaitsValue (.array [] :: frames) :=
  fun _ hne => if_neg hne

/-- At the start, after a colon and after a comma between items, a value comes next. -/
lemma awaitsValue_value (frames : List Frame) : (⟨.value, frames⟩ : Reader).AwaitsValue frames :=
  fun _ _ => rfl

/-- After a comma between members a name comes next. -/
lemma awaitsName_name (members : List (String × Json)) (frames : List Frame) :
    (⟨.name members, frames⟩ : Reader).AwaitsName members frames :=
  fun _ _ => rfl

/-- Between the brackets of an object a name may come first. -/
lemma awaitsName_firstName (frames : List Frame) :
    (⟨.firstName, frames⟩ : Reader).AwaitsName [] frames :=
  fun _ hne => if_neg hne

/-- After a value, blanks and a mark the reader goes on with the mark. -/
lemma Yields.readText?_mark (h : r.Yields frames text v) {blanks : List Char}
    (hblanks : Blanks blanks) {c : Char} (hc : c ∈ marks) :
    r.readText? (text ++ (blanks ++ c :: rest))
      = (readAfter v frames (.mark c)).bind (·.readText? rest) := by
  rw [h _ (endsWord_blanks hblanks hc), readText?_blanks hblanks, Reader.readText?_mark hc]
  rfl

/-- A value that is one word is taken. -/
lemma AwaitsValue.yields_word (hr : r.AwaitsValue frames) (hne : text ≠ [])
    (hword : ∀ c ∈ text, isWordChar c) (hvalue : ofWord? text = some v) :
    r.Yields frames text v := by
  intro rest hrest
  rw [readText?_word hne hword hrest, hr _ (by simp), beginValue, hvalue]
  rfl

/-- A value without brackets is taken. -/
lemma AwaitsValue.yields_scalar (hr : r.AwaitsValue frames) (h : WritesScalar text v) :
    r.Yields frames text v := by
  cases h with
  | null => exact hr.yields_word (by decide) (List.all_eq_true.mp (by decide)) rfl
  | boolean b =>
      cases b with
      | true => exact hr.yields_word (by decide) (List.all_eq_true.mp (by decide)) rfl
      | false => exact hr.yields_word (by decide) (List.all_eq_true.mp (by decide)) rfl
  | integer n hlow hhigh =>
      refine hr.yields_word ?_ (fun c hc => isWordChar_of_mem_toString hc)
        (ofWord?_toString hlow hhigh)
      rw [toList_toString, signed]
      simp [Nat.toDigits_ne_nil]
  | @string raw spelled htext =>
      intro rest _
      have happend : '"' :: (raw ++ ['"']) ++ rest = '"' :: (raw ++ '"' :: rest) := by simp
      rw [happend, readText?_quoted htext, hr _ (by simp), beginValue, htext.unescape?_eq]
      rfl

/-! ### Brackets -/

/-- Values of a kind are taken, as long as there is room for the brackets in them. -/
def Takes (Value : List Char → Json → Prop) (depth : ℕ) : Prop :=
  ∀ {text : List Char} {v : Json}, Value text v → ∀ {r : Reader} {frames : List Frame},
    r.AwaitsValue frames → frames.length + depth ≤ maxDepth → r.Yields frames text v

variable {Value : List Char → Json → Prop} {depth : ℕ}

/-- Items are taken up to the bracket that closes them. -/
lemma readText?_items {items : List Json} (htakes : Takes Value depth)
    (h : Separated Value text items) {reversed : List Json}
    (hr : r.AwaitsValue (.array reversed :: frames)) (hroom : frames.length + 1 + depth ≤ maxDepth) :
    r.readText? (text ++ ']' :: rest)
      = (⟨.after (.array (reversed.reverse ++ items)), frames⟩ : Reader).readText? rest := by
  induction h generalizing r reversed with
  | last hbefore item hafter =>
      simp only [List.append_assoc]
      rw [readText?_blanks hbefore, (htakes item hr hroom).readText?_mark hafter (by decide),
        ← List.reverse_cons]
      rfl
  | @cons before text after more a items hbefore item hafter _ ih =>
      simp only [List.append_assoc, List.cons_append]
      rw [readText?_blanks hbefore, (htakes item hr hroom).readText?_mark hafter (by decide)]
      refine (ih (awaitsValue_value (.array (a :: reversed) :: frames))).trans ?_
      rw [List.reverse_cons, List.append_assoc, List.singleton_append]

/-- A member is taken up to the mark after it. -/
lemma readText?_member {m : String × Json} (htakes : Takes Value depth) (h : Member Value text m)
    {members : List (String × Json)} (hr : r.AwaitsName members frames)
    (hroom : frames.length + 1 + depth ≤ maxDepth) {blanks : List Char} (hblanks : Blanks blanks)
    {c : Char} (hc : c ∈ marks) :
    r.readText? (text ++ (blanks ++ c :: rest))
      = (readAfter m.2 (.object members m.1 :: frames) (.mark c)).bind (·.readText? rest) := by
  cases h with
  | @mk raw name before after valueText v hname hbefore hafter hvalue =>
      have hnext : r.step (.quoted raw) = some ⟨.colon members (String.ofList name), frames⟩ := by
        rw [hr _ (by simp), readName, hname.unescape?_eq]
        rfl
      have hcolon : (⟨.colon members (String.ofList name), frames⟩ : Reader).step (.mark ':')
          = some ⟨.value, .object members (String.ofList name) :: frames⟩ := rfl
      have htaken : (⟨.value, .object members (String.ofList name) :: frames⟩ : Reader).Yields
          (.object members (String.ofList name) :: frames) valueText v :=
        htakes hvalue (awaitsValue_value _) hroom
      simp only [List.cons_append, List.append_assoc]
      rw [readText?_quoted hname, hnext, Option.bind_some, readText?_blanks hbefore,
        readText?_mark (by decide), hcolon, Option.bind_some, readText?_blanks hafter,
        htaken.readText?_mark hblanks hc]

/-- Members are taken up to the bracket that closes them. -/
lemma readText?_members {members : List (String × Json)} (htakes : Takes Value depth)
    (h : Separated (Member Value) text members) {held : List (String × Json)}
    (hr : r.AwaitsName held frames) (hroom : frames.length + 1 + depth ≤ maxDepth) :
    r.readText? (text ++ '\x7d' :: rest)
      = (⟨.after (.object (members.foldl (fun held m => Entry.insertEntry m.1 m.2 held) held)),
          frames⟩ : Reader).readText? rest := by
  induction h generalizing r held with
  | last hbefore item hafter =>
      simp only [List.append_assoc]
      rw [readText?_blanks hbefore, readText?_member htakes item hr hroom hafter (by decide)]
      rfl
  | @cons before text after more m members hbefore item hafter _ ih =>
      simp only [List.append_assoc, List.cons_append]
      rw [readText?_blanks hbefore, readText?_member htakes item hr hroom hafter (by decide)]
      exact ih (awaitsName_name (Entry.insertEntry m.1 m.2 held) frames)

/-- An array is taken. -/
lemma yields_array {items : List Json} (htakes : Takes Value depth)
    (h : Enclosed '[' ']' Value text items) (hr : r.AwaitsValue frames)
    (hroom : frames.length + (depth + 1) ≤ maxDepth) : r.Yields frames text (.array items) := by
  intro rest _
  have hopen : r.step (.mark '[') = some ⟨.firstItem, frames⟩ := by
    rw [hr _ (by simp), beginValue, if_pos (by omega)]
  cases h with
  | empty hblanks =>
      simp only [List.cons_append, List.append_assoc]
      rw [readText?_mark (by decide), hopen, Option.bind_some, readText?_blanks hblanks,
        List.nil_append, readText?_mark (by decide)]
      rfl
  | items hitems =>
      simp only [List.cons_append, List.append_assoc]
      rw [readText?_mark (by decide), hopen, Option.bind_some, List.nil_append]
      exact readText?_items htakes hitems (awaitsValue_firstItem frames) (by omega)

/-- An object is taken. -/
lemma yields_object {members : List (String × Json)} (htakes : Takes Value depth)
    (h : Enclosed '\x7b' '\x7d' (Member Value) text members) (hr : r.AwaitsValue frames)
    (hroom : frames.length + (depth + 1) ≤ maxDepth) : r.Yields frames text (ofMembers members) := by
  intro rest _
  have hopen : r.step (.mark '\x7b') = some ⟨.firstName, frames⟩ := by
    rw [hr _ (by simp), beginValue, if_pos (by omega)]
  cases h with
  | empty hblanks =>
      simp only [List.cons_append, List.append_assoc]
      rw [readText?_mark (by decide), hopen, Option.bind_some, readText?_blanks hblanks,
        List.nil_append, readText?_mark (by decide)]
      rfl
  | items hmembers =>
      simp only [List.cons_append, List.append_assoc]
      rw [readText?_mark (by decide), hopen, Option.bind_some, List.nil_append]
      exact readText?_members htakes hmembers (awaitsName_firstName frames) (by omega)

/-- Every value is taken, however it is written. -/
lemma takes_writes (depth : ℕ) : Takes (Writes depth) depth := by
  induction depth with
  | zero => exact fun h _ _ hr _ => hr.yields_scalar h
  | succ depth ih =>
      rintro text v (hscalar | ⟨items, hitems, rfl⟩ | ⟨members, hmembers, rfl⟩) r frames hr hroom
      · exact hr.yields_scalar hscalar
      · exact yields_array ih hitems hr hroom
      · exact yields_object ih hmembers hr hroom

end Reader

/-- **What is written is read.** A text that writes a value is read as the value, unless too many
brackets stand inside each other. -/
lemma ofText?_of_writes {text : String} {v : Json} {depth : ℕ} (h : Writes depth text.toList v)
    (hdepth : depth ≤ maxDepth) : ofText? text = some v := by
  have hyields : Reader.start.Yields [] text.toList v :=
    Reader.takes_writes depth h (Reader.awaitsValue_value []) (by simpa using hdepth)
  rw [ofText?_eq_readText?, ← List.append_nil text.toList, hyields [] trivial]
  rfl

end RowQuery.Json
