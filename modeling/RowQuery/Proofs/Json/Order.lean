/-
The order of names in JSON values that have been read.

However the members of an object are written, they are put in their places among the names as they
are read. So every object in a value that a text writes has its members in ascending order of the
names, and none of them twice.

* `Ordered`: every object in a value has its members in ascending order;
* `Reader.Ordered`: the same for what a reader holds, in the open brackets too;
* `Reader.Ordered.step`, `Reader.Ordered.run`: one lexeme keeps it, and so does a text;
* `ordered_of_ofText?`: a value that a text writes is ordered.
-/
import Mathlib.Tactic
import RowQuery.Json.Reading

namespace RowQuery.Json

/-- Every object in a value has its members in ascending order of their names. -/
inductive Ordered : Json → Prop
  | null : Ordered .null
  | boolean (b : Bool) : Ordered (.boolean b)
  | integer (n : ℤ) : Ordered (.integer n)
  | float (x : Number.Binary64) : Ordered (.float x)
  | string (s : String) : Ordered (.string s)
  | array {items : List Json} (hitems : ∀ v ∈ items, Ordered v) : Ordered (.array items)
  | object {members : List (String × Json)} (hascending : Ascending members)
      (hmembers : ∀ m ∈ members, Ordered m.2) : Ordered (.object members)

/-- The members of an ordered object. -/
structure OrderedMembers (members : List (String × Json)) : Prop where
  ascending : Ascending members
  ordered : ∀ m ∈ members, m.2.Ordered

/-- No members are ordered. -/
lemma orderedMembers_nil : OrderedMembers [] :=
  ⟨List.Pairwise.nil, fun _ hm => absurd hm List.not_mem_nil⟩

/-- A member is put in its place. -/
lemma OrderedMembers.insertEntry {members : List (String × Json)} (h : OrderedMembers members)
    (name : String) {v : Json} (hv : v.Ordered) :
    OrderedMembers (Entry.insertEntry name v members) where
  ascending := Entry.ascending_insertEntry name v h.ascending
  ordered := by
    intro m hm
    rcases Entry.mem_insertEntry hm with rfl | hm
    · exact hv
    · exact h.ordered m hm

/-- A coefficient and an exponent make a binary number. -/
lemma exists_float_of_floatOf? {negative : Bool} {coefficient : ℕ} {exponent : ℤ} {v : Json}
    (h : floatOf? negative coefficient exponent = some v) : ∃ x, v = .float x := by
  simp only [floatOf?, Option.bind_eq_bind, Option.bind_eq_some_iff] at h
  obtain ⟨magnitude, -, scaled, -, hfloat⟩ := h
  cases hfloat
  exact ⟨_, rfl⟩

/-- The value of a word has no members. -/
lemma ordered_of_ofWord? {word : List Char} {v : Json} (h : ofWord? word = some v) :
    v.Ordered := by
  rw [ofWord?] at h
  split_ifs at h
  · cases h
    exact .null
  · cases h
    exact .boolean true
  · cases h
    exact .boolean false
  · obtain ⟨w, -, hvalue⟩ := Option.bind_eq_some_iff.mp h
    rw [NumberWord.value?] at hvalue
    split at hvalue
    · cases hvalue
      exact .integer _
    · obtain ⟨x, rfl⟩ := exists_float_of_floatOf? hvalue
      exact .float x

/-! ### Readers -/

/-- What stands in an open bracket is ordered. -/
inductive Frame.Ordered : Frame → Prop
  | array {reversed : List Json} (hitems : ∀ v ∈ reversed, v.Ordered) : Ordered (.array reversed)
  | object {members : List (String × Json)} (hmembers : OrderedMembers members) (name : String) :
      Ordered (.object members name)

/-- What has been read at a place is ordered. -/
inductive Expected.Ordered : Expected → Prop
  | value : Ordered .value
  | firstItem : Ordered .firstItem
  | firstName : Ordered .firstName
  | name {members : List (String × Json)} (hmembers : OrderedMembers members) :
      Ordered (.name members)
  | colon {members : List (String × Json)} (hmembers : OrderedMembers members) (name : String) :
      Ordered (.colon members name)
  | after {v : Json} (hv : v.Ordered) : Ordered (.after v)

namespace Reader

/-- All that a reader holds is ordered. -/
structure Ordered (r : Reader) : Prop where
  expected : r.expected.Ordered
  frames : ∀ f ∈ r.frames, f.Ordered

variable {r r' : Reader} {frames : List Frame} {lexeme : Lexeme}

lemma ordered_start : start.Ordered :=
  ⟨.value, fun _ hf => absurd hf List.not_mem_nil⟩

/-- The first lexeme of a value brings a value without members, or opens a bracket. -/
lemma ordered_of_beginValue (hframes : ∀ f ∈ frames, f.Ordered)
    (h : beginValue frames lexeme = some r') : r'.Ordered := by
  unfold beginValue at h
  split at h
  · rw [Option.ite_none_right_eq_some] at h
    cases h.2
    exact ⟨.firstItem, hframes⟩
  · rw [Option.ite_none_right_eq_some] at h
    cases h.2
    exact ⟨.firstName, hframes⟩
  · cases h
  · obtain ⟨v, hv, rfl⟩ := Option.map_eq_some_iff.mp h
    exact ⟨.after (ordered_of_ofWord? hv), hframes⟩
  · obtain ⟨s, -, rfl⟩ := Option.map_eq_some_iff.mp h
    exact ⟨.after (.string s), hframes⟩

/-- A name leaves the members before it as they are. -/
lemma ordered_of_readName {members : List (String × Json)} (hmembers : OrderedMembers members)
    (hframes : ∀ f ∈ frames, f.Ordered) (h : readName members frames lexeme = some r') :
    r'.Ordered := by
  unfold readName at h
  split at h
  · obtain ⟨name, -, rfl⟩ := Option.map_eq_some_iff.mp h
    exact ⟨.colon hmembers name, hframes⟩
  · cases h

/-- After a value the innermost bracket takes it in. -/
lemma ordered_of_readAfter {v : Json} (hv : v.Ordered) (hframes : ∀ f ∈ frames, f.Ordered)
    (h : readAfter v frames lexeme = some r') : r'.Ordered := by
  unfold readAfter at h
  split at h
  · cases h
    obtain ⟨hfirst, hrest⟩ := List.forall_mem_cons.mp hframes
    cases hfirst with
    | array hitems =>
        exact ⟨.value, List.forall_mem_cons.mpr
          ⟨.array (List.forall_mem_cons.mpr ⟨hv, hitems⟩), hrest⟩⟩
  · cases h
    obtain ⟨hfirst, hrest⟩ := List.forall_mem_cons.mp hframes
    cases hfirst with
    | array hitems =>
        refine ⟨.after (.array fun w hw => ?_), hrest⟩
        exact List.forall_mem_cons.mpr ⟨hv, hitems⟩ w (List.mem_reverse.mp hw)
  · cases h
    obtain ⟨hfirst, hrest⟩ := List.forall_mem_cons.mp hframes
    cases hfirst with
    | object hmembers => exact ⟨.name (hmembers.insertEntry _ hv), hrest⟩
  · next name _ =>
    cases h
    obtain ⟨hfirst, hrest⟩ := List.forall_mem_cons.mp hframes
    cases hfirst with
    | object hmembers =>
        have hinserted := hmembers.insertEntry name hv
        exact ⟨.after (.object hinserted.ascending hinserted.ordered), hrest⟩
  · cases h

/-- One lexeme keeps what has been read ordered. -/
lemma Ordered.step (h : r.Ordered) (hstep : r.step lexeme = some r') : r'.Ordered := by
  obtain ⟨expected, frames⟩ := r
  obtain ⟨hexpected, hframes⟩ := h
  cases hexpected with
  | value => exact ordered_of_beginValue hframes hstep
  | firstItem =>
      by_cases hclose : lexeme = .mark ']'
      · cases (if_pos hclose).symm.trans hstep
        exact ⟨.after (.array fun _ hv => absurd hv List.not_mem_nil), hframes⟩
      · refine ordered_of_beginValue (List.forall_mem_cons.mpr ⟨?_, hframes⟩)
          ((if_neg hclose).symm.trans hstep)
        exact .array fun _ hv => absurd hv List.not_mem_nil
  | firstName =>
      by_cases hclose : lexeme = .mark '\x7d'
      · cases (if_pos hclose).symm.trans hstep
        exact ⟨.after (.object List.Pairwise.nil fun _ hm => absurd hm List.not_mem_nil), hframes⟩
      · exact ordered_of_readName orderedMembers_nil hframes ((if_neg hclose).symm.trans hstep)
  | name hmembers => exact ordered_of_readName hmembers hframes hstep
  | colon hmembers name =>
      obtain ⟨-, hvalue⟩ := Option.ite_none_right_eq_some.mp hstep
      cases hvalue
      exact ⟨.value, List.forall_mem_cons.mpr ⟨.object hmembers name, hframes⟩⟩
  | after hv => exact ordered_of_readAfter hv hframes hstep

/-- And so do any lexemes. -/
lemma Ordered.run (h : r.Ordered) {lexemes : List Lexeme} (hrun : r.run lexemes = some r') :
    r'.Ordered := by
  induction lexemes generalizing r with
  | nil =>
      cases hrun
      exact h
  | cons lexeme rest ih =>
      obtain ⟨between, hstep, hrest⟩ := Option.bind_eq_some_iff.mp hrun
      exact ih (h.step hstep) hrest

/-- The value that has been read is ordered. -/
lemma Ordered.of_value? (h : r.Ordered) {v : Json} (hvalue : r.value? = some v) : v.Ordered := by
  unfold value? at hvalue
  split at hvalue
  · next hexpected _ =>
    cases hvalue
    have hafter := h.expected
    rw [hexpected] at hafter
    cases hafter with
    | after hv => exact hv
  · cases hvalue

end Reader

/-- A value that a text writes has the members of every object in ascending order. -/
lemma ordered_of_ofText? {text : String} {v : Json} (h : ofText? text = some v) : v.Ordered := by
  obtain ⟨lexemes, -, hread⟩ := Option.bind_eq_some_iff.mp h
  obtain ⟨r, hrun, hvalue⟩ := Option.bind_eq_some_iff.mp hread
  exact (Reader.ordered_start.run hrun).of_value? hvalue

end RowQuery.Json
