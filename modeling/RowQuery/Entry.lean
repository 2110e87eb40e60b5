/-
Entries: items under names, in ascending order of the names.

* `Ascending`: every entry has a greater name than those before it;
* `lookup`, `insertEntry`: the item under a name, and entries with one more;
* `ascending_insertEntry`: an insertion keeps the order;
* `lookup_insertEntry_self`, `lookup_insertEntry_of_ne`: what it does to every name.
-/

namespace RowQuery

/-- An item under a name. -/
abbrev Entry (α : Type) := String × α

/-- Every entry has a name greater than those before it. -/
def Ascending {α : Type} (entries : List (Entry α)) : Prop :=
  entries.Pairwise fun a b => a.1 < b.1

namespace Entry

variable {α : Type}

/-- The item under a name. -/
def lookup (name : String) : List (Entry α) → Option α
  | [] => none
  | (n, a) :: rest => if name = n then some a else lookup name rest

/-- Entries with an item put under a name, in its place among the names. -/
def insertEntry (name : String) (item : α) : List (Entry α) → List (Entry α)
  | [] => [(name, item)]
  | (n, a) :: rest =>
    if name = n then (name, item) :: rest
    else if name < n then (name, item) :: (n, a) :: rest
    else (n, a) :: insertEntry name item rest

/-! ### Order -/

/-- The entries after an insertion. -/
theorem mem_insertEntry {name : String} {item : α} {entries : List (Entry α)} {e : Entry α}
    (h : e ∈ insertEntry name item entries) : e = (name, item) ∨ e ∈ entries := by
  induction entries with
  | nil => simpa [insertEntry] using h
  | cons head rest ih =>
    obtain ⟨n, a⟩ := head
    unfold insertEntry at h
    split at h
    · rcases List.mem_cons.1 h with h | h
      · exact .inl h
      · exact .inr (List.mem_cons_of_mem _ h)
    · split at h
      · exact (List.mem_cons.1 h).imp id id
      · rcases List.mem_cons.1 h with h | h
        · exact .inr (h ▸ List.mem_cons_self)
        · exact (ih h).imp id (List.mem_cons_of_mem _)

/-- Of two different names one is less than the other. -/
theorem lt_of_not_lt {a b : String} (hne : a ≠ b) (hlt : ¬ a < b) : b < a := by
  rcases Decidable.em (b < a) with h | h
  · exact h
  · exact absurd (String.le_antisymm (String.not_lt.1 h) (String.not_lt.1 hlt)) hne

/-- An insertion keeps the names ascending. -/
theorem ascending_insertEntry (name : String) (item : α) {entries : List (Entry α)}
    (h : Ascending entries) : Ascending (insertEntry name item entries) := by
  induction entries with
  | nil => exact List.pairwise_singleton _ _
  | cons head rest ih =>
    obtain ⟨n, a⟩ := head
    obtain ⟨hhead, hrest⟩ := List.pairwise_cons.1 h
    unfold insertEntry
    split
    · next heq => subst heq; exact List.pairwise_cons.2 ⟨hhead, hrest⟩
    · next hne =>
      split
      · next hlt =>
        refine List.pairwise_cons.2 ⟨fun e he => ?_, h⟩
        rcases List.mem_cons.1 he with rfl | he
        · exact hlt
        · exact String.lt_trans hlt (hhead e he)
      · next hnlt =>
        refine List.pairwise_cons.2 ⟨fun e he => ?_, ih hrest⟩
        rcases mem_insertEntry he with rfl | he
        · exact lt_of_not_lt hne hnlt
        · exact hhead e he

/-! ### Lookup after a change -/

/-- Nothing is found under a name that no entry has. -/
theorem lookup_eq_none {name : String} {entries : List (Entry α)}
    (h : ∀ e ∈ entries, e.1 ≠ name) : lookup name entries = none := by
  induction entries with
  | nil => rfl
  | cons head rest ih =>
    obtain ⟨n, a⟩ := head
    have hne : name ≠ n := fun heq => h (n, a) List.mem_cons_self heq.symm
    rw [lookup, if_neg hne]
    exact ih fun e he => h e (List.mem_cons_of_mem _ he)

/-- An inserted item is found. -/
@[simp] theorem lookup_insertEntry_self (name : String) (item : α) (entries : List (Entry α)) :
    lookup name (insertEntry name item entries) = some item := by
  induction entries with
  | nil => simp [insertEntry, lookup]
  | cons head rest ih =>
    obtain ⟨n, a⟩ := head
    unfold insertEntry
    split
    · simp [lookup]
    · next hne =>
      split
      · simp [lookup]
      · simpa [lookup, hne] using ih

/-- An insertion leaves other names alone. -/
theorem lookup_insertEntry_of_ne {name other : String} (item : α) (entries : List (Entry α))
    (hne : other ≠ name) : lookup other (insertEntry name item entries) = lookup other entries := by
  induction entries with
  | nil => simp [insertEntry, lookup, hne]
  | cons head rest ih =>
    obtain ⟨n, a⟩ := head
    unfold insertEntry
    split
    · next heq => subst heq; simp [lookup, hne]
    · split
      · simp [lookup, hne]
      · by_cases ho : other = n
        · simp [lookup, ho]
        · simpa [lookup, ho] using ih

/-- Leaving out one name leaves other names alone. -/
theorem lookup_filter_of_ne {name other : String} (entries : List (Entry α)) (hne : other ≠ name) :
    lookup other (entries.filter (·.1 != name)) = lookup other entries := by
  induction entries with
  | nil => rfl
  | cons head rest ih =>
    obtain ⟨n, a⟩ := head
    by_cases hn : n = name
    · subst hn
      simpa [lookup, hne] using ih
    · by_cases ho : other = n
      · simp [lookup, hn, ho]
      · simpa [lookup, hn, ho] using ih

end Entry

end RowQuery
