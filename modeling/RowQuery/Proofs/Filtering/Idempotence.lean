/-
Filtering twice.

A condition keeps rows leaf by leaf: first those that its left-most leaf emits, and so on. The rows
that it keeps may therefore stand in another order than before. When no row is kept under two
leaves, every row is emitted again under its own leaf, so a second filter finds the rows sorted by
leaves already and leaves them as they are.

* `Table.rows_select`: the rows that a condition keeps, leaf by leaf;
* `Condition.eq_of_mem_emitted`: a row that is selected once is emitted under one leaf;
* `eq_of_nodup_flatMap`: if no item stands twice, every item is in one block at most;
* `filter_flatMap_filter`: items sorted into blocks, each of which has one test, are found again;
* `Table.select_select`, `Table.filter_filter_of_nodup`: a second filter changes nothing.
-/
import RowQuery.Proofs.Matching.Conjunction
import RowQuery.Table.Filtering

namespace RowQuery

/-! ### Blocks -/

/-- If no item stands twice in some blocks, every item is in one of them at most. -/
lemma eq_of_nodup_flatMap {α β : Type} {l : List α} {block : α → List β}
    (h : (l.flatMap block).Nodup) {m n : α} (hm : m ∈ l) (hn : n ∈ l) {x : β} (hxm : x ∈ block m)
    (hxn : x ∈ block n) : m = n := by
  have hsymm : Std.Symm (Function.onFun List.Disjoint block) :=
    ⟨fun _ _ hdisjoint => hdisjoint.symm⟩
  by_contra hne
  exact (List.nodup_flatMap.mp h).2.forall hm hn hne hxm hxn

/-- Items sorted into blocks, block `n` having those that pass test `n`: if no item passes two
tests, the items that pass a test are those of its block, in the same order. -/
lemma filter_flatMap_filter {α : Type} {items : List α} (test : ℕ → α → Bool)
    (hunique : ∀ x ∈ items, ∀ m n, test m x → test n x → m = n) (m k : ℕ) :
    ((List.range k).flatMap fun n => items.filter (test n)).filter (test m)
      = if m < k then items.filter (test m) else [] := by
  induction k with
  | zero => rfl
  | succ k ih =>
      have hnone : m ≠ k → (items.filter (test k)).filter (test m) = [] := by
        intro hne
        refine List.filter_eq_nil_iff.mpr fun x hx hm => ?_
        obtain ⟨hmem, hk⟩ := List.mem_filter.mp hx
        exact hne (hunique x hmem m k hm hk)
      rw [List.range_succ, List.flatMap_append, List.flatMap_singleton, List.filter_append, ih]
      rcases Nat.lt_trichotomy m k with hlt | rfl | hlt
      · rw [hnone hlt.ne, if_pos hlt, if_pos (Nat.lt_succ_of_lt hlt), List.append_nil]
      · rw [if_neg (Nat.lt_irrefl m), if_pos (Nat.lt_succ_self m), List.nil_append,
          List.filter_filter]
        simp
      · rw [hnone hlt.ne', if_neg (by omega), if_neg (by omega), List.append_nil]

/-! ### Rows at indices -/

/-- The rows at the indices of the rows with a property. -/
lemma filterMap_indicesWhere (rows : List Row) (p : Row → Bool) :
    (indicesWhere rows p).filterMap (rows[·]?) = rows.filter p := by
  induction rows with
  | nil => rfl
  | cons row rows ih =>
      rw [indicesWhere] at ih
      rw [indicesWhere, List.length_cons, List.range_succ_eq_map, List.filter_cons, List.filter_cons,
        List.filter_map]
      cases hp : p row <;> simpa [hp, List.filterMap_map, Function.comp_def] using ih

namespace Condition

variable {mode : MatchMode} {rows : List Row}

/-- A row that is selected once at most is emitted under one leaf at most. -/
lemma eq_of_mem_emitted {e : Condition}
    (h : (e.select mode rows (noColumns rows)).indices.Nodup) {row : Row} (hrow : row ∈ rows)
    {m n : ℕ} (hm : m ∈ e.emitted mode row) (hn : n ∈ e.emitted mode row) : m = n := by
  obtain ⟨i, hi⟩ := List.mem_iff_getElem?.mp hrow
  have hselected : ∀ k ∈ e.emitted mode row,
      i ∈ indicesWhere rows fun row => (e.emitted mode row).contains k :=
    fun k hk => mem_indicesWhere.mpr ⟨row, hi, List.contains_iff_mem.mpr hk⟩
  rw [e.indices_select (length_noColumns rows)] at h
  exact eq_of_nodup_flatMap h (List.mem_range.mpr (lt_leafCount_of_emitted hm))
    (List.mem_range.mpr (lt_leafCount_of_emitted hn)) (hselected m hm) (hselected n hn)

end Condition

/-! ### Tables -/

namespace Table

/-- The rows that a condition keeps, leaf by leaf. -/
lemma rows_select (t : Table) (e : Condition) (mode : MatchMode) :
    (t.select e mode).rows = (List.range e.leafCount).flatMap fun n =>
      t.rows.filter fun row => (e.emitted mode row).contains n := by
  rw [select, e.indices_select (Condition.length_noColumns t.rows), List.filterMap_flatMap]
  exact List.flatMap_congr fun n _ => filterMap_indicesWhere t.rows _

/-- A condition that selects no row twice keeps all the rows that it has kept, in their order. -/
lemma select_select {t : Table} {e : Condition} {mode : MatchMode}
    (h : (e.select mode t.rows (noColumns t.rows)).indices.Nodup) :
    (t.select e mode).select e mode = t.select e mode := by
  have hrows : ((t.select e mode).select e mode).rows = (t.select e mode).rows := by
    rw [(t.select e mode).rows_select, t.rows_select]
    refine List.flatMap_congr fun m hm => ?_
    rw [filter_flatMap_filter fun n row => (e.emitted mode row).contains n, if_pos]
    · exact List.mem_range.mp hm
    · intro row hrow m n hm hn
      exact Condition.eq_of_mem_emitted h hrow (List.contains_iff_mem.mp hm)
        (List.contains_iff_mem.mp hn)
  exact congrArg (fun rows => { t with rows, mode }) hrows

/-- **A second filter changes nothing.** If a text spells no condition, or one that selects no row
of the table twice, then filtering by it what it has kept leaves the table as it is. -/
theorem filter_filter_of_nodup (t : Table) (text : String) (mode : MatchMode)
    (h : ∀ e, Condition.ofText text = .ok (some e) →
      (e.select mode t.rows (noColumns t.rows)).indices.Nodup) :
    (t.filter text mode).filter text mode = t.filter text mode := by
  cases htext : Condition.ofText text with
  | error failure => simp only [filter, htext]
  | ok given =>
      cases given with
      | none => simp only [filter, htext, selectIfGiven]
      | some e =>
          simp only [filter, htext, selectIfGiven]
          exact select_select (h e htext)

/-- Joined by `or`, the second branch may keep a row that stood before those of the first. -/
theorem filter_filter_reordered :
    let t : Table :=
      ⟨"t", ["a"], [.ofList [("a", .string "2")], .ofList [("a", .string "1")]], .exact⟩
    let text := "a=1 or (a=2 and b=3) or a=2"
    (∀ e, Condition.ofText text = .ok (some e) →
      (e.select .exact t.rows (noColumns t.rows)).indices.Nodup)
    ∧ (t.filter text .exact).rows = t.rows.reverse
    ∧ (t.filter text .exact).filter text .exact = t.filter text .exact := by
  intro t text
  have htext : Condition.ofText text
      = .ok (some (.join .or (.join .or (.comparison "a" .equal "1")
          (.join .and (.comparison "a" .equal "2") (.comparison "b" .equal "3")))
          (.comparison "a" .equal "2"))) := by decide +kernel
  have hnodup : ∀ e, Condition.ofText text = .ok (some e) →
      (e.select .exact t.rows (noColumns t.rows)).indices.Nodup := by
    intro e he
    obtain rfl := Option.some.inj (Except.ok.inj (htext.symm.trans he))
    decide +kernel
  exact ⟨hnodup, by decide +kernel, filter_filter_of_nodup t text .exact hnodup⟩

end Table

end RowQuery
