import CandyCloud.Foundation.Table
import Mathlib.Data.List.Sort
import Mathlib.Order.WellFounded

/-! # Decisions by precedence

Offers in a list, each under a key; the first offer under a key decides it. What
a filter does to the decisions, and to a sort before them.
-/

namespace Foundation

variable {α κ : Type}

section Sorting

variable {r : α → α → Prop} [DecidableRel r]

theorem filter_orderedInsert_dropped (keep : α → Bool) {a : α} (dropped : keep a = false) (l : List α) :
    (l.orderedInsert r a).filter keep = l.filter keep := by
  induction l with
  | nil => simp [dropped]
  | cons b l ih =>
      by_cases before : r a b
      · simp [List.orderedInsert, before, dropped]
      · simp [List.orderedInsert, before, List.filter_cons, ih]

theorem filter_orderedInsert_kept [IsTrans α r] (keep : α → Bool) {a : α} (kept : keep a = true) {l : List α}
    (sorted : l.Pairwise r) :
    (l.orderedInsert r a).filter keep = (l.filter keep).orderedInsert r a := by
  induction l with
  | nil => simp [kept]
  | cons b l ih =>
      obtain ⟨least, rest⟩ := List.pairwise_cons.mp sorted
      by_cases before : r a b
      · -- What remains of the list is above `a` as well.
        have above : ∀ c ∈ (b :: l).filter keep, r a c := by
          intro c member
          rcases List.mem_cons.mp (List.mem_of_mem_filter member) with rfl | later
          · exact before
          · exact IsTrans.trans _ _ _ before (least c later)
        rw [List.orderedInsert, if_pos before, List.filter_cons_of_pos kept]
        cases filtered : (b :: l).filter keep with
        | nil => rfl
        | cons c _ =>
            rw [filtered] at above
            rw [List.orderedInsert, if_pos (above c List.mem_cons_self)]
      · cases keepB : keep b with
        | true => simp [List.orderedInsert, before, keepB, ih rest]
        | false => simp [List.orderedInsert, before, keepB, ih rest]

theorem insertionSort_filter [IsTrans α r] [Std.Total r] (keep : α → Bool) (l : List α) :
    (l.filter keep).insertionSort r = (l.insertionSort r).filter keep := by
  induction l with
  | nil => rfl
  | cons a l ih =>
      rw [List.insertionSort_cons]
      cases kept : keep a with
      | true =>
          rw [List.filter_cons_of_pos kept, List.insertionSort_cons, ih,
            filter_orderedInsert_kept keep kept (List.pairwise_insertionSort r l)]
      | false =>
          rw [List.filter_cons_of_neg (by simp [kept]), ih,
            filter_orderedInsert_dropped keep kept]

/-- Lists with unique keys that are sorted by them agree when their elements do. -/
theorem insertionSort_eq_iff [IsTrans α r] [Std.Total r] {key : α → κ}
    (separates : ∀ x y, r x y → r y x → key x = key y) {a b : List α}
    (uniqueA : (a.map key).Nodup) (uniqueB : (b.map key).Nodup) :
    a.insertionSort r = b.insertionSort r ↔ ∀ x, x ∈ a ↔ x ∈ b := by
  constructor
  · intro same x
    rw [← List.mem_insertionSort r, same, List.mem_insertionSort]
  · intro same
    have perm : a.Perm b :=
      (List.perm_ext_iff_of_nodup (uniqueA.of_map key) (uniqueB.of_map key)).mpr same
    have sorted : (a.insertionSort r).Perm (b.insertionSort r) :=
      ((List.perm_insertionSort r a).trans perm).trans (List.perm_insertionSort r b).symm
    refine sorted.eq_of_pairwise ?_ (List.pairwise_insertionSort r a)
      (List.pairwise_insertionSort r b)
    intro x y memberX memberY le ge
    rw [List.mem_insertionSort] at memberX memberY
    exact eq_of_key uniqueB ((same x).mp memberX) memberY (separates x y le ge)

theorem sortedById_eq_iff {width : Nat} (key : α → BitVec width) {a b : List α}
    (uniqueA : (a.map key).Nodup) (uniqueB : (b.map key).Nodup) :
    (a.insertionSort fun x y => key x ≤ key y) = (b.insertionSort fun x y => key x ≤ key y) ↔
      ∀ x, x ∈ a ↔ x ∈ b := by
  have : IsTrans α fun x y => key x ≤ key y := ⟨fun _ _ _ => BitVec.le_trans⟩
  have : Std.Total fun x y : α => key x ≤ key y := ⟨fun x y => BitVec.le_total (key x) (key y)⟩
  exact insertionSort_eq_iff (fun _ _ => BitVec.le_antisymm) uniqueA uniqueB

/-- Rows in the order of their identifiers against the rows of some elements in
    theirs: a comparison of sets. -/
theorem sortedRows_eq_iff {β : Type} {width : Nat} (rowKey : α → BitVec width)
    (elementKey : β → BitVec width) (row : β → α) (keys : ∀ b, rowKey (row b) = elementKey b)
    {rows : List α} {elements : List β} (uniqueRows : (rows.map rowKey).Nodup)
    (uniqueElements : (elements.map elementKey).Nodup) :
    (rows.insertionSort fun x y => rowKey x ≤ rowKey y) =
        (elements.insertionSort fun x y => elementKey x ≤ elementKey y).map row ↔
      ∀ x, x ∈ rows ↔ ∃ b ∈ elements, x = row b := by
  have mapped : (elements.insertionSort fun x y => elementKey x ≤ elementKey y).map row =
      (elements.map row).insertionSort fun x y => rowKey x ≤ rowKey y := by
    apply List.map_insertionSort
    intro x _ y _
    rw [keys, keys]
  have unique : ((elements.map row).map rowKey).Nodup := by
    rw [List.map_map]
    have same : rowKey ∘ row = elementKey := funext keys
    rw [same]
    exact uniqueElements
  rw [mapped, sortedById_eq_iff rowKey uniqueRows unique]
  simp only [List.mem_map, eq_comm]

end Sorting

theorem exists_least (rank : α → Nat) (P : α → Prop) {l : List α} (some_ : ∃ a ∈ l, P a) :
    ∃ a ∈ l, P a ∧ ∀ b ∈ l, P b → rank a ≤ rank b := by
  obtain ⟨a, member, holds⟩ := some_
  obtain ⟨least, ⟨listed, own⟩, minimal⟩ :=
    (measure rank).wf.has_min {b | b ∈ l ∧ P b} ⟨a, member, holds⟩
  exact ⟨least, listed, own, fun b present theirs => Nat.le_of_not_lt (minimal b ⟨present, theirs⟩)⟩

section Deciding

variable [DecidableEq κ] {key : α → κ} {l : List α} {k : κ} {a b : α} {keep : α → Bool}

def decider (key : α → κ) (l : List α) (k : κ) : Option α :=
  l.find? fun a => key a = k

theorem decider_mem (decides : decider key l k = some a) : a ∈ l ∧ key a = k := by
  have selected := List.find?_some decides
  exact ⟨List.mem_of_find?_eq_some decides, by simpa using selected⟩

theorem decider_isSome (key : α → κ) (member : a ∈ l) : ∃ b, decider key l (key a) = some b := by
  have found : (l.find? fun b => key b = key a).isSome = true := by
    rw [List.find?_isSome]
    exact ⟨a, member, decide_eq_true rfl⟩
  exact Option.isSome_iff_exists.mp found

theorem decider_none : decider key l k = none ↔ ∀ a ∈ l, key a ≠ k := by
  simp [decider]

theorem decider_concat (a : α) :
    decider key (l ++ [a]) k =
      (decider key l k).or (if key a = k then some a else none) := by
  unfold decider
  rw [List.find?_append, List.find?_singleton]
  simp only [decide_eq_true_eq]

theorem decider_filter_kept (decides : decider key l k = some a) (kept : keep a = true) :
    decider key (l.filter keep) k = some a := by
  unfold decider at *
  induction l with
  | nil => cases decides
  | cons b l ih =>
      by_cases same : key b = k
      · rw [List.find?_cons_of_pos (by simp [same]), Option.some.injEq] at decides
        subst decides
        rw [List.filter_cons_of_pos kept, List.find?_cons_of_pos (by simp [same])]
      · rw [List.find?_cons_of_neg (by simp [same])] at decides
        cases keepB : keep b with
        | true =>
            rw [List.filter_cons_of_pos keepB, List.find?_cons_of_neg (by simp [same])]
            exact ih decides
        | false =>
            rw [List.filter_cons_of_neg (by simp [keepB])]
            exact ih decides

/-- In a sorted list the decider comes before every other offer of its key. -/
theorem decider_least {r : α → α → Prop} (sorted : l.Pairwise r)
    (decides : decider key l (key b) = some a) (member : b ∈ l) : a = b ∨ r a b := by
  unfold decider at decides
  induction l with
  | nil => cases member
  | cons c l ih =>
      obtain ⟨least, rest⟩ := List.pairwise_cons.mp sorted
      by_cases same : key c = key b
      · rw [List.find?_cons_of_pos (by simp [same]), Option.some.injEq] at decides
        subst decides
        rcases List.mem_cons.mp member with rfl | later
        · exact .inl rfl
        · exact .inr (least b later)
      · rw [List.find?_cons_of_neg (by simp [same])] at decides
        rcases List.mem_cons.mp member with rfl | later
        · exact absurd rfl same
        · exact ih rest decides later

end Deciding

end Foundation
