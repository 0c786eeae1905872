import Mathlib.Data.List.Basic
import Mathlib.Data.List.Dedup
import Mathlib.Data.List.Nodup

/-! # The first of each key

The elements of a list that no earlier element shares its key with. In a sorted
list these are the least of their keys.
-/

namespace Foundation

variable {α κ : Type*} [DecidableEq κ]

/-- The first element of each key, in the order of the list. -/
def firsts (key : α → κ) : List α → List α
  | [] => []
  | a :: rest => a :: (firsts key rest).filter fun b => key b ≠ key a

variable {key : α → κ} {xs : List α}

theorem firsts_sublist : (firsts key xs).Sublist xs := by
  induction xs with
  | nil => exact .slnil
  | cons a rest ih => exact (List.filter_sublist.trans ih).cons_cons a

theorem key_mem_firsts {k : κ} : k ∈ (firsts key xs).map key ↔ k ∈ xs.map key := by
  constructor
  · exact fun member => (firsts_sublist.map key).subset member
  · intro member
    induction xs with
    | nil => exact member
    | cons a rest ih =>
        rw [firsts, List.map_cons, List.mem_cons]
        by_cases same : k = key a
        · exact .inl same
        · have later := (List.mem_cons.mp member).resolve_left same
          obtain ⟨b, kept, rfl⟩ := List.mem_map.mp (ih later)
          exact .inr (List.mem_map_of_mem (List.mem_filter.mpr ⟨kept, decide_eq_true same⟩))

theorem firsts_nodup : ((firsts key xs).map key).Nodup := by
  induction xs with
  | nil => exact List.nodup_nil
  | cons a rest ih =>
      rw [firsts, List.map_cons, List.nodup_cons]
      constructor
      · intro again
        obtain ⟨b, kept, same⟩ := List.mem_map.mp again
        exact of_decide_eq_true (List.mem_filter.mp kept).2 same
      · exact ih.sublist (List.filter_sublist.map key)

theorem length_firsts : (firsts key xs).length = (xs.map key).dedup.length := by
  have same : ((firsts key xs).map key).Perm (xs.map key).dedup := by
    rw [List.perm_ext_iff_of_nodup firsts_nodup (List.nodup_dedup _)]
    intro k
    rw [key_mem_firsts, List.mem_dedup]
  rw [← same.length_eq, List.length_map]

theorem mem_firsts {a : α} :
    a ∈ firsts key xs ↔ xs.find? (fun b => decide (key b = key a)) = some a := by
  induction xs with
  | nil => simp [firsts]
  | cons b rest ih =>
      rw [firsts, List.mem_cons, List.mem_filter, ih, List.find?_cons]
      by_cases same : key b = key a
      · rw [decide_eq_true same, Option.some.injEq]
        constructor
        · rintro (rfl | ⟨-, other⟩)
          · rfl
          · exact absurd same.symm (of_decide_eq_true other)
        · exact fun first => .inl first.symm
      · rw [decide_eq_false same]
        constructor
        · rintro (rfl | ⟨found, -⟩)
          · exact absurd rfl same
          · exact found
        · exact fun found => .inr ⟨found, decide_eq_true fun other => same other.symm⟩

theorem mem_firsts_append {before after : List α} {a : α}
    (fresh : ∀ b ∈ before, key b ≠ key a) : a ∈ firsts key (before ++ a :: after) := by
  rw [mem_firsts, List.find?_append, List.find?_cons, decide_eq_true rfl]
  have missed : before.find? (fun b => decide (key b = key a)) = none := by
    rw [List.find?_eq_none]
    intro b member same
    exact fresh b member (of_decide_eq_true same)
  rw [missed]
  rfl

end Foundation
