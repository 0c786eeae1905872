import Mathlib.Data.List.Destutter
import Mathlib.Data.List.Sort

/-! # Sorted sets

A list that is sorted and then rid of its neighbouring repetitions holds every
element once: it is the set of its elements in order.
-/

namespace Foundation

variable {α : Type*} {r : α → α → Prop}

variable {l : List α} {x : α}

theorem nodup_of_isChain_ne (antisymm : ∀ a b, r a b → r b a → a = b) (sorted : l.Pairwise r)
    (apart : l.IsChain (· ≠ ·)) : l.Nodup := by
  induction l with
  | nil => exact List.nodup_nil
  | cons a l ih =>
      obtain ⟨least, rest⟩ := List.pairwise_cons.mp sorted
      rw [List.nodup_cons]
      constructor
      · cases l with
        | nil => exact List.not_mem_nil
        | cons b l =>
            obtain ⟨different, -⟩ := List.isChain_cons_cons.mp apart
            intro member
            cases List.mem_cons.mp member with
            | inl same => exact different same
            | inr later =>
                have after := (List.pairwise_cons.mp rest).1 a later
                exact different (antisymm a b (least b List.mem_cons_self) after)
      · exact ih rest apart.tail

variable [DecidableEq α]

theorem mem_destutter'_ne {a : α} :
    x ∈ l.destutter' (· ≠ ·) a ↔ x = a ∨ x ∈ l := by
  induction l generalizing a with
  | nil => simp
  | cons b l ih =>
      by_cases same : a = b
      · rw [List.destutter'_cons_neg _ (by simp [same]), ih, same]
        simp
      · rw [List.destutter'_cons_pos _ same, List.mem_cons, ih, List.mem_cons]

theorem mem_destutter_ne : x ∈ l.destutter (· ≠ ·) ↔ x ∈ l := by
  cases l with
  | nil => rw [List.destutter_nil]
  | cons a l => rw [List.destutter_cons', mem_destutter'_ne, List.mem_cons]

variable [DecidableRel r]

/-- The elements of a list in order, each of them once. -/
def sortedSet (r : α → α → Prop) [DecidableRel r] (l : List α) : List α :=
  (l.insertionSort r).destutter (· ≠ ·)

theorem mem_sortedSet : x ∈ sortedSet r l ↔ x ∈ l := by
  rw [sortedSet, mem_destutter_ne, List.mem_insertionSort]

theorem sortedSet_sorted [Std.Total r] [IsTrans α r] (l : List α) :
    (sortedSet r l).Pairwise r :=
  (List.pairwise_insertionSort r l).sublist (List.destutter_sublist _ _)

theorem sortedSet_nodup [Std.Total r] [IsTrans α r] (antisymm : ∀ a b, r a b → r b a → a = b)
    (l : List α) : (sortedSet r l).Nodup :=
  nodup_of_isChain_ne antisymm (sortedSet_sorted l) (List.isChain_destutter _ _)

end Foundation
