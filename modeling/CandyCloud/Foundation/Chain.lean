import Mathlib.Data.List.Basic
import Mathlib.Data.List.Nodup
import Mathlib.Data.List.Sort

/-! # Linked generation chains

A chain is a list of records numbered `1, 2, 3, …` in which every record names the hash of its
predecessor and the first one names a fixed genesis hash.
-/

namespace Foundation

variable {α β : Type*}

section Definitions

variable (index : α → Nat) (prev hash : α → β)

/-- `rows` continues a chain whose last record has number `n` and hash `h`. -/
def Linked : Nat → β → List α → Prop
  | _, _, [] => True
  | n, h, row :: rest => index row = n + 1 ∧ prev row = h ∧ Linked (n + 1) (hash row) rest

/-- Number and hash of the last record, or of the point the chain continues. -/
def tip (n : Nat) (h : β) : List α → Nat × β
  | [] => (n, h)
  | row :: rest => tip (index row) (hash row) rest

/-- Numbers without gap or repetition, and every link to the predecessor. -/
structure GenerationChain (genesis : β) (rows : List α) : Prop where
  numbered : rows.map index = List.range' 1 rows.length
  first : ∀ row, rows[0]? = some row → prev row = genesis
  linked : ∀ k row next, rows[k]? = some row → rows[k + 1]? = some next → prev next = hash row

end Definitions

variable {index : α → Nat} {prev hash : α → β}

theorem tip_concat (n : Nat) (h : β) (rows : List α) (row : α) :
    tip index hash n h (rows ++ [row]) = (index row, hash row) := by
  induction rows generalizing n h with
  | nil => rfl
  | cons head rest ih => exact ih (index head) (hash head)

variable {rows : List α} {row : α} {n : Nat} {h : β}

theorem tip_of_last (n : Nat) (h : β) (last : rows.getLast? = some row) :
    tip index hash n h rows = (index row, hash row) := by
  obtain ⟨before, rfl⟩ := List.getLast?_eq_some_iff.mp last
  exact tip_concat n h before row

/-- One more record continues the chain exactly when it follows the tip. -/
theorem linked_concat :
    Linked index prev hash n h (rows ++ [row]) ↔
      Linked index prev hash n h rows ∧
        index row = (tip index hash n h rows).1 + 1 ∧ prev row = (tip index hash n h rows).2 := by
  induction rows generalizing n h with
  | nil => simp only [List.nil_append, Linked, tip, and_true, true_and]
  | cons head rest ih =>
      simp only [List.cons_append, Linked, tip, ih]
      constructor
      · rintro ⟨number, back, rest, next, link⟩
        rw [number]
        exact ⟨⟨rfl, back, rest⟩, next, link⟩
      · rintro ⟨⟨number, back, rest⟩, next, link⟩
        rw [number] at next link
        exact ⟨number, back, rest, next, link⟩

section

variable (chain : Linked index prev hash n h rows)

include chain

theorem Linked.tip_index : (tip index hash n h rows).1 = n + rows.length := by
  induction rows generalizing n h with
  | nil => rfl
  | cons head rest ih =>
      obtain ⟨number, -, later⟩ := chain
      rw [tip, number, ih later, List.length_cons]
      omega

theorem Linked.numbered : rows.map index = List.range' (n + 1) rows.length := by
  induction rows generalizing n h with
  | nil => rfl
  | cons head rest ih =>
      obtain ⟨number, -, later⟩ := chain
      rw [List.map_cons, number, ih later, List.length_cons, List.range'_succ]

theorem Linked.index_le (member : row ∈ rows) : n < index row ∧ index row ≤ n + rows.length := by
  have image : index row ∈ rows.map index := List.mem_map_of_mem member
  rw [chain.numbered, List.mem_range'_1] at image
  omega

theorem Linked.prev_get {k : Nat} {next : α} (here : rows[k]? = some row)
    (there : rows[k + 1]? = some next) : prev next = hash row := by
  induction rows generalizing n h k with
  | nil => simp at here
  | cons head rest ih =>
      obtain ⟨-, -, later⟩ := chain
      cases k with
      | succ k => exact ih later here there
      | zero =>
          rw [List.getElem?_cons_zero, Option.some.injEq] at here
          subst here
          cases rest with
          | nil => simp at there
          | cons second tail =>
              simp only [Nat.zero_add, List.getElem?_cons_succ, List.getElem?_cons_zero,
                Option.some.injEq] at there
              exact there ▸ later.2.1

theorem Linked.sorted
    : rows.Pairwise fun a b => index a ≤ index b := by
  have increasing : (rows.map index).Pairwise (· < ·) := by
    rw [chain.numbered]
    exact List.pairwise_lt_range'
  exact (List.pairwise_map.mp increasing).imp le_of_lt

theorem Linked.head_sort_desc :
    (rows.insertionSort fun a b => index b ≤ index a).head? = rows.getLast? := by
  rcases List.eq_nil_or_concat rows with rfl | ⟨before, last, rfl⟩
  · rfl
  · rw [List.concat_eq_append] at chain ⊢
    have order := List.pairwise_insertionSort (fun a b => index b ≤ index a) (before ++ [last])
    have perm := List.perm_insertionSort (fun a b => index b ≤ index a) (before ++ [last])
    obtain ⟨chain, number, -⟩ := linked_concat.mp chain
    rw [chain.tip_index] at number
    have present : last ∈ (before ++ [last]).insertionSort fun a b => index b ≤ index a :=
      perm.mem_iff.mpr (List.mem_append_right before (List.mem_singleton_self last))
    cases sorted : (before ++ [last]).insertionSort fun a b => index b ≤ index a with
    | nil =>
        rw [sorted] at present
        cases present
    | cons top rest =>
        rw [sorted] at order perm present
        have upper : index last ≤ index top := by
          rcases List.mem_cons.mp present with rfl | later
          · exact le_refl _
          · exact List.rel_of_pairwise_cons order later
        rcases List.mem_append.mp (perm.mem_iff.mp List.mem_cons_self) with earlier | same
        · have := (chain.index_le earlier).2
          omega
        · rw [List.mem_singleton.mp same, List.head?_cons, List.getLast?_concat]

end

theorem Linked.generationChain {genesis : β} (chain : Linked index prev hash 0 genesis rows) :
    GenerationChain index prev hash genesis rows where
  numbered := chain.numbered
  first := by
    intro row head
    cases rows with
    | nil => simp at head
    | cons first rest =>
        rw [List.getElem?_cons_zero, Option.some.injEq] at head
        exact head ▸ chain.2.1
  linked := fun _ _ _ here there => chain.prev_get here there

/-- The pairs of neighbours of a list, in order. -/
def successions : List α → List (α × α)
  | a :: b :: rest => (a, b) :: successions (b :: rest)
  | _ => []

theorem successions_concat (before : List α) (last next : α) :
    successions (before ++ [last] ++ [next]) =
      successions (before ++ [last]) ++ [(last, next)] := by
  induction before with
  | nil => rfl
  | cons a rest ih =>
      cases rest with
      | nil => rfl
      | cons b rest => exact congrArg ((a, b) :: ·) ih

end Foundation
