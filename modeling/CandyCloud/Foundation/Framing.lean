import Mathlib.Data.List.Basic

/-! # Encodings that can be read back

A concatenation of encoded values determines the values when each of them can be read back from
the front of whatever follows it.
-/

namespace Foundation

variable {α β : Type} {valid : α → Prop} {encode : α → List β}

/-- A valid value and the rest are determined by the encoding and what follows. -/
def ReadsBack (valid : α → Prop) (encode : α → List β) : Prop :=
  ∀ a b rest rest', valid a → valid b → encode a ++ rest = encode b ++ rest' → a = b ∧ rest = rest'

theorem ReadsBack.inj (reads : ReadsBack valid encode) {a b : α} (left : valid a) (right : valid b)
    (same : encode a = encode b) : a = b :=
  (reads a b [] [] left right (by rw [same])).1

theorem readsBack_fixed {width : Nat} (fixed : ∀ a, (encode a).length = width)
    (inj : ∀ a b, valid a → valid b → encode a = encode b → a = b) : ReadsBack valid encode := by
  intro a b rest rest' left right same
  obtain ⟨fields, rests⟩ := List.append_inj same ((fixed a).trans (fixed b).symm)
  exact ⟨inj a b left right fields, rests⟩

theorem ReadsBack.flatMap (reads : ReadsBack valid encode) {as bs : List α} {rest rest' : List β}
    (lengths : as.length = bs.length) (left : ∀ a ∈ as, valid a) (right : ∀ b ∈ bs, valid b)
    (same : as.flatMap encode ++ rest = bs.flatMap encode ++ rest') : as = bs ∧ rest = rest' := by
  induction as generalizing bs with
  | nil =>
      cases bs with
      | nil => exact ⟨rfl, same⟩
      | cons b bs => cases lengths
  | cons a as ih =>
      cases bs with
      | nil => cases lengths
      | cons b bs =>
          simp only [List.flatMap_cons, List.append_assoc] at same
          obtain ⟨heads, later⟩ := reads a b _ _ (left a List.mem_cons_self)
            (right b List.mem_cons_self) same
          obtain ⟨tails, rests⟩ := ih (Nat.succ.inj lengths)
            (fun x member => left x (List.mem_cons_of_mem a member))
            (fun x member => right x (List.mem_cons_of_mem b member)) later
          rw [heads, tails]
          exact ⟨rfl, rests⟩

/-- Lists of values that are never encoded by nothing need no number in front. -/
theorem ReadsBack.uncounted (reads : ReadsBack valid encode) (filled : ∀ a, encode a ≠ [])
    {as bs : List α} (left : ∀ a ∈ as, valid a) (right : ∀ b ∈ bs, valid b)
    (same : as.flatMap encode = bs.flatMap encode) : as = bs := by
  induction as generalizing bs with
  | nil =>
      cases bs with
      | nil => rfl
      | cons b bs => exact absurd (List.append_eq_nil_iff.mp same.symm).1 (filled b)
  | cons a as ih =>
      cases bs with
      | nil => exact absurd (List.append_eq_nil_iff.mp same).1 (filled a)
      | cons b bs =>
          obtain ⟨heads, later⟩ := reads a b _ _ (left a List.mem_cons_self)
            (right b List.mem_cons_self) same
          rw [heads, ih (fun x member => left x (List.mem_cons_of_mem a member))
            (fun x member => right x (List.mem_cons_of_mem b member)) later]

section Sized

variable {fits : Nat → Prop} {size : Nat → List β}

theorem ReadsBack.framed (sizes : ReadsBack fits size) :
    ReadsBack (fun value : List β => fits value.length) (fun value => size value.length ++ value) := by
  intro a b rest rest' left right same
  simp only [List.append_assoc] at same
  obtain ⟨lengths, later⟩ := sizes _ _ _ _ left right same
  exact List.append_inj later lengths

theorem ReadsBack.counted (sizes : ReadsBack fits size) (reads : ReadsBack valid encode) :
    ReadsBack (fun values : List α => fits values.length ∧ ∀ a ∈ values, valid a)
      (fun values => size values.length ++ values.flatMap encode) := by
  intro as bs rest rest' left right same
  simp only [List.append_assoc] at same
  obtain ⟨lengths, later⟩ := sizes _ _ _ _ left.1 right.1 same
  exact reads.flatMap lengths left.2 right.2 later

end Sized

end Foundation
