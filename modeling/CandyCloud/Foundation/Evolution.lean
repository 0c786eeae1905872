import CandyCloud.Foundation.Table

/-! # Tables that only grow

Rows are added at the end and rewritten in place, never removed.
-/

namespace Foundation

variable {α κ : Type*}

/-- Every old row is rewritten within `R` or kept, and new rows come last. -/
def Evolves (R : α → α → Prop) (old new : List α) : Prop :=
  ∃ rewrite added, new = old.map rewrite ++ added ∧ ∀ row, R row (rewrite row)

namespace Evolves

variable {R : α → α → Prop} {a b c : List α}

theorem refl (keep : ∀ row, R row row) (rows : List α) : Evolves R rows rows :=
  ⟨id, [], by simp, keep⟩

theorem append (keep : ∀ row, R row row) (rows added : List α) : Evolves R rows (rows ++ added) :=
  ⟨id, added, by simp, keep⟩

theorem updated (keep : ∀ row, R row row) {selected : α → Bool} {set : α → α}
    (within : ∀ row, selected row = true → R row (set row)) (rows : List α) :
    Evolves R rows (updateWhere selected set rows) := by
  refine ⟨fun row => if selected row then set row else row, [], ?_, ?_⟩
  · rw [List.append_nil, updateWhere]
  · intro row
    dsimp only
    split
    · rename_i chosen
      exact within row chosen
    · exact keep row

theorem trans (compose : ∀ x y z, R x y → R y z → R x z) (first : Evolves R a b)
    (second : Evolves R b c) : Evolves R a c := by
  obtain ⟨rewrite, added, rfl, within⟩ := first
  obtain ⟨again, more, rfl, further⟩ := second
  refine ⟨again ∘ rewrite, added.map again ++ more, by simp, ?_⟩
  intro row
  exact compose row _ _ (within row) (further _)

theorem mem (evolves : Evolves R a b) {row : α} (member : row ∈ a) : ∃ new ∈ b, R row new := by
  obtain ⟨rewrite, added, rfl, within⟩ := evolves
  exact ⟨rewrite row, List.mem_append_left _ (List.mem_map_of_mem member), within row⟩

end Evolves

end Foundation
