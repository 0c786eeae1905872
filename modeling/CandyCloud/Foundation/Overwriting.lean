import Mathlib.Data.List.Induction
import CandyCloud.Foundation.Machine

/-! # Overwriting under an expected version

A cell is overwritten by calls that name the version they have read, and an accepted write moves
it to the next one.
-/

namespace Foundation

variable {σ ι β γ : Type*}

def acceptedWrites (step : σ → ι → σ) (accepts : σ → ι → Option β) : σ → List ι → List β
  | _, [] => []
  | s, call :: rest => (accepts s call).toList ++ acceptedWrites step accepts (step s call) rest

theorem acceptedWrites_concat {step : σ → ι → σ} {accepts : σ → ι → Option β} (s : σ)
    (before : List ι) (call : ι) :
    acceptedWrites step accepts s (before ++ [call]) =
      acceptedWrites step accepts s before ++ (accepts (run step s before) call).toList := by
  induction before generalizing s with
  | nil => simp [acceptedWrites]
  | cons first rest ih =>
      rw [List.cons_append, acceptedWrites, acceptedWrites, ih, List.append_assoc, run_cons]

/-- The version of what a cell holds, zero for an empty one. -/
def versionOf (version : γ → Nat) (content : Option γ) : Nat := (content.map version).getD 0

variable (step : σ → ι → σ) (accepts : σ → ι → Option β) (content : σ → Option γ)
  (version : γ → Nat) (expected : β → Nat) (stored : β → γ) (I : σ → Prop)

/-- In the states that satisfy `I`, writes are accepted under the version they expect. -/
structure Overwriting : Prop where
  keep : ∀ s call, I s → I (step s call)
  accepted : ∀ s call write, I s → accepts s call = some write →
    expected write = versionOf version (content s) ∧
      version (stored write) = expected write + 1 ∧ content (step s call) = some (stored write)
  refused : ∀ s call, I s → accepts s call = none → content (step s call) = content s

variable {step accepts content version expected stored I} {s : σ}

/-- The accepted writes expect all the versions in turn, and the last one stays. -/
theorem Overwriting.writes_follow
    (cell : Overwriting step accepts content version expected stored I) (start : I s)
    (empty : content s = none) (calls : List ι) :
    (acceptedWrites step accepts s calls).map expected =
        List.range (acceptedWrites step accepts s calls).length ∧
      content (run step s calls) = (acceptedWrites step accepts s calls).getLast?.map stored ∧
      versionOf version (content (run step s calls)) =
        (acceptedWrites step accepts s calls).length := by
  induction calls using List.reverseRecOn with
  | nil => simp [acceptedWrites, empty, versionOf]
  | append_singleton before call ih =>
      obtain ⟨numbered, last, counted⟩ := ih
      have inv : I (run step s before) := run_invariant cell.keep start before
      rw [acceptedWrites_concat, run_concat]
      cases answer : accepts (run step s before) call with
      | none =>
          rw [cell.refused _ call inv answer, Option.toList_none, List.append_nil]
          exact ⟨numbered, last, counted⟩
      | some write =>
          obtain ⟨expects, next, holds⟩ := cell.accepted _ call write inv answer
          rw [counted] at expects
          have follows : versionOf version (some (stored write)) =
              (acceptedWrites step accepts s before).length + 1 := by
            rw [← expects, ← next]
            rfl
          simp [holds, follows, numbered, expects, List.range_succ]

end Foundation
