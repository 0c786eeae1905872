import Mathlib.Data.List.Basic

/-! # Runs of a deterministic machine

A machine is a step function: every call, with all the data it carries, sends a state to the
next one.
-/

namespace Foundation

variable {σ ι : Type*}

/-- The state after all calls, in order. -/
def run (step : σ → ι → σ) (start : σ) (calls : List ι) : σ :=
  calls.foldl step start

/-- Every call of the run is made in a state where `allowed` permits it. -/
def Along (step : σ → ι → σ) (allowed : σ → ι → Prop) : σ → List ι → Prop
  | _, [] => True
  | s, call :: rest => allowed s call ∧ Along step allowed (step s call) rest

instance decidableAlong (step : σ → ι → σ) (allowed : σ → ι → Prop)
    [∀ s call, Decidable (allowed s call)] :
    ∀ s calls, Decidable (Along step allowed s calls)
  | _, [] => .isTrue trivial
  | s, call :: rest =>
      have := decidableAlong step allowed (step s call) rest
      inferInstanceAs (Decidable (allowed s call ∧ Along step allowed (step s call) rest))

variable {P : σ → Prop} {s : σ} {allowed : σ → ι → Prop}

section Runs

variable {step : σ → ι → σ}

@[simp] theorem run_nil (s : σ) : run step s [] = s := rfl

@[simp] theorem run_cons (s : σ) (call : ι) (rest : List ι) :
    run step s (call :: rest) = run step (step s call) rest := rfl

theorem run_append (s : σ) (before after : List ι) :
    run step s (before ++ after) = run step (run step s before) after :=
  List.foldl_append

theorem run_concat (s : σ) (before : List ι) (call : ι) :
    run step s (before ++ [call]) = step (run step s before) call := by
  simp only [run_append, run_cons, run_nil]

/-- What holds at the start and survives every step holds after every run. -/
theorem run_invariant (keep : ∀ s call, P s → P (step s call)) (start : P s) (calls : List ι)
    : P (run step s calls) := by
  induction calls generalizing s with
  | nil => exact start
  | cons call rest ih => exact ih (keep s call start)

theorem along_append {before after : List ι} :
    Along step allowed s (before ++ after) ↔
      Along step allowed s before ∧ Along step allowed (run step s before) after := by
  induction before generalizing s with
  | nil => simp only [List.nil_append, Along, run_nil, true_and]
  | cons call rest ih => simp only [List.cons_append, Along, run_cons, ih, and_assoc]

theorem along_iff_split {calls : List ι} :
    Along step allowed s calls ↔ ∀ before call after, calls = before ++ call :: after →
      allowed (run step s before) call := by
  constructor
  · intro along before call after split
    rw [split, along_append] at along
    exact along.2.1
  · intro each
    induction calls generalizing s with
    | nil => trivial
    | cons call rest ih =>
        refine ⟨each [] call rest rfl, ih fun before next after split => ?_⟩
        exact each (call :: before) next after (by rw [split]; rfl)

theorem run_invariant_along (keep : ∀ s call, P s → allowed s call → P (step s call)) (start : P s)
    (calls : List ι) (along : Along step allowed s calls) :
    P (run step s calls) := by
  induction calls generalizing s with
  | nil => exact start
  | cons call rest ih => exact ih (keep s call start along.1) along.2

/-- Two conditions on calls that agree in every invariant state hold along the
    same runs. -/
theorem along_iff {I : σ → Prop} {P Q : σ → ι → Prop} (keep : ∀ s call, I s → I (step s call))
    (same : ∀ s call, I s → (P s call ↔ Q s call)) (inv : I s) (calls : List ι)
    : Along step P s calls ↔ Along step Q s calls := by
  induction calls generalizing s with
  | nil => rfl
  | cons call rest ih => simp only [Along, same s call inv, ih (keep s call inv)]

/-- When a permitted call keeps `P` exactly if it is allowed, the runs that
    stay in `P` are the runs of allowed calls. -/
theorem everywhere_iff_along {I P : σ → Prop} {permitted allowed : σ → ι → Prop}
    (keep : ∀ s call, I s → permitted s call → I (step s call))
    (exact_ : ∀ s call, I s → permitted s call → P s → (P (step s call) ↔ allowed s call))
    {s : σ} (inv : I s) (holds : P s) (calls : List ι) (along : Along step permitted s calls) :
    (∀ before after, calls = before ++ after → P (run step s before)) ↔
      Along step allowed s calls := by
  induction calls generalizing s with
  | nil =>
      constructor
      · exact fun _ => trivial
      · intro _ before after split
        obtain ⟨rfl, -⟩ := List.append_eq_nil_iff.mp split.symm
        exact holds
  | cons call rest ih =>
      obtain ⟨permit, later⟩ := along
      have step_iff := exact_ s call inv permit holds
      have tail := fun now => ih (keep s call inv permit) now later
      constructor
      · intro everywhere
        have now : P (step s call) := everywhere [call] rest rfl
        refine ⟨step_iff.mp now, (tail now).mp ?_⟩
        intro before after split
        exact everywhere (call :: before) after (by rw [split]; rfl)
      · rintro ⟨first, others⟩ before after split
        have now : P (step s call) := step_iff.mpr first
        cases before with
        | nil => exact holds
        | cons head before =>
            obtain ⟨rfl, remaining⟩ := List.cons.inj split
            exact (tail now).mpr others before after remaining

/-- A property that fails at the start and holds at the end was brought about
    by one particular call. -/
theorem run_first_change (start : ¬ P s) (calls : List ι) (final : P (run step s calls)) :
    ∃ before call after, calls = before ++ call :: after ∧
      ¬ P (run step s before) ∧ P (step (run step s before) call) := by
  induction calls generalizing s with
  | nil => exact absurd final start
  | cons call rest ih =>
      by_cases now : P (step s call)
      · exact ⟨[], call, rest, rfl, start, now⟩
      · obtain ⟨before, change, after, split, absent, present⟩ := ih now final
        exact ⟨call :: before, change, after, by rw [split]; rfl, absent, present⟩

end Runs

end Foundation
