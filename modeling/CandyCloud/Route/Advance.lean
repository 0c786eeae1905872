import CandyCloud.Route.Barrier

/-! # Rollouts only advance

A report moves a rollout to a later state or leaves it where it is, and nothing removes it.
-/

namespace CandyCloud

open Foundation

def RolloutState.rank : RolloutState → Nat
  | .preparing => 0
  | .blocked => 1
  | .committing => 2
  | .complete => 3

/-- The same rollout in the same state or a later one. -/
def RolloutRow.Advances (a b : RolloutRow) : Prop :=
  b = { a with state := b.state } ∧ a.state.rank ≤ b.state.rank

variable {store store' : RouteStore} {call : RouteCall} {rollout row next : RolloutRow}

theorem nextState_rank (applyState : ApplyState) (state : RolloutState) (prepared active : Bool) :
    state.rank ≤ (nextState applyState state prepared active).rank := by
  cases applyState with
  | prepared | active | rejected => cases state <;> decide +revert

theorem RolloutRow.Advances.refl (row : RolloutRow) : row.Advances row := ⟨rfl, Nat.le_refl _⟩

theorem RolloutRow.Advances.trans (first : rollout.Advances row) (second : row.Advances next) :
    rollout.Advances next := by
  obtain ⟨fixed, order⟩ := first
  obtain ⟨fixed', order'⟩ := second
  refine ⟨?_, Nat.le_trans order order'⟩
  rw [fixed', fixed]

theorem RolloutRow.Advances.key (advances : rollout.Advances row) : row.key = rollout.key := by
  rw [advances.1]
  rfl

/-- What is told to the members of a rollout is not taken back. -/
theorem RolloutRow.Advances.commit (advances : rollout.Advances row)
    (commit : activationPhase rollout = .commit) : activationPhase row = .commit := by
  obtain ⟨fixed, order⟩ := advances
  have mode : row.activationMode = rollout.activationMode := by rw [fixed]
  rw [activationPhase] at commit ⊢
  rw [mode]
  cases direct : rollout.activationMode with
  | policyOnly => rfl
  | tunnel =>
      rw [direct] at commit
      cases before : rollout.state with
      | preparing | blocked => simp [before] at commit
      | committing | complete =>
          rw [before] at order
          cases after : row.state with
          | preparing | blocked => simp [after, RolloutState.rank] at order
          | committing | complete => rfl

theorem RolloutStep.advances (inv : RolloutInvariant store) (step : RolloutStep store store' call)
    (member : rollout ∈ store.rollouts) : ∃ row ∈ store'.rollouts, rollout.Advances row := by
  cases step with
  | unchanged publications rollouts => exact ⟨rollout, by rwa [rollouts], .refl rollout⟩
  | published committed =>
      rw [committed.rollouts]
      exact ⟨rollout, List.mem_append_left _ member, .refl rollout⟩
  | reported current effect =>
      rename_i status configuration segment delivery
      by_cases same : rollout.key = delivery.rollout.key
      · -- The reported rollout is the one of this key, and it moves to the next state.
        obtain rfl := inv.rollout_unique member current.rollout same
        exact ⟨_, effect.moved member, rfl, nextState_rank _ _ _ _⟩
      · rw [effect.rollouts]
        exact ⟨rollout, mem_updateWhere.mpr ⟨rollout, member, if_neg (by simpa using same)⟩,
          .refl rollout⟩

theorem run_advances (sha256 : Bytes → Hash) (inv : RolloutInvariant store) (calls : List RouteCall)
    (member : rollout ∈ store.rollouts) :
    ∃ row ∈ (run (routeStep sha256) store calls).rollouts, rollout.Advances row := by
  induction calls generalizing store rollout with
  | nil => exact ⟨rollout, member, .refl rollout⟩
  | cons call rest ih =>
      obtain ⟨row, present, step⟩ := (routeStep_rollouts sha256 inv call).advances inv member
      obtain ⟨last, final, rests⟩ := ih (routeStep_rolloutInvariant sha256 store call inv) present
      exact ⟨last, final, step.trans rests⟩

theorem Current.rollout_key {lookup : RuntimeConfigurationLookup}
    {record : RuntimeConfigurationRecord} {segment : SegmentRow} {delivery : Delivery}
    (current : Current store lookup record segment delivery) :
    delivery.rollout.key = (record.tenantId, record.segmentId, record.segmentGeneration) := by
  rw [current.rolls, current.recordTenant, current.recordSegment, current.recordGeneration,
    current.link.tenant, current.link.segment, current.link.generation]

/-- No rollout is removed or goes back to an earlier state. A member that has been told to commit
    a generation, or any other member of it, is never told to prepare it again. -/
theorem commit_not_recalled (sha256 : Bytes → Hash) (start : RouteStore)
    (empty : start.Unpublished) (calls later : List RouteCall) :
    (∀ rollout ∈ (run (routeStep sha256) start calls).rollouts,
      ∃ row ∈ (run (routeStep sha256) start (calls ++ later)).rollouts, rollout.Advances row) ∧
    ∀ now now' policyIsolation policyIsolation' lookup lookup' record record',
      loadCurrentRuntimeConfiguration (run (routeStep sha256) start calls) now policyIsolation
        lookup = .ok (.current record) → record.activationPhase = .commit →
      loadCurrentRuntimeConfiguration (run (routeStep sha256) start (calls ++ later)) now'
        policyIsolation' lookup' = .ok (.current record') →
      record'.tenantId = record.tenantId → record'.segmentId = record.segmentId →
      record'.segmentGeneration = record.segmentGeneration → record'.activationPhase = .commit := by
  have inv := run_rolloutInvariant sha256 empty
  have advances : ∀ rollout ∈ (run (routeStep sha256) start calls).rollouts,
      ∃ row ∈ (run (routeStep sha256) start (calls ++ later)).rollouts, rollout.Advances row := by
    intro rollout member
    rw [run_append]
    exact run_advances sha256 (inv calls) later member
  refine ⟨advances, ?_⟩
  intro now now' policyIsolation policyIsolation' lookup lookup' record record' told commit next
    tenant segment generation
  obtain ⟨_, delivery, current⟩ := load_current (inv calls) told
  obtain ⟨_, delivery', current'⟩ := load_current (inv (calls ++ later)) next
  obtain ⟨row, present, advanced⟩ := advances delivery.rollout current.rollout
  -- The later record is assembled with the rollout of the same generation.
  have same : row = delivery'.rollout := by
    apply (inv (calls ++ later)).rollout_unique present current'.rollout
    rw [advanced.key, current.rollout_key, current'.rollout_key, tenant, segment, generation]
  rw [current'.phase, ← same]
  exact advanced.commit (current.phase.symm.trans commit)

/-- One site is told to commit and reports it; the other site is then told the same. -/
theorem commit_not_recalled_two_sites : ∃ record,
    loadCurrentRuntimeConfiguration
      (run (routeStep fun _ => 0) twoSiteStore (preparedRun ++ [sampleReport 1 1 .active])) 0
      true (sampleLookup 2) = .ok (.current record) ∧ record.activationPhase = .commit := by
  refine ⟨_, rfl, ?_⟩
  exact (commit_not_recalled (fun _ => 0) twoSiteStore twoSiteStore_unpublished preparedRun
    [sampleReport 1 1 .active]).2 0 0 false true (sampleLookup 1) (sampleLookup 2)
    sampleCommitRecord _ rfl rfl rfl rfl rfl rfl

end CandyCloud
