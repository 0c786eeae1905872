import CandyCloud.Route.Rollout

/-! # The prepare/commit barrier

A tunnel rollout starts in `PREPARING`.
-/

namespace CandyCloud

open Foundation

/-- The three ways a call can treat the publications and the rollouts. -/
inductive RolloutStep (store store' : RouteStore) : RouteCall → Prop where
  | unchanged {call : RouteCall} (publications : store'.publications = store.publications)
      (rollouts : store'.rollouts = store.rollouts) : RolloutStep store store' call
  | published {policyIsolation : Bool} {write : SegmentPublicationWrite}
      (committed : Committed policyIsolation write store store') :
      RolloutStep store store' (.publish policyIsolation write)
  | reported {policyIsolation : Bool} {now : Instant} {auditId : Uuid}
      {status : RuntimeConfigurationStatusWrite} {configuration : RuntimeConfigurationRecord}
      {segment : SegmentRow} {delivery : Delivery}
      (current : Current store status.lookup configuration segment delivery)
      (effect : Effect status.applyState delivery.publication delivery.rollout store store') :
      RolloutStep store store' (.report policyIsolation now auditId status)

variable {store store' : RouteStore} {call : RouteCall} {publication : PublicationRow}
  {rollout : RolloutRow}

theorem routeStep_rollouts (sha256 : Bytes → Hash) (inv : RolloutInvariant store)
    (call : RouteCall) :
    RolloutStep store (routeStep sha256 store call) call := by
  cases call with
  | publish policyIsolation write =>
      exact routeStep_publish sha256 policyIsolation write
        (P := fun store' => RolloutStep store store' (.publish policyIsolation write))
        (.unchanged rfl rfl) fun _ => .published
  | report policyIsolation now auditId status =>
      rcases report_cases store now auditId policyIsolation status with
        same | ⟨configuration, superseded⟩ | ⟨configuration, acceptable, accepted⟩
      · simp only [routeStep, same]
        exact .unchanged rfl rfl
      · simp only [routeStep, superseded.result]
        exact .unchanged rfl rfl
      · obtain ⟨segment, delivery, current, effect, -⟩ := accepted.effect inv acceptable.loaded
        exact .reported current effect
  | environment topology segments => exact .unchanged rfl rfl

theorem RolloutStep.publications (step : RolloutStep store store' call)
    (published : publication ∈ store.publications) : publication ∈ store'.publications := by
  cases step with
  | unchanged publications rollouts =>
      rw [publications]
      exact published
  | published committed =>
      rw [committed.publications]
      exact List.mem_append_left _ published
  | reported current effect =>
      rw [effect.same.publications]
      exact published

theorem run_publications (sha256 : Bytes → Hash) (inv : RolloutInvariant store)
    (calls : List RouteCall) (published : publication ∈ store.publications) :
    publication ∈ (run (routeStep sha256) store calls).publications := by
  induction calls generalizing store with
  | nil => exact published
  | cons call rest ih =>
      have step := routeStep_rollouts sha256 inv call
      exact ih (routeStep_rolloutInvariant sha256 store call inv) (step.publications published)

theorem nextState_complete (applyState : ApplyState) (prepared active : Bool) :
    nextState applyState .complete prepared active = .complete := by
  cases applyState <;> rfl

theorem RolloutStep.complete (inv : RolloutInvariant store) (step : RolloutStep store store' call)
    (member : rollout ∈ store.rollouts) (complete : rollout.state = .complete) :
    rollout ∈ store'.rollouts := by
  cases step with
  | unchanged publications rollouts =>
      rw [rollouts]
      exact member
  | published committed =>
      rw [committed.rollouts]
      exact List.mem_append_left _ member
  | reported current effect =>
      rename_i status configuration segment delivery
      rw [effect.rollouts]
      refine mem_updateWhere.mpr ⟨rollout, member, ?_⟩
      by_cases same : rollout.key = delivery.rollout.key
      · have equal := inv.rollout_unique member current.rollout same
        rw [if_pos (decide_eq_true same), ← equal, complete, nextState_complete]
        rw [← complete]
      · rw [if_neg (by simpa using same)]

theorem run_complete (sha256 : Bytes → Hash) (inv : RolloutInvariant store) (calls : List RouteCall)
    (member : rollout ∈ store.rollouts) (complete : rollout.state = .complete) :
    rollout ∈ (run (routeStep sha256) store calls).rollouts := by
  induction calls generalizing store with
  | nil => exact member
  | cons call rest ih =>
      have step := routeStep_rollouts sha256 inv call
      exact ih (routeStep_rolloutInvariant sha256 store call inv) (step.complete inv member complete)

/-- The tunnel rollout with this key tells its members to commit. -/
def Crossed (key : Uuid × Uuid × Nat) (store : RouteStore) : Prop :=
  ∃ rollout ∈ store.rollouts, rollout.key = key ∧ rollout.activationMode = .tunnel ∧
    (rollout.state = .committing ∨ rollout.state = .complete)

theorem nextState_crossed {applyState : ApplyState} {state : RolloutState} {prepared active : Bool}
    (before : ¬ (state = .committing ∨ state = .complete))
    (after : nextState applyState state prepared active = .committing ∨
      nextState applyState state prepared active = .complete) :
    prepared = true ∨ active = true := by
  cases applyState with
  | prepared =>
      cases state with
      | preparing | blocked =>
          cases prepared with
          | true => exact .inl rfl
          | false => simp [nextState] at after
      | committing | complete => simp at before
  | active =>
      cases state with
      | preparing => simp [nextState] at after
      | blocked =>
          cases active with
          | true => exact .inr rfl
          | false => simp [nextState] at after
      | committing | complete => simp at before
  | rejected =>
      cases state with
      | preparing | blocked => simp [nextState] at after
      | committing | complete => simp at before

theorem RolloutStep.crossing (inv : RolloutInvariant store) (step : RolloutStep store store' call)
    {key : Uuid × Uuid × Nat} (before : ¬ Crossed key store) (after : Crossed key store') :
    ∃ publication ∈ store'.publications,
      key = (publication.tenantId, publication.segmentId, publication.generation) ∧
      (allReported store' publication .prepared = true ∨
        allReported store' publication .active = true) := by
  obtain ⟨rollout, member, rfl, tunnel, state⟩ := after
  cases step with
  | unchanged publications rollouts =>
      rw [rollouts] at member
      exact absurd ⟨rollout, member, rfl, tunnel, state⟩ before
  | published committed =>
      rename_i policyIsolation write
      rw [committed.rollouts] at member
      rcases mem_concat.mp member with old | rfl
      · exact absurd ⟨rollout, old, rfl, tunnel, state⟩ before
      · cases policyOnly : write.policyOnly with
        | true => simp [SegmentPublicationWrite.rolloutRow, activationMode, policyOnly] at tunnel
        | false => simp [SegmentPublicationWrite.rolloutRow, policyOnly] at state
  | reported current effect =>
      rename_i status configuration segment delivery
      rw [effect.rollouts] at member
      obtain ⟨old, present, rfl⟩ := mem_updateWhere.mp member
      by_cases same : old.key = delivery.rollout.key
      · have equal := inv.rollout_unique present current.rollout same
        rw [if_pos (decide_eq_true same)] at tunnel state ⊢
        have closed : ¬ (delivery.rollout.state = .committing ∨
            delivery.rollout.state = .complete) := by
          intro open_
          rw [← equal] at open_
          refine before ⟨old, present, ?_, tunnel, open_⟩
          rw [if_pos (decide_eq_true same)]
          rfl
        refine ⟨delivery.publication, ?_, ?_, nextState_crossed closed state⟩
        · rw [effect.same.publications]
          exact current.publication
        · rw [← current.rolls, ← same]
          rfl
      · rw [if_neg (by simpa using same)] at tunnel state
        refine absurd ⟨old, present, ?_, tunnel, state⟩ before
        rw [if_neg (by simpa using same)]

/-- Members of a tunnel publication are told to commit only after a state of
    the run in which all of them had prepared or all of them were active, and a
    completed rollout is final. -/
theorem prepare_commit_barrier (sha256 : Bytes → Hash) (start : RouteStore)
    (empty : start.Unpublished) (calls : List RouteCall) :
    (∀ now policyIsolation lookup record publication,
      loadCurrentRuntimeConfiguration (run (routeStep sha256) start calls) now policyIsolation
        lookup = .ok (.current record) →
      publication ∈ (run (routeStep sha256) start calls).publications →
      publication.tenantId = record.tenantId → publication.segmentId = record.segmentId →
      publication.generation = record.segmentGeneration →
      publication.activationMode = .tunnel → record.activationPhase = .commit →
      ∃ before after, calls = before ++ after ∧
        publication ∈ (run (routeStep sha256) start before).publications ∧
        (∃ rollout ∈ (run (routeStep sha256) start before).rollouts, rollout.rolls publication ∧
          rollout.memberCount =
            ((run (routeStep sha256) start before).membersOf publication.id).length) ∧
        (allReported (run (routeStep sha256) start before) publication .prepared = true ∨
          allReported (run (routeStep sha256) start before) publication .active = true)) ∧
    ∀ rollout ∈ (run (routeStep sha256) start calls).rollouts, rollout.state = .complete →
      ∀ later, rollout ∈ (run (routeStep sha256) start (calls ++ later)).rollouts := by
  have inv := run_rolloutInvariant sha256 empty
  constructor
  · intro now policyIsolation lookup record publication loaded published tenant segment generation
      tunnel commit
    obtain ⟨row, delivery, current⟩ := load_current (inv calls) loaded
    have same : publication = delivery.publication := by
      apply (inv calls).chain.publication_unique published current.publication
      · rw [tenant, current.recordTenant, current.link.tenant]
      · rw [segment, current.recordSegment, current.link.segment]
      · rw [generation, current.recordGeneration, current.link.generation]
    subst same
    have mode : delivery.rollout.activationMode = .tunnel := by
      rw [((inv calls).rolls_of_key published current.rollout current.rolls).mode, tunnel]
    have crossed : Crossed delivery.rollout.key (run (routeStep sha256) start calls) := by
      refine ⟨delivery.rollout, current.rollout, rfl, mode, ?_⟩
      rw [current.phase, activationPhase, mode] at commit
      cases state : delivery.rollout.state with
      | committing => exact .inl rfl
      | complete => exact .inr rfl
      | preparing | blocked => simp [state] at commit
    have uncrossed : ¬ Crossed delivery.rollout.key start := by
      rintro ⟨rollout, member, -⟩
      rw [empty.rollouts] at member
      cases member
    obtain ⟨before, call, after, split, absent, present⟩ :=
      run_first_change uncrossed calls crossed
    have step := routeStep_rollouts sha256 (inv before) call
    obtain ⟨other, otherPublished, key, reported⟩ := step.crossing (inv before) absent present
    have here : run (routeStep sha256) start (before ++ [call]) =
      routeStep sha256 (run (routeStep sha256) start before) call := run_concat start before call
    rw [← here] at otherPublished reported
    have final : other ∈ (run (routeStep sha256) start calls).publications := by
      rw [split, ← List.singleton_append, ← List.append_assoc, run_append]
      exact run_publications sha256 (inv (before ++ [call])) after otherPublished
    have equal : other = delivery.publication := by
      rw [current.rolls, Prod.mk.injEq, Prod.mk.injEq] at key
      exact (inv calls).chain.publication_unique final published key.1.symm key.2.1.symm
        key.2.2.symm
    subst equal
    obtain ⟨rollout, member, facts⟩ := (inv (before ++ [call])).backed _ otherPublished
    refine ⟨before ++ [call], after, ?_, otherPublished, ⟨rollout, member, facts.rolls,
      facts.count⟩, reported⟩
    rw [split, List.append_assoc, List.singleton_append]
  · intro rollout member complete later
    rw [run_append]
    exact run_complete sha256 (inv calls) later member complete

def sampleLookup (site : Nat) : RuntimeConfigurationLookup :=
  ⟨1, BitVec.ofNat 128 (10 + site), BitVec.ofNat 128 (20 + site)⟩

def sampleReport (generation site : Nat) (applyState : ApplyState) : RouteCall :=
  .report false 0 (BitVec.ofNat 128 (0xd000 + 16 * generation + 4 * site +
      match applyState with | .prepared => 0 | .active => 1 | .rejected => 2))
    { lookup := sampleLookup site
      projectionPublicationId := (sampleProjection generation site).publicationId
      projectionContentHash := sampleHash generation
      envelopeSha256 := 1
      applyState := applyState
      errorCode := if applyState = .rejected then some "rejected" else none }

def sampleCommitRecord : RuntimeConfigurationRecord :=
  assembleRecord
    { projection := (sampleProjection 1 1).projectionRow 0x9001
      publication := (sampleWrite 1 false).publicationRow
      member := (sampleProjection 1 1).memberRow 0x9001 1
      rollout := (sampleWrite 1 false).rolloutRow }
    .commit [(sampleProjection 1 2).projectionRow 0x9001] []

def preparedRun : List RouteCall :=
  [.publish false (sampleWrite 1 false), sampleReport 1 1 .prepared, sampleReport 1 2 .prepared]

theorem prepare_commit_barrier_two_sites :
    loadCurrentRuntimeConfiguration (run (routeStep fun _ => 0) twoSiteStore preparedRun) 0 false
      (sampleLookup 1) = .ok (.current sampleCommitRecord) ∧
    ∃ before after, preparedRun = before ++ after ∧
      (allReported (run (routeStep fun _ => 0) twoSiteStore before)
        (sampleWrite 1 false).publicationRow .prepared = true ∨
      allReported (run (routeStep fun _ => 0) twoSiteStore before)
        (sampleWrite 1 false).publicationRow .active = true) := by
  have delivered : loadCurrentRuntimeConfiguration
      (run (routeStep fun _ => 0) twoSiteStore preparedRun) 0 false (sampleLookup 1)
        = .ok (.current sampleCommitRecord) := by
    decide +kernel
  obtain ⟨before, after, split, -, -, reported⟩ := (prepare_commit_barrier (fun _ => 0) twoSiteStore
    twoSiteStore_unpublished preparedRun).1 0 false (sampleLookup 1) sampleCommitRecord
    (sampleWrite 1 false).publicationRow delivered (by decide +kernel) rfl rfl rfl rfl rfl
  exact ⟨delivered, before, after, split, reported⟩

end CandyCloud
