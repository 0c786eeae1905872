import CandyCloud.Route.Barrier

/-! # Policy-only generations

A policy-only generation is published without a barrier of its own.
-/

namespace CandyCloud

open Foundation

/-- The latest tunnel publication below the generation has a completed rollout. -/
def TransportComplete (store : RouteStore) (tenantId segmentId : Uuid) (generation : Nat) : Prop :=
  ∃ tunnel ∈ store.publications, tunnel.tenantId = tenantId ∧ tunnel.segmentId = segmentId ∧
    tunnel.activationMode = .tunnel ∧ tunnel.generation < generation ∧
    (∀ other ∈ store.publications, other.tenantId = tenantId → other.segmentId = segmentId →
      other.activationMode = .tunnel → other.generation < generation →
      other.generation ≤ tunnel.generation) ∧
    ∃ rollout ∈ store.rollouts, rollout.rolls tunnel ∧ rollout.state = .complete

structure PolicyInvariant (store : RouteStore) : Prop where
  rollouts : RolloutInvariant store
  policies : ∀ publication ∈ store.publications, publication.activationMode = .policyOnly →
    1 < publication.generation ∧ TransportComplete store publication.tenantId
      publication.segmentId publication.generation

variable {store store' : RouteStore} {tenantId segmentId : Uuid} {generation : Nat}
  {call : RouteCall} {write : SegmentPublicationWrite}

theorem transportState_complete
    (complete : transportState store tenantId segmentId generation = some .complete) :
    TransportComplete store tenantId segmentId (generation + 1) := by
  simp only [transportState, Option.bind_eq_bind, Option.bind_eq_some_iff, Option.pure_def,
    Option.some.injEq] at complete
  obtain ⟨latest, maximum, rollout, found, state⟩ := complete
  have rolled := List.find?_some found
  rw [Bool.and_eq_true, RolloutRow.of_iff] at rolled
  obtain ⟨member, largest⟩ := List.max?_eq_some_iff.mp maximum
  simp only [List.mem_map, List.mem_filter, RouteStore.segmentPublications, Bool.and_eq_true,
    beq_iff_eq, decide_eq_true_eq] at member largest
  obtain ⟨tunnel, ⟨⟨published, tenant, segment⟩, mode, bound⟩, rfl⟩ := member
  refine ⟨tunnel, published, tenant, segment, mode, by omega, ?_, rollout,
    List.mem_of_find?_eq_some found, ?_, state⟩
  · intro other otherPublished otherTenant otherSegment otherMode below
    exact largest other.generation
      ⟨other, ⟨⟨otherPublished, otherTenant, otherSegment⟩, otherMode, by omega⟩, rfl⟩
  · rw [RolloutRow.rolls, rolled.1, tenant, segment]

/-- A completed transport below `generation` stays the latest one as long as
    nothing below that generation is published. -/
theorem TransportComplete.step (inv : RolloutInvariant store) (step : RolloutStep store store' call)
    (complete : TransportComplete store tenantId segmentId generation)
    (above : ∀ publication ∈ store'.publications, publication ∉ store.publications →
      publication.tenantId = tenantId → publication.segmentId = segmentId →
      generation ≤ publication.generation) :
    TransportComplete store' tenantId segmentId generation := by
  obtain ⟨tunnel, published, tenant, segment, mode, below, latest, rollout, member, rolls, state⟩ :=
    complete
  refine ⟨tunnel, step.publications published, tenant, segment, mode, below, ?_, rollout,
    step.complete inv member state, rolls, state⟩
  intro other otherPublished otherTenant otherSegment otherMode otherBelow
  by_cases old : other ∈ store.publications
  · exact latest other old otherTenant otherSegment otherMode otherBelow
  · have := above other otherPublished old otherTenant otherSegment
    omega

theorem RolloutStep.newPublication (step : RolloutStep store store' call)
    {publication : PublicationRow} (published : publication ∈ store'.publications)
    (fresh : publication ∉ store.publications) :
    ∃ policyIsolation write, call = .publish policyIsolation write ∧
      Committed policyIsolation write store store' ∧ publication = write.publicationRow := by
  cases step with
  | unchanged publications rollouts =>
      rw [publications] at published
      exact absurd published fresh
  | published committed =>
      rw [committed.publications] at published
      rcases mem_concat.mp published with old | new
      · exact absurd old fresh
      · exact ⟨_, _, rfl, committed, new⟩
  | reported current effect =>
      rw [effect.same.publications] at published
      exact absurd published fresh

theorem publicationRow_policyOnly (mode : write.publicationRow.activationMode = .policyOnly)
    : write.policyOnly = true := by
  cases policyOnly : write.policyOnly with
  | true => rfl
  | false => simp [SegmentPublicationWrite.publicationRow, activationMode, policyOnly] at mode

theorem Committed.gate {policyIsolation : Bool}
    (committed : Committed policyIsolation write store store')
    (policyOnly : write.policyOnly = true) :
    1 < write.generation ∧
      TransportComplete store write.tenantId write.segmentId write.generation ∧
      (policyIsolation = false → ∃ rollout ∈ store.rollouts,
        rollout.key = (write.tenantId, write.segmentId, write.generation - 1) ∧
          rollout.state = .complete) := by
  have next := committed.admitted.generation
  have gate := committed.policy policyOnly
  have positive := gate.positive
  refine ⟨by omega, ?_, ?_⟩
  · rw [next]
    exact transportState_complete gate.transport
  · intro off
    obtain ⟨rollout, found, state⟩ := Option.map_eq_some_iff.mp (gate.previous off)
    obtain ⟨member, key⟩ := RouteStore.rollout_some found
    refine ⟨rollout, member, ?_, state⟩
    rw [key, next, Nat.add_sub_cancel]

theorem routeStep_policyInvariant (sha256 : Bytes → Hash) (store : RouteStore) (call : RouteCall)
    (inv : PolicyInvariant store) : PolicyInvariant (routeStep sha256 store call) := by
  have step := routeStep_rollouts sha256 inv.rollouts call
  refine ⟨routeStep_rolloutInvariant sha256 store call inv.rollouts, ?_⟩
  have above : ∀ publication ∈ (routeStep sha256 store call).publications,
      publication ∉ store.publications → ∀ old ∈ store.publications,
      publication.tenantId = old.tenantId → publication.segmentId = old.segmentId →
      old.generation ≤ publication.generation := by
    intro publication published fresh old oldPublished tenant segment
    obtain ⟨policyIsolation, write, -, committed, rfl⟩ := step.newPublication published fresh
    exact le_of_lt (committed.above inv.rollouts.chain oldPublished tenant.symm segment.symm)
  intro publication published mode
  by_cases old : publication ∈ store.publications
  · obtain ⟨large, complete⟩ := inv.policies publication old mode
    refine ⟨large, complete.step inv.rollouts step ?_⟩
    intro other otherPublished otherFresh tenant segment
    exact above other otherPublished otherFresh publication old tenant segment
  · obtain ⟨policyIsolation, write, -, committed, rfl⟩ := step.newPublication published old
    obtain ⟨large, complete, -⟩ := committed.gate (publicationRow_policyOnly mode)
    refine ⟨large, complete.step inv.rollouts step ?_⟩
    intro other otherPublished otherFresh tenant segment
    obtain ⟨isolation', write', -, committed', rfl⟩ := step.newPublication otherPublished otherFresh
    have same := committed.publications.symm.trans committed'.publications
    have equal := List.append_cancel_left same
    exact le_of_eq (congrArg PublicationRow.generation (List.cons.inj equal).1)

theorem run_policyInvariant (sha256 : Bytes → Hash) {start : RouteStore}
    (empty : start.Unpublished) (calls : List RouteCall) :
    PolicyInvariant (run (routeStep sha256) start calls) := by
  refine run_invariant (routeStep_policyInvariant sha256) ⟨empty.rolloutInvariant, ?_⟩ calls
  intro publication published
  rw [empty.publications] at published
  cases published

/-- Every policy-only publication stands behind a completed tunnel rollout, now
    and when it was inserted; without policy isolation its direct predecessor
    was complete as well. -/
theorem policy_behind_transport (sha256 : Bytes → Hash) (start : RouteStore)
    (empty : start.Unpublished) (calls : List RouteCall) :
    ∀ publication ∈ (run (routeStep sha256) start calls).publications,
      publication.activationMode = .policyOnly →
      1 < publication.generation ∧
      TransportComplete (run (routeStep sha256) start calls) publication.tenantId
        publication.segmentId publication.generation ∧
      ∃ before policyIsolation write after,
        calls = before ++ .publish policyIsolation write :: after ∧
        publication ∉ (run (routeStep sha256) start before).publications ∧
        publication ∈ (run (routeStep sha256) start
          (before ++ [.publish policyIsolation write])).publications ∧
        TransportComplete (run (routeStep sha256) start before) publication.tenantId
          publication.segmentId publication.generation ∧
        (policyIsolation = false → ∃ rollout ∈ (run (routeStep sha256) start before).rollouts,
          rollout.key = (publication.tenantId, publication.segmentId,
            publication.generation - 1) ∧ rollout.state = .complete) := by
  intro publication published mode
  obtain ⟨large, complete⟩ := (run_policyInvariant sha256 empty calls).policies publication
    published mode
  refine ⟨large, complete, ?_⟩
  have unpublished : publication ∉ start.publications := by
    rw [empty.publications]
    exact List.not_mem_nil
  obtain ⟨before, call, after, split, absent, present⟩ :=
    run_first_change (P := fun store : RouteStore => publication ∈ store.publications)
      unpublished calls published
  have step := routeStep_rollouts sha256 (run_rolloutInvariant sha256 empty before) call
  obtain ⟨policyIsolation, write, rfl, committed, rfl⟩ := step.newPublication present absent
  obtain ⟨-, gate, previous⟩ := committed.gate (publicationRow_policyOnly mode)
  refine ⟨before, policyIsolation, write, after, split, absent, ?_, gate, previous⟩
  rw [run_concat]
  exact present

def policyRun : List RouteCall :=
  [.publish false (sampleWrite 1 false), sampleReport 1 1 .prepared, sampleReport 1 2 .prepared,
    sampleReport 1 1 .active, sampleReport 1 2 .active, .publish false (sampleWrite 2 true)]

theorem policy_behind_transport_two_sites :
    (sampleWrite 2 true).publicationRow ∈
      (run (routeStep fun _ => 0) twoSiteStore policyRun).publications ∧
    TransportComplete (run (routeStep fun _ => 0) twoSiteStore policyRun) 1 3 2 := by
  have published : (sampleWrite 2 true).publicationRow ∈
      (run (routeStep fun _ => 0) twoSiteStore policyRun).publications := by
    decide +kernel
  exact ⟨published, (policy_behind_transport (fun _ => 0) twoSiteStore twoSiteStore_unpublished
    policyRun _ published rfl).2.1⟩

end CandyCloud
