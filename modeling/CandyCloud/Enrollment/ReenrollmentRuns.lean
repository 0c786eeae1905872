import CandyCloud.Enrollment.Reenrollment
import CandyCloud.Enrollment.Runs

/-! # Re-enrollment over whole runs

Mutations and completions take turns with every transaction that leaves the
control documents and the devices in place; renewals and the other enrollment
calls are of that kind.
-/

namespace CandyCloud

open Foundation

variable {codec : EnrollmentCodec}

/-- What other transactions leave alone: the documents with their references, and
    the devices, which own every certificate. -/
structure EnrollmentStore.LeavesControl (before after : EnrollmentStore) : Prop where
  resources : after.cloud.control.resources = before.cloud.control.resources
  references : after.cloud.control.references = before.cloud.control.references
  kept : before.topology.deviceTenants ⊆ after.topology.deviceTenants
  devices : IdentityRows after

instance (before after : EnrollmentStore) : Decidable (before.LeavesControl after) :=
  decidable_of_iff (after.cloud.control.resources = before.cloud.control.resources ∧
      after.cloud.control.references = before.cloud.control.references ∧
      (before.topology.deviceTenants.all fun device =>
        after.topology.deviceTenants.contains device) = true ∧
      IdentityRows after)
    ⟨fun leaves => ⟨leaves.1, leaves.2.1,
        fun _ member => List.contains_iff_mem.mp (List.all_eq_true.mp leaves.2.2.1 _ member),
        leaves.2.2.2⟩,
      fun leaves => ⟨leaves.1, leaves.2, List.all_eq_true.mpr fun _ member =>
        List.contains_iff_mem.mpr (leaves.3 member), leaves.4⟩⟩

/-- The calls between which a node is enrolled again. -/
inductive ReenrollmentCall where
  | mutate (mutation : ResourceMutation) (now : Instant) (fresh : Uuid → Uuid) (clock : Instant)
  | complete (write : EnrollmentCompletionWrite) (fresh : Uuid → Uuid) (clock : Instant)
  | elsewhere (after : EnrollmentStore)

def reenrollmentStep (codec : EnrollmentCodec) (store : EnrollmentStore) :
    ReenrollmentCall → EnrollmentStore
  | .mutate mutation now fresh clock =>
      { store with cloud := controlStep store.cloud (.mutate mutation now fresh clock) }
  | .complete write fresh clock => enrollmentStep codec store (.complete write fresh clock)
  | .elsewhere after => if store.LeavesControl after then after else store

abbrev reenrollmentRun (codec : EnrollmentCodec) (start : EnrollmentStore)
    (calls : List ReenrollmentCall) : EnrollmentStore :=
  run (reenrollmentStep codec) start calls

theorem reenrollmentStep_invariant {store : EnrollmentStore} (inv : ReenrollmentInvariant store)
    (call : ReenrollmentCall) : ReenrollmentInvariant (reenrollmentStep codec store call) := by
  cases call with
  | mutate mutation now fresh clock =>
      simp only [reenrollmentStep]
      cases result : mutate store.cloud mutation now fresh clock with
      | error error =>
          rw [controlStep_error result]
          exact inv
      | ok pair =>
          obtain ⟨outcome, after⟩ := pair
          rw [controlStep_ok result]
          obtain ⟨control, topology⟩ := mutate_controlRows inv.control result
          obtain ⟨deviceIds, keyIds, certified⟩ := inv.devices
          simp only [EnrollmentStore.topology, ← topology] at deviceIds keyIds certified
          exact ⟨⟨deviceIds, keyIds, certified⟩, control⟩
  | complete write fresh clock =>
      refine commit_cases (P := ReenrollmentInvariant) inv ?_
      intro after done
      obtain ⟨⟨answer, reached⟩, answered, rfl⟩ := map_ok.mp done
      obtain ⟨⟨outcome, finished⟩, completed, same⟩ := map_ok.mp answered
      cases same
      exact completion_invariant inv completed
  | elsewhere after =>
      simp only [reenrollmentStep]
      split
      · rename_i leaves
        exact ⟨leaves.devices,
          inv.control.congr leaves.resources leaves.references leaves.kept⟩
      · exact inv

theorem run_reenrollment_invariant {start : EnrollmentStore} (inv : ReenrollmentInvariant start)
    (calls : List ReenrollmentCall) :
    ReenrollmentInvariant (reenrollmentRun codec start calls) :=
  run_invariant (P := ReenrollmentInvariant)
    (fun _ call reached => reenrollmentStep_invariant reached call) inv calls

/-- The reference table is that of the undeleted documents, and no two undeleted
    nodes have one device. -/
structure ControlConsistent (control : ControlStore) : Prop where
  integrity : ∀ tenantId, ReferentialIntegrity tenantId control
  exclusive : ∀ a ∈ control.resources, ∀ b ∈ control.resources, a.state ≠ .deleted →
    b.state ≠ .deleted → ∀ p q, a.document.resource = .node p → b.document.resource = .node q →
      p.deviceId = q.deviceId → a = b

theorem ReenrollmentInvariant.consistent {store : EnrollmentStore}
    (inv : ReenrollmentInvariant store) : ControlConsistent store.cloud.control := by
  constructor
  · exact fun tenantId => (inv.control.referring tenantId).integrity
  · intro a memberA b memberB liveA liveB p q nodeA nodeB shared
    have boundA := inv.control.bound a memberA liveA p nodeA
    have boundB := inv.control.bound b memberB liveB q nodeB
    rw [← shared] at boundB
    have tenant : a.tenantId = b.tenantId := inv.devices.tenant_eq boundA boundB
    exact (inv.control.addressing b.tenantId).devices a b ⟨memberA, tenant, liveA⟩
      ⟨memberB, rfl, liveB⟩ p q nodeA nodeB shared

/-- Completions after the run `calls` from `start`. -/
structure ReenrollmentLaw (codec : EnrollmentCodec) (start : EnrollmentStore)
    (calls : List ReenrollmentCall) : Prop where
  consistent : ControlConsistent (reenrollmentRun codec start calls).cloud.control
  reenrolled : ∀ write fresh clock record after challenge code nodeId,
    completeEnrollment codec (reenrollmentRun codec start calls) write fresh clock =
      .ok (.issued record, after) →
    (reenrollmentRun codec start calls).challengeWithCode write.challengeId =
      some (challenge, code) →
    code.replaceNodeId = some nodeId →
    ControlConsistent after.cloud.control ∧
      ∃ row old, Reenrolled codec (reenrollmentRun codec start calls) write nodeId row old after
  /-- Every error, and every outcome that issues nothing, changes nothing. -/
  quiet : ∀ write fresh clock,
    (∃ record after, completeEnrollment codec (reenrollmentRun codec start calls) write fresh clock =
      .ok (.issued record, after)) ∨
    reenrollmentRun codec start (calls ++ [.complete write fresh clock]) =
      reenrollmentRun codec start calls

/-- Over every run of mutations and completions that starts without documents,
    a completion keeps the control tables consistent and moves the node its code
    names to the new device. -/
theorem reenrollment_consistent (codec : EnrollmentCodec) (start : EnrollmentStore)
    (resources : start.cloud.control.resources = [])
    (references : start.cloud.control.references = []) (devices : IdentityRows start)
    (calls : List ReenrollmentCall) : ReenrollmentLaw codec start calls := by
  have initial : ReenrollmentInvariant start :=
    ⟨devices, initial_control_rows _ resources references⟩
  have reached : ReenrollmentInvariant (reenrollmentRun codec start calls) :=
    run_reenrollment_invariant initial calls
  refine ⟨reached.consistent, ?_, ?_⟩
  · intro write fresh clock record after challenge code nodeId done found replaces
    refine ⟨(completion_invariant reached done).consistent, ?_⟩
    rcases completeEnrollment_cases done with ⟨silent, -⟩ | ⟨challenge', code', -, valid, found', -,
      -, tenant, -, -, -, issues⟩
    · cases silent
    · rw [found] at found'
      cases found'
      exact (issueDevice_reenrolls reached valid tenant issues).2 nodeId replaces
  · intro write fresh clock
    have step : reenrollmentRun codec start (calls ++ [.complete write fresh clock]) =
        reenrollmentStep codec (reenrollmentRun codec start calls) (.complete write fresh clock) :=
      run_concat start calls _
    rw [step, reenrollmentStep, enrollmentStep, transact]
    cases result : completeEnrollment codec (reenrollmentRun codec start calls) write fresh clock with
    | error error => exact .inr rfl
    | ok done =>
        obtain ⟨outcome, after⟩ := done
        rcases completeEnrollment_cases result with ⟨-, rfl⟩ | ⟨-, -, rfl, -⟩
        · exact .inr rfl
        · exact .inl ⟨_, after, rfl⟩

/-- The sample tenant with a service node for the first device, a certificate,
    and a code that replaces node 51. -/
def reenrollmentStart : EnrollmentStore :=
  { enrollmentStart with
    cloud :=
      { sampleCloud with
        route :=
          { sampleCloud.route with
            topology :=
              { sampleCloud.route.topology with
                nodes := [⟨61, some 1, 5, "candy:device:11", some 11, some 21, .active⟩]
                nodeEndpoints :=
                  [⟨62, 61, "192.0.2.1:443", "tenant-managed", true, none, none, none, true⟩] } } }
    codes := [{ enrolledCode.row 1000000 with replaceNodeId := some 51, status := .reserved }]
    challenges := [enrolledChallenge.row (enrolledCode.row 1000000)]
    certificates :=
      [{ enrolledCompletion.certificate 1 with
          id := 63, deviceId := 11, deviceKeyId := 21, serialNumber := 1 }] }

def reenrollmentCalls : List ReenrollmentCall :=
  sampleGraph.filterMap fun call =>
    match call with
    | .mutate mutation now fresh clock => some (.mutate mutation now fresh clock)
    | .environment _ _ _ => none

/-- Node 51 moves to the device that the completion issues, and its segment gets
    a job. -/
theorem node_reenrolled : ∃ after row old,
    completeEnrollment enrollmentCodec
      (reenrollmentRun enrollmentCodec reenrollmentStart reenrollmentCalls) enrolledCompletion
      (sampleFresh 90) 3000000 = .ok (.issued enrolledCompletion.record, after) ∧
    Reenrolled enrollmentCodec
      (reenrollmentRun enrollmentCodec reenrollmentStart reenrollmentCalls) enrolledCompletion 51
      row old after ∧
    (reenrollmentRun enrollmentCodec reenrollmentStart reenrollmentCalls).cloud.control.InGraph 1 3
      .node 51 := by
  have issued : (completeEnrollment enrollmentCodec
      (reenrollmentRun enrollmentCodec reenrollmentStart reenrollmentCalls) enrolledCompletion
      (sampleFresh 90) 3000000).map (·.1) = .ok (.issued enrolledCompletion.record) := by
    decide +kernel
  have code : ((reenrollmentRun enrollmentCodec reenrollmentStart reenrollmentCalls).challengeWithCode
      enrolledCompletion.challengeId).map (·.2.replaceNodeId) = some (some 51) := by
    decide +kernel
  have loaded : ∃ row ∈ (reenrollmentRun enrollmentCodec reenrollmentStart
      reenrollmentCalls).cloud.control.graphRows 1 3, row.kind = .node ∧ row.id = 51 := by
    decide +kernel
  obtain ⟨⟨outcome, after⟩, done, same⟩ := map_ok.mp issued
  cases same
  obtain ⟨⟨challenge, row⟩, found, replaces⟩ := Option.map_eq_some_iff.mp code
  obtain ⟨-, node, old, reenrolled⟩ := (reenrollment_consistent enrollmentCodec reenrollmentStart rfl
    rfl (by decide) reenrollmentCalls).reenrolled enrolledCompletion (sampleFresh 90) 3000000 _ after
    challenge row 51 done found replaces
  exact ⟨after, node, old, done, reenrolled, loaded⟩

end CandyCloud
