import CandyCloud.Client.Replays

/-! # Node leases of a polled projection

A document that is signed for a poll names nodes with a lease left.
-/

namespace CandyCloud

open Foundation

/-- The leases of the nodes in a stored grant end after the given second. -/
def ClientPlane.leasesLast (codec : EnvelopeCodec) (plane : ClientPlane) (grantId : Uuid)
    (second : Nat) : Prop :=
  ∀ grant ∈ plane.clients.grants, grant.id = grantId →
    ∀ nodes, grantNodes codec grant.record = .ok nodes →
      ∀ node ∈ nodes, second < node.assignmentLeaseUntil

/-- A current projection with the same inputs that is not due was signed under a
    grant whose leases are not over. -/
def ClientProjectionService.LeasesLast (service : ClientProjectionService) (plane : ClientPlane)
    (request : ProjectionRequest) : Prop :=
  ∀ inputs record,
    service.gatherInputs plane request.device (seconds request.now) = .ok inputs →
    service.reusable plane request (service.inputsHash request.device.trafficMode inputs) =
      .ok (some record) →
    plane.leasesLast service.codec.toEnvelopeCodec record.grantId (seconds request.now)

/-- The leases in a document end after the given second. -/
def PolicyProjectionV1.leasesLast (projection : PolicyProjectionV1) (second : Nat) : Prop :=
  ∀ node ∈ projection.nodes, second < node.assignmentLeaseUntil

variable {record : ClientProjectionRecord} {document : SignedPolicyProjection}

section Leases

variable {services : ClientServices} {plane : ClientPlane} {request : ProjectionRequest}

theorem seconds_timestamp {secs : Nat} {time : ClientTime} (stamped : timestamp secs = some time) :
    seconds time = secs := by
  rw [timestamp] at stamped
  split at stamped
  · rw [← Option.some.inj stamped, seconds]
    exact Nat.mul_div_cancel secs (by decide)
  · cases stamped

theorem Documents.leasesLast_iff {codec : ProjectionCodec} {grant : ClientGrantRow} {second : Nat}
    (documents : Documents codec grant.record record document)
    (unique : (plane.clients.grants.map (·.id)).Nodup) (member : grant ∈ plane.clients.grants)
    (later : second < seconds record.staleUntil) :
    document.projection.leasesLast second ↔
      plane.leasesLast codec.toEnvelopeCodec grant.id second := by
  obtain ⟨nodes, read, cut⟩ := documents.nodes
  rw [seconds_timestamp documents.stale] at later
  rw [PolicyProjectionV1.leasesLast, cut]
  constructor
  · intro last other present same others readOther node named
    obtain rfl := eq_of_key unique present member same
    rw [read] at readOther
    obtain rfl := Except.ok.inj readOther
    have cutLease := last _ (List.mem_map_of_mem named)
    exact lt_of_lt_of_le cutLease (Nat.min_le_left _ _)
  · intro last node named
    obtain ⟨uncut, present, rfl⟩ := List.mem_map.mp named
    exact lt_min (last grant member rfl nodes read uncut present) later

theorem reused_leases {inputs : ProjectionInputs} (sound : plane.clients.Sound services.codec)
    (gathered : services.projections.gatherInputs plane request.device (seconds request.now) =
      .ok inputs) (reused : services.projections.reusable plane request
      (services.projections.inputsHash request.device.trafficMode inputs) = .ok (some record)) :
    ∃ document, services.codec.projectionEnvelopeBytes document = some record.projectionEnvelope ∧
      document.projection.projectionId = record.projectionId ∧
      (document.projection.leasesLast (seconds request.now) ↔
        services.projections.LeasesLast plane request) := by
  obtain ⟨row, facts, rfl⟩ := services.projections.reusable_ok reused
  obtain ⟨_, granted, named, document, documents⟩ :=
    sound.described (row.record "") (List.mem_map_of_mem facts.stored)
  obtain ⟨grant, member, rfl⟩ := List.mem_map.mp granted
  have later : seconds request.now < seconds row.staleUntil := by
    have margin := facts.margin
    simp only [clientProjectionRefreshMarginSecs] at margin
    omega
  refine ⟨document, documents.envelope, documents.named, ?_⟩
  rw [documents.leasesLast_iff sound.grantsUnique member later]
  change grant.id = row.grantId at named
  rw [named]
  constructor
  · intro last others found again found'
    rw [gathered] at again
    obtain rfl := Except.ok.inj again
    rw [reused] at found'
    rw [← Option.some.inj (Except.ok.inj found')]
    exact last
  · intro last
    exact last inputs _ gathered reused

theorem published_leases {write : ClientProjectionWrite}
    (due : services.projections.Due plane request)
    (inserted : ProjectionInserted services.projections plane request document write) :
    document.projection.leasesLast (seconds request.now) ∧
      services.projections.LeasesLast plane request := by
  obtain ⟨⟨inputs, gathered, signed⟩, -⟩ := inserted
  obtain ⟨projection, assembled, done⟩ := signed.assembled
  have facts := ProjectionInputs.assemble_ok assembled
  obtain ⟨-, canonical, -, rfl⟩ := sign_ok.mp done
  refine ⟨facts.live, ?_⟩
  intro others record again reused
  rw [due others again] at reused
  cases reused

end Leases

/-- A poll in any reachable plane whose request has no stored projection. -/
theorem polled_leases_last_iff (services : ClientServices) (accounts : Accounts)
    (topology : Topology) (calls : List PlaneCall) (request : ProjectionRequest)
    (issued : IssuedProjection)
    (unanswered : (services.reached accounts topology calls).clients.projectionRequest
      request.device.scope.tenantId request.device.recordId request.requestId = none)
    (returned : (services.projections.projectionForDevice
      (services.reached accounts topology calls) request).1 = .ok issued) :
    ∃ document,
      services.codec.projectionEnvelopeBytes document = some issued.record.projectionEnvelope ∧
      document.projection.projectionId = issued.record.projectionId ∧
      (document.projection.leasesLast (seconds request.now) ↔
        services.projections.LeasesLast (services.reached accounts topology calls) request) := by
  have sound := run_sound services accounts topology calls
  change (services.reached accounts topology calls).clients.Sound services.codec at sound
  generalize services.reached accounts topology calls = plane at *
  rcases services.projections.projectionForDevice_cases plane request with
    ⟨row, found, -⟩ | outcome
  · rw [unanswered] at found
    cases found
  · generalize services.projections.projectionForDevice plane request = served
      at outcome returned
    cases outcome with
    | failed error => cases returned
    | unchanged _ attempted =>
        cases returned
        obtain ⟨inputs, gathered, ⟨record, reused, -, same⟩ | ⟨document, write, -, other, -⟩⟩ :=
          services.projections.attempt_cases attempted
        · cases same
          exact reused_leases sound gathered reused
        · cases other
    | published due inserted =>
        rename_i document write
        obtain ⟨record, read, rfl⟩ := map_ok.mp returned
        obtain rfl := stored_published inserted read
        obtain ⟨last, holds⟩ := published_leases due inserted
        obtain ⟨⟨inputs, gathered, signed⟩, -⟩ := inserted
        obtain ⟨snapshot, facts⟩ := ClientProjectionService.gatherInputs_ok gathered
        have documents := signed.documents facts.nodes
        exact ⟨document, documents.envelope, documents.named, fun _ => holds, fun _ => last⟩

def terminalDocument : Option SignedPolicyProjection :=
  match terminalServices.projections.attempt (terminalAfter (terminalCalls.take 5))
      (terminalPoll .policy 52 60) true 92 with
  | .ok (.signed document _) => some document
  | _ => none

/-- The first poll, and one after the lease of the grant, more than an hour on. The
    current projection is answered again, and the lease of its node is over. -/
theorem terminal_polls :
    (terminalAfter (terminalCalls.take 5)).clients.projectionRequest 2 7 52 = none ∧
    (terminalServices.projections.projectionForDevice (terminalAfter (terminalCalls.take 5))
      (terminalPoll .policy 52 60)).1.toOption.any (fun issued => !issued.replayed) = true ∧
    (terminalAfter terminalCalls).clients.projectionRequest 2 7 53 = none ∧
    (terminalServices.projections.projectionForDevice (terminalAfter terminalCalls)
      (terminalPoll .policy 53 4000)).1.toOption.any (fun issued =>
        terminalDocument.any fun document =>
          decide (terminalServices.codec.projectionEnvelopeBytes document =
            some issued.record.projectionEnvelope) &&
          decide (document.projection.projectionId = issued.record.projectionId) &&
          decide (document.projection.selectedNode.assignmentLeaseUntil ≤
            seconds (terminalTime 4000))) = true := by
  decide +kernel

theorem first_poll_leases :
    ∃ issued, (terminalServices.projections.projectionForDevice
        (terminalAfter (terminalCalls.take 5)) (terminalPoll .policy 52 60)).1 = .ok issued ∧
      ∃ document,
        terminalServices.codec.projectionEnvelopeBytes document =
          some issued.record.projectionEnvelope ∧
        document.projection.projectionId = issued.record.projectionId ∧
        (document.projection.leasesLast (seconds (terminalTime 60)) ↔
          terminalServices.projections.LeasesLast (terminalAfter (terminalCalls.take 5))
            (terminalPoll .policy 52 60)) := by
  obtain ⟨unanswered, polled, -⟩ := terminal_polls
  obtain ⟨issued, returned, -⟩ := ok_of_any polled
  exact ⟨issued, returned, polled_leases_last_iff terminalServices terminalAccounts
    terminalTopology (terminalCalls.take 5) (terminalPoll .policy 52 60) issued unanswered
    returned⟩

/-- A poll answered with a projection whose leases have run out. -/
theorem poll_after_the_lease :
    (terminalAfter terminalCalls).clients.projectionRequest 2 7 53 = none ∧
    ∃ issued, (terminalServices.projections.projectionForDevice (terminalAfter terminalCalls)
        (terminalPoll .policy 53 4000)).1 = .ok issued ∧
      ∃ document,
        terminalServices.codec.projectionEnvelopeBytes document =
          some issued.record.projectionEnvelope ∧
        document.projection.projectionId = issued.record.projectionId ∧
        ¬ document.projection.leasesLast (seconds (terminalTime 4000)) := by
  obtain ⟨-, -, unanswered, polled⟩ := terminal_polls
  refine ⟨unanswered, ?_⟩
  obtain ⟨issued, returned, found⟩ := ok_of_any polled
  obtain ⟨document, -, facts⟩ := (Option.any_eq_true _ _).mp found
  simp only [Bool.and_eq_true, decide_eq_true_eq] at facts
  obtain ⟨⟨envelope, named⟩, ended⟩ := facts
  refine ⟨issued, returned, document, envelope, named, ?_⟩
  intro last
  exact absurd (last document.projection.selectedNode List.mem_cons_self) ended.not_gt

end CandyCloud
