import CandyCloud.Client.Leases
import CandyCloud.Client.Signable

/-! # The times of a stored grant

The columns of a grant keep microseconds.
-/

namespace CandyCloud

open Foundation

theorem databaseTimestamp_mono {a b : ClientTime} (order : a ≤ b) :
    databaseTimestamp a ≤ databaseTimestamp b :=
  Nat.mul_le_mul_right 1000 (Nat.div_le_div_right order)

theorem seconds_databaseTimestamp (time : ClientTime) :
    seconds (databaseTimestamp time) = seconds time := by
  simp only [seconds, databaseTimestamp, nanosPerSecond]
  omega

section Writes

variable {sha256 : Bytes → Hash} {store store' : ClientStore} {write : ClientGrantWrite}
  {outcome : ClientGrantWriteOutcome}

theorem writeGrant_opened (done : writeGrant sha256 store write = (.ok outcome, store')) :
    ∃ stage, openGrant write = .ok stage := by
  cases opened : openGrant write with
  | ok stage => exact ⟨stage, rfl⟩
  | error error =>
      simp [writeGrant, Transactions.serial, clientTransactions, clientOpening, opened,
        Except.mapError, ClientAnswer.grantResult] at done

theorem openGrant_ordered {stage : ClientStage} (opened : openGrant write = .ok stage) :
    databaseTimestamp write.issuedAt < databaseTimestamp write.assignmentLeaseUntil ∧
      databaseTimestamp write.assignmentLeaseUntil ≤ databaseTimestamp write.expiresAt := by
  simp only [openGrant, unit_bind_ok, ClientGrantWrite.validate, reject_ok, Bool.or_eq_false_iff,
    decide_eq_false_iff_not, not_le, not_lt] at opened
  obtain ⟨⟨-, within⟩, ⟨-, leased⟩, -⟩ := opened
  exact ⟨leased, databaseTimestamp_mono within⟩

theorem writeGrant_stored {id : Uuid} {generation : Nat}
    (done : writeGrant sha256 store write = (.ok (.issued id generation false), store')) :
    store'.grantByRequest write.audience.scope.tenantId write.audience.clientDeviceId
      write.requestId = .ok (some (write.row sha256).record) := by
  rcases writeGrant_cases sha256 store write with
    ⟨error, refused⟩ | ⟨stored, -, replayed⟩ | ⟨insertable, inserted⟩
  · rw [refused] at done
    cases done
  · rw [replayed] at done
    cases done
  · rw [inserted] at done
    cases done
    obtain ⟨valid, named⟩ := openGrant_record sha256 insertable.opened
    rw [ClientStore.grantByRequest, named, find_insertGrant sha256 insertable.unanswered, readGrant,
      valid]
    rfl

end Writes

section Leased

variable {services : ClientServices} {plane : ClientPlane}

/-- The stored lease is a second, and the nodes of the signed envelope carry it. -/
def ClientServices.Leased (services : ClientServices) (record : ClientGrantRecord) : Prop :=
  ∃ lease envelope, record.assignmentLeaseUntil = some lease ∧
    services.codec.grantEnvelopeBytes envelope = some record.grantEnvelope ∧
    envelope.payload.nodes ≠ [] ∧
    ∀ node ∈ envelope.payload.nodes, node.assignmentLeaseUntil = seconds lease

theorem GrantInserted.leased {request : GrantRequest} {write : ClientGrantWrite}
    (inserted : GrantInserted services.issuance plane request write) :
    services.Leased (write.row services.codec.sha256).record := by
  obtain ⟨⟨inputs, grantId, gathered, attempted⟩, -⟩ := inserted
  obtain ⟨-, -, stamped, generation, envelope, signed, written⟩ :=
    ClientIssuance.attempt_ok attempted
  obtain ⟨-, canonical, -, rfl⟩ := issue_ok.mp signed
  have some := (ClientIssuance.gatherInputs_ok gathered).nodes.some
  refine ⟨databaseTimestamp write.assignmentLeaseUntil, _, rfl, written, ?_, ?_⟩
  · simpa [GrantInputs.payload, GrantInputs.assignments] using some
  · intro node member
    obtain ⟨entry, -, rfl⟩ := List.mem_map.mp member
    rw [seconds_databaseTimestamp, seconds_timestamp stamped]

theorem run_leased (services : ClientServices) (accounts : Accounts) (topology : Topology)
    (calls : List PlaneCall) :
    ∀ record ∈ (services.reached accounts topology calls).clients.grants.map (·.record),
      services.Leased record :=
  run_grants (fun _ _ _ inserted => inserted.leased) accounts topology calls

theorem previousAssignment_leased {device : ClientDeviceRecord} {now : Nat} {time : ClientTime}
    {record : ClientGrantRecord} {lease : ClientTime} {envelope : ClientGrantEnvelopeV1}
    (stamped : timestamp now = some time)
    (active : plane.clients.activeGrant device.scope.tenantId device.recordId device.deviceKeyId
      time = .ok (some record)) (recorded : record.assignmentLeaseUntil = some lease)
    (live : assignmentLeaseReusable now (seconds lease) = true)
    (read : fromGrantEnvelopeBytes services.codec.toEnvelopeCodec record.grantEnvelope =
      .ok envelope) (filled : envelope.payload.nodes ≠ [])
    (signed : ∀ node ∈ envelope.payload.nodes, node.assignmentLeaseUntil = seconds lease) :
    services.issuance.previousAssignment plane device now =
      .ok (some ⟨seconds lease, envelope.payload.nodes.map fun node =>
        ⟨node.nodeId, node.nodeKeyId⟩⟩) := by
  have decoded : fromGrantEnvelopeBytes services.issuance.codec.toEnvelopeCodec
      record.grantEnvelope = .ok envelope := read
  simp only [ClientIssuance.previousAssignment, stamped]
  cases nodes : envelope.payload.nodes with
  | nil => exact absurd nodes filled
  | cons first rest =>
      rw [nodes] at signed
      have same : ∀ node ∈ rest, node.assignmentLeaseUntil = seconds lease :=
        fun node member => signed node (List.mem_cons_of_mem first member)
      simpa [orElse, Except.mapError, bind, Except.bind, pure, Except.pure, active, recorded, live,
        decoded, nodes, signed first List.mem_cons_self] using same

end Leased

/-- Whatever write is accepted, the row that is read back is in order and passes its
    check; and in every reachable plane the lease recorded with a grant is the one its
    nodes were signed with, so that a live one is taken up. -/
theorem grant_times_survive (services : ClientServices) (accounts : Accounts) (topology : Topology)
    (calls : List PlaneCall)
    (readsBack : ∀ envelope bytes, services.codec.grantEnvelopeBytes envelope = some bytes →
      services.codec.readGrantEnvelope bytes = some envelope) :
    (∀ store write outcome store',
      writeGrant services.codec.sha256 store write = (.ok outcome, store') →
        databaseTimestamp write.issuedAt < databaseTimestamp write.assignmentLeaseUntil ∧
        databaseTimestamp write.assignmentLeaseUntil ≤ databaseTimestamp write.expiresAt ∧
        (write.row services.codec.sha256).record.validate = .ok () ∧
        ∀ id generation, outcome = .issued id generation false →
          store'.grantByRequest write.audience.scope.tenantId write.audience.clientDeviceId
            write.requestId = .ok (some (write.row services.codec.sha256).record)) ∧
    (∀ request issued plane', services.issuance.grantForDevice
        (services.reached accounts topology calls) request = (.ok issued, plane') →
      services.Leased issued.record) ∧
    ∀ device now time record, timestamp now = some time →
      (services.reached accounts topology calls).clients.activeGrant device.scope.tenantId
        device.recordId device.deviceKeyId time = .ok (some record) →
      ∃ lease, record.assignmentLeaseUntil = some lease ∧
        (assignmentLeaseReusable now (seconds lease) = true → ∀ envelope,
          fromGrantEnvelopeBytes services.codec.toEnvelopeCodec record.grantEnvelope =
            .ok envelope →
          services.issuance.previousAssignment (services.reached accounts topology calls) device
            now = .ok (some ⟨seconds lease, envelope.payload.nodes.map fun node =>
              ⟨node.nodeId, node.nodeKeyId⟩⟩)) := by
  refine ⟨?_, ?_, ?_⟩
  · intro store write outcome store' done
    obtain ⟨stage, opened⟩ := writeGrant_opened done
    obtain ⟨later, within⟩ := openGrant_ordered opened
    refine ⟨later, within, (openGrant_record services.codec.sha256 opened).1, ?_⟩
    intro id generation same
    subst same
    exact writeGrant_stored done
  · intro request issued plane' done
    rcases services.issuance.grantForDevice_cases (services.reached accounts topology calls) request
      with ⟨error, failed⟩ | ⟨row, found, -, replayed⟩ | ⟨write, inserted, new⟩
    · rw [failed] at done
      cases done
    · rw [replayed] at done
      cases done
      exact run_leased services accounts topology calls row.record
        (List.mem_map_of_mem (List.mem_of_find?_eq_some found))
    · rw [new] at done
      cases done
      exact inserted.leased
  · intro device now time record stamped active
    obtain ⟨row, member, rfl⟩ := activeGrant_ok active
    obtain ⟨lease, envelope, recorded, written, filled, signed⟩ :=
      run_leased services accounts topology calls row.record (List.mem_map_of_mem member)
    refine ⟨lease, recorded, fun live other read => ?_⟩
    have same : other = envelope := by
      rw [fromGrantEnvelopeBytes, unit_bind_ok, readsBack envelope _ written] at read
      exact (Except.ok.inj read.2).symm
    subst same
    exact previousAssignment_leased stamped active recorded live read filled signed

theorem terminal_grant_active :
    timestamp 1700000060 = some (terminalTime 60) ∧
    ((readableServices.reached terminalAccounts terminalTopology (terminalCalls.take 5)).clients
      |>.activeGrant 2 7 5 (terminalTime 60)).toOption.any (fun found =>
        found.any fun record => record.assignmentLeaseUntil.any fun lease =>
          assignmentLeaseReusable 1700000060 (seconds lease) &&
          (fromGrantEnvelopeBytes readableServices.codec.toEnvelopeCodec
            record.grantEnvelope).isOk) = true := by
  decide +kernel

theorem terminal_lease_reused :
    ∃ previous, readableServices.issuance.previousAssignment
      (readableServices.reached terminalAccounts terminalTopology (terminalCalls.take 5))
      (terminalDevice .policy) 1700000060 = .ok (some previous) := by
  obtain ⟨stamped, found⟩ := terminal_grant_active
  obtain ⟨held, active, holds⟩ := ok_of_any found
  obtain ⟨record, rfl, granted⟩ := (Option.any_eq_true _ _).mp holds
  obtain ⟨lease, recorded, facts⟩ := (Option.any_eq_true _ _).mp granted
  rw [Bool.and_eq_true] at facts
  obtain ⟨envelope, read⟩ := isOk_iff.mp facts.2
  obtain ⟨-, -, compared⟩ := grant_times_survive readableServices terminalAccounts terminalTopology
    (terminalCalls.take 5) readableServices_readsBack
  obtain ⟨until_, same, reused⟩ := compared (terminalDevice .policy) 1700000060 (terminalTime 60)
    record stamped active
  obtain rfl := Option.some.inj (recorded.symm.trans same)
  exact ⟨_, reused facts.1 envelope read⟩

end CandyCloud
