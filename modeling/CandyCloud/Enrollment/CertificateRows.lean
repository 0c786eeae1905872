import CandyCloud.Enrollment.Discipline
import CandyCloud.Enrollment.Renewal

/-! # How certificates come and go

A certificate is inserted by a completion or by a renewal.
-/

namespace CandyCloud

open Foundation

/-- An update of certificates that changes none of the issued columns and makes
    none active. -/
structure OnlySupersedes (set : DeviceCertificateRow → DeviceCertificateRow) : Prop where
  form : ∀ row, (set row).issuedForm = row.issuedForm
  active : ∀ row, (set row).status = .active → row.status = .active

namespace OnlySupersedes

variable {set : DeviceCertificateRow → DeviceCertificateRow} (supersedes : OnlySupersedes set)

include supersedes

theorem id (row : DeviceCertificateRow) : (set row).id = row.id :=
  congrArg (·.id) (supersedes.form row)

theorem scope (row : DeviceCertificateRow) : (set row).scope = row.scope :=
  congrArg (·.scope) (supersedes.form row)

theorem deviceKeyId (row : DeviceCertificateRow) : (set row).deviceKeyId = row.deviceKeyId :=
  congrArg (·.deviceKeyId) (supersedes.form row)

theorem filter_key (key : Uuid) (rows : List DeviceCertificateRow) :
    (rows.map set).filter (·.deviceKeyId == key) =
      (rows.filter (·.deviceKeyId == key)).map set := by
  rw [List.filter_map]
  congr 1
  refine List.filter_congr fun row _ => ?_
  simp only [Function.comp_apply, supersedes.deviceKeyId]

theorem map_id (rows : List DeviceCertificateRow) : (rows.map set).map (·.id) = rows.map (·.id) := by
  rw [List.map_map]
  exact List.map_congr_left fun row _ => supersedes.id row

end OnlySupersedes

theorem onlySupersedes_updateWhere (selected : DeviceCertificateRow → Bool) (instant : Instant) :
    OnlySupersedes fun row => if selected row then
      { row with status := .superseded, revokedAt := some instant } else row := by
  constructor
  · intro row
    cases chosen : selected row with
    | true => rfl
    | false => rfl
  · intro row active
    cases chosen : selected row with
    | true =>
        rw [chosen] at active
        cases active
    | false =>
        rw [chosen] at active
        exact active

/-- The identity a completion replaces, by tenant and device. -/
abbrev ReplacedIdentity := Option (Uuid × Uuid)

/-- The device of the replaced identity is revoked. -/
def retire (gone : ReplacedIdentity) (state : Uuid × Uuid × DeviceStatus) : Uuid × Uuid × DeviceStatus :=
  if gone == some (state.2.1, state.1) && state.2.2 == .active then
    (state.1, state.2.1, .revoked) else state

def retires (gone : ReplacedIdentity) (row : DeviceCertificateRow) : Bool :=
  gone == some (row.tenantId, row.deviceId) && row.status == .active

structure IdentityIssued (store : EnrollmentStore) (write : EnrollmentCompletionWrite)
    (challenge : EnrollmentChallengeRow) (gone : ReplacedIdentity) (store' : EnrollmentStore) : Prop where
  freshDevice : write.deviceRecordId ∉ store.topology.deviceIds
  freshKey : ∀ owner ∈ store.topology.keyOwners, owner.1 ≠ write.keyRecordId
  freshCertificate : ∀ old ∈ store.certificates, old.id ≠ write.certificateId
  states : store'.topology.deviceStates = (store.topology.deviceStates ++
    [(write.deviceRecordId, challenge.tenantId, DeviceStatus.active)]).map (retire gone)
  keys : store'.topology.keyOwners =
    store.topology.keyOwners ++ [(write.keyRecordId, write.deviceRecordId)]
  certificates : store'.certificates = updateWhere (retires gone)
    (fun row => { row with status := .superseded, revokedAt := some write.issuedAt })
    (store.certificates ++ [write.certificate challenge.assuranceLevel])

variable {codec : EnrollmentCodec}

variable {tenantId deviceId : Uuid} {fresh : Uuid → Uuid} {clock : Instant}
  {code : ActivationCodeRow} {challenge : EnrollmentChallengeRow}

section Issuing

variable {store store' : EnrollmentStore}

theorem insertDevice_rows {id : Uuid} {displayName : String}
    (done : store.insertDevice id tenantId deviceId displayName = .ok store') :
    id ∉ store.topology.deviceIds ∧
      store' = EnrollmentStore.withTopology
        { store with identities := store.identities ++ [⟨id, deviceId⟩] }
        { store.topology with devices := store.topology.devices ++
            [{ id, tenantId, displayName, status := .active, lastSeenAt := none }] } := by
  simp only [EnrollmentStore.insertDevice, orElse_bind_ok, pure_ok, insertRow_some] at done
  obtain ⟨identities, ⟨-, rfl⟩, devices, ⟨free, rfl⟩, rfl⟩ := done
  refine ⟨?_, rfl⟩
  intro listed
  obtain ⟨old, member, same⟩ := List.mem_map.mp listed
  have apart := free old member
  simp [same] at apart

theorem insertDeviceKey_rows {id : Uuid} {keyId : String} {publicKey : Hash} {assuranceLevel : Nat}
    (done : store.insertDeviceKey codec id tenantId deviceId keyId publicKey assuranceLevel =
      .ok store') :
    (∀ owner ∈ store.topology.keyOwners, owner.1 ≠ id) ∧
      store' = EnrollmentStore.withTopology
        { store with keyMaterials := store.keyMaterials ++ [⟨id, keyId, publicKey, assuranceLevel⟩] }
        { store.topology with deviceKeys := store.topology.deviceKeys ++
            [{ id, tenantId, deviceId, status := .active }] } := by
  simp only [EnrollmentStore.insertDeviceKey, orElse_bind_ok, pure_ok, insertRow_some] at done
  obtain ⟨keyMaterials, ⟨-, rfl⟩, deviceKeys, ⟨free, rfl⟩, rfl⟩ := done
  refine ⟨?_, rfl⟩
  intro owner listed same
  obtain ⟨old, member, rfl⟩ := List.mem_map.mp listed
  have apart := free old member
  simp [← same] at apart

theorem replaceNodeInCloud_states {cloud cloud' : Cloud} {controlNodeId : Uuid} {row : ResourceRow}
    {old : NodeV1} {document : ControlResourceV1} {newDeviceId newDeviceKeyId : Uuid}
    (done : replaceNodeInCloud codec cloud tenantId controlNodeId row old document newDeviceId
      newDeviceKeyId fresh clock = .ok cloud') :
    cloud'.route.topology.deviceStates =
      cloud.route.topology.deviceStates.map (retire (some (tenantId, old.deviceId))) := by
  simp only [replaceNodeInCloud, bind_ok, pure_ok] at done
  obtain ⟨route, rebound, queue, -, rfl⟩ := done
  have kept : route.topology.devices = cloud.route.topology.devices := by
    refine updateEach_invariant (P := fun after : RouteStore =>
      after.topology.devices = cloud.route.topology.devices) ?_ rfl rebound
    intro before after serviceNodeId _ same step
    simp only [rebindServiceNode, unit_bind_ok, pure_ok] at step
    obtain ⟨-, rfl⟩ := step
    exact same
  simp only [Topology.deviceStates, Topology.revokeIdentity, kept, updateWhere, List.map_map]
  refine List.map_congr_left fun device _ => ?_
  have tested : (device.tenantId == tenantId && device.id == old.deviceId &&
      device.status == .active) = (some (tenantId, old.deviceId) ==
        some (device.tenantId, device.id) && device.status == .active) := by
    congr 1
    rw [Bool.eq_iff_iff, Bool.and_eq_true, beq_iff_eq, beq_iff_eq, beq_iff_eq,
      Option.some.injEq, Prod.mk.injEq]
    exact ⟨fun both => ⟨both.1.symm, both.2.symm⟩, fun both => ⟨both.1.symm, both.2.symm⟩⟩
  simp only [Function.comp_apply, tested, retire]
  split
  · rfl
  · rfl

variable {write : EnrollmentCompletionWrite}

theorem replaceNodeOf_states {audit : EnrollmentAuditContext}
    (done : replaceNodeOf codec store audit code write fresh clock = .ok store') :
    ∃ gone : ReplacedIdentity,
      store'.topology.deviceStates = store.topology.deviceStates.map (retire gone) ∧
      store'.certificates = updateWhere (retires gone)
        (fun row => { row with status := .superseded, revokedAt := some write.issuedAt })
        store.certificates := by
  unfold replaceNodeOf at done
  cases replaces : code.replaceNodeId with
  | none =>
      rw [replaces] at done
      cases done
      refine ⟨none, ?_, (updateWhere_none fun row _ => rfl).symm⟩
      exact (List.map_id _).symm
  | some controlNodeId =>
      rw [replaces] at done
      simp only [replaceControlNodeIdentity, bind_ok, reject_ok, pure_ok] at done
      obtain ⟨row, -, ⟨old, document⟩, -, -, -, cloud, replaced, rfl⟩ := done
      refine ⟨some (audit.tenantId, old.deviceId), replaceNodeInCloud_states replaced, ?_⟩
      refine List.map_congr_left fun certificate _ => ?_
      have tested : (certificate.tenantId == audit.tenantId &&
          certificate.deviceId == old.deviceId && certificate.status == .active) =
          retires (some (audit.tenantId, old.deviceId)) certificate := by
        unfold retires
        congr 1
        rw [Bool.eq_iff_iff, Bool.and_eq_true, beq_iff_eq, beq_iff_eq, beq_iff_eq,
          Option.some.injEq, Prod.mk.injEq]
        exact ⟨fun both => ⟨both.1.symm, both.2.symm⟩, fun both => ⟨both.1.symm, both.2.symm⟩⟩
      simp only [tested]

/-- The device, its key and its certificate are in the tables, and nothing is
    replaced yet. -/
structure DeviceAdded (store : EnrollmentStore) (write : EnrollmentCompletionWrite)
    (challenge : EnrollmentChallengeRow) (added : EnrollmentStore) : Prop where
  freshDevice : write.deviceRecordId ∉ store.topology.deviceIds
  freshKey : ∀ owner ∈ store.topology.keyOwners, owner.1 ≠ write.keyRecordId
  freshCertificate : ∀ old ∈ store.certificates, old.id ≠ write.certificateId
  control : added.cloud.control = store.cloud.control
  queue : added.cloud.queue = store.cloud.queue
  topology : added.topology =
    { store.topology with
      devices := store.topology.devices ++
        [{ id := write.deviceRecordId, tenantId := challenge.tenantId
           displayName := challenge.displayName, status := .active, lastSeenAt := none }]
      deviceKeys := store.topology.deviceKeys ++
        [{ id := write.keyRecordId, tenantId := challenge.tenantId
           deviceId := write.deviceRecordId, status := .active }] }
  certificates : added.certificates =
    store.certificates ++ [write.certificate challenge.assuranceLevel]

theorem issueDevice_added
    (done : store.issueDevice codec write challenge code fresh clock = .ok store') :
    ∃ added replaced, DeviceAdded store write challenge added ∧
      replaceNodeOf codec added
        ⟨challenge.organizationId, challenge.tenantId, challenge.enrollmentInstanceId⟩ code write
        fresh clock = .ok replaced ∧
      store'.cloud = replaced.cloud ∧ store'.certificates = replaced.certificates := by
  simp only [EnrollmentStore.issueDevice, bind_ok, reject_ok, pure_ok] at done
  obtain ⟨-, -, enrolled, device, keyed, key, certified, certificate, replaced, node, -, -, -, -,
    -, -, rfl⟩ := done
  obtain ⟨freshDevice, rfl⟩ := insertDevice_rows device
  obtain ⟨freshKey, rfl⟩ := insertDeviceKey_rows key
  obtain ⟨freshCertificate, rfl⟩ := insertCertificate_ok certificate
  refine ⟨_, replaced, ?_, node, rfl, rfl⟩
  exact ⟨freshDevice, freshKey, freshCertificate, rfl, rfl, rfl, rfl⟩

theorem issueDevice_rows
    (done : store.issueDevice codec write challenge code fresh clock = .ok store') :
    ∃ gone, IdentityIssued store write challenge gone store' := by
  obtain ⟨added, replaced, device, node, cloud, certified⟩ := issueDevice_added done
  obtain ⟨gone, states, certificates⟩ := replaceNodeOf_states node
  obtain ⟨_, _, _, rfl, same, -⟩ := replaceNodeOf_ok node
  have topology : store'.topology = _ := congrArg (·.route.topology) cloud
  refine ⟨gone, device.freshDevice, device.freshKey, device.freshCertificate, ?_, ?_, ?_⟩
  · rw [topology]
    refine states.trans ?_
    rw [device.topology]
    simp only [Topology.deviceStates, List.map_append, List.map_cons, List.map_nil]
  · rw [topology]
    refine same.keys.trans ?_
    rw [device.topology]
    simp only [Topology.keyOwners, List.map_append, List.map_cons, List.map_nil]
  · rw [certified, ← device.certificates]
    exact certificates

end Issuing

def CertificateRenewalWrite.supersede (write : CertificateRenewalWrite)
    (row : DeviceCertificateRow) : DeviceCertificateRow :=
  if CertificateStore.supersedes write row then
    { row with status := .superseded, revokedAt := some write.renewedAt } else row

structure Renewed (codec : EnrollmentCodec) (store : CertificateStore)
    (write : CertificateRenewalWrite) (id : Uuid) (store' : CertificateStore) : Prop where
  valid : write.validate = .ok ()
  current : ∃ row, store.current write = some row
  freshCertificate : ∀ old ∈ store.enrollment.certificates, old.id ≠ write.certificateId
  freshRenewal : ∀ old ∈ store.renewals, (write.renewal id).conflict codec old = false
  certificates : store'.enrollment =
    { store.enrollment with
      certificates := store.enrollment.certificates.map write.supersede ++ [write.certificate] }
  renewals : store'.renewals = store.renewals ++ [write.renewal id]

section Renewing

variable {store store' : CertificateStore} {write : CertificateRenewalWrite} {id : Uuid}

theorem supersede_supersedes (write : CertificateRenewalWrite) : OnlySupersedes write.supersede :=
  onlySupersedes_updateWhere (CertificateStore.supersedes write) write.renewedAt

theorem renew_cases {outcome : CertificateRenewalOutcome}
    (done : store.renew codec write id = .ok (outcome, store')) :
    (outcome ≠ .renewed ∧ store' = store) ∨
      (outcome = .renewed ∧ Renewed codec store write id store') := by
  have quiet : ∀ {found : CertificateRenewalRow × DeviceCertificateRow}
      {answer : CertificateRenewalOutcome}, CertificateStore.replay write found = .ok answer →
      answer ≠ .renewed := by
    intro found answer replayed
    unfold CertificateStore.replay at replayed
    split at replayed
    · cases replayed
      exact CertificateRenewalOutcome.noConfusion
    · obtain ⟨record, -, returned⟩ := bind_ok.mp replayed
      cases returned
      exact CertificateRenewalOutcome.noConfusion
  simp only [CertificateStore.renew, unit_bind_ok] at done
  obtain ⟨valid, later⟩ := done
  split at later
  · obtain ⟨answer, replayed, returned⟩ := bind_ok.mp later
    cases returned
    exact .inl ⟨quiet replayed, rfl⟩
  · split at later
    · split at later
      · obtain ⟨answer, replayed, returned⟩ := bind_ok.mp later
        cases returned
        exact .inl ⟨quiet replayed, rfl⟩
      · cases later
        exact .inl ⟨CertificateRenewalOutcome.noConfusion, rfl⟩
    · rename_i row current
      split at later
      · cases later
        exact .inl ⟨CertificateRenewalOutcome.noConfusion, rfl⟩
      · obtain ⟨after, replaced, returned⟩ := bind_ok.mp later
        cases returned
        simp only [CertificateStore.replaceCertificate, orElse_bind_ok, pure_ok,
          insertRow_some] at replaced
        obtain ⟨certificates, ⟨free, rfl⟩, renewals, ⟨freshRenewal, rfl⟩, rfl⟩ := replaced
        refine .inr ⟨rfl, valid, ⟨row, current⟩, ?_, freshRenewal, rfl, rfl⟩
        intro old member same
        have apart := free (write.supersede old) (mem_updateWhere.mpr ⟨old, member, rfl⟩)
        rw [DeviceCertificateRow.conflict, Bool.or_eq_false_iff, beq_eq_false_iff_ne] at apart
        exact apart.1 (((supersede_supersedes write).id old).trans same).symm

end Renewing

end CandyCloud
