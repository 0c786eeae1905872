import CandyCloud.Enrollment.Completion
import CandyCloud.Foundation.Machine

/-! # Enrollment as a machine

The repository calls run one after the other, each as one transaction; whatever else happens to
the database in between neither adds nor removes a device.
-/

namespace CandyCloud

open Foundation

/-- The transactions of enrollment. -/
inductive EnrollmentCall where
  | insertActivationCode (write : ActivationCodeWrite) (clock : Instant)
  | exchangeBootstrapCode (codeHash : Hash) (write : BootstrapExchangeWrite) (now : Instant)
  | reserveChallenge (credentialHash : Hash) (write : EnrollmentChallengeWrite) (now : Instant)
      (scan : Nat)
  | complete (write : EnrollmentCompletionWrite) (fresh : Uuid → Uuid) (clock : Instant)
  | loadIssued (challengeId : Uuid) (completionRequestId : String)
  | revokeActivationCode (tenantId activationId : Uuid) (actorId : String)
  | listActivationCodes (tenantId : Uuid) (now : Instant)
  | elsewhere (cloud : Cloud)

inductive EnrollmentAnswer where
  | code (outcome : ActivationCodeOutcome)
  | manifest (outcome : BootstrapManifestOutcome) (record : Option BootstrapManifestRecord)
  | challenge (outcome : ChallengeCreationOutcome)
  | completion (outcome : EnrollmentCompletionOutcome)
  | revoked (changed : Bool)
  | listed (records : List ActivationCodeRecord)
  | elsewhere
deriving DecidableEq, Repr

def EnrollmentAnswer.effective : EnrollmentAnswer → Bool
  | .code .inserted | .manifest .issued _ | .challenge (.created _) | .completion (.issued _)
  | .revoked true | .listed _ | .elsewhere => true
  | _ => false

/-- The identifiers of the tenants, of the devices, and of the keys with their
    devices. -/
def Topology.tenantIds (topology : Topology) : List Uuid := topology.tenants.map (·.id)

def Topology.deviceIds (topology : Topology) : List Uuid := topology.devices.map (·.id)

def Topology.keyOwners (topology : Topology) : List (Uuid × Uuid) :=
  topology.deviceKeys.map fun key => (key.id, key.deviceId)

/-- Other transactions change rows of tenants, devices and keys without adding
    or removing any. -/
def EnrollmentStore.admits (store : EnrollmentStore) (cloud : Cloud) : Bool :=
  cloud.route.topology.tenantIds == store.topology.tenantIds &&
    cloud.route.topology.deviceIds == store.topology.deviceIds &&
    cloud.route.topology.keyOwners == store.topology.keyOwners

def transact (codec : EnrollmentCodec) (store : EnrollmentStore) :
    EnrollmentCall → Except RepositoryError (EnrollmentAnswer × EnrollmentStore)
  | .insertActivationCode write clock =>
      (insertActivationCode store write clock).map fun (outcome, after) => (.code outcome, after)
  | .exchangeBootstrapCode codeHash write now =>
      (exchangeBootstrapCode store codeHash write now).map fun ((outcome, record), after) =>
        (.manifest outcome record, after)
  | .reserveChallenge credentialHash write now scan =>
      (reserveChallenge codec store credentialHash write now scan).map fun (outcome, after) =>
        (.challenge outcome, after)
  | .complete write fresh clock =>
      (completeEnrollment codec store write fresh clock).map fun (outcome, after) =>
        (.completion outcome, after)
  | .loadIssued challengeId completionRequestId =>
      (loadIssued store challengeId completionRequestId).map fun outcome =>
        (.completion outcome, store)
  | .revokeActivationCode tenantId activationId actorId =>
      (revokeActivationCode store tenantId activationId actorId).map fun (changed, after) =>
        (.revoked changed, after)
  | .listActivationCodes tenantId now =>
      (listActivationCodes store tenantId now).map fun (records, after) => (.listed records, after)
  | .elsewhere cloud =>
      if store.admits cloud then .ok (.elsewhere, { store with cloud }) else .error .database

/-- One transaction; what fails is rolled back. -/
def enrollmentStep (codec : EnrollmentCodec) (store : EnrollmentStore) (call : EnrollmentCall) :
    EnrollmentStore :=
  commit store ((transact codec store call).map (·.2))

def EnrollmentChallengeRow.issuedBy (codec : EnrollmentCodec) (write : EnrollmentCompletionWrite)
    (row : EnrollmentChallengeRow) : EnrollmentChallengeRow :=
  { row with
    status := .issued
    provedAt := some write.issuedAt
    issuedAt := some write.issuedAt
    completionRequestId := some write.completionRequestId
    completionFingerprint := some (write.fingerprint codec)
    deviceId := some write.deviceRecordId
    certificateId := some write.certificateId }

def ActivationCodeRow.consumedAt_ (instant : Instant) (row : ActivationCodeRow) :
    ActivationCodeRow :=
  { row with status := .consumed, consumedAt := some instant }

/-- The columns of a certificate that never change. -/
def DeviceCertificateRow.issuedForm (row : DeviceCertificateRow) : DeviceCertificateRow :=
  { row with status := .active, revokedAt := none }

structure DeviceIssued (codec : EnrollmentCodec) (store : EnrollmentStore)
    (write : EnrollmentCompletionWrite) (challenge : EnrollmentChallengeRow)
    (code : ActivationCodeRow) (store' : EnrollmentStore) : Prop where
  codes : store'.codes = updateWhere (fun row => row.id == code.id && row.status == .reserved)
    (·.consumedAt_ write.issuedAt) store.codes
  challenges : store'.challenges =
    updateWhere (fun row => row.id == write.challengeId && row.status == .challenged)
      (·.issuedBy codec write) store.challenges
  identities : store'.identities =
    store.identities ++ [⟨write.deviceRecordId, write.deviceIdentity⟩]
  freshIdentity : ∀ old ∈ store.identities, old.id ≠ write.deviceRecordId
  tenants : store'.topology.tenantIds = store.topology.tenantIds
  devices : store'.topology.deviceIds = store.topology.deviceIds ++ [write.deviceRecordId]
  keyMaterials : store'.keyMaterials.map (·.id) =
    store.keyMaterials.map (·.id) ++ [write.keyRecordId]
  keys : store'.topology.keyOwners =
    store.topology.keyOwners ++ [(write.keyRecordId, write.deviceRecordId)]
  certificates : store'.certificates.map (·.issuedForm) =
    store.certificates.map (·.issuedForm) ++ [(write.certificate challenge.assuranceLevel)]
  freshCertificate : ∀ old ∈ store.certificates, old.id ≠ write.certificateId
  sole : ∀ row ∈ store.challenges, row.id ≠ write.challengeId →
    row.completedAs codec challenge.tenantId write.completionRequestId = false

variable {codec : EnrollmentCodec} {store store' : EnrollmentStore}

theorem updateWhere_both {α : Type} {first second : α → Bool} {set set' : α → α} {rows : List α}
    (taken : ∀ row ∈ rows, first row = true → second (set row) = true)
    (left : ∀ row ∈ rows, first row = false → second row = false) :
    updateWhere second set' (updateWhere first set rows) =
      updateWhere first (fun row => set' (set row)) rows := by
  simp only [updateWhere, List.map_map]
  refine List.map_congr_left fun row member => ?_
  cases chosen : first row with
  | true => simp [chosen, taken row member chosen]
  | false => simp [chosen, left row member chosen]

variable {id tenantId deviceId controlNodeId newDeviceId newDeviceKeyId : Uuid}
  {fresh : Uuid → Uuid} {clock now : Instant} {audit : EnrollmentAuditContext}
  {code : ActivationCodeRow} {write : EnrollmentCompletionWrite}
  {outcome : EnrollmentCompletionOutcome}

theorem insertDevice_ok {displayName : String}
    (done : store.insertDevice id tenantId deviceId displayName = .ok store') :
    (∀ old ∈ store.identities, old.id ≠ id) ∧ ∃ row : DeviceRow, row.id = id ∧
      store' = EnrollmentStore.withTopology
        { store with identities := store.identities ++ [⟨id, deviceId⟩] }
        { store.topology with devices := store.topology.devices ++ [row] } := by
  simp only [EnrollmentStore.insertDevice, orElse_bind_ok, pure_ok, insertRow_some] at done
  obtain ⟨identities, ⟨freshIdentity, rfl⟩, devices, ⟨-, rfl⟩, rfl⟩ := done
  refine ⟨?_, _, rfl, rfl⟩
  intro old member same
  have apart := freshIdentity old member
  simp [DeviceIdentityRow.conflict, same] at apart

theorem insertDeviceKey_ok {keyId : String} {publicKey : Hash} {assuranceLevel : Nat}
    (done : store.insertDeviceKey codec id tenantId deviceId keyId publicKey assuranceLevel =
      .ok store') :
    ∃ (material : KeyMaterialRow) (row : DeviceKeyRow), material.id = id ∧
      (row.id, row.deviceId) = (id, deviceId) ∧
      store' = EnrollmentStore.withTopology
        { store with keyMaterials := store.keyMaterials ++ [material] }
        { store.topology with deviceKeys := store.topology.deviceKeys ++ [row] } := by
  simp only [EnrollmentStore.insertDeviceKey, orElse_bind_ok, pure_ok, insertRow_some] at done
  obtain ⟨keyMaterials, ⟨-, rfl⟩, deviceKeys, ⟨-, rfl⟩, rfl⟩ := done
  exact ⟨_, _, rfl, rfl, rfl⟩

theorem insertCertificate_ok {row : DeviceCertificateRow}
    (done : store.insertCertificate codec row = .ok store') :
    (∀ old ∈ store.certificates, old.id ≠ row.id) ∧
      store' = { store with certificates := store.certificates ++ [row] } := by
  simp only [EnrollmentStore.insertCertificate, orElse_bind_ok, pure_ok, insertRow_some] at done
  obtain ⟨certificates, ⟨freshCertificate, rfl⟩, rfl⟩ := done
  refine ⟨?_, rfl⟩
  intro old member same
  have apart := freshCertificate old member
  simp [DeviceCertificateRow.conflict, same] at apart

/-- The rows of tenants, devices and keys are those of before, whatever their
    status. -/
structure SameDevices (before after : Topology) : Prop where
  tenants : after.tenantIds = before.tenantIds
  devices : after.deviceIds = before.deviceIds
  keys : after.keyOwners = before.keyOwners

theorem rebindServiceNode_devices {deviceKeyId serviceNodeId : Uuid} {route route' : RouteStore}
    (done : rebindServiceNode deviceId deviceKeyId route serviceNodeId = .ok route') :
    SameDevices route.topology route'.topology := by
  simp only [rebindServiceNode, unit_bind_ok, pure_ok] at done
  obtain ⟨-, rfl⟩ := done
  exact ⟨rfl, rfl, rfl⟩

theorem replaceNodeInCloud_devices {cloud cloud' : Cloud} {row : ResourceRow} {old : NodeV1}
    {document : ControlResourceV1}
    (done : replaceNodeInCloud codec cloud tenantId controlNodeId row old document newDeviceId
      newDeviceKeyId fresh clock = .ok cloud') :
    SameDevices cloud.route.topology cloud'.route.topology := by
  simp only [replaceNodeInCloud, bind_ok, pure_ok] at done
  obtain ⟨route, rebound, queue, -, rfl⟩ := done
  have kept : SameDevices cloud.route.topology route.topology := by
    refine updateEach_invariant (P := fun after : RouteStore =>
      SameDevices cloud.route.topology after.topology) ?_ ⟨rfl, rfl, rfl⟩ rebound
    intro before after serviceNodeId _ same step
    have next := rebindServiceNode_devices step
    exact ⟨next.tenants.trans same.tenants, next.devices.trans same.devices,
      next.keys.trans same.keys⟩
  constructor
  · exact kept.tenants
  · exact (map_updateWhere (by intro row; rfl) route.topology.devices).trans kept.devices
  · exact (map_updateWhere (by intro row; rfl) route.topology.deviceKeys).trans kept.keys

/-- Replacing a node leaves the enrollment tables alone but for the status of
    the old certificates. -/
theorem replaceControlNodeIdentity_ok
    (done : replaceControlNodeIdentity codec store audit controlNodeId newDeviceId newDeviceKeyId
      now fresh clock = .ok store') :
    ∃ cloud certificates audits,
      store' = { store with cloud, certificates, audits } ∧
      SameDevices store.topology cloud.route.topology ∧
      certificates.map (·.issuedForm) = store.certificates.map (·.issuedForm) := by
  simp only [replaceControlNodeIdentity, bind_ok, reject_ok, pure_ok] at done
  obtain ⟨row, -, ⟨old, document⟩, -, -, -, cloud, replaced, rfl⟩ := done
  refine ⟨cloud, _, _, rfl, replaceNodeInCloud_devices replaced, ?_⟩
  exact map_updateWhere (by intro certificate; rfl) store.certificates

theorem replaceNodeOf_ok
    (done : replaceNodeOf codec store audit code write fresh clock = .ok store') :
    ∃ cloud certificates audits,
      store' = { store with cloud, certificates, audits } ∧
      SameDevices store.topology cloud.route.topology ∧
      certificates.map (·.issuedForm) = store.certificates.map (·.issuedForm) := by
  unfold replaceNodeOf at done
  cases replaces : code.replaceNodeId with
  | none =>
      rw [replaces] at done
      cases done
      exact ⟨_, _, _, rfl, ⟨rfl, rfl, rfl⟩, rfl⟩
  | some controlNodeId =>
      rw [replaces] at done
      exact replaceControlNodeIdentity_ok done

theorem issueDevice_ok {challenge : EnrollmentChallengeRow}
    (unproved : ∀ row ∈ store.challenges, row.status ≠ .proved)
    (done : store.issueDevice codec write challenge code fresh clock = .ok store') :
    DeviceIssued codec store write challenge code store' := by
  simp only [EnrollmentStore.issueDevice, bind_ok, reject_ok, pure_ok] at done
  obtain ⟨-, -, enrolled, device, keyed, key, certified, certificate, replaced, node, -, -, -, -,
    -, sole, rfl⟩ := done
  obtain ⟨freshIdentity, deviceRow, deviceId, rfl⟩ := insertDevice_ok device
  obtain ⟨material, keyRow, materialId, keyOwner, rfl⟩ := insertDeviceKey_ok key
  obtain ⟨freshCertificate, rfl⟩ := insertCertificate_ok certificate
  obtain ⟨cloud, certificates, audits, rfl, same, kept⟩ := replaceNodeOf_ok node
  constructor
  · rfl
  · refine updateWhere_both ?_ ?_
    · intro row _ chosen
      rw [Bool.and_eq_true] at chosen
      simp only [chosen.1, beq_self_eq_true, Bool.and_self]
    · intro row member _
      simp only [beq_false_of_ne (unproved row member), Bool.and_false]
  · rfl
  · exact freshIdentity
  · exact same.tenants
  · refine same.devices.trans ?_
    simp only [EnrollmentStore.topology, EnrollmentStore.withTopology, Topology.deviceIds,
      List.map_append, List.map_cons, List.map_nil, deviceId]
    rfl
  · simp only [EnrollmentStore.updateChallenges, EnrollmentStore.audited,
      EnrollmentStore.updateCodes, EnrollmentStore.withTopology, List.map_append, List.map_cons,
      List.map_nil, materialId]
  · refine same.keys.trans ?_
    simp only [EnrollmentStore.topology, EnrollmentStore.withTopology, Topology.keyOwners,
      List.map_append, List.map_cons, List.map_nil, keyOwner]
    rfl
  · refine kept.trans ?_
    simp only [EnrollmentStore.withTopology, List.map_append, List.map_cons, List.map_nil]
    rfl
  · exact freshCertificate
  · intro row member other
    have left : row ∈ updateWhere
        (fun row => row.id == write.challengeId && row.status == .challenged)
        (fun row => { row with status := .proved, provedAt := some write.issuedAt })
        store.challenges := by
      refine mem_updateWhere.mpr ⟨row, member, ?_⟩
      simp only [beq_false_of_ne other, Bool.false_and, Bool.false_eq_true, if_false]
    have checked := List.any_eq_false.mp sole row left
    simpa only [bne_iff_ne.mpr other, Bool.true_and, Bool.not_eq_true] using checked

/-- Every way a call can change the tables, with what it had checked. -/
inductive EnrollmentChange (codec : EnrollmentCodec) (store : EnrollmentStore) :
    EnrollmentCall → EnrollmentAnswer → EnrollmentStore → Prop where
  | quiet {call : EnrollmentCall} {answer : EnrollmentAnswer} (silent : answer.effective = false) :
      EnrollmentChange codec store call answer store
  | inserted {write : ActivationCodeWrite} {clock : Instant} {selected : ActivationCodeRow → Bool}
      {audits : List EnrollmentAuditRow}
      (unique : ∀ old ∈ (store.revokeCodes selected).codes,
        (write.row clock).conflict old = false) :
      EnrollmentChange codec store (.insertActivationCode write clock) (.code .inserted)
        { store with
          codes := (store.revokeCodes selected).codes ++ [write.row clock]
          audits }
  | bound {codeHash : Hash} {write : BootstrapExchangeWrite} {now : Instant}
      {row : ActivationCodeRow} {record : BootstrapManifestRecord}
      (found : store.code codeHash = some row) (usable : row.status.open_ = true)
      (unbound : row.bootstrapInstanceId = none) :
      EnrollmentChange codec store (.exchangeBootstrapCode codeHash write now)
        (.manifest .issued (some record)) (store.bindInstallation row.id write now)
  | reserved {credentialHash : Hash} {write : EnrollmentChallengeWrite} {now : Instant}
      {scan : Nat} {activation : ActivationCodeRow} {audits : List EnrollmentAuditRow}
      (found : store.presented credentialHash scan = some activation)
      (usable : activation.usableBy write now = true)
      (unique : ∀ old ∈ store.challenges, (write.row activation).conflict codec old = false) :
      EnrollmentChange codec store (.reserveChallenge credentialHash write now scan)
        (.challenge (.created (write.row activation).record))
        { store with
          challenges := store.challenges ++ [write.row activation]
          codes := (store.reserveCode activation.id now).codes
          audits }
  | issued {write : EnrollmentCompletionWrite} {fresh : Uuid → Uuid} {clock : Instant}
      {challenge : EnrollmentChallengeRow} {code : ActivationCodeRow} {store' : EnrollmentStore}
      (found : store.challengeWithCode write.challengeId = some (challenge, code))
      (known : write.tenantId ∈ store.topology.tenantIds)
      (organization : challenge.organizationId = write.organizationId)
      (tenant : challenge.tenantId = write.tenantId)
      (challenged : challenge.status = .challenged) (reserved : code.status = .reserved)
      (timely : write.issuedAt < challenge.expiresAt) (valid : write.validate = .ok ())
      (written : DeviceIssued codec store write challenge code store') :
      EnrollmentChange codec store (.complete write fresh clock)
        (.completion (.issued write.record)) store'
  | revoked {tenantId activationId : Uuid} {actorId : String} {selected : ActivationCodeRow → Bool}
      {audits : List EnrollmentAuditRow} :
      EnrollmentChange codec store (.revokeActivationCode tenantId activationId actorId)
        (.revoked true) { store with codes := (store.revokeCodes selected).codes, audits }
  | expired {tenantId : Uuid} {now : Instant} {records : List ActivationCodeRecord} :
      EnrollmentChange codec store (.listActivationCodes tenantId now) (.listed records)
        (store.expire tenantId now)
  | elsewhere {cloud : Cloud} (same : SameDevices store.topology cloud.route.topology) :
      EnrollmentChange codec store (.elsewhere cloud) .elsewhere { store with cloud }

theorem supersede_ok {write : ActivationCodeWrite} (done : write.supersede store = .ok store') :
    ∃ selected, store' = store.revokeCodes selected := by
  unfold ActivationCodeWrite.supersede at done
  cases replaces : write.replaceNodeId with
  | none =>
      rw [replaces] at done
      cases done
      refine ⟨fun _ => false, ?_⟩
      simp [EnrollmentStore.revokeCodes, EnrollmentStore.updateCodes, updateWhere]
  | some nodeId =>
      rw [replaces] at done
      simp only [unit_bind_ok, pure_ok] at done
      exact ⟨_, done.2.symm⟩

theorem insertActivationCode_change {write : ActivationCodeWrite} {outcome : ActivationCodeOutcome}
    (done : insertActivationCode store write clock = .ok (outcome, store')) :
    EnrollmentChange codec store (.insertActivationCode write clock) (.code outcome) store' := by
  simp only [insertActivationCode, unit_bind_ok] at done
  obtain ⟨-, -, -, later⟩ := done
  obtain ⟨superseded, supersedes, later⟩ := bind_ok.mp later
  obtain ⟨selected, rfl⟩ := supersede_ok supersedes
  cases inserted : insertRow ActivationCodeRow.conflict (store.revokeCodes selected).codes
      (write.row clock) with
  | none =>
      rw [inserted] at later
      cases later
      exact .quiet rfl
  | some codes =>
      rw [inserted] at later
      obtain ⟨unique, rfl⟩ := insertRow_some.mp inserted
      cases later
      exact .inserted unique

theorem exchangeBootstrapCode_change {codeHash : Hash} {write : BootstrapExchangeWrite}
    {outcome : BootstrapManifestOutcome} {record : Option BootstrapManifestRecord}
    (done : exchangeBootstrapCode store codeHash write now = .ok ((outcome, record), store')) :
    EnrollmentChange codec store (.exchangeBootstrapCode codeHash write now)
      (.manifest outcome record) store' := by
  simp only [exchangeBootstrapCode, unit_bind_ok] at done
  obtain ⟨-, later⟩ := done
  cases found : store.code codeHash with
  | none =>
      rw [found] at later
      cases later
      exact .quiet rfl
  | some row =>
      simp only [found] at later
      cases manifest : row.manifest with
      | none =>
          rw [manifest] at later
          cases later
          exact .quiet rfl
      | some filled =>
          simp only [manifest] at later
          by_cases closed : (decide (row.expiresAt ≤ now) || !row.status.open_) = true
          · rw [if_pos closed] at later
            cases later
            exact .quiet rfl
          · rw [if_neg closed] at later
            simp only [Bool.or_eq_true, not_or, decide_eq_true_eq, Bool.not_eq_true',
              Bool.not_eq_false] at closed
            cases binding : row.bootstrapInstanceId with
            | none =>
                simp only [binding] at later
                cases later
                exact .bound found closed.2 binding
            | some existing =>
                simp only [binding] at later
                split at later
                · cases later
                  exact .quiet rfl
                · cases later
                  exact .quiet rfl

theorem classifyExistingChallenge_silent (record : EnrollmentChallengeRecord)
    (activation : ActivationCodeRow) (write : EnrollmentChallengeWrite) (now : Instant) :
    (EnrollmentAnswer.challenge
      (classifyExistingChallenge record activation write now)).effective = false := by
  unfold classifyExistingChallenge
  split
  · rfl
  · split
    · rfl
    · rfl

theorem reserveChallenge_change {credentialHash : Hash} {write : EnrollmentChallengeWrite}
    {scan : Nat} {outcome : ChallengeCreationOutcome}
    (done : reserveChallenge codec store credentialHash write now scan = .ok (outcome, store')) :
    EnrollmentChange codec store (.reserveChallenge credentialHash write now scan)
      (.challenge outcome) store' := by
  simp only [reserveChallenge, unit_bind_ok] at done
  obtain ⟨-, -, later⟩ := done
  cases found : store.presented credentialHash scan with
  | none =>
      rw [found] at later
      cases later
      exact .quiet rfl
  | some activation =>
      simp only [found] at later
      cases request : store.challengeRequest codec activation.tenantId write.requestId with
      | some existing =>
          rw [request] at later
          cases later
          exact .quiet (classifyExistingChallenge_silent _ _ _ _)
      | none =>
          simp only [request] at later
          cases usable : activation.usableBy write now with
          | false =>
              simp only [usable, Bool.not_false, if_true] at later
              cases later
              exact .quiet rfl
          | true =>
              simp only [usable, Bool.not_true, Bool.false_eq_true, if_false] at later
              cases inserted : insertRow (EnrollmentChallengeRow.conflict codec) store.challenges
                  (write.row activation) with
              | none =>
                  rw [inserted] at later
                  cases later
                  exact .quiet rfl
              | some challenges =>
                  simp only [inserted] at later
                  obtain ⟨unique, rfl⟩ := insertRow_some.mp inserted
                  cases later
                  exact .reserved found usable unique

theorem completeEnrollment_cases
    (done : completeEnrollment codec store write fresh clock = .ok (outcome, store')) :
    ((EnrollmentAnswer.completion outcome).effective = false ∧ store' = store) ∨
    ∃ challenge code, outcome = .issued write.record ∧ write.validate = .ok () ∧
      store.challengeWithCode write.challengeId = some (challenge, code) ∧
      write.tenantId ∈ store.topology.tenantIds ∧
      challenge.organizationId = write.organizationId ∧ challenge.tenantId = write.tenantId ∧
      challenge.status = .challenged ∧ code.status = .reserved ∧
      write.issuedAt < challenge.expiresAt ∧
      store.issueDevice codec write challenge code fresh clock = .ok store' := by
  simp only [completeEnrollment, unit_bind_ok] at done
  obtain ⟨valid, later⟩ := done
  split at later
  · cases later
    exact .inl ⟨rfl, rfl⟩
  rename_i known
  have known : write.tenantId ∈ store.topology.tenantIds := by
    simp only [Bool.not_eq_true', Bool.not_eq_false, List.any_eq_true, beq_iff_eq] at known
    obtain ⟨tenant, member, named⟩ := known
    exact List.mem_map.mpr ⟨tenant, member, named⟩
  split at later
  · cases later
    exact .inl ⟨rfl, rfl⟩
  cases found : store.challengeWithCode write.challengeId with
  | none =>
      rw [found] at later
      cases later
      exact .inl ⟨rfl, rfl⟩
  | some pair =>
      obtain ⟨challenge, code⟩ := pair
      simp only [found] at later
      by_cases foreign : (challenge.organizationId != write.organizationId ||
          challenge.tenantId != write.tenantId) = true
      · rw [if_pos foreign] at later
        cases later
        exact .inl ⟨rfl, rfl⟩
      rw [if_neg foreign] at later
      by_cases finished : (challenge.status == .issued) = true
      · rw [if_pos finished] at later
        split at later
        · cases later
          exact .inl ⟨rfl, rfl⟩
        · obtain ⟨record, -, returned⟩ := bind_ok.mp later
          cases returned
          exact .inl ⟨rfl, rfl⟩
      rw [if_neg finished] at later
      by_cases closed : (challenge.status != .challenged || code.status != .reserved ||
          decide (challenge.expiresAt ≤ write.issuedAt)) = true
      · rw [if_pos closed] at later
        cases later
        exact .inl ⟨rfl, rfl⟩
      rw [if_neg closed] at later
      obtain ⟨issued, issues, returned⟩ := bind_ok.mp later
      cases returned
      simp only [Bool.or_eq_true, bne_iff_ne, not_or, not_not] at foreign
      simp only [Bool.or_eq_true, bne_iff_ne, decide_eq_true_eq, not_or, not_not, not_le] at closed
      exact .inr ⟨challenge, code, rfl, valid, rfl, known, foreign.1, foreign.2, closed.1.1,
        closed.1.2, closed.2, issues⟩

theorem completeEnrollment_change (unproved : ∀ row ∈ store.challenges, row.status ≠ .proved)
    (done : completeEnrollment codec store write fresh clock = .ok (outcome, store')) :
    EnrollmentChange codec store (.complete write fresh clock) (.completion outcome) store' := by
  rcases completeEnrollment_cases done with ⟨silent, rfl⟩ | ⟨challenge, code, rfl, valid, found,
    known, organization, tenant, challenged, reserved, timely, issues⟩
  · exact .quiet silent
  · exact .issued found known organization tenant challenged reserved timely valid
      (issueDevice_ok unproved issues)

theorem loadIssued_silent {challengeId : Uuid} {completionRequestId : String}
    (done : loadIssued store challengeId completionRequestId = .ok outcome) :
    (EnrollmentAnswer.completion outcome).effective = false := by
  simp only [loadIssued, unit_bind_ok] at done
  obtain ⟨-, later⟩ := done
  split at later
  · cases later
    rfl
  · split at later
    · cases later
      rfl
    · split at later
      · cases later
        rfl
      · obtain ⟨record, -, returned⟩ := bind_ok.mp later
        cases returned
        rfl

theorem revokeActivationCode_change {activationId : Uuid} {actorId : String} {changed : Bool}
    (done : revokeActivationCode store tenantId activationId actorId = .ok (changed, store')) :
    EnrollmentChange codec store (.revokeActivationCode tenantId activationId actorId)
      (.revoked changed) store' := by
  simp only [revokeActivationCode, unit_bind_ok] at done
  obtain ⟨-, later⟩ := done
  split at later
  · cases later
    exact .quiet rfl
  · split at later
    · cases later
      exact .revoked
    · cases later
      exact .quiet rfl

theorem transact_change {call : EnrollmentCall} {answer : EnrollmentAnswer}
    (unproved : ∀ row ∈ store.challenges, row.status ≠ .proved)
    (done : transact codec store call = .ok (answer, store')) :
    EnrollmentChange codec store call answer store' := by
  cases call with
  | insertActivationCode write clock =>
      obtain ⟨⟨outcome, after⟩, finished, same⟩ := map_ok.mp done
      cases same
      exact insertActivationCode_change finished
  | exchangeBootstrapCode codeHash write now =>
      obtain ⟨⟨⟨outcome, record⟩, after⟩, finished, same⟩ := map_ok.mp done
      cases same
      exact exchangeBootstrapCode_change finished
  | reserveChallenge credentialHash write now scan =>
      obtain ⟨⟨outcome, after⟩, finished, same⟩ := map_ok.mp done
      cases same
      exact reserveChallenge_change finished
  | complete write fresh clock =>
      obtain ⟨⟨outcome, after⟩, finished, same⟩ := map_ok.mp done
      cases same
      exact completeEnrollment_change unproved finished
  | loadIssued challengeId completionRequestId =>
      obtain ⟨outcome, finished, same⟩ := map_ok.mp done
      cases same
      exact .quiet (loadIssued_silent finished)
  | revokeActivationCode tenantId activationId actorId =>
      obtain ⟨⟨changed, after⟩, finished, same⟩ := map_ok.mp done
      cases same
      exact revokeActivationCode_change finished
  | listActivationCodes tenantId now =>
      obtain ⟨⟨records, after⟩, finished, same⟩ := map_ok.mp done
      cases same
      simp only [listActivationCodes, unit_bind_ok, pure_ok, Prod.mk.injEq] at finished
      obtain ⟨-, -, rfl⟩ := finished
      exact .expired
  | elsewhere cloud =>
      simp only [transact] at done
      obtain ⟨admitted, ⟨⟩⟩ := ite_ok.mp done
      simp only [EnrollmentStore.admits, Bool.and_eq_true, beq_iff_eq] at admitted
      exact .elsewhere ⟨admitted.1.1, admitted.1.2, admitted.2⟩

theorem enrollmentStep_change (call : EnrollmentCall)
    (unproved : ∀ row ∈ store.challenges, row.status ≠ .proved) :
    enrollmentStep codec store call = store ∨
      ∃ answer, transact codec store call = .ok (answer, enrollmentStep codec store call) ∧
        EnrollmentChange codec store call answer (enrollmentStep codec store call) := by
  unfold enrollmentStep
  cases result : transact codec store call with
  | error error => exact .inl rfl
  | ok done =>
      obtain ⟨answer, after⟩ := done
      exact .inr ⟨answer, rfl, transact_change unproved result⟩

end CandyCloud
