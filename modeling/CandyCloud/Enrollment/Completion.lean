import CandyCloud.Enrollment.Codes

/-! # Completing an enrollment

`EnrollmentCompletionRepository` turns a proved challenge into a device, its key and its
certificate, and consumes the code behind it; a code that replaces a control node also moves the
node to the new device.
-/

namespace CandyCloud

open Foundation

structure EnrollmentCompletionWrite where
  challengeId : Uuid
  organizationId : Uuid
  tenantId : Uuid
  completionRequestId : String
  deviceRecordId : Uuid
  deviceIdentity : Uuid
  keyRecordId : Uuid
  keyId : String
  certificateId : Uuid
  issuerKeyId : String
  serialNumber : BitVec 128
  certificateDer : Bytes
  certificateChainPem : String
  environment : String
  notBefore : Instant
  notAfter : Instant
  issuedAt : Instant
deriving DecidableEq, Repr

structure EnrollmentCompletionRecord where
  deviceId : Uuid
  deviceKeyId : Uuid
  certificateId : Uuid
  certificateDer : Bytes
  certificateChainPem : String
  notAfter : Instant
deriving DecidableEq, Repr

inductive EnrollmentCompletionOutcome where
  | issued (record : EnrollmentCompletionRecord)
  | replay (record : EnrollmentCompletionRecord)
  | conflict
  | challengeUnavailable
deriving DecidableEq, Repr

namespace EnrollmentCompletionWrite

variable (write : EnrollmentCompletionWrite)

def validate : Except RepositoryError Unit :=
  reject (isNil write.challengeId || isNil write.organizationId || isNil write.tenantId ||
    !bounded write.completionRequestId 120 || uuidVersion write.deviceRecordId != 7 ||
    write.deviceIdentity != write.deviceRecordId || uuidVersion write.keyRecordId != 7 ||
    write.keyId != uuidText write.keyRecordId || uuidVersion write.certificateId != 7 ||
    !bounded write.issuerKeyId 80 || !bounded write.environment 40 ||
    write.certificateDer.isEmpty || decide (64 * 1024 < write.certificateDer.length) ||
    !bounded write.certificateChainPem (64 * 1024) ||
    decide (write.notAfter ≤ write.notBefore) || decide (write.issuedAt < write.notBefore) ||
    decide (write.notAfter ≤ write.issuedAt)) .invalidCompletionScope

def fingerprintBytes : Bytes :=
  utf8 "candy/enrollment-completion/v1" ++
    ([uuidBytes write.challengeId, uuidBytes write.organizationId, uuidBytes write.tenantId,
      utf8 write.completionRequestId, uuidBytes write.deviceRecordId, uuidBytes write.keyRecordId,
      utf8 write.keyId, uuidBytes write.certificateId, utf8 write.issuerKeyId,
      uuidBytes write.serialNumber, write.certificateDer, utf8 write.certificateChainPem,
      utf8 write.environment].flatMap fun field => bigEndian 8 field.length ++ field) ++
    ([write.notBefore, write.notAfter, write.issuedAt].flatMap fun instant =>
      bigEndian 8 (unixTimestamp instant))

/-- `completion_fingerprint`. -/
def fingerprint (codec : EnrollmentCodec) : Hash := codec.sha256 write.fingerprintBytes

def record : EnrollmentCompletionRecord :=
  { deviceId := write.deviceIdentity
    deviceKeyId := write.keyRecordId
    certificateId := write.certificateId
    certificateDer := write.certificateDer
    certificateChainPem := write.certificateChainPem
    notAfter := write.notAfter }

def certificate (assuranceLevel : Nat) : DeviceCertificateRow :=
  { id := write.certificateId
    organizationId := write.organizationId
    tenantId := write.tenantId
    deviceId := write.deviceRecordId
    deviceKeyId := write.keyRecordId
    issuerKeyId := write.issuerKeyId
    serialNumber := write.serialNumber
    certificateDer := write.certificateDer
    certificateChainPem := write.certificateChainPem
    sanUri := "candy:device:" ++ uuidText write.deviceIdentity
    environment := write.environment
    assuranceLevel
    notBefore := write.notBefore
    notAfter := write.notAfter
    status := .active
    revokedAt := none }

end EnrollmentCompletionWrite

structure EnrollmentAuditContext where
  organizationId : Uuid
  tenantId : Uuid
  actorId : String
deriving DecidableEq, Repr

/-- `append_audit`. -/
def EnrollmentAuditContext.event (context : EnrollmentAuditContext) (action objectType : String)
    (objectId : Uuid) (status : String) : EnrollmentAuditRow :=
  { organizationId := context.organizationId
    tenantId := context.tenantId
    actorType := .device
    actorId := context.actorId
    action
    objectType
    objectId
    metadata := .status status }

namespace EnrollmentStore

variable (store : EnrollmentStore)

def insertDevice (id tenantId deviceId : Uuid) (displayName : String) :
    Except RepositoryError EnrollmentStore := do
  let identities ← orElse .database
    (insertRow DeviceIdentityRow.conflict store.identities ⟨id, deviceId⟩)
  let devices ← orElse .database (insertRow (fun a b => a.id == b.id) store.topology.devices
    { id, tenantId, displayName, status := .active, lastSeenAt := none })
  return EnrollmentStore.withTopology { store with identities } { store.topology with devices }

def insertDeviceKey (codec : EnrollmentCodec) (id tenantId deviceId : Uuid) (keyId : String)
    (publicKey : Hash) (assuranceLevel : Nat) : Except RepositoryError EnrollmentStore := do
  let keyMaterials ← orElse .database (insertRow (KeyMaterialRow.conflict codec)
    store.keyMaterials ⟨id, keyId, publicKey, assuranceLevel⟩)
  let deviceKeys ← orElse .database (insertRow (fun a b => a.id == b.id) store.topology.deviceKeys
    { id, tenantId, deviceId, status := .active })
  return EnrollmentStore.withTopology { store with keyMaterials } { store.topology with deviceKeys }

def insertCertificate (codec : EnrollmentCodec) (row : DeviceCertificateRow) :
    Except RepositoryError EnrollmentStore := do
  let certificates ← orElse .database
    (insertRow (DeviceCertificateRow.conflict codec) store.certificates row)
  return { store with certificates }

def loadCompletionRecord (deviceRecordId certificateId : Option Uuid) :
    Except RepositoryError EnrollmentCompletionRecord := do
  let deviceRecordId ← orElse .invalidCompletionRecord deviceRecordId
  let certificateId ← orElse .invalidCompletionRecord certificateId
  let device ← orElse .invalidCompletionRecord
    (store.identities.find? fun row => row.id == deviceRecordId)
  let certificate ← orElse .invalidCompletionRecord (store.certificates.find? fun row =>
    row.id == certificateId && row.deviceId == deviceRecordId)
  return { deviceId := device.deviceId
           deviceKeyId := certificate.deviceKeyId
           certificateId := certificate.id
           certificateDer := certificate.certificateDer
           certificateChainPem := certificate.certificateChainPem
           notAfter := certificate.notAfter }

end EnrollmentStore

def NodeRow.rebound (row : NodeRow) (deviceId deviceKeyId : Uuid) : NodeRow :=
  { row with
    deviceId := some deviceId
    deviceKeyId := some deviceKeyId
    nodeId := "candy:device:" ++ uuidText deviceId }

/-- One pass of the loop over the service nodes of the old identity. -/
def rebindServiceNode (deviceId deviceKeyId : Uuid) (route : RouteStore) (serviceNodeId : Uuid) :
    Except RepositoryError RouteStore := do
  let nodes := route.topology.nodes
  reject (nodes.any fun row => row.id == serviceNodeId && nodes.any fun other =>
    other.id != serviceNodeId && NodeRow.conflict (row.rebound deviceId deviceKeyId) other)
    .database
  return { route with
    transportCatalog := route.transportCatalog.filter fun row =>
      row.transportNodeId != serviceNodeId
    topology := { route.topology with
      nodeEndpoints := disableEndpoints serviceNodeId route.topology.nodeEndpoints
      nodes := updateWhere (fun row => row.id == serviceNodeId)
        (fun row => row.rebound deviceId deviceKeyId) nodes } }

/-- The old device and its key are `REVOKED`. -/
def Topology.revokeIdentity (topology : Topology) (tenantId deviceId deviceKeyId : Uuid) :
    Topology :=
  { topology with
    deviceKeys := updateWhere (fun row => row.tenantId == tenantId && row.id == deviceKeyId &&
        row.status == .active) (fun row => { row with status := .revoked }) topology.deviceKeys
    devices := updateWhere (fun row => row.tenantId == tenantId && row.id == deviceId &&
        row.status == .active) (fun row => { row with status := .revoked }) topology.devices }

def enqueueReenrollmentGeneration (fresh : Uuid → Uuid) (clock : Instant) (tenantId : Uuid)
    (requestHash : Hash) (queue : GenerationQueue) (segmentId : Uuid) :
    Except RepositoryError GenerationQueue := do
  let queue := queue.openHead tenantId segmentId
  let head ← orElse .database (queue.head tenantId segmentId)
  let desired ← orElse .invalidCompletionRecord (checkedAdd head.desiredRevision 1)
  ((queue.advanceHead tenantId segmentId head.desiredRevision desired).insertJob (fresh segmentId)
    clock tenantId segmentId desired requestHash .tunnel).mapError fun _ => .database

def reenrollmentHash (codec : EnrollmentCodec) (controlNodeId newDeviceId : Uuid) : Hash :=
  codec.sha256 (utf8 "candy/node-reenrollment/v1\x00" ++ uuidBytes controlNodeId ++
    uuidBytes newDeviceId)

def ControlResourceV1.reenrolled (resource : ControlResourceV1) (deviceId deviceKeyId : Uuid) :
    Except RepositoryError (NodeV1 × ControlResourceV1) := do
  let node ← orElse .invalidCompletionRecord resource.resource.node?
  let revision ← orElse .invalidCompletionRecord (checkedAdd resource.metadata.revision 1)
  return (node, { metadata := { resource.metadata with revision }
                  resource := .node { node with deviceId, deviceKeyId } })

/-- The part of the replacement outside the enrollment tables. -/
def replaceNodeInCloud (codec : EnrollmentCodec) (cloud : Cloud) (tenantId controlNodeId : Uuid)
    (row : ResourceRow) (old : NodeV1) (document : ControlResourceV1)
    (newDeviceId newDeviceKeyId : Uuid) (fresh : Uuid → Uuid) (clock : Instant) :
    Except RepositoryError Cloud := do
  let resources := updateWhere (fun other => other.at tenantId .node controlNodeId &&
      other.revision == row.revision && other.state == .active)
    (fun other => { other with revision := document.metadata.revision, document })
    cloud.control.resources
  let serviceNodes := (cloud.route.topology.nodes.filter fun node =>
    node.identity tenantId old.deviceId old.deviceKeyId).map (·.id)
  let route ← updateEach (rebindServiceNode newDeviceId newDeviceKeyId) cloud.route serviceNodes
  let control := { cloud.control with resources }
  let queue ← updateEach (enqueueReenrollmentGeneration fresh clock tenantId
      (reenrollmentHash codec controlNodeId newDeviceId)) cloud.queue
    (control.dependentSegments tenantId .node controlNodeId)
  return { control
           queue
           route := { route with
             topology := route.topology.revokeIdentity tenantId old.deviceId old.deviceKeyId } }

def replaceControlNodeIdentity (codec : EnrollmentCodec) (store : EnrollmentStore)
    (audit : EnrollmentAuditContext) (controlNodeId newDeviceId newDeviceKeyId : Uuid)
    (now : Instant) (fresh : Uuid → Uuid) (clock : Instant) :
    Except RepositoryError EnrollmentStore := do
  let row ← orElse .invalidCompletionRecord (store.cloud.control.resources.find? fun row =>
    row.at audit.tenantId .node controlNodeId && row.state == .active)
  let (old, document) ← row.document.reenrolled newDeviceId newDeviceKeyId
  reject (!(store.topology.activeDevice audit.tenantId (some old.deviceId) &&
    store.topology.activeDeviceKey audit.tenantId (some old.deviceId) (some old.deviceKeyId)))
    .invalidCompletionRecord
  let cloud ← replaceNodeInCloud codec store.cloud audit.tenantId controlNodeId row old document
    newDeviceId newDeviceKeyId fresh clock
  return EnrollmentStore.audited
    { store with
      cloud
      certificates := updateWhere (fun certificate => certificate.tenantId == audit.tenantId &&
          certificate.deviceId == old.deviceId && certificate.status == .active)
        (fun certificate => { certificate with status := .superseded, revokedAt := some now })
        store.certificates }
    (audit.event "CONTROL_NODE_IDENTITY_REPLACED" "SDWAN_CONTROL_NODE" controlNodeId "ACTIVE")

/-- A code for a control node moves the node to the new device. -/
def replaceNodeOf (codec : EnrollmentCodec) (store : EnrollmentStore)
    (audit : EnrollmentAuditContext) (code : ActivationCodeRow) (write : EnrollmentCompletionWrite)
    (fresh : Uuid → Uuid) (clock : Instant) : Except RepositoryError EnrollmentStore :=
  match code.replaceNodeId with
  | none => .ok store
  | some controlNodeId =>
      replaceControlNodeIdentity codec store audit controlNodeId write.deviceRecordId
        write.keyRecordId write.issuedAt fresh clock

/-- The statements of a completion whose challenge is open. -/
def EnrollmentStore.issueDevice (store : EnrollmentStore) (codec : EnrollmentCodec)
    (write : EnrollmentCompletionWrite) (challenge : EnrollmentChallengeRow)
    (code : ActivationCodeRow) (fresh : Uuid → Uuid) (clock : Instant) :
    Except RepositoryError EnrollmentStore := do
  let audit : EnrollmentAuditContext :=
    ⟨challenge.organizationId, challenge.tenantId, challenge.enrollmentInstanceId⟩
  reject (!store.challenges.any fun row => row.id == write.challengeId &&
    row.status == .challenged) .invalidCompletionRecord
  let proved := (store.updateChallenges
      (fun row => row.id == write.challengeId && row.status == .challenged)
      fun row => { row with status := .proved, provedAt := some write.issuedAt }).audited
    (audit.event "ENROLLMENT_PROOF_VERIFIED" "ENROLLMENT_CHALLENGE" write.challengeId "PROVED")
  let enrolled ← proved.insertDevice write.deviceRecordId challenge.tenantId write.deviceIdentity
    challenge.displayName
  let keyed ← enrolled.insertDeviceKey codec write.keyRecordId challenge.tenantId
    write.deviceRecordId write.keyId challenge.operationalPublicKey challenge.assuranceLevel
  let certified ← keyed.insertCertificate codec (write.certificate challenge.assuranceLevel)
  let replaced ← replaceNodeOf codec certified audit code write fresh clock
  reject (!replaced.codes.any fun row => row.id == code.id && row.status == .reserved)
    .invalidCompletionRecord
  let consumed := replaced.updateCodes (fun row => row.id == code.id && row.status == .reserved)
    fun row => { row with status := .consumed, consumedAt := some write.issuedAt }
  reject (!consumed.challenges.any fun row => row.id == write.challengeId &&
    row.status == .proved) .invalidCompletionRecord
  reject (consumed.challenges.any fun row => row.id != write.challengeId &&
    row.completedAs codec challenge.tenantId write.completionRequestId) .database
  return (consumed.updateChallenges
      (fun row => row.id == write.challengeId && row.status == .proved)
      fun row => { row with
        status := .issued
        issuedAt := some write.issuedAt
        completionRequestId := some write.completionRequestId
        completionFingerprint := some (write.fingerprint codec)
        deviceId := some write.deviceRecordId
        certificateId := some write.certificateId }).audited
    (audit.event "DEVICE_IDENTITY_ISSUED" "DEVICE" write.deviceRecordId "ACTIVE")

def completeEnrollment (codec : EnrollmentCodec) (store : EnrollmentStore)
    (write : EnrollmentCompletionWrite) (fresh : Uuid → Uuid) (clock : Instant) :
    Except RepositoryError (EnrollmentCompletionOutcome × EnrollmentStore) := do
  write.validate
  let existing := store.challenges.find? fun row =>
    row.completedAs codec write.tenantId write.completionRequestId
  if !store.topology.tenants.any fun tenant => tenant.id == write.tenantId then
    return (.challengeUnavailable, store)
  else if existing.any fun row => row.id != write.challengeId then return (.conflict, store)
  else match store.challengeWithCode write.challengeId with
    | none => return (.challengeUnavailable, store)
    | some (challenge, code) =>
        if challenge.organizationId != write.organizationId ||
            challenge.tenantId != write.tenantId then return (.challengeUnavailable, store)
        else if challenge.status == .issued then
          if challenge.completionRequestId != some write.completionRequestId ||
              challenge.completionFingerprint != some (write.fingerprint codec) ||
              code.status != .consumed then return (.conflict, store)
          else
            let record ← store.loadCompletionRecord challenge.deviceId challenge.certificateId
            return (.replay record, store)
        else if challenge.status != .challenged || code.status != .reserved ||
            decide (challenge.expiresAt ≤ write.issuedAt) then
          return (.challengeUnavailable, store)
        else
          let issued ← store.issueDevice codec write challenge code fresh clock
          return (.issued write.record, issued)

def loadIssued (store : EnrollmentStore) (challengeId : Uuid) (completionRequestId : String) :
    Except RepositoryError EnrollmentCompletionOutcome := do
  reject (isNil challengeId || !bounded completionRequestId 120) .invalidCompletionScope
  match store.challengeWithCode challengeId with
  | none => return .challengeUnavailable
  | some (challenge, code) =>
      if challenge.status != .issued || code.status != .consumed then return .challengeUnavailable
      else if challenge.completionRequestId != some completionRequestId then return .conflict
      else
        let record ← store.loadCompletionRecord challenge.deviceId challenge.certificateId
        return .replay record

inductive EnrollmentCoordinatorError where
  | invalidRequest
  | activationUnavailable
  | conflict
  | challengeUnavailable
  | proofRejected
  | unavailable
deriving DecidableEq, Repr

structure EnrollmentCompleteCommand where
  challengeId : Uuid
  requestId : String
  operationalProof : Bytes
deriving DecidableEq, Repr

structure EnrollmentCompleteReceipt where
  deviceId : Uuid
  deviceKeyId : Uuid
  certificateDer : Bytes
  certificateChainPem : String
  notAfter : Instant
  replayed : Bool
deriving DecidableEq, Repr

def receipt (record : EnrollmentCompletionRecord) (replayed : Bool) : EnrollmentCompleteReceipt :=
  { deviceId := record.deviceId
    deviceKeyId := record.deviceKeyId
    certificateDer := record.certificateDer
    certificateChainPem := record.certificateChainPem
    notAfter := record.notAfter
    replayed }

structure IssuedDeviceCertificate where
  issuerKeyId : String
  serialNumber : BitVec 128
  certificateDer : Bytes
  certificateChainPem : String
  environment : String
  notBefore : Instant
  notAfter : Instant
deriving DecidableEq, Repr

/-- The identifiers a completion draws. -/
structure EnrollmentIds where
  deviceId : Uuid
  deviceKeyId : Uuid
  certificateId : Uuid
deriving DecidableEq, Repr

/-- `verify` is Ed25519 verification of a message under a key; `issue` is the
    certificate issuer, given the identifiers, the operational key, the assurance
    level and the current time. -/
structure EnrollmentCoordinator where
  codec : EnrollmentCodec
  verify : Hash → Bytes → Bytes → Bool
  issue : EnrollmentIds → Hash → Nat → Instant → Option IssuedDeviceCertificate

def EnrollmentChallengeRow.transcript (row : EnrollmentChallengeRow) : Bytes :=
  [utf8 "candy/device-enrollment/v1", uuidBytes row.id, hashBytes row.serverNonce,
    hashBytes row.rootPublicKey, hashBytes row.operationalPublicKey, uuidBytes row.organizationId,
    hashBytes row.metadataHash, hashBytes row.attestationHash].flatMap fun field =>
    bigEndian 2 field.length ++ field

/-- The row `load_challenge_for_proof` returns. -/
def EnrollmentStore.challengeForProof (store : EnrollmentStore) (challengeId : Uuid)
    (now : Instant) : Option EnrollmentChallengeRow :=
  (store.challengeWithCode challengeId).bind fun (challenge, code) =>
    if (challenge.status == .challenged && decide (now < challenge.expiresAt) &&
        code.status == .reserved) || (challenge.status == .issued && code.status == .consumed)
    then some challenge else none

namespace EnrollmentCoordinator

variable (coordinator : EnrollmentCoordinator)

/-- What the coordinator does before it opens the completion transaction: no
    write when the challenge is already issued. -/
def prepare (store : EnrollmentStore) (command : EnrollmentCompleteCommand) (now : Instant)
    (ids : EnrollmentIds) :
    Except EnrollmentCoordinatorError (Option EnrollmentCompletionWrite) := do
  reject (isNil command.challengeId || !bounded command.requestId 120) .invalidRequest
  let challenge ← orElse .challengeUnavailable (store.challengeForProof command.challengeId now)
  reject (!coordinator.verify challenge.operationalPublicKey challenge.transcript
    command.operationalProof) .proofRejected
  if challenge.status == .issued then return none
  else
    let certificate ← orElse .unavailable
      (coordinator.issue ids challenge.operationalPublicKey challenge.assuranceLevel now)
    return some
      { challengeId := challenge.id
        organizationId := challenge.organizationId
        tenantId := challenge.tenantId
        completionRequestId := command.requestId
        deviceRecordId := ids.deviceId
        deviceIdentity := ids.deviceId
        keyRecordId := ids.deviceKeyId
        keyId := uuidText ids.deviceKeyId
        certificateId := ids.certificateId
        issuerKeyId := certificate.issuerKeyId
        serialNumber := certificate.serialNumber
        certificateDer := certificate.certificateDer
        certificateChainPem := certificate.certificateChainPem
        environment := certificate.environment
        notBefore := certificate.notBefore
        notAfter := certificate.notAfter
        issuedAt := now }

def replay (store : EnrollmentStore) (challengeId : Uuid) (requestId : String) :
    Except EnrollmentCoordinatorError EnrollmentCompleteReceipt :=
  match loadIssued store challengeId requestId with
  | .error _ => .error .unavailable
  | .ok (.replay record) => .ok (receipt record true)
  | .ok .conflict => .error .conflict
  | .ok .challengeUnavailable => .error .challengeUnavailable
  | .ok (.issued _) => .error .unavailable

/-- `complete`, reading the tables as they are when the challenge is loaded, when
    the completion transaction runs and when an issued completion is looked up. -/
def complete (atLoad atComplete atReplay : EnrollmentStore) (command : EnrollmentCompleteCommand)
    (now : Instant) (ids : EnrollmentIds) (fresh : Uuid → Uuid) (clock : Instant) :
    Except EnrollmentCoordinatorError EnrollmentCompleteReceipt := do
  match ← coordinator.prepare atLoad command now ids with
  | none => replay atReplay command.challengeId command.requestId
  | some write =>
      match completeEnrollment coordinator.codec atComplete write fresh clock with
      | .error _ => .error .unavailable
      | .ok (.issued record, _) => .ok (receipt record false)
      | .ok (.replay record, _) => .ok (receipt record true)
      | .ok (.conflict, _) => replay atReplay command.challengeId command.requestId
      | .ok (.challengeUnavailable, _) => .error .challengeUnavailable

end EnrollmentCoordinator

end CandyCloud
