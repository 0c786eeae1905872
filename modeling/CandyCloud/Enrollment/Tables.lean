import CandyCloud.Control.Transport

/-! # Enrollment tables

Activation codes, enrollment challenges and device certificates with the unique
keys of their migrations. The columns of `devices` and `device_keys` that only
enrollment reads are kept beside the rows of the topology, under the same
identifiers. A device identity is stored as the text of a UUID and is kept here
as that UUID; audit identifiers are random and left out.
-/

namespace CandyCloud

open Foundation

inductive RepositoryError where
  | database
  | invalidActivationScope
  | invalidChallengeScope
  | invalidCompletionScope
  | invalidCompletionRecord
deriving DecidableEq, Repr

inductive ActivationStatus where
  | active
  | reserved
  | consumed
  | revoked
  | expired
deriving DecidableEq, Repr

inductive EnrollmentChallengeStatus where
  | pending
  | challenged
  | proved
  | issued
  | expired
deriving DecidableEq, Repr

inductive CertificateStatus where
  | active
  | revoked
  | expired
  | superseded
deriving DecidableEq, Repr

/-- A code that lets one device enroll. -/
structure ActivationCodeRow where
  id : Uuid
  organizationId : Uuid
  tenantId : Uuid
  siteId : Option Uuid
  requestedDisplayName : Option String
  requestedPlatform : Option String
  requestedArchitecture : Option String
  replaceNodeId : Option Uuid
  bootstrapInstanceId : Option String
  bootstrapReservedAt : Option Instant
  enrollmentCredentialHash : Option Hash
  codeHash : Hash
  status : ActivationStatus
  expiresAt : Instant
  reservedAt : Option Instant
  consumedAt : Option Instant
  createdBy : String
  createdAt : Instant
deriving DecidableEq, Repr

/-- An enrollment that a code was spent on. -/
structure EnrollmentChallengeRow where
  id : Uuid
  activationCodeId : Uuid
  organizationId : Uuid
  tenantId : Uuid
  requestId : String
  requestFingerprint : Hash
  enrollmentInstanceId : String
  displayName : String
  rootPublicKey : Hash
  operationalPublicKey : Hash
  metadataHash : Hash
  attestationHash : Hash
  serverNonce : Hash
  assuranceLevel : Nat
  status : EnrollmentChallengeStatus
  expiresAt : Instant
  provedAt : Option Instant
  issuedAt : Option Instant
  completionRequestId : Option String
  completionFingerprint : Option Hash
  deviceId : Option Uuid
  certificateId : Option Uuid
deriving DecidableEq, Repr

/-- A certificate of a device. -/
structure DeviceCertificateRow where
  id : Uuid
  organizationId : Uuid
  tenantId : Uuid
  deviceId : Uuid
  deviceKeyId : Uuid
  issuerKeyId : String
  serialNumber : BitVec 128
  certificateDer : Bytes
  certificateChainPem : String
  sanUri : String
  environment : String
  assuranceLevel : Nat
  notBefore : Instant
  notAfter : Instant
  status : CertificateStatus
  revokedAt : Option Instant
deriving DecidableEq, Repr

structure DeviceIdentityRow where
  id : Uuid
  deviceId : Uuid
deriving DecidableEq, Repr

/-- The columns of `device_keys` beside its owner and status. -/
structure KeyMaterialRow where
  id : Uuid
  keyId : String
  publicKey : Hash
  assuranceLevel : Nat
deriving DecidableEq, Repr

inductive EnrollmentActor where
  | user
  | device
deriving DecidableEq, Repr

inductive EnrollmentAuditMetadata where
  | expiresAt (instant : Instant)
  | status (value : String)
deriving DecidableEq, Repr

structure EnrollmentAuditRow where
  organizationId : Uuid
  tenantId : Uuid
  actorType : EnrollmentActor
  actorId : String
  action : String
  objectType : String
  objectId : Uuid
  metadata : EnrollmentAuditMetadata
deriving DecidableEq, Repr

/-- The tables of enrollment. -/
structure EnrollmentStore where
  cloud : Cloud
  identities : List DeviceIdentityRow
  keyMaterials : List KeyMaterialRow
  codes : List ActivationCodeRow
  challenges : List EnrollmentChallengeRow
  certificates : List DeviceCertificateRow
  audits : List EnrollmentAuditRow
deriving DecidableEq, Repr

/-- SHA-256 and the sort key of the database's collation. -/
structure EnrollmentCodec where
  sha256 : Bytes → Hash
  collate : String → List Nat

/-- Primary key and `uq_enrollment_activation_code_hash`. -/
def ActivationCodeRow.conflict (a b : ActivationCodeRow) : Bool :=
  a.id == b.id || a.codeHash == b.codeHash

/-- Primary key, `uq_enrollment_challenge_request` and
    `uq_enrollment_challenge_activation`; a fresh row has no completion. -/
def EnrollmentChallengeRow.conflict (codec : EnrollmentCodec) (a b : EnrollmentChallengeRow) :
    Bool :=
  a.id == b.id || a.activationCodeId == b.activationCodeId ||
    (a.tenantId == b.tenantId && codec.collate a.requestId == codec.collate b.requestId)

/-- Primary key and `uq_device_certificate_serial`. -/
def DeviceCertificateRow.conflict (codec : EnrollmentCodec) (a b : DeviceCertificateRow) : Bool :=
  a.id == b.id ||
    (codec.collate a.issuerKeyId == codec.collate b.issuerKeyId && a.serialNumber == b.serialNumber)

/-- `uq_devices_device_id`. -/
def DeviceIdentityRow.conflict (a b : DeviceIdentityRow) : Bool :=
  a.id == b.id || a.deviceId == b.deviceId

/-- `uq_device_keys_key_id`. -/
def KeyMaterialRow.conflict (codec : EnrollmentCodec) (a b : KeyMaterialRow) : Bool :=
  a.id == b.id || codec.collate a.keyId == codec.collate b.keyId

def ActivationStatus.open_ : ActivationStatus → Bool
  | .active | .reserved => true
  | .consumed | .revoked | .expired => false

/-- The challenge was completed under the given request. -/
def EnrollmentChallengeRow.completedAs (codec : EnrollmentCodec) (row : EnrollmentChallengeRow)
    (tenantId : Uuid) (completionRequestId : String) : Bool :=
  row.tenantId == tenantId && row.completionRequestId.any fun id =>
    codec.collate id == codec.collate completionRequestId

namespace EnrollmentStore

variable (store : EnrollmentStore)

def code (codeHash : Hash) : Option ActivationCodeRow :=
  store.codes.find? fun row => row.codeHash == codeHash

def challenge (id : Uuid) : Option EnrollmentChallengeRow :=
  store.challenges.find? fun row => row.id == id

/-- `enrollment_challenges ec JOIN enrollment_activation_codes ac ON ac.id =
    ec.activation_code_id WHERE ec.id = ?`. -/
def challengeWithCode (id : Uuid) : Option (EnrollmentChallengeRow × ActivationCodeRow) := do
  let challenge ← store.challenge id
  let code ← store.codes.find? fun row => row.id == challenge.activationCodeId
  return (challenge, code)

def audited (row : EnrollmentAuditRow) : EnrollmentStore :=
  { store with audits := store.audits ++ [row] }

def updateCodes (selected : ActivationCodeRow → Bool)
    (set : ActivationCodeRow → ActivationCodeRow) : EnrollmentStore :=
  { store with codes := updateWhere selected set store.codes }

def updateChallenges (selected : EnrollmentChallengeRow → Bool)
    (set : EnrollmentChallengeRow → EnrollmentChallengeRow) : EnrollmentStore :=
  { store with challenges := updateWhere selected set store.challenges }

def topology : Topology := store.cloud.route.topology

def withTopology (topology : Topology) : EnrollmentStore :=
  { store with cloud :=
    { store.cloud with route := { store.cloud.route with topology } } }

end EnrollmentStore

def bounded (value : String) (limit : Nat) : Bool :=
  !(utf8 value).isEmpty && decide ((utf8 value).length ≤ limit)

/-- `Uuid::get_version_num`. -/
def uuidVersion (id : Uuid) : Nat := (id.extractLsb' 76 4).toNat

end CandyCloud
