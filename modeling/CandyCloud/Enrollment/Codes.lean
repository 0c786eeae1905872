import CandyCloud.Enrollment.Tables

/-! # Activation codes

`EnrollmentRepository`: a code is created for a tenant, exchanged by an
installer or presented directly, listed and revoked. Every function is one
transaction; it returns its answer together with the tables after it, and a
transaction that fails or rolls back leaves the tables as they were.
-/

namespace CandyCloud

open Foundation

structure ActivationCodeWrite where
  id : Uuid
  organizationId : Uuid
  tenantId : Uuid
  siteId : Option Uuid
  requestedDisplayName : Option String
  requestedPlatform : Option String
  requestedArchitecture : Option String
  replaceNodeId : Option Uuid
  codeHash : Hash
  expiresAt : Instant
  createdBy : String
deriving DecidableEq, Repr

inductive ActivationCodeOutcome where
  | inserted
  | conflict
deriving DecidableEq, Repr

def architectureByte (byte : UInt8) : Bool :=
  asciiAlphanumeric byte || byte == 95 || byte == 45 || byte == 46

def ActivationCodeWrite.validate (write : ActivationCodeWrite) (clock : Instant) :
    Except RepositoryError Unit :=
  reject (isNil write.id || isNil write.organizationId || isNil write.tenantId ||
    write.codeHash == zeroHash || !bounded write.createdBy 120 ||
    decide (write.expiresAt ≤ clock) ||
    (write.requestedDisplayName.any fun value => !bounded value 200) ||
    (write.requestedPlatform.any fun value => !(["OPEN_WRT", "LINUX"].contains value)) ||
    (write.requestedArchitecture.any fun value =>
      !bounded value 80 || !(utf8 value).all architectureByte) ||
    write.siteId.isSome != write.requestedDisplayName.isSome ||
    write.siteId.isSome != write.requestedPlatform.isSome ||
    write.siteId.isSome != write.requestedArchitecture.isSome) .invalidActivationScope

def ActivationCodeWrite.row (write : ActivationCodeWrite) (clock : Instant) : ActivationCodeRow :=
  { id := write.id
    organizationId := write.organizationId
    tenantId := write.tenantId
    siteId := write.siteId
    requestedDisplayName := write.requestedDisplayName
    requestedPlatform := write.requestedPlatform
    requestedArchitecture := write.requestedArchitecture
    replaceNodeId := write.replaceNodeId
    bootstrapInstanceId := none
    bootstrapReservedAt := none
    enrollmentCredentialHash := none
    codeHash := write.codeHash
    status := .active
    expiresAt := write.expiresAt
    reservedAt := none
    consumedAt := none
    createdBy := write.createdBy
    createdAt := clock }

def EnrollmentStore.activeResource (store : EnrollmentStore) (tenantId : Uuid) (kind : ResourceKind)
    (id : Uuid) : Bool :=
  store.cloud.control.resources.any fun row => row.at tenantId kind id && row.state == .active

/-- `status = 'REVOKED' WHERE … AND status IN ('ACTIVE','RESERVED')`. -/
def EnrollmentStore.revokeCodes (store : EnrollmentStore) (selected : ActivationCodeRow → Bool) :
    EnrollmentStore :=
  store.updateCodes (fun row => selected row && row.status.open_)
    fun row => { row with status := .revoked }

/-- A new code for a node replaces the codes it has. -/
def ActivationCodeWrite.supersede (write : ActivationCodeWrite) (store : EnrollmentStore) :
    Except RepositoryError EnrollmentStore :=
  match write.replaceNodeId with
  | none => .ok store
  | some nodeId => do
      reject (!store.activeResource write.tenantId .node nodeId || write.siteId.isNone)
        .invalidActivationScope
      return store.revokeCodes fun row =>
        row.tenantId == write.tenantId && row.replaceNodeId == some nodeId

def insertActivationCode (store : EnrollmentStore) (write : ActivationCodeWrite)
    (clock : Instant) : Except RepositoryError (ActivationCodeOutcome × EnrollmentStore) := do
  write.validate clock
  let tenant := store.topology.tenants.find? fun tenant => tenant.id == write.tenantId
  reject (tenant.map (·.organizationId) != some write.organizationId) .invalidActivationScope
  reject (write.siteId.any fun siteId => !store.activeResource write.tenantId .site siteId)
    .invalidActivationScope
  let superseded ← write.supersede store
  match insertRow ActivationCodeRow.conflict superseded.codes (write.row clock) with
  | none => return (.conflict, store)
  | some codes =>
      return (.inserted, EnrollmentStore.audited { superseded with codes }
        { organizationId := write.organizationId
          tenantId := write.tenantId
          actorType := .user
          actorId := write.createdBy
          action := "ENROLLMENT_ACTIVATION_CREATED"
          objectType := "ENROLLMENT_ACTIVATION"
          objectId := write.id
          metadata := .expiresAt write.expiresAt })

structure BootstrapExchangeWrite where
  installationInstanceId : String
  enrollmentCredentialHash : Hash
deriving DecidableEq, Repr

inductive BootstrapManifestOutcome where
  | issued
  | replay
  | unavailable
  | conflict
deriving DecidableEq, Repr

structure BootstrapManifestRecord where
  activationId : Uuid
  tenantId : Uuid
  siteId : Uuid
  displayName : String
  platform : String
  architecture : String
  expiresAt : Instant
  replayed : Bool
deriving DecidableEq, Repr

/-- The bytes `b"._:-"` and the ASCII letters and digits. -/
def installationInstanceByte (byte : UInt8) : Bool :=
  asciiAlphanumeric byte || byte == 46 || byte == 95 || byte == 58 || byte == 45

def BootstrapExchangeWrite.validate (write : BootstrapExchangeWrite) (codeHash : Hash) :
    Except RepositoryError Unit :=
  reject (codeHash == zeroHash || !bounded write.installationInstanceId 120 ||
    !(utf8 write.installationInstanceId).all installationInstanceByte ||
    write.enrollmentCredentialHash == zeroHash) .invalidActivationScope

/-- The manifest of a code that was created for a site. -/
def ActivationCodeRow.manifest (row : ActivationCodeRow) : Option BootstrapManifestRecord := do
  let siteId ← row.siteId
  let displayName ← row.requestedDisplayName
  let platform ← row.requestedPlatform
  let architecture ← row.requestedArchitecture
  return { activationId := row.id, tenantId := row.tenantId, siteId, displayName, platform,
           architecture, expiresAt := row.expiresAt, replayed := row.bootstrapInstanceId.isSome }

/-- The conditional `UPDATE` that binds a code to an installation. -/
def EnrollmentStore.bindInstallation (store : EnrollmentStore) (id : Uuid)
    (write : BootstrapExchangeWrite) (now : Instant) : EnrollmentStore :=
  store.updateCodes (fun row => row.id == id && row.status == .active) fun row =>
    { row with
      bootstrapInstanceId := some write.installationInstanceId
      bootstrapReservedAt := some now
      enrollmentCredentialHash := some write.enrollmentCredentialHash
      status := .reserved
      reservedAt := row.reservedAt.or (some now) }

def exchangeBootstrapCode (store : EnrollmentStore) (codeHash : Hash)
    (write : BootstrapExchangeWrite) (now : Instant) :
    Except RepositoryError
      ((BootstrapManifestOutcome × Option BootstrapManifestRecord) × EnrollmentStore) := do
  write.validate codeHash
  match store.code codeHash with
  | none => return ((.unavailable, none), store)
  | some row =>
      match row.manifest with
      | none => return ((.unavailable, none), store)
      | some record =>
          if row.expiresAt ≤ now || !row.status.open_ then
            return ((.unavailable, none), store)
          else match row.bootstrapInstanceId with
            | some existing =>
                if existing != write.installationInstanceId ||
                    row.enrollmentCredentialHash != some write.enrollmentCredentialHash then
                  return ((.conflict, none), store)
                else return ((.replay, some record), store)
            -- the number of rows the update changed is not looked at
            | none => return ((.issued, some record), store.bindInstallation row.id write now)

structure EnrollmentChallengeWrite where
  id : Uuid
  requestId : String
  requestFingerprint : Hash
  enrollmentInstanceId : String
  displayName : String
  rootPublicKey : Hash
  operationalPublicKey : Hash
  metadataHash : Hash
  attestationHash : Hash
  serverNonce : Hash
  assuranceLevel : Nat
  expiresAt : Instant
deriving DecidableEq, Repr

structure EnrollmentChallengeRecord where
  id : Uuid
  activationCodeId : Uuid
  organizationId : Uuid
  tenantId : Uuid
  requestId : String
  requestFingerprint : Hash
  operationalPublicKey : Hash
  serverNonce : Hash
  status : EnrollmentChallengeStatus
  expiresAt : Instant
deriving DecidableEq, Repr

inductive ChallengeCreationOutcome where
  | created (record : EnrollmentChallengeRecord)
  | replay (record : EnrollmentChallengeRecord)
  | conflict
  | activationUnavailable
deriving DecidableEq, Repr

def EnrollmentChallengeWrite.validate (write : EnrollmentChallengeWrite) (now : Instant) :
    Except RepositoryError Unit :=
  reject (isNil write.id || !bounded write.requestId 120 ||
    !bounded write.enrollmentInstanceId 120 || !bounded write.displayName 200 ||
    write.requestFingerprint == zeroHash || write.serverNonce == zeroHash ||
    decide (write.expiresAt ≤ now)) .invalidChallengeScope

/-- `challenge_from_row`. -/
def EnrollmentChallengeRow.record (row : EnrollmentChallengeRow) : EnrollmentChallengeRecord :=
  { id := row.id
    activationCodeId := row.activationCodeId
    organizationId := row.organizationId
    tenantId := row.tenantId
    requestId := row.requestId
    requestFingerprint := row.requestFingerprint
    operationalPublicKey := row.operationalPublicKey
    serverNonce := row.serverNonce
    status := row.status
    expiresAt := row.expiresAt }

def classifyExistingChallenge (record : EnrollmentChallengeRecord)
    (activation : ActivationCodeRow) (write : EnrollmentChallengeWrite) (now : Instant) :
    ChallengeCreationOutcome :=
  if record.activationCodeId != activation.id || activation.status != .reserved ||
      decide (activation.expiresAt ≤ now) || record.status != .challenged ||
      decide (record.expiresAt ≤ now) then .activationUnavailable
  else if record.requestFingerprint == write.requestFingerprint then .replay record
  else .conflict

/-- The `WHERE` clause a presented credential is looked up with. -/
def ActivationCodeRow.presents (row : ActivationCodeRow) (credentialHash : Hash) : Bool :=
  match row.bootstrapInstanceId with
  | none => row.codeHash == credentialHash
  | some _ => row.enrollmentCredentialHash == some credentialHash

/-- The row the database returns for a presented credential; `scan` picks one
    when several rows match. -/
def EnrollmentStore.presented (store : EnrollmentStore) (credentialHash : Hash) (scan : Nat) :
    Option ActivationCodeRow :=
  let rows := store.codes.filter fun row => row.presents credentialHash
  rows[scan]?.or rows.head?

/-- The challenge of the tenant with the given request. -/
def EnrollmentStore.challengeRequest (store : EnrollmentStore) (codec : EnrollmentCodec)
    (tenantId : Uuid) (requestId : String) : Option EnrollmentChallengeRow :=
  store.challenges.find? fun row =>
    row.tenantId == tenantId && codec.collate row.requestId == codec.collate requestId

/-- A code that was exchanged can be presented while it is `RESERVED`, by the
    installation it is bound to; any other while it is `ACTIVE`. -/
def ActivationCodeRow.usableBy (row : ActivationCodeRow) (write : EnrollmentChallengeWrite)
    (now : Instant) : Bool :=
  (match row.bootstrapInstanceId with
    | some bound => row.status == .reserved && bound == write.enrollmentInstanceId
    | none => row.status == .active) && decide (now < row.expiresAt)

def EnrollmentChallengeWrite.row (write : EnrollmentChallengeWrite)
    (activation : ActivationCodeRow) : EnrollmentChallengeRow :=
  { id := write.id
    activationCodeId := activation.id
    organizationId := activation.organizationId
    tenantId := activation.tenantId
    requestId := write.requestId
    requestFingerprint := write.requestFingerprint
    enrollmentInstanceId := write.enrollmentInstanceId
    displayName := write.displayName
    rootPublicKey := write.rootPublicKey
    operationalPublicKey := write.operationalPublicKey
    metadataHash := write.metadataHash
    attestationHash := write.attestationHash
    serverNonce := write.serverNonce
    assuranceLevel := write.assuranceLevel
    status := .challenged
    expiresAt := min write.expiresAt activation.expiresAt
    provedAt := none
    issuedAt := none
    completionRequestId := none
    completionFingerprint := none
    deviceId := none
    certificateId := none }

/-- The code behind a challenge is `RESERVED`. -/
def EnrollmentStore.reserveCode (store : EnrollmentStore) (id : Uuid) (now : Instant) :
    EnrollmentStore :=
  store.updateCodes (fun row => row.id == id && row.status.open_) fun row =>
    { row with status := .reserved, reservedAt := row.reservedAt.or (some now) }

def reserveChallenge (codec : EnrollmentCodec) (store : EnrollmentStore) (credentialHash : Hash)
    (write : EnrollmentChallengeWrite) (now : Instant) (scan : Nat) :
    Except RepositoryError (ChallengeCreationOutcome × EnrollmentStore) := do
  write.validate now
  reject (credentialHash == zeroHash) .invalidChallengeScope
  match store.presented credentialHash scan with
  | none => return (.activationUnavailable, store)
  | some activation =>
      match store.challengeRequest codec activation.tenantId write.requestId with
      | some existing =>
          return (classifyExistingChallenge existing.record activation write now, store)
      | none =>
          let row := write.row activation
          if !activation.usableBy write now then return (.activationUnavailable, store)
          else match insertRow (EnrollmentChallengeRow.conflict codec) store.challenges row with
            -- a violated key, and the request is not there to be replayed either
            | none => return (.activationUnavailable, store)
            | some challenges =>
                let reserved := EnrollmentStore.reserveCode { store with challenges }
                  activation.id now
                return (.created row.record, reserved.audited
                  { organizationId := activation.organizationId
                    tenantId := activation.tenantId
                    actorType := .device
                    actorId := write.enrollmentInstanceId
                    action := "ENROLLMENT_CHALLENGE_CREATED"
                    objectType := "ENROLLMENT_CHALLENGE"
                    objectId := write.id
                    metadata := .status "CHALLENGED" })

structure ActivationCodeRecord where
  id : Uuid
  tenantId : Uuid
  siteId : Option Uuid
  requestedDisplayName : Option String
  requestedPlatform : Option String
  requestedArchitecture : Option String
  status : ActivationStatus
  expiresAt : Instant
  createdAt : Instant
  reservedAt : Option Instant
  consumedAt : Option Instant
  displayName : Option String
  deviceId : Option Uuid
  deviceKeyId : Option Uuid
  replaceNodeId : Option Uuid
deriving DecidableEq, Repr

/-- The challenges and codes of the tenant that are past their time. -/
def EnrollmentStore.expire (store : EnrollmentStore) (tenantId : Uuid) (now : Instant) :
    EnrollmentStore :=
  (store.updateChallenges (fun row => row.tenantId == tenantId &&
      (row.status == .pending || row.status == .challenged) && decide (row.expiresAt ≤ now))
    fun row => { row with status := .expired }).updateCodes
      (fun row => row.tenantId == tenantId && row.status.open_ && decide (row.expiresAt ≤ now))
    fun row => { row with status := .expired }

/-- `LEFT JOIN` with the code's challenge and its certificate. -/
def EnrollmentStore.activationRecord (store : EnrollmentStore) (row : ActivationCodeRow) :
    ActivationCodeRecord :=
  let challenge := store.challenges.find? fun challenge => challenge.activationCodeId == row.id
  let certificate := (challenge.bind (·.certificateId)).bind fun id =>
    store.certificates.find? fun certificate => certificate.id == id
  { id := row.id
    tenantId := row.tenantId
    siteId := row.siteId
    requestedDisplayName := row.requestedDisplayName
    requestedPlatform := row.requestedPlatform
    requestedArchitecture := row.requestedArchitecture
    status := row.status
    expiresAt := row.expiresAt
    createdAt := row.createdAt
    reservedAt := row.reservedAt
    consumedAt := row.consumedAt
    displayName := (challenge.map (·.displayName)).or row.requestedDisplayName
    deviceId := challenge.bind (·.deviceId)
    deviceKeyId := certificate.map (·.deviceKeyId)
    replaceNodeId := row.replaceNodeId }

/-- `ORDER BY ac.created_at DESC, ac.id DESC`. -/
def newestCodeFirst (a b : ActivationCodeRow) : Bool :=
  decide (b.createdAt < a.createdAt) || (a.createdAt == b.createdAt && decide (b.id ≤ a.id))

def listActivationCodes (store : EnrollmentStore) (tenantId : Uuid) (now : Instant) :
    Except RepositoryError (List ActivationCodeRecord × EnrollmentStore) := do
  reject (isNil tenantId) .invalidActivationScope
  let expired := store.expire tenantId now
  let rows := (expired.codes.filter fun row => row.tenantId == tenantId).insertionSort
    fun a b => newestCodeFirst a b = true
  return ((rows.take 100).map expired.activationRecord, expired)

def revokeActivationCode (store : EnrollmentStore) (tenantId activationId : Uuid)
    (actorId : String) : Except RepositoryError (Bool × EnrollmentStore) := do
  reject (isNil tenantId || isNil activationId || !bounded actorId 120) .invalidActivationScope
  let selected (row : ActivationCodeRow) : Bool :=
    row.tenantId == tenantId && row.id == activationId
  match store.codes.find? selected with
  | none => return (false, store)
  | some row =>
      if row.status.open_ then
        return (true, (store.revokeCodes selected).audited
          { organizationId := row.organizationId
            tenantId
            actorType := .user
            actorId
            action := "ENROLLMENT_ACTIVATION_REVOKED"
            objectType := "ENROLLMENT_ACTIVATION"
            objectId := activationId
            metadata := .status "REVOKED" })
      else return (false, store)

end CandyCloud
