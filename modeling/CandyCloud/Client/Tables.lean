import CandyCloud.Primitives
import CandyCloud.Foundation.Fallible
import CandyCloud.Foundation.Table

/-! # Terminal clients

The four tables of the terminal client plane, the requests its repositories accept and the
writes their transactions make.
-/

namespace CandyCloud

open Foundation

inductive ClientControlError where
  | invalidScope
  | invalidDisplayName
  | invalidInstallId
  | invalidClientVersion
  | invalidPublicKey
  | bindingConflict
  | generationConflict
  | invalidTransition
  | notFound
  | invalidRecord
deriving DecidableEq, Repr

inductive ClientProjectionError where
  | invalidScope
  | bindingConflict
  | generationConflict
  | invalidRecord
  | invalidReceipt
deriving DecidableEq, Repr

inductive ClientDeviceStatus where
  | active
  | suspended
  | revoked
deriving DecidableEq, Repr

inductive ClientDeviceKeyStatus where
  | active
  | retired
  | revoked
deriving DecidableEq, Repr

inductive ClientGrantStatus where
  | active
  | revoked
  | expired
deriving DecidableEq, Repr

inductive ClientProjectionStatus where
  | published
  | revoked
  | superseded
deriving DecidableEq, Repr

inductive ClientTrafficMode where
  | policy
  | global
deriving DecidableEq, Repr

inductive ClientPlatform where
  | windows
  | macos
  | android
deriving DecidableEq, Repr

/-- The user in whose name a client device acts. -/
structure ClientScope where
  organizationId : Uuid
  tenantId : Uuid
  userId : Uuid
deriving DecidableEq, Repr

/-- A registered client device. -/
structure ClientDeviceRow where
  id : Uuid
  scope : ClientScope
  deviceId : Uuid
  platform : ClientPlatform
  displayName : String
  installId : String
  requestId : Uuid
  requestHash : Hash
  clientVersion : Option String
  status : ClientDeviceStatus
  trafficMode : ClientTrafficMode
  generation : Nat
deriving DecidableEq, Repr

/-- A key of a client device. -/
structure ClientDeviceKeyRow where
  scope : ClientScope
  clientDeviceId : Uuid
  deviceKeyId : Uuid
  publicKey : Bytes
  status : ClientDeviceKeyStatus
  createdAt : Instant
deriving DecidableEq, Repr

/-- The device key a grant or a projection is addressed to. -/
structure ClientAudience where
  scope : ClientScope
  clientDeviceId : Uuid
  deviceKeyId : Uuid
deriving DecidableEq, Repr

/-- Nanoseconds since the epoch, as the callers supply them. -/
abbrev ClientTime := Nat

/-- A signed grant as it is stored. -/
structure ClientGrantRow where
  id : Uuid
  audience : ClientAudience
  generation : Nat
  requestId : Uuid
  requestHash : Hash
  signingKeyId : String
  grantDigest : Hash
  grantEnvelope : Bytes
  issuedAt : ClientTime
  expiresAt : ClientTime
  assignmentLeaseUntil : Option ClientTime
  status : ClientGrantStatus
deriving DecidableEq, Repr

/-- A signed projection as it is stored. -/
structure ClientProjectionRow where
  id : Uuid
  audience : ClientAudience
  grantId : Uuid
  policyGeneration : Nat
  settingsGeneration : Nat
  deviceTrafficMode : ClientTrafficMode
  generation : Nat
  requestId : Uuid
  requestHash : Hash
  contentHash : Hash
  inputsHash : Hash
  projectionEnvelope : Bytes
  issuedAt : ClientTime
  staleUntil : ClientTime
  status : ClientProjectionStatus
deriving DecidableEq, Repr

/-- The client devices, their keys, grants and projections. -/
structure ClientStore where
  devices : List ClientDeviceRow
  keys : List ClientDeviceKeyRow
  grants : List ClientGrantRow
  projections : List ClientProjectionRow
deriving DecidableEq, Repr

def ClientScope.ids (scope : ClientScope) : List Uuid :=
  [scope.organizationId, scope.tenantId, scope.userId]

def ClientAudience.ids (audience : ClientAudience) : List Uuid :=
  audience.scope.ids ++ [audience.clientDeviceId, audience.deviceKeyId]

def maxGrantGeneration : Nat := 9223372036854775807

def maxProjectionGeneration : Nat := 9223372036854775807

def maxGrantEnvelopeLen : Nat := 1024 * 1024

def maxProjectionEnvelopeLen : Nat := 1024 * 1024

def minDevicePublicKeyLen : Nat := 32

def maxDevicePublicKeyLen : Nat := 64

/-- Truncation to the microseconds of `TIMESTAMP(6)`. -/
def databaseTimestamp (value : ClientTime) : ClientTime := value / 1000 * 1000

/-- A signed grant that is to be stored. -/
structure ClientGrantWrite where
  grantId : Uuid
  audience : ClientAudience
  generation : Nat
  requestId : Uuid
  requestHash : Hash
  signingKeyId : String
  grantEnvelope : Bytes
  issuedAt : ClientTime
  expiresAt : ClientTime
  assignmentLeaseUntil : ClientTime
deriving DecidableEq, Repr

def ClientGrantWrite.validate (grant : ClientGrantWrite) : Except ClientControlError Unit :=
  reject
    ((grant.grantId :: grant.audience.ids ++ [grant.requestId]).any isNil
      || decide (grant.generation = 0)
      || decide (grant.generation > maxGrantGeneration)
      || decide (grant.requestHash = zeroHash)
      || grant.grantEnvelope.isEmpty
      || decide (grant.grantEnvelope.length > maxGrantEnvelopeLen)
      || grant.signingKeyId.isEmpty
      || decide (grant.signingKeyId.utf8ByteSize > 128)
      || decide (grant.expiresAt ≤ grant.issuedAt)
      || decide (grant.assignmentLeaseUntil ≤ grant.issuedAt)
      || decide (grant.assignmentLeaseUntil > grant.expiresAt))
    .invalidRecord

/-- A signed projection that is to be stored. -/
structure ClientProjectionWrite where
  projectionId : Uuid
  audience : ClientAudience
  grantId : Uuid
  policyGeneration : Nat
  settingsGeneration : Nat
  deviceTrafficMode : ClientTrafficMode
  generation : Nat
  requestId : Uuid
  requestHash : Hash
  contentHash : Hash
  inputsHash : Hash
  signingKeyId : String
  projectionEnvelope : Bytes
  issuedAt : ClientTime
  staleUntil : ClientTime
deriving DecidableEq, Repr

def ClientProjectionWrite.validate (projection : ClientProjectionWrite) :
    Except ClientProjectionError Unit :=
  reject
    ((projection.projectionId :: projection.audience.ids
        ++ [projection.grantId, projection.requestId]).any isNil
      || decide (projection.generation = 0)
      || decide (projection.generation > maxProjectionGeneration)
      || decide (projection.policyGeneration = 0)
      || decide (projection.settingsGeneration = 0)
      || decide (projection.requestHash = zeroHash)
      || decide (projection.contentHash = zeroHash)
      || decide (projection.inputsHash = zeroHash)
      || projection.signingKeyId.isEmpty
      || decide (projection.signingKeyId.utf8ByteSize > 128)
      || projection.projectionEnvelope.isEmpty
      || decide (projection.projectionEnvelope.length > maxProjectionEnvelopeLen)
      || decide (projection.staleUntil ≤ projection.issuedAt))
    .invalidRecord

/-- The arguments of `revoke_device`. -/
structure ClientDeviceRevocation where
  scope : ClientScope
  deviceId : Uuid
  deviceKeyId : Uuid
deriving DecidableEq, Repr

def ClientDeviceRevocation.validate (revocation : ClientDeviceRevocation) :
    Except ClientControlError Unit :=
  reject ((revocation.scope.ids ++ [revocation.deviceId, revocation.deviceKeyId]).any isNil)
    .invalidScope

structure SetDeviceStatus where
  organizationId : Uuid
  tenantId : Uuid
  deviceId : Uuid
  newStatus : ClientDeviceStatus
deriving DecidableEq, Repr

def SetDeviceStatus.validate (scope : SetDeviceStatus) : Except ClientControlError Unit :=
  reject ([scope.organizationId, scope.tenantId, scope.deviceId].any isNil) .invalidScope

structure ClientDeviceKeyRotation where
  organizationId : Uuid
  tenantId : Uuid
  deviceId : Uuid
  deviceKeyId : Uuid
  publicKey : Bytes
deriving DecidableEq, Repr

def ClientDeviceKeyRotation.validate (rotation : ClientDeviceKeyRotation) :
    Except ClientControlError Unit := do
  reject ([rotation.organizationId, rotation.tenantId, rotation.deviceId,
    rotation.deviceKeyId].any isNil) .invalidScope
  reject
    (decide (rotation.publicKey.length < minDevicePublicKeyLen)
      || decide (rotation.publicKey.length > maxDevicePublicKeyLen)
      || rotation.publicKey.all (fun byte => byte == 0))
    .invalidPublicKey

def ClientDeviceStatus.isTerminal : ClientDeviceStatus → Bool
  | .revoked => true
  | _ => false

def planDeviceStatusChange (current requested : ClientDeviceStatus) :
    Except ClientControlError (Option ClientDeviceStatus) :=
  if current.isTerminal || requested.isTerminal then .error .invalidTransition
  else if current = requested then .ok none
  else .ok (some requested)

def planDeviceKeyRotation (current : ClientDeviceStatus) (deviceKeyIdExists : Bool) :
    Except ClientControlError Unit := do
  reject (decide (current ≠ .active)) .invalidTransition
  reject deviceKeyIdExists .bindingConflict

namespace ClientStore

/-- The device row of an audience, in the given state. -/
def deviceIs (store : ClientStore) (status : ClientDeviceStatus) (audience : ClientAudience) :
    Bool :=
  store.devices.any fun device =>
    decide (device.id = audience.clientDeviceId) && decide (device.scope = audience.scope) &&
      decide (device.status = status)

def keyActive (store : ClientStore) (audience : ClientAudience) : Bool :=
  store.keys.any fun key =>
    decide (key.clientDeviceId = audience.clientDeviceId) &&
      decide (key.scope = audience.scope) && decide (key.deviceKeyId = audience.deviceKeyId) &&
      decide (key.status = .active)

def grantActive (store : ClientStore) (grantId : Uuid) (audience : ClientAudience) : Bool :=
  store.grants.any fun grant =>
    decide (grant.id = grantId) && decide (grant.audience = audience) &&
      decide (grant.status = .active)

def managedDevice (store : ClientStore) (organizationId tenantId deviceId : Uuid) :
    Option ClientDeviceRow :=
  store.devices.find? fun device =>
    decide (device.scope.organizationId = organizationId) &&
      decide (device.scope.tenantId = tenantId) && decide (device.deviceId = deviceId)

def keyIdExists (store : ClientStore) (tenantId deviceKeyId : Uuid) : Bool :=
  store.keys.any fun key =>
    decide (key.scope.tenantId = tenantId) && decide (key.deviceKeyId = deviceKeyId)

/-- `ORDER BY created_at DESC, device_key_id DESC LIMIT 1`. -/
def newestKey (keys : List ClientDeviceKeyRow) : Option ClientDeviceKeyRow :=
  keys.foldl
    (fun best key =>
      match best with
      | none => some key
      | some best =>
          if best.createdAt < key.createdAt ∨
              (best.createdAt = key.createdAt ∧ best.deviceKeyId < key.deviceKeyId) then some key
          else some best)
    none

def previousKey (store : ClientStore) (recordId organizationId tenantId : Uuid) :
    Option ClientDeviceKeyRow :=
  newestKey (store.keys.filter fun key =>
    decide (key.clientDeviceId = recordId) && decide (key.scope.organizationId = organizationId) &&
      decide (key.scope.tenantId = tenantId) && decide (key.status = .active))

def grantRequest (store : ClientStore) (tenantId clientDeviceId requestId : Uuid) :
    Option ClientGrantRow :=
  store.grants.find? fun grant =>
    decide (grant.audience.scope.tenantId = tenantId) &&
      decide (grant.audience.clientDeviceId = clientDeviceId) &&
      decide (grant.requestId = requestId)

def projectionRequest (store : ClientStore) (tenantId clientDeviceId requestId : Uuid) :
    Option ClientProjectionRow :=
  store.projections.find? fun projection =>
    decide (projection.audience.scope.tenantId = tenantId) &&
      decide (projection.audience.clientDeviceId = clientDeviceId) &&
      decide (projection.requestId = requestId)

/-- `MAX(generation)` of the device's grants, zero when there is none. -/
def grantGeneration (store : ClientStore) (tenantId clientDeviceId : Uuid) : Nat :=
  (store.grants.filter fun grant =>
    decide (grant.audience.scope.tenantId = tenantId) &&
      decide (grant.audience.clientDeviceId = clientDeviceId)).foldl
    (fun highest grant => max highest grant.generation) 0

def projectionGeneration (store : ClientStore) (tenantId clientDeviceId : Uuid) : Nat :=
  (store.projections.filter fun projection =>
    decide (projection.audience.scope.tenantId = tenantId) &&
      decide (projection.audience.clientDeviceId = clientDeviceId)).foldl
    (fun highest projection => max highest projection.generation) 0

end ClientStore

/-- The device rows a lifecycle statement reaches: those of one user, or of the
    whole tenant for the management plane. -/
structure ClientReach where
  recordId : Uuid
  organizationId : Uuid
  tenantId : Uuid
  userId : Option Uuid
deriving DecidableEq, Repr

def ClientReach.covers (reach : ClientReach) (clientDeviceId : Uuid) (scope : ClientScope) : Bool :=
  decide (clientDeviceId = reach.recordId) && decide (scope.organizationId = reach.organizationId) &&
    decide (scope.tenantId = reach.tenantId) &&
    reach.userId.all (fun userId => decide (scope.userId = userId))

/-- The statements that change the client tables. -/
inductive ClientWrite where
  | setDeviceStatus (reach : ClientReach) (status : ClientDeviceStatus)
  | revokeKeys (reach : ClientReach)
  | retireKey (reach : ClientReach) (deviceKeyId : Uuid)
  | insertKey (row : ClientDeviceKeyRow)
  | revokeGrants (reach : ClientReach)
  | insertGrant (row : ClientGrantRow)
  | revokeProjections (reach : ClientReach) (deviceKeyId : Option Uuid)
  | supersedeProjections (tenantId clientDeviceId : Uuid)
  | insertProjection (row : ClientProjectionRow)
deriving DecidableEq, Repr

def ClientReach.liveGrant (reach : ClientReach) (grant : ClientGrantRow) : Bool :=
  reach.covers grant.audience.clientDeviceId grant.audience.scope && decide (grant.status = .active)

def ClientReach.liveProjection (reach : ClientReach) (deviceKeyId : Option Uuid)
    (projection : ClientProjectionRow) : Bool :=
  reach.covers projection.audience.clientDeviceId projection.audience.scope &&
    deviceKeyId.all (fun key => decide (projection.audience.deviceKeyId = key)) &&
    decide (projection.status = .published)

def ClientStore.apply (store : ClientStore) : ClientWrite → ClientStore
  | .setDeviceStatus reach status =>
      { store with
        devices := updateWhere (fun device => reach.covers device.id device.scope)
          (fun device => { device with status := status }) store.devices }
  | .revokeKeys reach =>
      { store with
        keys := updateWhere
          (fun key => reach.covers key.clientDeviceId key.scope &&
            (decide (key.status = .active) || decide (key.status = .retired)))
          (fun key => { key with status := .revoked }) store.keys }
  | .retireKey reach deviceKeyId =>
      { store with
        keys := updateWhere
          (fun key => reach.covers key.clientDeviceId key.scope &&
            decide (key.deviceKeyId = deviceKeyId) && decide (key.status = .active))
          (fun key => { key with status := .retired }) store.keys }
  | .insertKey row => { store with keys := store.keys ++ [row] }
  | .revokeGrants reach =>
      { store with
        grants := updateWhere reach.liveGrant (fun grant => { grant with status := .revoked })
          store.grants }
  | .insertGrant row => { store with grants := store.grants ++ [row] }
  | .revokeProjections reach deviceKeyId =>
      { store with
        projections := updateWhere (reach.liveProjection deviceKeyId)
          (fun projection => { projection with status := .revoked }) store.projections }
  | .supersedeProjections tenantId clientDeviceId =>
      { store with
        projections := updateWhere
          (fun projection => decide (projection.audience.scope.tenantId = tenantId) &&
            decide (projection.audience.clientDeviceId = clientDeviceId) &&
            decide (projection.status = .published))
          (fun projection => { projection with status := .superseded }) store.projections }
  | .insertProjection row => { store with projections := store.projections ++ [row] }

end CandyCloud
