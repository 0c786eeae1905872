import CandyCloud.Topology
import CandyCloud.Control.Contract
import CandyCloud.Client.Calls

/-! # Registering and looking up terminal devices

`register_device` binds a public key to the session's user and tenant, and
`device_by_wire_id` resolves the device identifier a client sends. Accounts are
kept by other parts of the system, so a registration carries the accounts as it
found them; the repository calls of the client plane run one after the other.
-/

namespace CandyCloud

open Foundation

structure ClientDeviceRegistration where
  recordId : Uuid
  scope : ClientScope
  deviceId : Uuid
  deviceKeyId : Uuid
  platform : ClientPlatform
  displayName : String
  installId : String
  clientVersion : Option String
  publicKey : Hash
  requestId : Uuid
  actorId : Uuid
deriving DecidableEq, Repr

def maxDisplayNameLen : Nat := 200

def maxInstallIdLen : Nat := 128

def maxClientVersionLen : Nat := 64

/-- The bytes `b"._:-"`. -/
def installIdPunctuation (byte : UInt8) : Bool :=
  byte == 46 || byte == 95 || byte == 58 || byte == 45

def ClientDeviceRegistration.validate (request : ClientDeviceRegistration) :
    Except ClientControlError Unit := do
  reject ((request.recordId :: request.scope.ids ++
    [request.deviceId, request.deviceKeyId, request.requestId, request.actorId]).any isNil)
    .invalidScope
  reject (request.displayName.toList.all isWhitespace ||
    decide (request.displayName.utf8ByteSize > maxDisplayNameLen)) .invalidDisplayName
  reject (decide (request.actorId ≠ request.scope.userId)) .invalidScope
  reject (decide (request.installId.utf8ByteSize < 8) ||
    decide (request.installId.utf8ByteSize > maxInstallIdLen) ||
    !(utf8 request.installId).all fun byte =>
      asciiAlphanumeric byte || installIdPunctuation byte) .invalidInstallId
  reject (request.clientVersion.any fun version =>
    version.isEmpty || decide (version.utf8ByteSize > maxClientVersionLen)) .invalidClientVersion
  reject (decide (request.publicKey = zeroHash)) .invalidPublicKey

def ClientPlatform.databaseValue : ClientPlatform → String
  | .windows => "WINDOWS"
  | .macos => "MACOS"
  | .android => "ANDROID"

/-- A value behind its length as four big-endian bytes. -/
def lengthPrefixed (value : Bytes) : Bytes := bigEndian 4 value.length ++ value

/-- The bytes `request_fingerprint` hashes. -/
def registrationBytes (request : ClientDeviceRegistration) : Bytes :=
  utf8 "candy/terminal-client-registration/v1" ++ [0] ++
    ([uuidBytes request.scope.organizationId, uuidBytes request.scope.tenantId,
      uuidBytes request.scope.userId, uuidBytes request.deviceId, uuidBytes request.deviceKeyId,
      utf8 request.platform.databaseValue, utf8 request.displayName, utf8 request.installId,
      hashBytes request.publicKey].flatMap lengthPrefixed) ++
    (match request.clientVersion with
      | some version => lengthPrefixed (utf8 version)
      | none => bigEndian 4 0)

def requestFingerprint (sha256 : Bytes → Hash) (request : ClientDeviceRegistration) : Hash :=
  sha256 (registrationBytes request)

inductive ClientDeviceRegistrationOutcome where
  | registered (deviceId : Uuid) (replayed : Bool)
  | revoked (deviceId deviceKeyId : Uuid)
deriving DecidableEq, Repr

structure MembershipRow where
  organizationId : Uuid
  userId : Uuid
  active : Bool
deriving DecidableEq, Repr

structure HumanUserRow where
  id : Uuid
  active : Bool
deriving DecidableEq, Repr

/-- The accounts that a client call is checked against. -/
structure Accounts where
  organizations : List OrganizationRow
  tenants : List TenantRow
  users : List HumanUserRow
  memberships : List MembershipRow
deriving DecidableEq, Repr

/-- The organization of an active tenant of which the active user is a member. -/
def Accounts.organizationOf (accounts : Accounts) (tenantId userId : Uuid) : Option Uuid :=
  (accounts.tenants.find? fun tenant =>
    decide (tenant.id = tenantId) && decide (tenant.status = .active) &&
      (accounts.organizations.any fun organization =>
        decide (organization.id = tenant.organizationId) &&
          decide (organization.status = .active)) &&
      (accounts.users.any fun user => decide (user.id = userId) && user.active) &&
      accounts.memberships.any fun membership =>
        decide (membership.organizationId = tenant.organizationId) &&
          decide (membership.userId = userId) && membership.active).map (·.organizationId)

/-- The text columns compare without regard to case; an install identifier is
    ASCII. -/
def sameInstall (a b : String) : Bool := decide (a.toLower = b.toLower)

/-- The unique keys of `client_devices`. -/
def ClientDeviceRow.clashes (new old : ClientDeviceRow) : Bool :=
  decide (new.id = old.id) ||
    decide (new.scope.tenantId = old.scope.tenantId) &&
      (decide (new.deviceId = old.deviceId) || sameInstall new.installId old.installId ||
        decide (new.scope.userId = old.scope.userId) && decide (new.requestId = old.requestId))

/-- The unique key of `client_device_keys` that does not contain the record. -/
def ClientDeviceKeyRow.clashes (new old : ClientDeviceKeyRow) : Bool :=
  decide (new.scope.tenantId = old.scope.tenantId) && decide (new.deviceKeyId = old.deviceKeyId)

def ClientDeviceRegistration.deviceRow (sha256 : Bytes → Hash)
    (request : ClientDeviceRegistration) : ClientDeviceRow where
  id := request.recordId
  scope := request.scope
  deviceId := request.deviceId
  platform := request.platform
  displayName := request.displayName
  installId := request.installId
  requestId := request.requestId
  requestHash := requestFingerprint sha256 request
  clientVersion := request.clientVersion
  status := .active
  trafficMode := .policy
  generation := 1

def ClientDeviceRegistration.keyRow (request : ClientDeviceRegistration) (clock : Instant) :
    ClientDeviceKeyRow where
  scope := request.scope
  clientDeviceId := request.recordId
  deviceKeyId := request.deviceKeyId
  publicKey := hashBytes request.publicKey
  status := .active
  createdAt := clock

namespace ClientStore

def registrationRequest (store : ClientStore) (tenantId userId requestId : Uuid) :
    Option ClientDeviceRow :=
  store.devices.find? fun device =>
    decide (device.scope.tenantId = tenantId) && decide (device.scope.userId = userId) &&
      decide (device.requestId = requestId)

def tenantDevice (store : ClientStore) (tenantId deviceId : Uuid) : Option ClientDeviceRow :=
  store.devices.find? fun device =>
    decide (device.scope.tenantId = tenantId) && decide (device.deviceId = deviceId)

def latestKeyOf (store : ClientStore) (recordId : Uuid) : Option ClientDeviceKeyRow :=
  newestKey (store.keys.filter fun key => decide (key.clientDeviceId = recordId))

def installTaken (store : ClientStore) (tenantId : Uuid) (installId : String) : Bool :=
  store.devices.any fun device =>
    decide (device.scope.tenantId = tenantId) && sameInstall device.installId installId

end ClientStore

def insertDevice (sha256 : Bytes → Hash) (clock : Instant) (store : ClientStore)
    (request : ClientDeviceRegistration) : Except ClientControlError ClientStore := do
  let devices ← orElse .invalidRecord
    (insertRow ClientDeviceRow.clashes store.devices (request.deviceRow sha256))
  let keys ← orElse .invalidRecord
    (insertRow ClientDeviceKeyRow.clashes store.keys (request.keyRow clock))
  return { store with devices, keys }

def registerDevice (sha256 : Bytes → Hash) (accounts : Accounts) (clock : Instant)
    (store : ClientStore) (request : ClientDeviceRegistration) :
    Except ClientControlError (ClientDeviceRegistrationOutcome × ClientStore) := do
  request.validate
  let organization ← orElse .invalidScope
    (accounts.organizationOf request.scope.tenantId request.scope.userId)
  reject (decide (organization ≠ request.scope.organizationId)) .invalidScope
  match store.registrationRequest request.scope.tenantId request.scope.userId
      request.requestId with
  | some stored =>
      if stored.requestHash = requestFingerprint sha256 request ∧
          stored.deviceId = request.deviceId then
        return (.registered request.deviceId true, store)
      else .error .bindingConflict
  | none =>
      match store.tenantDevice request.scope.tenantId request.deviceId with
      | some existing =>
          match existing.status with
          | .revoked =>
              return (.revoked request.deviceId
                (((store.latestKeyOf existing.id).map (·.deviceKeyId)).getD request.deviceKeyId),
                store)
          | .active | .suspended => .error .bindingConflict
      | none => do
          reject (store.installTaken request.scope.tenantId request.installId) .bindingConflict
          let store' ← insertDevice sha256 clock store request
          return (.registered request.deviceId false, store')

structure ClientDeviceRecord where
  recordId : Uuid
  scope : ClientScope
  deviceId : Uuid
  deviceKeyId : Uuid
  platform : ClientPlatform
  generation : Nat
  trafficMode : ClientTrafficMode
deriving DecidableEq, Repr

def ClientDeviceRecord.validate (record : ClientDeviceRecord) : Except ClientControlError Unit :=
  reject ((record.recordId :: record.scope.ids ++ [record.deviceId, record.deviceKeyId]).any isNil
    || decide (record.generation = 0)) .invalidRecord

inductive ClientDeviceLookup where
  | active (record : ClientDeviceRecord)
  | suspended (recordId deviceId : Uuid)
  | revoked (recordId deviceId : Uuid)
deriving DecidableEq, Repr

/-- `LEFT JOIN client_device_keys … AND device_key.status = 'ACTIVE'`. -/
def ClientStore.activeKeyOf (store : ClientStore) (device : ClientDeviceRow) :
    Option ClientDeviceKeyRow :=
  store.keys.find? fun key =>
    decide (key.clientDeviceId = device.id) && decide (key.scope = device.scope) &&
      decide (key.status = .active)

def ClientDeviceRow.record (device : ClientDeviceRow) (deviceKeyId : Uuid) :
    ClientDeviceRecord where
  recordId := device.id
  scope := device.scope
  deviceId := device.deviceId
  deviceKeyId := deviceKeyId
  platform := device.platform
  generation := device.generation
  trafficMode := device.trafficMode

def deviceByWireId (store : ClientStore) (scope : ClientScope) (deviceId : Uuid) :
    Except ClientControlError (Option ClientDeviceLookup) := do
  reject ((scope.ids ++ [deviceId]).any isNil) .invalidScope
  match store.devices.find? fun device =>
      decide (device.scope = scope) && decide (device.deviceId = deviceId) with
  | none => return none
  | some device =>
      if device.status = .revoked then return some (.revoked device.id device.deviceId)
      else
        match store.activeKeyOf device with
        | none => return some (.suspended device.id device.deviceId)
        | some key => do
            (device.record key.deviceKeyId).validate
            if device.status = .active then return some (.active (device.record key.deviceKeyId))
            else return some (.suspended device.id device.deviceId)

/-- A registration or a call of the client tables. -/
inductive ClientOperation where
  | register (accounts : Accounts) (clock : Instant) (request : ClientDeviceRegistration)
  | call (call : ClientCall)

inductive ClientReply where
  | registration (result : Except ClientControlError ClientDeviceRegistrationOutcome)
  | served (answer : Option ClientAnswer)

/-- No program of the client plane has more statements. -/
def longestProgram : Nat := 8

/-- One operation, served alone. -/
def serveClient (sha256 : Bytes → Hash) (store : ClientStore) : ClientOperation →
    ClientReply × ClientStore
  | .register accounts clock request =>
      match registerDevice sha256 accounts clock store request with
      | .ok (outcome, store') => (.registration (.ok outcome), store')
      | .error error => (.registration (.error error), store)
  | .call call =>
      let served := (clientTransactions sha256).serial longestProgram store call
      (.served served.1, served.2)

/-- The store after an operation. -/
def lifecycleStep (sha256 : Bytes → Hash) (store : ClientStore) (operation : ClientOperation) :
    ClientStore :=
  (serveClient sha256 store operation).2

end CandyCloud
