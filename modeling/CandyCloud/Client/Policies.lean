import CandyCloud.Client.Documents
import CandyCloud.Client.Registration
import CandyCloud.Topology

/-! # Policy and settings repositories

`client_access.rs` and `client_settings.rs`. A tenant has one active policy and
one active settings document; publishing another supersedes it in the same
transaction. A policy is bound to a device, and the device's traffic mode is a
column of its row. Every call is one transaction and is retried by request id.
Identifiers that a call draws are part of it.
-/

namespace CandyCloud

open Foundation

/-- SHA-256 and the JSON forms of the published documents. -/
structure ClientCodec where
  sha256 : Bytes → Hash
  policyJson : ClientAccessPolicy → Bytes
  settingsJson : ClientProjectionSettings → Bytes

inductive ClientPolicyStatus where
  | active
  | superseded
  | revoked
deriving DecidableEq, Repr

/-- `client_access_policies`. -/
structure ClientAccessPolicyRow where
  id : Uuid
  organizationId : Uuid
  tenantId : Uuid
  generation : Nat
  requestId : Uuid
  requestHash : Hash
  contentHash : Hash
  policy : ClientAccessPolicy
  status : ClientPolicyStatus
deriving DecidableEq, Repr

/-- `client_access_policy_bindings`. -/
structure ClientPolicyBindingRow where
  id : Uuid
  scope : ClientScope
  clientDeviceId : Uuid
  policyId : Uuid
  requestId : Uuid
  requestHash : Hash
deriving DecidableEq, Repr

/-- `client_access_policy_binding_requests`. -/
structure ClientBindingRequestRow where
  id : Uuid
  organizationId : Uuid
  tenantId : Uuid
  bindingId : Uuid
  requestId : Uuid
  requestHash : Hash
deriving DecidableEq, Repr

/-- `client_projection_settings`; its status is never `REVOKED`. -/
structure ClientSettingsRow where
  id : Uuid
  organizationId : Uuid
  tenantId : Uuid
  generation : Nat
  requestId : Uuid
  requestHash : Hash
  contentHash : Hash
  settings : ClientProjectionSettings
  status : ClientPolicyStatus
deriving DecidableEq, Repr

/-- `client_traffic_mode_requests`. -/
structure ClientModeRequestRow where
  id : Uuid
  scope : ClientScope
  clientDeviceId : Uuid
  deviceKeyId : Uuid
  requestId : Uuid
  requestHash : Hash
  previousMode : ClientTrafficMode
  requestedMode : ClientTrafficMode
deriving DecidableEq, Repr

/-- Everything that grants and projections are made from. -/
structure ClientPlane where
  accounts : Accounts
  topology : Topology
  clients : ClientStore
  policies : List ClientAccessPolicyRow
  bindings : List ClientPolicyBindingRow
  bindingRequests : List ClientBindingRequestRow
  settings : List ClientSettingsRow
  modeRequests : List ClientModeRequestRow
deriving DecidableEq, Repr

namespace Accounts

variable (accounts : Accounts)

def activeOrganization (organizationId : Uuid) : Bool :=
  accounts.organizations.any fun organization =>
    decide (organization.id = organizationId) && decide (organization.status = .active)

def activeUser (userId : Uuid) : Bool :=
  accounts.users.any fun user => decide (user.id = userId) && user.active

def activeMember (organizationId userId : Uuid) : Bool :=
  accounts.memberships.any fun membership =>
    decide (membership.organizationId = organizationId) && decide (membership.userId = userId) &&
      membership.active

/-- The organization an actor publishes for. Unlike `organizationOf` the query
    does not look at the status of the tenant. -/
def publisherOrganization (tenantId actorId : Uuid) : Option Uuid :=
  (accounts.tenants.find? fun tenant =>
    decide (tenant.id = tenantId) && accounts.activeOrganization tenant.organizationId &&
      accounts.activeUser actorId && accounts.activeMember tenant.organizationId actorId).map
    (·.organizationId)

def activeTenant (tenantId organizationId : Uuid) : Bool :=
  accounts.tenants.any fun tenant =>
    decide (tenant.id = tenantId) && decide (tenant.organizationId = organizationId) &&
      decide (tenant.status = .active) && accounts.activeOrganization tenant.organizationId

end Accounts

def ClientAccessPolicy.contentHash (codec : ClientCodec) (policy : ClientAccessPolicy) :
    Except ClientAccessPolicyError Hash := do
  policy.validate
  return codec.sha256 (codec.policyJson policy)

structure ClientPolicyPublication where
  policy : ClientAccessPolicy
  organizationId : Uuid
  actorId : Uuid
  requestId : Uuid
deriving DecidableEq, Repr

/-- `ClientAccessPolicyPublishOutcome` and the outcome of publishing settings. -/
structure ClientPublished where
  id : Uuid
  replayed : Bool
deriving DecidableEq, Repr

namespace ClientPolicyPublication

variable (codec : ClientCodec) (request : ClientPolicyPublication)

def fingerprint : Hash :=
  codec.sha256 (utf8 "candy/terminal-client-access-policy/v1" ++ [0] ++
    uuidBytes request.organizationId ++ uuidBytes request.actorId ++
    codec.policyJson request.policy)

def row (contentHash : Hash) : ClientAccessPolicyRow where
  id := request.policy.policyId
  organizationId := request.organizationId
  tenantId := request.policy.tenantId
  generation := request.policy.generation
  requestId := request.requestId
  requestHash := request.fingerprint codec
  contentHash
  policy := request.policy
  status := .active

def requested (row : ClientAccessPolicyRow) : Bool :=
  decide (row.tenantId = request.policy.tenantId) && decide (row.requestId = request.requestId)

end ClientPolicyPublication

def ClientAccessPolicyRow.activeOf (tenantId : Uuid) (row : ClientAccessPolicyRow) : Bool :=
  decide (row.tenantId = tenantId) && decide (row.status = .active)

/-- The unique keys of `client_access_policies`. -/
def ClientAccessPolicyRow.clashes (new old : ClientAccessPolicyRow) : Bool :=
  decide (new.id = old.id) || decide (new.tenantId = old.tenantId) &&
    (decide (new.generation = old.generation) || decide (new.requestId = old.requestId) ||
      decide (new.contentHash = old.contentHash))

def supersedePolicies (tenantId : Uuid) (policies : List ClientAccessPolicyRow) :
    List ClientAccessPolicyRow :=
  updateWhere (ClientAccessPolicyRow.activeOf tenantId)
    (fun row => { row with status := .superseded }) policies

def publishPolicy (codec : ClientCodec) (plane : ClientPlane) (request : ClientPolicyPublication) :
    Except ClientAccessPolicyError (ClientPublished × ClientPlane) := do
  request.policy.validate
  reject ([request.organizationId, request.actorId, request.requestId].any isNil) .invalidScope
  let contentHash ← request.policy.contentHash codec
  reject (decide (plane.accounts.publisherOrganization request.policy.tenantId request.actorId ≠
    some request.organizationId)) .invalidScope
  match plane.policies.find? request.requested with
  | some stored =>
      if stored.requestHash = request.fingerprint codec then return (⟨stored.id, true⟩, plane)
      else throw .conflict
  | none =>
      let policies ← orElse .conflict (insertRow ClientAccessPolicyRow.clashes
        (supersedePolicies request.policy.tenantId plane.policies) (request.row codec contentHash))
      return (⟨request.policy.policyId, false⟩, { plane with policies })

/-- `ClientAccessPolicyBindingRequest`, with the identifiers a new binding and
    the record of the request take. -/
structure ClientPolicyBinding where
  policyId : Uuid
  scope : ClientScope
  clientDeviceId : Uuid
  actorId : Uuid
  requestId : Uuid
  bindingId : Uuid
  recordId : Uuid
deriving DecidableEq, Repr

namespace ClientPolicyBinding

variable (codec : ClientCodec) (request : ClientPolicyBinding)

def fingerprint : Hash :=
  codec.sha256 (utf8 "candy/terminal-client-access-policy-binding/v1" ++ [0] ++
    [request.policyId, request.scope.organizationId, request.scope.tenantId, request.scope.userId,
      request.clientDeviceId, request.actorId].flatMap uuidBytes)

/-- The organization of the tenant, when the actor is a member and the device is
    an active one of the active user. -/
def organization (plane : ClientPlane) : Option Uuid :=
  (plane.accounts.tenants.find? fun tenant =>
    decide (tenant.id = request.scope.tenantId) &&
      plane.accounts.activeOrganization tenant.organizationId &&
      plane.accounts.activeUser request.actorId &&
      plane.accounts.activeMember tenant.organizationId request.actorId &&
      plane.accounts.activeUser request.scope.userId &&
      plane.clients.devices.any fun device =>
        decide (device.scope.tenantId = tenant.id) &&
          decide (device.scope.organizationId = tenant.organizationId) &&
          decide (device.scope.userId = request.scope.userId) &&
          decide (device.id = request.clientDeviceId) && decide (device.status = .active)).map
    (·.organizationId)

def policyActive (plane : ClientPlane) : Bool :=
  plane.policies.any fun row =>
    decide (row.id = request.policyId) &&
      decide (row.organizationId = request.scope.organizationId) &&
      row.activeOf request.scope.tenantId

def ofDevice (row : ClientPolicyBindingRow) : Bool :=
  decide (row.scope.organizationId = request.scope.organizationId) &&
    decide (row.scope.tenantId = request.scope.tenantId) &&
    decide (row.clientDeviceId = request.clientDeviceId)

def row (id : Uuid) : ClientPolicyBindingRow where
  id
  scope := request.scope
  clientDeviceId := request.clientDeviceId
  policyId := request.policyId
  requestId := request.requestId
  requestHash := request.fingerprint codec

def record (bindingId : Uuid) : ClientBindingRequestRow where
  id := request.recordId
  organizationId := request.scope.organizationId
  tenantId := request.scope.tenantId
  bindingId
  requestId := request.requestId
  requestHash := request.fingerprint codec

end ClientPolicyBinding

/-- The unique keys of `client_access_policy_bindings`. -/
def ClientPolicyBindingRow.clashes (new old : ClientPolicyBindingRow) : Bool :=
  decide (new.id = old.id) ||
    (decide (new.scope.tenantId = old.scope.tenantId) &&
      (decide (new.clientDeviceId = old.clientDeviceId) ||
        decide (new.requestId = old.requestId))) ||
    (decide (new.policyId = old.policyId) && decide (new.clientDeviceId = old.clientDeviceId))

/-- The unique keys of `client_access_policy_binding_requests`. -/
def ClientBindingRequestRow.clashes (new old : ClientBindingRequestRow) : Bool :=
  decide (new.id = old.id) ||
    (decide (new.tenantId = old.tenantId) && decide (new.requestId = old.requestId))

/-- The bindings after the device is bound: its row is rewritten or a new one is
    inserted, and fails when it violates a key. -/
def writeBinding (codec : ClientCodec) (bindings : List ClientPolicyBindingRow)
    (request : ClientPolicyBinding) : Option (Uuid × List ClientPolicyBindingRow) :=
  match bindings.find? request.ofDevice with
  | some current =>
      let rewritten := request.row codec current.id
      if bindings.any fun other => other != current && rewritten.clashes other then none
      else some (current.id, updateWhere (fun row => row == current) (fun _ => rewritten) bindings)
  | none =>
      (insertRow ClientPolicyBindingRow.clashes bindings
        (request.row codec request.bindingId)).map fun rows => (request.bindingId, rows)

def bindToDevice (codec : ClientCodec) (plane : ClientPlane) (request : ClientPolicyBinding) :
    Except ClientAccessPolicyError (ClientPublished × ClientPlane) := do
  reject ((request.policyId :: request.scope.ids ++
    [request.clientDeviceId, request.actorId, request.requestId]).any isNil) .invalidScope
  reject (decide (request.organization plane ≠ some request.scope.organizationId)) .invalidScope
  reject (!request.policyActive plane) .conflict
  match plane.bindingRequests.find? fun row =>
      decide (row.tenantId = request.scope.tenantId) &&
        decide (row.requestId = request.requestId) with
  | some stored =>
      if stored.requestHash = request.fingerprint codec then
        return (⟨stored.bindingId, true⟩, plane)
      else throw .conflict
  | none =>
      let (bindingId, bindings) ← orElse .conflict (writeBinding codec plane.bindings request)
      let bindingRequests ← orElse .conflict (insertRow ClientBindingRequestRow.clashes
        plane.bindingRequests (request.record codec bindingId))
      return (⟨bindingId, false⟩, { plane with bindings, bindingRequests })

/-- What a device is authorized for at one moment. -/
structure ClientAuthorizationSnapshot where
  scope : ClientScope
  clientDeviceId : Uuid
  deviceKeyId : Uuid
  platform : ClientPlatform
  deviceGeneration : Nat
  publicKey : Hash
  policy : ClientAccessPolicy
  policyContentHash : Hash
deriving DecidableEq, Repr

/-- `fixed_hash`: exactly thirty-two bytes. -/
def fixedHash (bytes : Bytes) : Option Hash :=
  if bytes.length = 32 then
    some (BitVec.ofNat 256 (bytes.foldl (fun value byte => 256 * value + byte.toNat) 0))
  else none

def ClientAuthorizationSnapshot.validate (codec : ClientCodec)
    (snapshot : ClientAuthorizationSnapshot) : Except ClientAccessPolicyError Unit := do
  reject ((snapshot.scope.ids ++ [snapshot.clientDeviceId, snapshot.deviceKeyId]).any isNil ||
    snapshot.deviceGeneration == 0 || snapshot.publicKey == zeroHash ||
    decide (snapshot.policy.tenantId ≠ snapshot.scope.tenantId) ||
    snapshot.policy.generation == 0 || snapshot.policyContentHash == zeroHash) .invalidRecord
  let computedHash ← (snapshot.policy.contentHash codec).mapError fun _ => .invalidRecord
  reject (decide (computedHash ≠ snapshot.policyContentHash)) .invalidRecord

/-- The rows of the join: an active device, its active key and the active policy
    it is bound to, under active accounts. -/
def ClientPlane.authorized (plane : ClientPlane) (scope : ClientScope) (clientDeviceId : Uuid) :
    Option (ClientDeviceRow × ClientDeviceKeyRow × ClientAccessPolicyRow) :=
  (plane.clients.devices.flatMap fun device =>
    if decide (device.scope = scope) && decide (device.id = clientDeviceId) &&
        decide (device.status = .active) &&
        plane.accounts.activeTenant scope.tenantId scope.organizationId &&
        plane.accounts.activeUser scope.userId &&
        plane.accounts.activeMember scope.organizationId scope.userId then
      plane.clients.keys.flatMap fun key =>
        if decide (key.clientDeviceId = device.id) && decide (key.scope = device.scope) &&
            decide (key.status = .active) then
          plane.bindings.flatMap fun binding =>
            if decide (binding.clientDeviceId = device.id) &&
                decide (binding.scope = device.scope) then
              (plane.policies.filter fun policy =>
                decide (policy.id = binding.policyId) &&
                  decide (policy.organizationId = binding.scope.organizationId) &&
                  policy.activeOf binding.scope.tenantId).map fun policy => (device, key, policy)
            else []
        else []
    else []).head?

def authorizationSnapshot (codec : ClientCodec) (plane : ClientPlane) (scope : ClientScope)
    (clientDeviceId : Uuid) :
    Except ClientAccessPolicyError (Option ClientAuthorizationSnapshot) := do
  reject ((scope.ids ++ [clientDeviceId]).any isNil) .invalidScope
  match plane.authorized scope clientDeviceId with
  | none => return none
  | some (device, key, policy) =>
      let publicKey ← orElse .invalidRecord (fixedHash key.publicKey)
      let snapshot : ClientAuthorizationSnapshot :=
        { scope := device.scope
          clientDeviceId := device.id
          deviceKeyId := key.deviceKeyId
          platform := device.platform
          deviceGeneration := device.generation
          publicKey
          policy := policy.policy
          policyContentHash := policy.contentHash }
      reject (decide (policy.policy.policyId ≠ policy.id) ||
        decide (policy.policy.generation ≠ policy.generation)) .invalidRecord
      snapshot.validate codec
      return some snapshot

def ClientProjectionSettings.contentHash (codec : ClientCodec)
    (settings : ClientProjectionSettings) : Except ClientProjectionSettingsError Hash := do
  settings.validate
  return codec.sha256 (codec.settingsJson settings)

/-- The arguments of `publish`, with the identifier of the new row. -/
structure ClientSettingsPublication where
  settings : ClientProjectionSettings
  organizationId : Uuid
  actorId : Uuid
  requestId : Uuid
  settingsId : Uuid
deriving DecidableEq, Repr

namespace ClientSettingsPublication

variable (codec : ClientCodec) (request : ClientSettingsPublication)

def fingerprint : Hash :=
  codec.sha256 (utf8 "candy/terminal-client-projection-settings/v1" ++ [0] ++
    lengthPrefixed (uuidBytes request.organizationId) ++
    lengthPrefixed (uuidBytes request.settings.tenantId) ++
    lengthPrefixed (codec.settingsJson request.settings) ++ uuidBytes request.actorId)

def row (contentHash : Hash) : ClientSettingsRow where
  id := request.settingsId
  organizationId := request.organizationId
  tenantId := request.settings.tenantId
  generation := request.settings.generation
  requestId := request.requestId
  requestHash := request.fingerprint codec
  contentHash
  settings := request.settings
  status := .active

def requested (row : ClientSettingsRow) : Bool :=
  decide (row.tenantId = request.settings.tenantId) && decide (row.requestId = request.requestId)

end ClientSettingsPublication

def ClientSettingsRow.activeOf (tenantId : Uuid) (row : ClientSettingsRow) : Bool :=
  decide (row.tenantId = tenantId) && decide (row.status = .active)

/-- The unique keys of `client_projection_settings`. -/
def ClientSettingsRow.clashes (new old : ClientSettingsRow) : Bool :=
  decide (new.id = old.id) || decide (new.tenantId = old.tenantId) &&
    (decide (new.generation = old.generation) || decide (new.requestId = old.requestId) ||
      decide (new.contentHash = old.contentHash))

def supersedeSettings (tenantId : Uuid) (settings : List ClientSettingsRow) :
    List ClientSettingsRow :=
  updateWhere (ClientSettingsRow.activeOf tenantId) (fun row => { row with status := .superseded })
    settings

/-- `MAX(generation)` of the tenant, zero when there is none. -/
def settingsGeneration (tenantId : Uuid) (settings : List ClientSettingsRow) : Nat :=
  (settings.filter fun row => decide (row.tenantId = tenantId)).foldl
    (fun highest row => max highest row.generation) 0

def maxSettingsGeneration : Nat := 9223372036854775807

def publishSettings (codec : ClientCodec) (plane : ClientPlane)
    (request : ClientSettingsPublication) :
    Except ClientProjectionSettingsError (ClientPublished × ClientPlane) := do
  request.settings.validate
  reject ([request.organizationId, request.actorId, request.requestId].any isNil) .invalidScope
  let contentHash ← request.settings.contentHash codec
  reject (!plane.accounts.activeTenant request.settings.tenantId request.organizationId)
    .invalidScope
  match plane.settings.find? request.requested with
  | some stored =>
      if stored.requestHash = request.fingerprint codec then return (⟨stored.id, true⟩, plane)
      else throw .conflict
  | none =>
      let expected := saturatingAdd (settingsGeneration request.settings.tenantId plane.settings) 1
      reject (decide (request.settings.generation ≠ expected) ||
        decide (maxSettingsGeneration < expected)) .conflict
      let settings ← orElse .invalidRecord (insertRow ClientSettingsRow.clashes
        (supersedeSettings request.settings.tenantId plane.settings) (request.row codec contentHash))
      return (⟨request.settingsId, false⟩, { plane with settings })

/-- `ORDER BY generation DESC LIMIT 1`. -/
def newestSettings (rows : List ClientSettingsRow) : Option ClientSettingsRow :=
  rows.foldl
    (fun best row =>
      match best with
      | none => some row
      | some best => if best.generation < row.generation then some row else some best)
    none

def currentSettings (plane : ClientPlane) (tenantId : Uuid) :
    Except ClientProjectionSettingsError (Option ClientProjectionSettings) := do
  reject (isNil tenantId) .invalidScope
  match newestSettings (plane.settings.filter (ClientSettingsRow.activeOf tenantId)) with
  | none => return none
  | some row =>
      row.settings.validate
      reject (decide (row.settings.tenantId ≠ tenantId)) .invalidRecord
      return some row.settings

def ClientTrafficMode.toDatabaseValue : ClientTrafficMode → String
  | .policy => "POLICY"
  | .global => "GLOBAL"

/-- `ClientTrafficModeRequest`, with the identifier of its record. -/
structure ClientTrafficModeRequest where
  scope : ClientScope
  clientDeviceId : Uuid
  deviceKeyId : Uuid
  requestId : Uuid
  requested : ClientTrafficMode
  globalPermitted : Bool
  recordId : Uuid
deriving DecidableEq, Repr

structure ClientTrafficModeOutcome where
  previous : ClientTrafficMode
  current : ClientTrafficMode
  replayed : Bool
deriving DecidableEq, Repr

namespace ClientTrafficModeRequest

variable (codec : ClientCodec) (request : ClientTrafficModeRequest)

def validate : Except ClientProjectionSettingsError Unit := do
  reject ((request.scope.ids ++
    [request.clientDeviceId, request.deviceKeyId, request.requestId]).any isNil) .invalidScope
  reject (decide (request.requested = .global) && !request.globalPermitted) .modeNotPermitted

def fingerprint : Hash :=
  codec.sha256 (utf8 "candy/terminal-client-traffic-mode/v1" ++ [0] ++
    (request.scope.ids ++ [request.clientDeviceId, request.deviceKeyId]).flatMap
      (fun id => lengthPrefixed (uuidBytes id)) ++
    lengthPrefixed (utf8 request.requested.toDatabaseValue))

def row (previous : ClientTrafficMode) : ClientModeRequestRow where
  id := request.recordId
  scope := request.scope
  clientDeviceId := request.clientDeviceId
  deviceKeyId := request.deviceKeyId
  requestId := request.requestId
  requestHash := request.fingerprint codec
  previousMode := previous
  requestedMode := request.requested

def names (device : ClientDeviceRow) : Bool :=
  decide (device.id = request.clientDeviceId) && decide (device.scope = request.scope)

end ClientTrafficModeRequest

/-- The unique keys of `client_traffic_mode_requests`. -/
def ClientModeRequestRow.clashes (new old : ClientModeRequestRow) : Bool :=
  decide (new.id = old.id) ||
    (decide (new.scope.tenantId = old.scope.tenantId) &&
      decide (new.clientDeviceId = old.clientDeviceId) && decide (new.requestId = old.requestId))

def setTrafficMode (codec : ClientCodec) (plane : ClientPlane)
    (request : ClientTrafficModeRequest) :
    Except ClientProjectionSettingsError (ClientTrafficModeOutcome × ClientPlane) := do
  request.validate
  let device ← orElse .invalidScope (plane.clients.devices.find? request.names)
  reject (decide (device.status ≠ .active)) .invalidScope
  match plane.modeRequests.find? fun row =>
      decide (row.scope.tenantId = request.scope.tenantId) &&
        decide (row.clientDeviceId = request.clientDeviceId) &&
        decide (row.requestId = request.requestId) with
  | some stored =>
      if stored.requestHash = request.fingerprint codec then
        return (⟨stored.previousMode, stored.requestedMode, true⟩, plane)
      else throw .conflict
  | none =>
      let devices := updateWhere request.names
        (fun device => { device with trafficMode := request.requested }) plane.clients.devices
      let modeRequests ← orElse .invalidRecord (insertRow ClientModeRequestRow.clashes
        plane.modeRequests (request.row codec device.trafficMode))
      return (⟨device.trafficMode, request.requested, false⟩,
        { plane with clients := { plane.clients with devices }, modeRequests })

end CandyCloud
