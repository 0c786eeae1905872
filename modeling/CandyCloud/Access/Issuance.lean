import CandyCloud.Json
import CandyCloud.Route.Authorization
import CandyCloud.Worker.RoutePublication

/-! # Access grants

`GrantIssuanceCoordinator::issue`. A grant is signed for what the authorization
repository loads in one transaction and recorded in another, under the device,
the authorization generation and the request id. Only digests are recorded: a
request that was recorded before is answered with an envelope that is built
anew, from what is loaded now.
-/

namespace CandyCloud.Access

open Foundation

inductive ServiceClass where
  | private_
  | candyShared
  | candyDedicated
  | partner
deriving DecidableEq, Repr

structure GrantRequest where
  tenantId : Uuid
  deviceId : Uuid
  deviceKeyId : Uuid
  nodePoolId : Uuid
  serviceClass : ServiceClass
  servicePermission : String
  routePolicy : Option AuthorizationPolicyRef
deriving DecidableEq, Repr

/-- The actor of a command is not looked at here. -/
structure GrantIssueCommand where
  requestId : String
  request : GrantRequest
deriving DecidableEq, Repr

def GrantRequest.lookup (request : GrantRequest) : AuthorizationLookup :=
  ⟨request.tenantId, request.deviceId, request.deviceKeyId, request.nodePoolId⟩

/-- The domain errors that an issuance can meet. -/
inductive DomainError where
  | operationalKeyMismatch
  | inactiveDevice
  | inactiveSubscription
  | inactiveEntitlement
  | entitlementMismatch
  | invalidRequestId
deriving DecidableEq, Repr

inductive MappingError where
  | invalidDevicePublicKey
  | unsupportedServiceClass
  | invalidQuota
deriving DecidableEq, Repr

inductive GrantIssueError where
  | timeOverflow
  | core (text : String)
  | unexpectedObjectType (objectType : BitVec 32)
deriving DecidableEq, Repr

inductive PrepareGrantError where
  | authorization (error : DomainError)
  | unsupportedPermission
  | unsupportedServiceClass
  | missingRoutePolicy
  | routePolicyMismatch
  | missingTunnelFeatures
  | signing (error : GrantIssueError)
deriving DecidableEq, Repr

inductive GrantCoordinatorError where
  | denied
  | conflict
  | signingKeyUnavailable
  | replayMismatch
  | database (error : AuthorizationRepositoryError)
  | mapping (error : MappingError)
  | preparation (error : PrepareGrantError)
deriving DecidableEq, Repr

inductive GrantServiceError where
  | denied
  | conflict
  | routePolicyResyncRequired
  | unavailable
  | internal
deriving DecidableEq, Repr

/-- What `issue_grant` answers for an error. -/
def GrantCoordinatorError.service : GrantCoordinatorError → GrantServiceError
  | .preparation (.signing _) => .internal
  | .denied | .mapping _ | .preparation _ => .denied
  | .conflict => .conflict
  | .database .routePolicyResyncRequired => .routePolicyResyncRequired
  | .database .invalidAuthorizationScope => .denied
  | .database _ | .signingKeyUnavailable => .unavailable
  | .replayMismatch => .internal

structure GrantQuota where
  allowedFeatures : Nat
  maxOuterConnectionsPerNode : Nat
  maxOuterConnectionsPerPool : Nat
  maxActiveSessionsPerConnection : Nat
  maxUdpFlowsPerConnection : Nat
  maxPendingOpens : Nat
  maxSpeculativeStreams : Nat
  maxDatagramRecord : Nat
  uploadRateBps : Nat
  downloadRateBps : Nat
deriving DecidableEq, Repr

structure RoutePolicyBinding where
  tenantId : Uuid
  segmentId : Uuid
  attachmentId : Uuid
  siteId : Uuid
  deviceId : Uuid
  deviceKeyId : Uuid
  nodePoolId : Uuid
  projectionId : Uuid
  projectionGeneration : Nat
  projectionContentHash : Hash
  segmentGeneration : Nat
  segmentContentHash : Hash
deriving DecidableEq, Repr

/-- Statuses are kept as far as they are looked at, as in the loaded record. -/
structure AuthorizationSnapshot where
  tenantId : Uuid
  authorizationGeneration : Nat
  deviceId : Uuid
  deviceStatus : DeviceStatus
  subscriptionPermits : Bool
  entitlementActive : Bool
  entitlementNodePoolId : Uuid
  entitlementServiceClass : ServiceClass
  entitlementServicePermission : String
  entitlementGeneration : Nat
  policyGeneration : Nat
deriving DecidableEq, Repr

structure PrivateGrantMaterial where
  organizationId : Uuid
  subscriptionId : Uuid
  deviceKeyId : Uuid
  devicePublicKey : Bytes
  assuranceLevel : Nat
  routePolicy : Option RoutePolicyBinding
  snapshot : AuthorizationSnapshot
  quota : GrantQuota
deriving DecidableEq, Repr

def routePolicyBinding (record : AuthorizationRecord) (policy : AuthorizationRoutePolicy) :
    RoutePolicyBinding where
  tenantId := record.tenantId
  segmentId := policy.segmentId
  attachmentId := policy.attachmentId
  siteId := policy.siteId
  deviceId := record.deviceId
  deviceKeyId := record.deviceKeyId
  nodePoolId := record.nodePoolId
  projectionId := policy.projectionId
  projectionGeneration := policy.projectionGeneration
  projectionContentHash := policy.projectionContentHash
  segmentGeneration := policy.segmentGeneration
  segmentContentHash := policy.segmentContentHash

/-- `readQuota` parses the JSON text of a quota. -/
def privateMaterialFromRecord (readQuota : String → Option GrantQuota)
    (record : AuthorizationRecord) : Except MappingError PrivateGrantMaterial := do
  reject (!record.isPrivate) .unsupportedServiceClass
  reject (record.devicePublicKey.length != 32) .invalidDevicePublicKey
  let quota ← orElse .invalidQuota (readQuota record.quotaJson)
  reject (quota.maxDatagramRecord == 0) .invalidQuota
  return {
    organizationId := record.organizationId
    subscriptionId := record.subscriptionId
    deviceKeyId := record.deviceKeyId
    devicePublicKey := record.devicePublicKey
    assuranceLevel := record.assuranceLevel
    routePolicy := record.routePolicy.map (routePolicyBinding record)
    snapshot := {
      tenantId := record.tenantId
      authorizationGeneration := record.authorizationGeneration
      deviceId := record.deviceId
      deviceStatus := record.deviceStatus
      subscriptionPermits := record.subscriptionPermits
      entitlementActive := record.entitlementActive
      entitlementNodePoolId := record.nodePoolId
      entitlementServiceClass := .private_
      entitlementServicePermission := record.servicePermission
      entitlementGeneration := record.entitlementGeneration
      policyGeneration := record.policyGeneration }
    quota }

def maxServicePermissionLen : Nat := 120

def AuthorizationSnapshot.authorize (snapshot : AuthorizationSnapshot) (request : GrantRequest) :
    Except DomainError Unit := do
  reject (snapshot.deviceStatus != .active || snapshot.deviceId != request.deviceId ||
    request.tenantId != snapshot.tenantId) .inactiveDevice
  reject (!snapshot.subscriptionPermits) .inactiveSubscription
  reject (!snapshot.entitlementActive) .inactiveEntitlement
  reject (snapshot.entitlementNodePoolId != request.nodePoolId ||
    snapshot.entitlementServiceClass != request.serviceClass ||
    snapshot.entitlementServicePermission != request.servicePermission ||
    request.servicePermission.isEmpty ||
    decide (maxServicePermissionLen < request.servicePermission.utf8ByteSize)) .entitlementMismatch

def permissionPrivateTunConnect : Nat := 1

def permissionPrivateConnect : Nat := 2

/-- `FEATURE_IP_PACKET_TUNNEL_V1 | FEATURE_IP_PACKET_STREAM_V1`. -/
def requiredTunFeatures : Nat := 0x400 ||| 0x2000

structure PermissionWireContract where
  bits : Nat
  requiresRoutePolicy : Bool
deriving DecidableEq, Repr

def permissionWireContract (permission : String) :
    Except PrepareGrantError PermissionWireContract :=
  if permission = "private.connect" then .ok ⟨permissionPrivateConnect, false⟩
  else if permission = "private.tun.connect" then .ok ⟨permissionPrivateTunConnect, true⟩
  else .error .unsupportedPermission

structure PolicyRefBuildV1 where
  policyId : Uuid
  generation : Nat
  contentHash : Hash
deriving DecidableEq, Repr

/-- The binding is not one of the request's device, or leaves something out. -/
def RoutePolicyBinding.foreign (binding : RoutePolicyBinding) (request : GrantRequest) : Bool :=
  binding.tenantId != request.tenantId || binding.deviceId != request.deviceId ||
    binding.deviceKeyId != request.deviceKeyId || binding.nodePoolId != request.nodePoolId ||
    isNil binding.segmentId || isNil binding.attachmentId || isNil binding.siteId ||
    isNil binding.projectionId || binding.projectionGeneration == 0 ||
    binding.projectionContentHash == zeroHash || binding.segmentGeneration == 0 ||
    binding.segmentContentHash == zeroHash

def RoutePolicyBinding.names (binding : RoutePolicyBinding) (requested : AuthorizationPolicyRef) :
    Bool :=
  requested.policyId == binding.projectionId &&
    requested.generation == binding.projectionGeneration &&
    requested.contentHash == binding.projectionContentHash

def tunnelPolicy (request : GrantRequest) (material : PrivateGrantMaterial) :
    Except PrepareGrantError PolicyRefBuildV1 := do
  let binding ← orElse .missingRoutePolicy material.routePolicy
  reject (binding.foreign request) .routePolicyMismatch
  reject (request.routePolicy.any fun requested => !binding.names requested) .routePolicyMismatch
  reject (material.quota.allowedFeatures &&& requiredTunFeatures != requiredTunFeatures)
    .missingTunnelFeatures
  return ⟨binding.projectionId, binding.projectionGeneration, binding.projectionContentHash⟩

/-- What a payload says apart from the grant, the issuer and the times. -/
structure GrantTerms where
  organizationId : Uuid
  tenantId : Uuid
  subscriptionId : Uuid
  deviceId : Uuid
  deviceKeyId : Uuid
  devicePublicKey : Bytes
  assuranceLevel : Nat
  nodePoolId : Uuid
  quota : GrantQuota
  servicePermissions : Nat
  routePolicy : Option PolicyRefBuildV1
  policyGeneration : Nat
  entitlementGeneration : Nat
deriving DecidableEq, Repr

def maxRequestIdLen : Nat := 120

/-- The checks of `prepare_private_grant_with_id`, and what passes them. -/
def grantTerms (requestId : String) (request : GrantRequest) (material : PrivateGrantMaterial) :
    Except PrepareGrantError GrantTerms := do
  reject (requestId.isEmpty || decide (maxRequestIdLen < requestId.utf8ByteSize))
    (.authorization .invalidRequestId)
  (material.snapshot.authorize request).mapError .authorization
  reject (material.deviceKeyId != request.deviceKeyId) (.authorization .operationalKeyMismatch)
  reject (request.serviceClass != .private_) .unsupportedServiceClass
  let permission ← permissionWireContract request.servicePermission
  let routePolicy ←
    if permission.requiresRoutePolicy then (tunnelPolicy request material).map some else .ok none
  return {
    organizationId := material.organizationId
    tenantId := request.tenantId
    subscriptionId := material.subscriptionId
    deviceId := request.deviceId
    deviceKeyId := material.deviceKeyId
    devicePublicKey := material.devicePublicKey
    assuranceLevel := material.assuranceLevel
    nodePoolId := request.nodePoolId
    quota := material.quota
    servicePermissions := permission.bits
    routePolicy
    policyGeneration := material.snapshot.policyGeneration
    entitlementGeneration := material.snapshot.entitlementGeneration }

structure IssuerConfig where
  issuerId : Uuid
  environmentId : Uuid
deriving DecidableEq, Repr

structure GrantTimes where
  issuedAt : Nat
  refreshAfter : Nat
  expiresAt : Nat
deriving DecidableEq, Repr

def privateGrantTtlSecs : Nat := 24 * 60 * 60

/-- A grant is to be refreshed after three quarters of its time. -/
def grantTimes (issuedAt : Nat) : Except PrepareGrantError GrantTimes := do
  let expiresAt ← orElse (.signing .timeOverflow) (checkedAdd issuedAt privateGrantTtlSecs)
  let refreshAfter ← orElse (.signing .timeOverflow)
    (checkedAdd issuedAt (privateGrantTtlSecs * 3 / 4))
  return ⟨issuedAt, refreshAfter, expiresAt⟩

structure GrantPayloadBuildV1 where
  grantId : Uuid
  issuer : IssuerConfig
  terms : GrantTerms
  times : GrantTimes
deriving DecidableEq, Repr

def encodeHex (bytes : Bytes) : String :=
  String.ofList (bytes.flatMap fun byte => hexDigits 2 byte.toNat)

def jsonHex (bytes : Bytes) : Bytes := jsonString (encodeHex bytes)

def jsonNull : Bytes := utf8 "null"

def PolicyRefBuildV1.json (policy : PolicyRefBuildV1) : Bytes :=
  jsonObject [("policy_id_hex", jsonHex (uuidBytes policy.policyId)),
    ("generation", jsonNumber policy.generation),
    ("content_hash_hex", jsonHex (hashBytes policy.contentHash))]

def GrantPayloadBuildV1.json (payload : GrantPayloadBuildV1) : Bytes :=
  let terms := payload.terms
  let quota := terms.quota
  let times := payload.times
  jsonObject [("object_type", jsonString "grant_payload_v1"),
    ("grant_id_hex", jsonHex (uuidBytes payload.grantId)),
    ("issuer_id_hex", jsonHex (uuidBytes payload.issuer.issuerId)),
    ("environment_id_hex", jsonHex (uuidBytes payload.issuer.environmentId)),
    ("organization_id_hex", jsonHex (uuidBytes terms.organizationId)),
    ("tenant_id_hex", jsonHex (uuidBytes terms.tenantId)),
    ("subscription_id_hex", jsonHex (uuidBytes terms.subscriptionId)),
    ("device_id_hex", jsonHex (uuidBytes terms.deviceId)),
    ("device_key_id_hex", jsonHex (uuidBytes terms.deviceKeyId)),
    ("device_public_key_hex", jsonHex terms.devicePublicKey),
    ("assurance_level", jsonNumber terms.assuranceLevel),
    ("node_pool_id_hex", jsonHex (uuidBytes terms.nodePoolId)),
    ("service_class", jsonNumber 1), ("operator_scope_type", jsonNumber 1),
    ("operator_id_hex", jsonNull), ("region_ids_hex", jsonArray []),
    ("allowed_features", jsonNumber quota.allowedFeatures),
    ("service_permissions", jsonNumber terms.servicePermissions),
    ("route_policy", (terms.routePolicy.map PolicyRefBuildV1.json).getD jsonNull),
    ("dns_policy", jsonNull),
    ("max_outer_connections_per_node", jsonNumber quota.maxOuterConnectionsPerNode),
    ("max_outer_connections_per_pool", jsonNumber quota.maxOuterConnectionsPerPool),
    ("max_active_sessions_per_connection", jsonNumber quota.maxActiveSessionsPerConnection),
    ("max_udp_flows_per_connection", jsonNumber quota.maxUdpFlowsPerConnection),
    ("max_pending_opens", jsonNumber quota.maxPendingOpens),
    ("max_speculative_streams", jsonNumber quota.maxSpeculativeStreams),
    ("max_datagram_record", jsonNumber quota.maxDatagramRecord),
    ("upload_rate_bps", jsonNumber quota.uploadRateBps),
    ("download_rate_bps", jsonNumber quota.downloadRateBps),
    ("issued_at", jsonNumber times.issuedAt), ("not_before", jsonNumber times.issuedAt),
    ("refresh_after", jsonNumber times.refreshAfter), ("expires_at", jsonNumber times.expiresAt),
    ("policy_generation", jsonNumber terms.policyGeneration),
    ("entitlement_generation", jsonNumber terms.entitlementGeneration)]

def grantPayloadType : BitVec 32 := 1

def grantEnvelopeType : BitVec 32 := 2

/-- An Ed25519 key with the core module; the route objects' hash is not used. -/
structure GrantSigner where
  keyId : String
  sign : Bytes → Bytes
  publicKey : Bytes
  core : CoreModule

def GrantSigner.buildRequest (signer : GrantSigner) (payload : GrantPayloadBuildV1) : Bytes :=
  jsonObject [("schema", jsonString "candy-core-cloud-build-v1"),
    ("signing_key_id_hex", jsonHex (utf8 signer.keyId)), ("object", payload.json)]

def GrantSigner.issuePrivate (signer : GrantSigner) (payload : GrantPayloadBuildV1) :
    Except GrantIssueError Bytes := do
  let prepared ← (signer.core.prepare (signer.buildRequest payload)).mapError .core
  reject (prepared.objectType != grantPayloadType) (.unexpectedObjectType prepared.objectType)
  let raw ← (signer.core.assemble prepared.objectType (utf8 signer.keyId) prepared.payload
    (signer.sign prepared.signingTranscript)).mapError .core
  (signer.core.validate grantEnvelopeType raw signer.publicKey).mapError .core
  return raw

/-- What an issuance depends on beside the tables: SHA-256, the sort key of the
    database's collation and the parser of quotas stand for themselves. -/
structure GrantEnvironment where
  sha256 : Bytes → Hash
  collate : String → List Nat
  readQuota : String → Option GrantQuota
  signer : GrantSigner
  issuer : IssuerConfig
  policyIsolation : Bool

/-- What an issuance reads, at the time of its first transaction. -/
structure AuthorizationView where
  store : RouteStore
  tables : AuthorizationTables
  now : Instant

def serviceClassByte : ServiceClass → UInt8
  | .private_ => 1
  | .candyShared => 2
  | .candyDedicated => 3
  | .partner => 4

def requestFingerprint (sha256 : Bytes → Hash) (requestId : String) (request : GrantRequest)
    (authorizationGeneration : Nat) : Hash :=
  sha256 (utf8 "candy-cloud/grant-request/v1" ++ bigEndian 8 requestId.utf8ByteSize ++
    utf8 requestId ++ uuidBytes request.tenantId ++ uuidBytes request.deviceId ++
    uuidBytes request.deviceKeyId ++ uuidBytes request.nodePoolId ++
    [serviceClassByte request.serviceClass] ++
    bigEndian 8 request.servicePermission.utf8ByteSize ++ utf8 request.servicePermission ++
    (request.routePolicy.map fun policy =>
      utf8 "signed-route-policy-v1" ++ [0] ++ uuidBytes policy.policyId ++
        bigEndian 8 policy.generation ++ hashBytes policy.contentHash).getD [] ++
    bigEndian 8 authorizationGeneration)

structure GrantIssuanceWrite where
  id : Uuid
  tenantId : Uuid
  deviceId : Uuid
  requestId : String
  authorizationGeneration : Nat
  requestFingerprint : Hash
  keyId : String
  grantDigest : Hash
  expiresAt : Nat
deriving DecidableEq, Repr

/-- A row of `grant_issuance_records`. A time that `TIMESTAMP` does not hold is
    stored as the zero date, which cannot be read back. -/
structure GrantIssuanceRow where
  id : Uuid
  tenantId : Uuid
  deviceId : Uuid
  requestId : String
  authorizationGeneration : Nat
  requestFingerprint : Hash
  keyId : String
  grantDigest : Hash
  expiresAt : Option Nat
deriving DecidableEq, Repr

structure StoredGrantRecord where
  grantId : Uuid
  requestFingerprint : Hash
  keyId : String
  grantDigest : Hash
  expiresAt : Nat
deriving DecidableEq, Repr

inductive GrantRecordOutcome where
  | inserted
  | replayed (existing : StoredGrantRecord)
  | conflict
deriving DecidableEq, Repr

def GrantIssuanceWrite.row (write : GrantIssuanceWrite) : GrantIssuanceRow where
  id := write.id
  tenantId := write.tenantId
  deviceId := write.deviceId
  requestId := write.requestId
  authorizationGeneration := write.authorizationGeneration
  requestFingerprint := write.requestFingerprint
  keyId := write.keyId
  grantDigest := write.grantDigest
  expiresAt := if write.expiresAt < 0x80000000 then some write.expiresAt else none

/-- `uq_grant_request`, compared by the collation. -/
def GrantIssuanceRow.key (collate : String → List Nat) (row : GrantIssuanceRow) :
    Uuid × Nat × List Nat :=
  (row.deviceId, row.authorizationGeneration, collate row.requestId)

/-- `INSERT IGNORE`, then a look at the row in the way. -/
def recordGrant (collate : String → List Nat) (rows : List GrantIssuanceRow)
    (write : GrantIssuanceWrite) :
    Except AuthorizationRepositoryError (GrantRecordOutcome × List GrantIssuanceRow) := do
  reject (isNil write.tenantId || isNil write.deviceId || write.requestId.isEmpty)
    .invalidGrantScope
  if rows.any fun row =>
      row.id == write.id || row.key collate == write.row.key collate then do
    let row ← orElse .database (rows.find? fun row =>
      row.key collate == write.row.key collate && row.tenantId == write.tenantId)
    if row.requestFingerprint = write.requestFingerprint then do
      let expiresAt ← orElse .database row.expiresAt
      return (.replayed ⟨row.id, row.requestFingerprint, row.keyId, row.grantDigest, expiresAt⟩,
        rows)
    else return (.conflict, rows)
  else return (.inserted, rows ++ [write.row])

/-- A grant as the device receives it. -/
structure GrantDelivery where
  grantId : Uuid
  expiresAtUnix : Int
  refreshAfterUnix : Int
  replayed : Bool
  raw : Bytes
deriving DecidableEq, Repr

structure PreparedGrant where
  grantId : Uuid
  authorizationGeneration : Nat
  requestFingerprint : Hash
  times : GrantTimes
  raw : Bytes
deriving DecidableEq, Repr

/-- `as i64`. -/
def signed (seconds : Nat) : Int := (BitVec.ofNat 64 seconds).toInt

def PreparedGrant.delivery (prepared : PreparedGrant) (replayed : Bool) : GrantDelivery where
  grantId := prepared.grantId
  expiresAtUnix := signed prepared.times.expiresAt
  refreshAfterUnix := signed prepared.times.refreshAfter
  replayed
  raw := prepared.raw

/-- The seconds that `timestamp_opt` takes, from year -262143 to 262142. -/
def representable (seconds : Nat) : Bool :=
  decide (-8334601228800 ≤ signed seconds) && decide (signed seconds ≤ 8210266876799)

namespace GrantEnvironment

variable (env : GrantEnvironment)

/-- The first transaction and the mapping of its record. -/
def material (view : AuthorizationView) (request : GrantRequest) :
    Except GrantCoordinatorError PrivateGrantMaterial := do
  let loaded ← (loadForPolicy view.store view.tables env.policyIsolation view.now request.lookup
    request.routePolicy).mapError .database
  let record ← orElse .denied loaded
  (privateMaterialFromRecord env.readQuota record).mapError .mapping

/-- `prepare_private_grant_with_id`. -/
def prepare (grantId : Uuid) (command : GrantIssueCommand) (material : PrivateGrantMaterial)
    (issuedAt : Nat) : Except PrepareGrantError PreparedGrant := do
  let terms ← grantTerms command.requestId command.request material
  let times ← grantTimes issuedAt
  let raw ← (env.signer.issuePrivate ⟨grantId, env.issuer, terms, times⟩).mapError .signing
  return {
    grantId
    authorizationGeneration := material.snapshot.authorizationGeneration
    requestFingerprint := requestFingerprint env.sha256 command.requestId command.request
      material.snapshot.authorizationGeneration
    times
    raw }

def rebuildReplay (command : GrantIssueCommand) (material : PrivateGrantMaterial)
    (existing : StoredGrantRecord) : Except GrantCoordinatorError GrantDelivery := do
  reject (existing.keyId != env.signer.keyId) .signingKeyUnavailable
  reject (decide (existing.expiresAt < privateGrantTtlSecs)) .replayMismatch
  let rebuilt ← (env.prepare existing.grantId command material
    (existing.expiresAt - privateGrantTtlSecs)).mapError .preparation
  reject (rebuilt.requestFingerprint != existing.requestFingerprint ||
    env.sha256 rebuilt.raw != existing.grantDigest) .replayMismatch
  return rebuilt.delivery true

def write (command : GrantIssueCommand) (prepared : PreparedGrant) : GrantIssuanceWrite where
  id := prepared.grantId
  tenantId := command.request.tenantId
  deviceId := command.request.deviceId
  requestId := command.requestId
  authorizationGeneration := prepared.authorizationGeneration
  requestFingerprint := prepared.requestFingerprint
  keyId := env.signer.keyId
  grantDigest := env.sha256 prepared.raw
  expiresAt := prepared.times.expiresAt

/-- `view` is what the first transaction reads and `rows` what the last one finds;
    anything may have happened in between. -/
def issue (view : AuthorizationView) (rows : List GrantIssuanceRow) (command : GrantIssueCommand)
    (issuedAt : Nat) (freshId : Uuid) :
    Except GrantCoordinatorError (GrantDelivery × List GrantIssuanceRow) := do
  let material ← env.material view command.request
  let prepared ← (env.prepare freshId command material issuedAt).mapError .preparation
  reject (!representable prepared.times.expiresAt) .replayMismatch
  let (outcome, rows) ← (recordGrant env.collate rows
    (env.write command prepared)).mapError .database
  match outcome with
  | .inserted => return (prepared.delivery false, rows)
  | .conflict => .error .conflict
  | .replayed existing => return (← env.rebuildReplay command material existing, rows)

end GrantEnvironment
end CandyCloud.Access
