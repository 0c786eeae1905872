import CandyCloud.Client.Issuance

/-! # Issuing projections

`ClientProjectionService::projection_for_device`: a poll is answered with the stored projection
of its request, with the current projection while its inputs are the same and it is not due, or
with a newly signed one.
-/

namespace CandyCloud

open Foundation

inductive ClientProjectionServiceError where
  | policyNotBound
  | settingsNotPublished
  | grantNotIssued
  | grantStale
  | nodeLeaseExpired
  | noActiveNode
  | trafficModeNotPermitted
  | unavailable
  | idempotencyConflict
  | generationConflict
  | notOwned
deriving DecidableEq, Repr

def clientProjectionTtlSecs : Nat := 6 * 60 * 60

def clientProjectionRefreshMarginSecs : Nat := 30 * 60

structure ClientProjectionRecord where
  projectionId : Uuid
  audience : ClientAudience
  grantId : Uuid
  policyGeneration : Nat
  settingsGeneration : Nat
  deviceTrafficMode : ClientTrafficMode
  generation : Nat
  requestHash : Hash
  contentHash : Hash
  inputsHash : Hash
  signingKeyId : String
  projectionEnvelope : Bytes
  issuedAt : ClientTime
  staleUntil : ClientTime
deriving DecidableEq, Repr

def ClientProjectionRecord.validate (record : ClientProjectionRecord) :
    Except ClientProjectionError Unit :=
  reject ((record.projectionId :: record.audience.ids ++ [record.grantId]).any isNil ||
    decide (record.generation = 0) || decide (record.generation > maxProjectionGeneration) ||
    decide (record.policyGeneration = 0) || decide (record.settingsGeneration = 0) ||
    decide (record.requestHash = zeroHash) || decide (record.contentHash = zeroHash) ||
    decide (record.inputsHash = zeroHash) || record.signingKeyId.isEmpty ||
    decide (record.signingKeyId.utf8ByteSize > 128) || record.projectionEnvelope.isEmpty ||
    decide (record.projectionEnvelope.length > maxProjectionEnvelopeLen) ||
    decide (record.staleUntil ≤ record.issuedAt)) .invalidRecord

/-- Every projection query reads `signing_key_id`, but the insert leaves that
    column out, so what is read is what the table gives such a row. -/
structure ProjectionCodec extends IssuanceCodec where
  signingKeyColumn : String

def ClientProjectionRow.record (signingKeyColumn : String) (row : ClientProjectionRow) :
    ClientProjectionRecord where
  projectionId := row.id
  audience := row.audience
  grantId := row.grantId
  policyGeneration := row.policyGeneration
  settingsGeneration := row.settingsGeneration
  deviceTrafficMode := row.deviceTrafficMode
  generation := row.generation
  requestHash := row.requestHash
  contentHash := row.contentHash
  inputsHash := row.inputsHash
  signingKeyId := signingKeyColumn
  projectionEnvelope := row.projectionEnvelope
  issuedAt := row.issuedAt
  staleUntil := row.staleUntil

def readProjection (signingKeyColumn : String) : Option ClientProjectionRow →
    Except ClientProjectionError (Option ClientProjectionRecord)
  | none => .ok none
  | some row => do
      (row.record signingKeyColumn).validate
      return some (row.record signingKeyColumn)

namespace ClientStore

variable (store : ClientStore) (signingKeyColumn : String) (tenantId clientDeviceId : Uuid)

def nextProjectionGeneration : Except ClientProjectionError Nat := do
  reject ([tenantId, clientDeviceId].any isNil) .invalidScope
  let next := saturatingAdd (store.projectionGeneration tenantId clientDeviceId) 1
  reject (decide (next = 0) || decide (next > maxProjectionGeneration)) .invalidRecord
  return next

def projectionByRequest (requestId : Uuid) :
    Except ClientProjectionError (Option ClientProjectionRecord) := do
  reject ([tenantId, clientDeviceId, requestId].any isNil) .invalidScope
  readProjection signingKeyColumn (store.projectionRequest tenantId clientDeviceId requestId)

/-- `ORDER BY generation DESC LIMIT 1`. -/
def newestProjection (projections : List ClientProjectionRow) : Option ClientProjectionRow :=
  projections.foldl
    (fun best projection =>
      match best with
      | none => some projection
      | some best =>
          if best.generation < projection.generation then some projection else some best)
    none

def currentProjectionRow (deviceKeyId : Uuid) (now : ClientTime) : Option ClientProjectionRow :=
  newestProjection (store.projections.filter fun projection =>
    decide (projection.audience.scope.tenantId = tenantId) &&
      decide (projection.audience.clientDeviceId = clientDeviceId) &&
      decide (projection.audience.deviceKeyId = deviceKeyId) &&
      decide (projection.status = .published) && decide (now < projection.staleUntil))

def currentProjection (deviceKeyId : Uuid) (now : ClientTime) :
    Except ClientProjectionError (Option ClientProjectionRecord) := do
  reject ([tenantId, clientDeviceId, deviceKeyId].any isNil) .invalidScope
  readProjection signingKeyColumn
    (store.currentProjectionRow tenantId clientDeviceId deviceKeyId now)

end ClientStore

def ClientAnswer.projectionResult : Option ClientAnswer →
    Except ClientProjectionError ClientProjectionWriteOutcome
  | some (.projection result) => result
  | _ => .error .invalidRecord

/-- `write_projection` on its own. -/
def writeProjection (sha256 : Bytes → Hash) (store : ClientStore)
    (projection : ClientProjectionWrite) :
    Except ClientProjectionError ClientProjectionWriteOutcome × ClientStore :=
  let served := (clientTransactions sha256).serial longestProgram store (.writeProjection projection)
  (ClientAnswer.projectionResult served.1, served.2)

/-- The bytes `projection_inputs_fingerprint` hashes. -/
def projectionInputsBytes (policyGeneration : Nat) (policyContentHash : Hash)
    (settingsGeneration : Nat) (settingsContentHash : Hash) (deviceTrafficMode : ClientTrafficMode)
    (grantId : Uuid) (nodes : List Uuid) : Bytes :=
  utf8 "candy/terminal-client-projection-inputs/v1" ++ [0] ++ bigEndian 8 policyGeneration ++
    hashBytes policyContentHash ++ bigEndian 8 settingsGeneration ++
    hashBytes settingsContentHash ++ utf8 deviceTrafficMode.toDatabaseValue ++ uuidBytes grantId ++
    bigEndian 4 nodes.length ++ nodes.flatMap uuidBytes

/-- What a projection is computed from. -/
structure ProjectionInputs where
  settings : ClientProjectionSettings
  settingsContentHash : Hash
  policyGeneration : Nat
  policyContentHash : Hash
  modeCapabilities : List ClientTrafficMode
  trafficMode : ClientTrafficMode
  resources : List ClientAllowedResource
  grant : ClientGrantRecord
  nodes : List PolicyProjectionNodeAssignment
deriving DecidableEq, Repr

structure ClientProjectionService where
  codec : ProjectionCodec
  signer : PolicyProjectionSigner

/-- A projection, and whether an earlier request made it. -/
structure IssuedProjection where
  record : ClientProjectionRecord
  replayed : Bool
deriving DecidableEq, Repr

/-- A call of `projection_for_device`, with the identifier of each attempt. -/
structure ProjectionRequest where
  device : ClientDeviceRecord
  requestId : Uuid
  now : ClientTime
  draw : Nat → Uuid

def ClientGrantNodeAssignment.projected (node : ClientGrantNodeAssignment) :
    PolicyProjectionNodeAssignment where
  nodeId := node.nodeId
  endpoint := node.endpoint
  priority := node.priority
  nodeKeyId := node.nodeKeyId
  transport := node.transport
  assignmentLeaseUntil := node.assignmentLeaseUntil

def grantNodes (codec : EnvelopeCodec) (grant : ClientGrantRecord) :
    Except ClientProjectionServiceError (List PolicyProjectionNodeAssignment) := do
  let envelope ← (fromGrantEnvelopeBytes codec grant.grantEnvelope).mapError fun _ => .unavailable
  let nodes := envelope.payload.nodes.map (·.projected)
  reject nodes.isEmpty .noActiveNode
  return nodes

def grantPolicyBinding (codec : EnvelopeCodec) (grant : ClientGrantRecord) :
    Except ClientProjectionServiceError ClientGrantPolicyBinding := do
  let envelope ← (fromGrantEnvelopeBytes codec grant.grantEnvelope).mapError fun _ => .unavailable
  return envelope.payload.policy

def verifyProjectionBinding (device : ClientDeviceRecord) (stored : ClientProjectionRecord) :
    Except ClientProjectionServiceError ClientProjectionRecord := do
  reject (decide (stored.audience ≠ device.audience)) .notOwned
  return stored

namespace ClientProjectionService

variable (service : ClientProjectionService) (plane : ClientPlane) (device : ClientDeviceRecord)

def gatherInputs (issuedAt : Nat) : Except ClientProjectionServiceError ProjectionInputs := do
  let found ← (authorizationSnapshot service.codec.toClientCodec plane device.scope
    device.recordId).mapError fun _ => .unavailable
  let snapshot ← orElse .policyNotBound found
  reject (decide (snapshot.deviceKeyId ≠ device.deviceKeyId)) .idempotencyConflict
  let published ← (currentSettings plane device.scope.tenantId).mapError fun _ => .unavailable
  let settings ← orElse .settingsNotPublished published
  let settingsContentHash ← (settings.contentHash service.codec.toClientCodec).mapError
    fun _ => .unavailable
  reject (!snapshot.policy.modeCapabilities.contains device.trafficMode) .trafficModeNotPermitted
  let now ← orElse .unavailable (timestamp issuedAt)
  let held ← (plane.clients.activeGrant device.scope.tenantId device.recordId device.deviceKeyId
    now).mapError fun _ => .unavailable
  let grant ← orElse .grantNotIssued held
  let nodes ← grantNodes service.codec.toEnvelopeCodec grant
  let binding ← grantPolicyBinding service.codec.toEnvelopeCodec grant
  reject (decide (binding ≠ ⟨snapshot.policy.policyId, snapshot.policy.generation,
    snapshot.policyContentHash⟩)) .grantStale
  return {
    settings
    settingsContentHash
    policyGeneration := snapshot.policy.generation
    policyContentHash := snapshot.policyContentHash
    modeCapabilities := snapshot.policy.modeCapabilities
    trafficMode := device.trafficMode
    resources := snapshot.policy.allowedResources
    grant
    nodes }

def inputsHash (mode : ClientTrafficMode) (inputs : ProjectionInputs) : Hash :=
  service.codec.sha256 (projectionInputsBytes inputs.policyGeneration inputs.policyContentHash
    inputs.settings.generation inputs.settingsContentHash mode inputs.grant.grantId
    (inputs.nodes.map (·.nodeId)))

/-- `request_fingerprint`. -/
def requestHash (requestId : Uuid) (inputs : ProjectionInputs) : Hash :=
  service.codec.sha256 (utf8 "candy/terminal-client-projection/v1" ++ [0] ++
    [device.scope.organizationId, device.scope.tenantId, device.scope.userId, device.recordId,
      device.deviceKeyId].flatMap uuidBytes ++
    utf8 device.trafficMode.toDatabaseValue ++ uuidBytes requestId ++
    uuidBytes inputs.grant.grantId ++ bigEndian 8 inputs.policyGeneration ++
    hashBytes inputs.policyContentHash ++ bigEndian 8 inputs.settings.generation ++
    lengthPrefixed (service.codec.settingsJson inputs.settings) ++
    bigEndian 4 inputs.nodes.length ++
    inputs.nodes.flatMap fun node =>
      uuidBytes node.nodeId ++ lengthPrefixed (utf8 node.endpoint) ++ uuidBytes node.nodeKeyId ++
        bigEndian 8 node.assignmentLeaseUntil)

end ClientProjectionService

/-- A node lease ends with the projection and is not over yet. -/
def clampLease (issuedAt staleUntil : Nat) (node : PolicyProjectionNodeAssignment) :
    Except ClientProjectionServiceError PolicyProjectionNodeAssignment := do
  let assignmentLeaseUntil := min node.assignmentLeaseUntil staleUntil
  reject (decide (assignmentLeaseUntil ≤ issuedAt)) .nodeLeaseExpired
  return { node with assignmentLeaseUntil }

def dnsMode : ClientTrafficMode → PolicyProjectionDnsMode
  | .global => .cloudGlobal
  | .policy => .cloudSplit

def dnsEgress : ClientTrafficMode → PolicyProjectionDnsEgress
  | .global => .selectedNode
  | .policy => .none

/-- What a document takes from the moment it is signed. -/
structure ProjectionStamp where
  projectionId : Uuid
  generation : Nat
  issuedAt : Nat
deriving DecidableEq, Repr

def ProjectionInputs.document (inputs : ProjectionInputs) (device : ClientDeviceRecord)
    (stamp : ProjectionStamp) (staleUntil : Nat) (selectedNode : PolicyProjectionNodeAssignment)
    (standbyNodes : List PolicyProjectionNodeAssignment) : PolicyProjectionV1 where
  schemaVersion := 1
  projectionId := stamp.projectionId
  projectionType := policyProjectionType
  tenantId := device.scope.tenantId
  userId := device.scope.userId
  deviceId := device.deviceId
  deviceKeyId := device.deviceKeyId
  audience := device.documentAudience
  grantId := inputs.grant.grantId
  grantExpiresAt := seconds inputs.grant.expiresAt
  generation := stamp.generation
  notBefore := stamp.issuedAt
  staleUntil
  issuedAt := stamp.issuedAt
  trafficMode := inputs.trafficMode
  modeCapabilities := inputs.modeCapabilities
  selectedNode
  standbyNodes
  allowedResources := inputs.resources
  dnsProjection :=
    { mode := dnsMode inputs.trafficMode
      servers := inputs.settings.dnsServers
      searchDomains :=
        if inputs.settings.searchDomains.isEmpty then none else some inputs.settings.searchDomains
      leakProtection := true }
  underlayExclusions := inputs.settings.underlayExclusions
  degradedBehavior := inputs.settings.degradedBehavior
  globalEgress :=
    { enabled := decide (inputs.trafficMode = .global)
      nodeId := selectedNode.nodeId
      dnsEgress := dnsEgress inputs.trafficMode }
  signingKeyId := ""

def ProjectionInputs.staleUntil (inputs : ProjectionInputs) (issuedAt : Nat) : Option Nat :=
  (checkedAdd issuedAt clientProjectionTtlSecs).map fun deadline =>
    min deadline (seconds inputs.grant.expiresAt)

/-- The projection document, its leases cut to its own lifetime. -/
def ProjectionInputs.assemble (inputs : ProjectionInputs) (device : ClientDeviceRecord)
    (stamp : ProjectionStamp) : Except ClientProjectionServiceError PolicyProjectionV1 := do
  let staleUntil ← orElse .unavailable (inputs.staleUntil stamp.issuedAt)
  reject (decide (staleUntil ≤ stamp.issuedAt)) .grantNotIssued
  let nodes ← inputs.nodes.mapM (clampLease stamp.issuedAt staleUntil)
  match nodes with
  | [] => .error .noActiveNode
  | selectedNode :: standbyNodes =>
      return inputs.document device stamp staleUntil selectedNode standbyNodes

/-- What one attempt comes to: the current projection again, or a signed one to
    write. -/
inductive ProjectionAttempt where
  | unchanged (record : ClientProjectionRecord)
  | signed (document : SignedPolicyProjection) (write : ClientProjectionWrite)
deriving DecidableEq, Repr

namespace ClientProjectionService

variable (service : ClientProjectionService) (plane : ClientPlane) (request : ProjectionRequest)

/-- The current projection, when the inputs have not changed and it is not due. -/
def reusable (inputsHash : Hash) :
    Except ClientProjectionServiceError (Option ClientProjectionRecord) := do
  let device := request.device
  let found ← (plane.clients.currentProjection service.codec.signingKeyColumn device.scope.tenantId
    device.recordId device.deviceKeyId request.now).mapError fun _ => .unavailable
  return found.filter fun current =>
    decide (current.inputsHash = inputsHash) &&
      decide (clientProjectionRefreshMarginSecs ≤ seconds current.staleUntil - seconds request.now)

def signInputs (inputs : ProjectionInputs) (projectionId : Uuid) :
    Except ClientProjectionServiceError ProjectionAttempt := do
  let device := request.device
  let generation ← (plane.clients.nextProjectionGeneration device.scope.tenantId
    device.recordId).mapError fun _ => .unavailable
  let projection ← inputs.assemble device ⟨projectionId, generation, seconds request.now⟩
  let signed ← (service.signer.sign service.codec.toEnvelopeCodec projection).mapError
    fun _ => .unavailable
  let contentHash ← (signed.projection.contentHash service.codec.toEnvelopeCodec).mapError
    fun _ => .unavailable
  let projectionEnvelope ← orElse .unavailable (service.codec.projectionEnvelopeBytes signed)
  let issuedAt ← orElse .unavailable (timestamp (seconds request.now))
  let staleUntil ← orElse .unavailable (timestamp signed.projection.staleUntil)
  return .signed signed {
    projectionId
    audience := device.audience
    grantId := inputs.grant.grantId
    policyGeneration := inputs.policyGeneration
    settingsGeneration := inputs.settings.generation
    deviceTrafficMode := device.trafficMode
    generation
    requestId := request.requestId
    requestHash := service.requestHash device request.requestId inputs
    contentHash
    inputsHash := service.inputsHash device.trafficMode inputs
    signingKeyId := service.signer.keyId
    projectionEnvelope
    issuedAt
    staleUntil }

/-- Only the first attempt may answer with the current projection. -/
def storedAnswer (first : Bool) (inputs : ProjectionInputs) :
    Except ClientProjectionServiceError (Option ClientProjectionRecord) :=
  if first then
    service.reusable plane request (service.inputsHash request.device.trafficMode inputs)
  else .ok none

def attempt (first : Bool) (projectionId : Uuid) :
    Except ClientProjectionServiceError ProjectionAttempt := do
  let inputs ← service.gatherInputs plane request.device (seconds request.now)
  let current ← service.storedAnswer plane request first inputs
  match current with
  | some record => (verifyProjectionBinding request.device record).map .unchanged
  | none => service.signInputs plane request inputs projectionId

def stored (store : ClientStore) : Except ClientProjectionServiceError ClientProjectionRecord := do
  let found ← (store.projectionByRequest service.codec.signingKeyColumn
    request.device.scope.tenantId request.device.recordId request.requestId).mapError
    fun _ => .unavailable
  let record ← orElse .unavailable found
  verifyProjectionBinding request.device record

/-- What follows a write: the stored projection, another attempt after a lost
    generation, or an error. -/
def settle (retry : ClientPlane → Except ClientProjectionServiceError IssuedProjection × ClientPlane)
    (written : Except ClientProjectionError ClientProjectionWriteOutcome × ClientStore) :
    Except ClientProjectionServiceError IssuedProjection × ClientPlane :=
  match written.1 with
  | .ok (.published _ _ replayed) =>
      ((service.stored request written.2).map fun record => ⟨record, replayed⟩,
        { plane with clients := written.2 })
  | .error .generationConflict => retry { plane with clients := written.2 }
  | .error .bindingConflict => (.error .idempotencyConflict, { plane with clients := written.2 })
  | .error _ => (.error .unavailable, { plane with clients := written.2 })

/-- The attempts that are left; a generation lost in the last one is an error. -/
def issueAttempts : Nat → ClientPlane →
    Except ClientProjectionServiceError IssuedProjection × ClientPlane
  | 0, plane => (.error .generationConflict, plane)
  | left + 1, plane =>
      match service.attempt plane request (decide (left + 1 = maxGenerationAttempts))
          (request.draw (maxGenerationAttempts - 1 - left)) with
      | .error error => (.error error, plane)
      | .ok (.unchanged record) => (.ok ⟨record, true⟩, plane)
      | .ok (.signed _ write) =>
          service.settle plane request (issueAttempts left)
            (writeProjection service.codec.sha256 plane.clients write)

def projectionForDevice : Except ClientProjectionServiceError IssuedProjection × ClientPlane :=
  if isNil request.requestId then (.error .idempotencyConflict, plane)
  else
    match plane.clients.projectionByRequest service.codec.signingKeyColumn
        request.device.scope.tenantId request.device.recordId request.requestId with
    | .error _ => (.error .unavailable, plane)
    | .ok (some record) =>
        ((verifyProjectionBinding request.device record).map fun record => ⟨record, true⟩, plane)
    | .ok none => service.issueAttempts request maxGenerationAttempts plane

end ClientProjectionService

end CandyCloud
