import CandyCloud.Client.Envelopes
import Mathlib.Data.List.Sort

/-! # Issuing grants

`ClientIssuance::grant_for_device` and what it reads: the nodes a tenant can be routed to, the
lease of the assignment a device holds and the device's grants.
-/

namespace CandyCloud

open Foundation

def nanosPerSecond : Nat := 1000000000

/-- `DateTime::timestamp`. -/
def seconds (time : ClientTime) : Nat := time / nanosPerSecond

/-- The last second of a `DateTime`. -/
def maxTimestamp : Nat := 8210266876799

def timestamp (secs : Nat) : Option ClientTime :=
  if secs ≤ maxTimestamp then some (secs * nanosPerSecond) else none

/-- An endpoint of a node that a client could dial. -/
structure ClientNodeCandidate where
  nodeId : Uuid
  nodeKeyId : Uuid
  endpointId : Uuid
  endpoint : String
  region : String
  serverName : String
  serverCertSha256 : Hash
deriving DecidableEq, Repr

inductive ClientRoutingError where
  | invalidScope
  | invalidCandidate
  | noActiveNode
  | invalidBackupCount
  | invalidRecord
deriving DecidableEq, Repr

def maxClientNodeBackups : Nat := 2

def maxClientNodeCandidates : Nat := 4096

def ClientNodeCandidate.validate (candidate : ClientNodeCandidate) :
    Except ClientRoutingError Unit :=
  reject
    ([candidate.nodeId, candidate.nodeKeyId, candidate.endpointId].any isNil ||
      candidate.endpoint.toList.all isWhitespace || decide (255 < candidate.endpoint.utf8ByteSize) ||
      (utf8 candidate.endpoint).any asciiControl || candidate.region.isEmpty ||
      decide (80 < candidate.region.utf8ByteSize) || candidate.serverName.isEmpty ||
      decide (253 < candidate.serverName.utf8ByteSize) ||
      decide (candidate.serverCertSha256 = zeroHash))
    .invalidCandidate

/-- What the issuing services are built with. `collate` is the sort key of the
    database's collation. -/
structure IssuanceCodec extends EnvelopeCodec where
  collate : String → List Nat

section Candidates

variable (plane : ClientPlane) (tenantId : Uuid)

def ClientPlane.routedTenant : Bool :=
  plane.accounts.tenants.any fun tenant =>
    decide (tenant.id = tenantId) && decide (tenant.status = .active) &&
      plane.accounts.activeOrganization tenant.organizationId

/-- The pool is active and a live subscription entitles the tenant to it. -/
def ClientPlane.routedPool (poolId : Uuid) : Bool :=
  (plane.topology.nodePools.any fun pool =>
    decide (pool.id = poolId) && decide (pool.tenantId = some tenantId) && pool.active) &&
  plane.topology.entitlements.any fun entitlement =>
    decide (entitlement.tenantId = tenantId) && decide (entitlement.nodePoolId = poolId) &&
      decide (entitlement.servicePermission = "private.tun.connect") && entitlement.active &&
      plane.topology.subscriptions.any fun subscription =>
        decide (subscription.id = entitlement.subscriptionId) &&
          decide (subscription.tenantId = tenantId) && subscription.live

def ClientPlane.routedNode (node : NodeRow) : Bool :=
  decide (node.tenantId = some tenantId) && decide (node.status = .active) &&
    plane.routedTenant tenantId && plane.routedPool tenantId node.nodePoolId &&
    plane.topology.activeDevice tenantId node.deviceId &&
    plane.topology.activeDeviceKey tenantId node.deviceId node.deviceKeyId

/-- A row of the join, when its nullable columns are set. -/
def candidateOf (node : NodeRow) (endpoint : NodeEndpointRow) : Option ClientNodeCandidate := do
  let nodeKeyId ← node.deviceKeyId
  let serverName ← endpoint.serverName
  let serverCertSha256 ← endpoint.serverCertSha256
  return ⟨node.id, nodeKeyId, endpoint.id, endpoint.endpoint, endpoint.region, serverName,
    serverCertSha256⟩

/-- `ORDER BY endpoint.region, node.id, endpoint.id`. -/
def candidateOrder (collate : String → List Nat) (a b : NodeRow × NodeEndpointRow) : Bool :=
  decide (collate a.2.region < collate b.2.region) ||
    (decide (collate a.2.region = collate b.2.region) &&
      (decide (a.1.id < b.1.id) || (decide (a.1.id = b.1.id) && decide (a.2.id ≤ b.2.id))))

def ClientPlane.candidateRows (collate : String → List Nat) : List (NodeRow × NodeEndpointRow) :=
  ((plane.topology.nodes.filter (plane.routedNode tenantId)).flatMap fun node =>
    (plane.topology.nodeEndpoints.filter fun endpoint =>
      decide (endpoint.nodeId = node.id) && endpoint.active && endpoint.quic).map
      fun endpoint => (node, endpoint)).insertionSort
    fun a b => candidateOrder collate a b = true

end Candidates

def activeCandidates (codec : IssuanceCodec) (plane : ClientPlane) (tenantId : Uuid) :
    Except ClientRoutingError (List ClientNodeCandidate) := do
  reject (isNil tenantId) .invalidScope
  let rows := plane.candidateRows tenantId codec.collate
  reject (decide (maxClientNodeCandidates < rows.length)) .invalidRecord
  rows.mapM fun (node, endpoint) => do
    let candidate ← orElse .invalidRecord (candidateOf node endpoint)
    candidate.validate
    return candidate

/-- The order of `select_nodes` without a preferred region: texts compare by
    their bytes. -/
def selectionOrder (a b : ClientNodeCandidate) : Bool :=
  decide (utf8 a.region < utf8 b.region) ||
    (decide (utf8 a.region = utf8 b.region) &&
      (decide (a.nodeId < b.nodeId) ||
        (decide (a.nodeId = b.nodeId) && decide (a.endpointId ≤ b.endpointId))))

/-- `retain` keeps the first candidate of every node. -/
def firstOfNode : List ClientNodeCandidate → List ClientNodeCandidate → List ClientNodeCandidate
  | kept, [] => kept
  | kept, candidate :: rest =>
      if kept.any fun other => decide (other.nodeId = candidate.nodeId) then firstOfNode kept rest
      else firstOfNode (kept ++ [candidate]) rest

/-- The primary and its backups, in the order of the failover. -/
def selectNodes (candidates : List ClientNodeCandidate) (backupCount : Nat) :
    Except ClientRoutingError (List ClientNodeCandidate) := do
  reject (decide (maxClientNodeBackups < backupCount)) .invalidBackupCount
  checkEach (fun _ candidate => candidate.validate) [] candidates
  let kept := firstOfNode [] (candidates.insertionSort fun a b => selectionOrder a b = true)
  reject (decide (kept.length < backupCount + 1)) .noActiveNode
  return kept.take (backupCount + 1)

def assignmentLeaseReusable (now leaseUntil : Nat) : Bool := decide (now < leaseUntil)

def assignmentLeaseDeadline (issuedAt leaseSecs expiresAt : Nat) : Option Nat := do
  let deadline ← checkedAdd issuedAt leaseSecs
  if issuedAt < min deadline expiresAt then some (min deadline expiresAt) else none

/-- A node that a grant names. -/
structure AssignedNode where
  nodeId : Uuid
  nodeKeyId : Uuid
deriving DecidableEq, Repr

structure PreviousAssignment where
  leaseUntil : Nat
  nodes : List AssignedNode
deriving DecidableEq, Repr

/-- The loop of `plan_assignment`: every assigned node, seen once, is still a
    candidate. -/
def reuseNodes (active : List ClientNodeCandidate) :
    List Uuid → List AssignedNode → Option (List ClientNodeCandidate)
  | _, [] => some []
  | seen, assigned :: rest => do
      if isNil assigned.nodeId || seen.contains assigned.nodeId then none
      let candidate ← active.find? fun candidate =>
        decide (candidate.nodeId = assigned.nodeId) &&
          decide (candidate.nodeKeyId = assigned.nodeKeyId)
      let others ← reuseNodes active (assigned.nodeId :: seen) rest
      return candidate :: others

/-- `plan_assignment`: the nodes to reuse, or none to select afresh. -/
def planAssignment (now : Nat) (previous : Option PreviousAssignment)
    (active : List ClientNodeCandidate) : Option (List ClientNodeCandidate) := do
  let previous ← previous
  if !assignmentLeaseReusable now previous.leaseUntil || previous.nodes.isEmpty then none
  reuseNodes active [] previous.nodes

structure ClientGrantRecord where
  grantId : Uuid
  audience : ClientAudience
  generation : Nat
  requestHash : Hash
  signingKeyId : String
  grantEnvelope : Bytes
  issuedAt : ClientTime
  expiresAt : ClientTime
  assignmentLeaseUntil : Option ClientTime
deriving DecidableEq, Repr

def ClientGrantRecord.validate (record : ClientGrantRecord) : Except ClientControlError Unit := do
  reject ((record.grantId :: record.audience.ids).any isNil || decide (record.generation = 0) ||
    decide (record.generation > maxGrantGeneration) || decide (record.requestHash = zeroHash) ||
    record.signingKeyId.isEmpty || decide (record.signingKeyId.utf8ByteSize > 128) ||
    record.grantEnvelope.isEmpty || decide (record.grantEnvelope.length > maxGrantEnvelopeLen) ||
    decide (record.expiresAt ≤ record.issuedAt)) .invalidRecord
  reject (record.assignmentLeaseUntil.any fun leaseUntil =>
    decide (leaseUntil ≤ record.issuedAt) || decide (leaseUntil > record.expiresAt)) .invalidRecord

def ClientGrantRow.record (row : ClientGrantRow) : ClientGrantRecord where
  grantId := row.id
  audience := row.audience
  generation := row.generation
  requestHash := row.requestHash
  signingKeyId := row.signingKeyId
  grantEnvelope := row.grantEnvelope
  issuedAt := row.issuedAt
  expiresAt := row.expiresAt
  assignmentLeaseUntil := row.assignmentLeaseUntil

def readGrant : Option ClientGrantRow → Except ClientControlError (Option ClientGrantRecord)
  | none => .ok none
  | some row => do
      row.record.validate
      return some row.record

namespace ClientStore

variable (store : ClientStore) (tenantId clientDeviceId : Uuid)

def grantByRequest (requestId : Uuid) : Except ClientControlError (Option ClientGrantRecord) := do
  reject ([tenantId, clientDeviceId, requestId].any isNil) .invalidScope
  readGrant (store.grantRequest tenantId clientDeviceId requestId)

def nextGrantGeneration : Except ClientControlError Nat := do
  reject ([tenantId, clientDeviceId].any isNil) .invalidScope
  let next := saturatingAdd (store.grantGeneration tenantId clientDeviceId) 1
  reject (decide (next = 0) || decide (next > maxGrantGeneration)) .invalidRecord
  return next

/-- `ORDER BY generation DESC, issued_at DESC LIMIT 1`. -/
def newestGrant (grants : List ClientGrantRow) : Option ClientGrantRow :=
  grants.foldl
    (fun best grant =>
      match best with
      | none => some grant
      | some best =>
          if best.generation < grant.generation ∨
              (best.generation = grant.generation ∧ best.issuedAt < grant.issuedAt) then some grant
          else some best)
    none

def activeGrantRow (deviceKeyId : Uuid) (now : ClientTime) : Option ClientGrantRow :=
  newestGrant (store.grants.filter fun grant =>
    decide (grant.audience.scope.tenantId = tenantId) &&
      decide (grant.audience.clientDeviceId = clientDeviceId) &&
      decide (grant.audience.deviceKeyId = deviceKeyId) && decide (grant.status = .active) &&
      decide (now < grant.expiresAt))

def activeGrant (deviceKeyId : Uuid) (now : ClientTime) :
    Except ClientControlError (Option ClientGrantRecord) := do
  reject ([tenantId, clientDeviceId, deviceKeyId].any isNil) .invalidScope
  readGrant (store.activeGrantRow tenantId clientDeviceId deviceKeyId now)

end ClientStore

def ClientAnswer.grantResult : Option ClientAnswer →
    Except ClientControlError ClientGrantWriteOutcome
  | some (.grant result) => result
  | _ => .error .invalidRecord

/-- `write_grant` on its own. -/
def writeGrant (sha256 : Bytes → Hash) (store : ClientStore) (grant : ClientGrantWrite) :
    Except ClientControlError ClientGrantWriteOutcome × ClientStore :=
  let served := (clientTransactions sha256).serial longestProgram store (.writeGrant grant)
  (ClientAnswer.grantResult served.1, served.2)

inductive ClientIssuanceError where
  | policyNotBound
  | noActiveNode
  | unavailable
  | idempotencyConflict
  | generationConflict
  | notOwned
deriving DecidableEq, Repr

/-- A grant, and whether an earlier request made it. -/
structure IssuedGrant where
  record : ClientGrantRecord
  replayed : Bool
deriving DecidableEq, Repr

/-- The service that issues grants. -/
structure ClientIssuance where
  codec : IssuanceCodec
  signer : ClientGrantSigner

def clientGrantNodeLeaseSecs : Nat := 60 * 60

def maxGenerationAttempts : Nat := 3

def ClientDeviceRecord.audience (device : ClientDeviceRecord) : ClientAudience :=
  ⟨device.scope, device.recordId, device.deviceKeyId⟩

def ClientDeviceRecord.documentAudience (device : ClientDeviceRecord) : ClientGrantAudience :=
  ⟨device.scope.tenantId, device.scope.userId, device.deviceId, device.deviceKeyId⟩

def verifyGrantBinding (device : ClientDeviceRecord) (stored : ClientGrantRecord) :
    Except ClientIssuanceError ClientGrantRecord := do
  reject (decide (stored.audience ≠ device.audience)) .notOwned
  return stored

/-- A call of `grant_for_device`, with the identifier of each attempt. -/
structure GrantRequest where
  device : ClientDeviceRecord
  requestId : Uuid
  now : ClientTime
  draw : Nat → Uuid

namespace ClientIssuance

variable (issuance : ClientIssuance) (plane : ClientPlane) (device : ClientDeviceRecord)

def previousAssignment (now : Nat) : Except ClientIssuanceError (Option PreviousAssignment) := do
  let at_ ← orElse .unavailable (timestamp now)
  let found ← (plane.clients.activeGrant device.scope.tenantId device.recordId device.deviceKeyId
    at_).mapError fun _ => .unavailable
  match found with
  | none => return none
  | some record =>
      match record.assignmentLeaseUntil with
      | none => return none
      | some recorded =>
          if !assignmentLeaseReusable now (seconds recorded) then return none
          else
            let envelope ← (fromGrantEnvelopeBytes issuance.codec.toEnvelopeCodec
              record.grantEnvelope).mapError fun _ => .unavailable
            match envelope.payload.nodes with
            | [] => return none
            | first :: _ =>
                if (envelope.payload.nodes.any fun node =>
                      decide (node.assignmentLeaseUntil ≠ first.assignmentLeaseUntil)) ||
                    decide (first.assignmentLeaseUntil ≠ seconds recorded) then return none
                else return some ⟨first.assignmentLeaseUntil,
                  envelope.payload.nodes.map fun node => ⟨node.nodeId, node.nodeKeyId⟩⟩

/-- Ask for as many backups as there are candidates for. -/
def selectFreshNodes (candidates : List ClientNodeCandidate) :
    Except ClientIssuanceError (List ClientNodeCandidate) :=
  (selectNodes candidates (min (candidates.length - 1) maxClientNodeBackups)).mapError fun error =>
    match error with
    | .noActiveNode => .noActiveNode
    | .invalidScope => .notOwned
    | .invalidCandidate | .invalidBackupCount | .invalidRecord => .unavailable

def selectNodesFor (issuedAt : Nat) : Except ClientIssuanceError (List ClientNodeCandidate) := do
  let candidates ← (activeCandidates issuance.codec plane device.scope.tenantId).mapError
    fun _ => .unavailable
  reject candidates.isEmpty .noActiveNode
  let previous ← issuance.previousAssignment plane device issuedAt
  match planAssignment issuedAt previous candidates with
  | some nodes =>
      if !nodes.isEmpty && decide (nodes.length ≤ maxClientNodeBackups + 1) then return nodes
      else selectFreshNodes candidates
  | none => selectFreshNodes candidates

/-- `issuance_fingerprint`. -/
def fingerprint (requestId : Uuid) (snapshot : ClientAuthorizationSnapshot)
    (nodes : List ClientNodeCandidate) : Hash :=
  issuance.codec.sha256 (utf8 "candy/terminal-client-grant/v1" ++ [0] ++
    ([uuidBytes requestId, uuidBytes device.scope.organizationId,
      uuidBytes device.scope.tenantId, uuidBytes device.scope.userId, uuidBytes device.recordId,
      uuidBytes device.deviceId, uuidBytes device.deviceKeyId, bigEndian 8 device.generation,
      uuidBytes snapshot.policy.policyId, bigEndian 8 snapshot.policy.generation,
      hashBytes snapshot.policyContentHash].flatMap lengthPrefixed) ++
    (snapshot.policy.modeCapabilities.flatMap fun mode =>
      lengthPrefixed (utf8 mode.toWireValue)) ++
    nodes.flatMap fun node =>
      [uuidBytes node.nodeId, uuidBytes node.nodeKeyId, uuidBytes node.endpointId,
        utf8 node.endpoint].flatMap lengthPrefixed)

end ClientIssuance

/-- What a grant is signed from, read once for all attempts. -/
structure GrantInputs where
  snapshot : ClientAuthorizationSnapshot
  issuedAt : Nat
  expiresAt : Nat
  leaseUntil : Nat
  nodes : List ClientNodeCandidate
deriving DecidableEq, Repr

def GrantInputs.assignments (inputs : GrantInputs) : List ClientGrantNodeAssignment :=
  inputs.nodes.zipIdx.map fun (node, index) =>
    { nodeId := node.nodeId
      endpoint := node.endpoint
      priority := min (index + 1) 255
      nodeKeyId := node.nodeKeyId
      transport := "quic"
      serverName := node.serverName
      serverCertSha256 := node.serverCertSha256
      assignmentLeaseUntil := inputs.leaseUntil }

def GrantInputs.payload (inputs : GrantInputs) (device : ClientDeviceRecord) (grantId : Uuid)
    (generation : Nat) : ClientGrantPayloadV1 where
  schemaVersion := 1
  grantId
  tenantId := device.scope.tenantId
  userId := device.scope.userId
  deviceId := device.deviceId
  deviceKeyId := device.deviceKeyId
  devicePublicKey := inputs.snapshot.publicKey
  audience := device.documentAudience
  deviceGeneration := device.generation
  generation
  issuedAt := inputs.issuedAt
  notBefore := inputs.issuedAt
  expiresAt := inputs.expiresAt
  modeCapabilities := inputs.snapshot.policy.modeCapabilities
  policy := ⟨inputs.snapshot.policy.policyId, inputs.snapshot.policy.generation,
    inputs.snapshot.policyContentHash⟩
  nodes := inputs.assignments
  signingKeyId := ""

namespace ClientIssuance

variable (issuance : ClientIssuance) (plane : ClientPlane) (request : GrantRequest)

def gatherInputs : Except ClientIssuanceError GrantInputs := do
  let device := request.device
  let found ← (authorizationSnapshot issuance.codec.toClientCodec plane device.scope
    device.recordId).mapError fun _ => .unavailable
  let snapshot ← orElse .policyNotBound found
  reject (decide (snapshot.deviceKeyId ≠ device.deviceKeyId)) .idempotencyConflict
  let issuedAt := seconds request.now
  let expiresAt ← orElse .unavailable (checkedAdd issuedAt clientGrantTtlSecs)
  let nodes ← issuance.selectNodesFor plane device issuedAt
  let leaseUntil ← orElse .unavailable
    (assignmentLeaseDeadline issuedAt clientGrantNodeLeaseSecs expiresAt)
  return { snapshot, issuedAt, expiresAt, leaseUntil, nodes }

def attempt (inputs : GrantInputs) (grantId : Uuid) :
    Except ClientIssuanceError ClientGrantWrite := do
  let device := request.device
  let assignmentLeaseUntil ← orElse .unavailable (timestamp inputs.leaseUntil)
  let issuedAt ← orElse .unavailable (timestamp inputs.issuedAt)
  let expiresAt ← orElse .unavailable (timestamp inputs.expiresAt)
  let generation ← (plane.clients.nextGrantGeneration device.scope.tenantId
    device.recordId).mapError fun _ => .unavailable
  let envelope ← (issuance.signer.issue issuance.codec.toEnvelopeCodec
    (inputs.payload device grantId generation)).mapError fun _ => .unavailable
  let grantEnvelope ← orElse .unavailable (issuance.codec.grantEnvelopeBytes envelope)
  return {
    grantId
    audience := device.audience
    generation
    requestId := request.requestId
    requestHash := issuance.fingerprint device request.requestId inputs.snapshot inputs.nodes
    signingKeyId := issuance.signer.keyId
    grantEnvelope
    issuedAt
    expiresAt
    assignmentLeaseUntil }

def stored (store : ClientStore) : Except ClientIssuanceError ClientGrantRecord := do
  let found ← (store.grantByRequest request.device.scope.tenantId request.device.recordId
    request.requestId).mapError fun _ => .unavailable
  let record ← orElse .unavailable found
  verifyGrantBinding request.device record

/-- What follows a write: the stored grant, another attempt after a lost
    generation, or an error. -/
def settle (retry : ClientPlane → Except ClientIssuanceError IssuedGrant × ClientPlane)
    (written : Except ClientControlError ClientGrantWriteOutcome × ClientStore) :
    Except ClientIssuanceError IssuedGrant × ClientPlane :=
  match written.1 with
  | .ok (.issued _ _ replayed) =>
      ((stored request written.2).map fun record => ⟨record, replayed⟩,
        { plane with clients := written.2 })
  | .error .generationConflict => retry { plane with clients := written.2 }
  | .error .bindingConflict => (.error .idempotencyConflict, { plane with clients := written.2 })
  | .error _ => (.error .unavailable, { plane with clients := written.2 })

/-- The attempts that are left; a generation lost in the last one is an error. -/
def issueAttempts (inputs : GrantInputs) :
    Nat → ClientPlane → Except ClientIssuanceError IssuedGrant × ClientPlane
  | 0, plane => (.error .generationConflict, plane)
  | left + 1, plane =>
      match issuance.attempt plane request inputs (request.draw (maxGenerationAttempts - 1 - left)) with
      | .error error => (.error error, plane)
      | .ok write =>
          settle plane request (issueAttempts inputs left)
            (writeGrant issuance.codec.sha256 plane.clients write)

def grantForDevice : Except ClientIssuanceError IssuedGrant × ClientPlane :=
  if isNil request.requestId then (.error .idempotencyConflict, plane)
  else
    match plane.clients.grantByRequest request.device.scope.tenantId request.device.recordId
        request.requestId with
    | .error _ => (.error .unavailable, plane)
    | .ok (some record) =>
        ((verifyGrantBinding request.device record).map fun record => ⟨record, true⟩, plane)
    | .ok none =>
        match issuance.gatherInputs plane request with
        | .error error => (.error error, plane)
        | .ok inputs => issuance.issueAttempts request inputs maxGenerationAttempts plane

end ClientIssuance

end CandyCloud
