import CandyCloud.Control.Transport

/-! # Segment snapshots

What `segment_snapshot` reads: the activation mode and the resource graph in one transaction,
the transport bindings of its path candidates in a later one.
-/

namespace CandyCloud

open Foundation

/-- The position of a kind in the `resource_kind` column. -/
def ResourceKind.rank : ResourceKind → Nat
  | .node => 0
  | .site => 1
  | .segment => 2
  | .attachment => 3
  | .prefix_ => 4
  | .peer => 5
  | .relay => 6
  | .pathCandidate => 7
  | .egress => 8
  | .servicePolicy => 9
  | .dnsIntent => 10

/-- `ORDER BY resources.resource_kind, resources.id`. -/
def graphOrder (a b : ResourceRow) : Prop :=
  a.kind.rank < b.kind.rank ∨ a.kind.rank = b.kind.rank ∧ a.id ≤ b.id

instance : DecidableRel graphOrder := fun a b =>
  inferInstanceAs (Decidable (a.kind.rank < b.kind.rank ∨
    a.kind.rank = b.kind.rank ∧ a.id ≤ b.id))

namespace ControlStore

variable (store : ControlStore)

def referenceEdges (tenantId : Uuid) : List ((ResourceKind × Uuid) × (ResourceKind × Uuid)) :=
  (store.references.filter fun reference => reference.tenantId == tenantId).map fun reference =>
    (reference.source, reference.target)

/-- The active segment and the active resources in it. -/
def graphRoots (tenantId segmentId : Uuid) : List (ResourceKind × Uuid) :=
  (store.resources.filter fun row =>
    row.tenantId == tenantId && row.state == .active &&
      ((row.kind == .segment && row.id == segmentId) || row.segmentId == some segmentId)).map
    fun row => (row.kind, row.id)

/-- The active resources that the segment's graph reaches. -/
def graphRows (tenantId segmentId : Uuid) : List ResourceRow :=
  let graph := reachable (store.referenceEdges tenantId) (store.graphRoots tenantId segmentId)
  (store.resources.filter fun row =>
    row.tenantId == tenantId && row.state == .active &&
      graph.contains (row.kind, row.id)).insertionSort graphOrder

end ControlStore

/-- What the first transaction of a snapshot returns. -/
structure SegmentReading where
  headRevision : Nat
  policyOnly : Bool
  resources : List ControlResourceV1
deriving DecidableEq, Repr

/-- The first transaction: a policy-only job becomes a tunnel job when a tunnel
    job of the segment is newer than its newest published job. -/
def readSegment (cloud : Cloud) (tenantId segmentId : Uuid) (desiredRevision : Nat) :
    Except ControlStoreError SegmentReading := do
  reject (isNil tenantId || isNil segmentId || desiredRevision == 0) .invalidRequest
  let head ← orElse .notFound (cloud.queue.head tenantId segmentId)
  let job ← orElse .notFound (cloud.queue.jobs.find? fun job =>
    job.of tenantId segmentId && job.desiredRevision == desiredRevision)
  reject (decide (head.desiredRevision < desiredRevision)) .invalidTransition
  let resources ← (cloud.control.graphRows tenantId segmentId).mapM fun row =>
    decodeResource row.document
  return {
    headRevision := head.desiredRevision
    policyOnly := job.activationMode == .policyOnly &&
      !cloud.queue.transportChangePending tenantId segmentId
    resources }

def nodeDocument (resources : List ControlResourceV1) (id : Uuid) : Option NodeV1 :=
  resources.findSome? fun resource =>
    if resource.metadata.id = id then resource.resource.node? else none

def relayDocument (resources : List ControlResourceV1) (id : Uuid) : Option RelayV1 :=
  resources.findSome? fun resource =>
    if resource.metadata.id = id then resource.resource.relay? else none

def segmentDocument (resources : List ControlResourceV1) (id : Uuid) :
    Option (ResourceState × SegmentV1) :=
  resources.findSome? fun resource =>
    if resource.metadata.id = id then
      resource.resource.segment?.map fun segment => (resource.metadata.state, segment)
    else none

structure RuntimeTransportBinding where
  candidateId : Uuid
  endpointId : Uuid
  serviceNodeId : Uuid
  serviceNodeKeyId : Uuid
  serviceDeviceId : Uuid
  serviceDeviceKeyId : Uuid
  nodePoolId : Uuid
  entitlementId : Uuid
  entitlementRateLimit : Nat
  endpoint : String
  serverName : String
  serverCertSha256 : Hash
  transportPreset : TransportPreset
deriving DecidableEq, Repr

/-- The bindings of each bound path candidate. -/
abbrev TransportBindings := List (Uuid × List RuntimeTransportBinding)

def unmeteredPrivateTunnelMaxBytesPerSecond : Nat := 1250000000

/-- Rates in bits per second. -/
structure PersistedTunnelBandwidthQuota where
  uploadRate : Nat
  downloadRate : Nat
deriving DecidableEq, Repr

def bitsPerByte : Nat := 8

/-- The smaller metered rate in bytes per second; a zero rate is unmetered. -/
def PersistedTunnelBandwidthQuota.rateLimit (quota : PersistedTunnelBandwidthQuota) :
    Except ControlStoreError Nat := do
  let effectiveBitsPerSecond := ([quota.uploadRate, quota.downloadRate].filter (· != 0)).min?
  let bytesPerSecond := (effectiveBitsPerSecond.map (· / bitsPerByte)).getD
    unmeteredPrivateTunnelMaxBytesPerSecond
  reject (bytesPerSecond == 0) .invalidTransition
  return bytesPerSecond

/-- `entitlement_rate_limit`; `fromStr` is the JSON reader of a quota. -/
def entitlementRateLimitOf (fromStr : String → Option PersistedTunnelBandwidthQuota)
    (quotaJson : String) : Except ControlStoreError Nat := do
  let quota ← orElse .invalidTransition (fromStr quotaJson)
  quota.rateLimit

/-- The row has the rates of its quota. -/
def entitlementRateLimit (entitlement : EntitlementRow) : Except ControlStoreError Nat :=
  PersistedTunnelBandwidthQuota.rateLimit ⟨entitlement.uploadRateBps, entitlement.downloadRateBps⟩

/-- A row of the binding query. -/
structure TransportRow where
  endpoint : NodeEndpointRow
  node : NodeRow
  entitlement : EntitlementRow
deriving DecidableEq, Repr

namespace Topology

variable (topology : Topology)

/-- The active node of a live device key in an active pool of its tenant. -/
def servesIdentity (tenantId deviceId deviceKeyId : Uuid) (node : NodeRow) : Bool :=
  node.identity tenantId deviceId deviceKeyId && node.status == .active &&
    topology.activeDevice tenantId (some deviceId) &&
    topology.activeDeviceKey tenantId (some deviceId) (some deviceKeyId) &&
    topology.nodePools.any fun pool =>
      pool.id == node.nodePoolId && pool.tenantId == node.tenantId && pool.active

/-- Active tunnel entitlements of a pool on live subscriptions. -/
def tunnelEntitlements (tenantId nodePoolId : Uuid) : List EntitlementRow :=
  topology.entitlements.filter fun entitlement =>
    entitlement.tenantId == tenantId && entitlement.nodePoolId == nodePoolId &&
      entitlement.servicePermission == "private.tun.connect" && entitlement.active &&
      topology.subscriptions.any fun subscription =>
        subscription.id == entitlement.subscriptionId &&
          subscription.tenantId == entitlement.tenantId && subscription.live

def liveEndpoints (nodeId : Uuid) : List NodeEndpointRow :=
  topology.nodeEndpoints.filter fun endpoint =>
    endpoint.nodeId == nodeId && endpoint.active && endpoint.quic

/-- The binding query of one device key, `ORDER BY ne.id`. -/
def transportRows (tenantId deviceId deviceKeyId : Uuid) : List TransportRow :=
  ((topology.nodes.filter (topology.servesIdentity tenantId deviceId deviceKeyId)).flatMap
    fun node => (topology.tunnelEntitlements tenantId node.nodePoolId).flatMap fun entitlement =>
      (topology.liveEndpoints node.id).map fun endpoint =>
        { endpoint, node, entitlement }).insertionSort fun a b => a.endpoint.id ≤ b.endpoint.id

end Topology

/-- A `NULL` in a column that is decoded as a value fails the query. -/
def TransportRow.binding (row : TransportRow) (candidateId deviceId deviceKeyId : Uuid) :
    Except ControlStoreError RuntimeTransportBinding := do
  let serverCertSha256 ← orElse .database row.endpoint.serverCertSha256
  let entitlementRateLimit ← entitlementRateLimit row.entitlement
  let serverName ← orElse .database row.endpoint.serverName
  let transportPreset ← orElse .database row.endpoint.transportPreset
  return {
    candidateId
    endpointId := row.endpoint.id
    serviceNodeId := row.node.id
    serviceNodeKeyId := deviceKeyId
    serviceDeviceId := deviceId
    serviceDeviceKeyId := deviceKeyId
    nodePoolId := row.node.nodePoolId
    entitlementId := row.entitlement.id
    entitlementRateLimit
    endpoint := row.endpoint.endpoint
    serverName
    serverCertSha256
    transportPreset }

/-- The loop over the rows of one candidate; `seen` are the endpoints before. -/
def bindRows (candidateId deviceId deviceKeyId : Uuid) :
    List Uuid → List TransportRow → Except ControlStoreError (List RuntimeTransportBinding)
  | _, [] => .ok []
  | seen, row :: rest => do
      reject (seen.contains row.endpoint.id) .invalidTransition
      let binding ← row.binding candidateId deviceId deviceKeyId
      let bindings ← bindRows candidateId deviceId deviceKeyId (row.endpoint.id :: seen) rest
      return binding :: bindings

/-- A relayed candidate must be carried by the node of its relay. -/
def checkRelay (resources : List ControlResourceV1) (candidate : PathCandidateV1)
    (transportNode : NodeV1) : Except ControlStoreError Unit :=
  if candidate.kind = .relay then do
    let relayNode ← orElse .referenceConflict (do
      let relayId ← candidate.relayId
      let relay ← relayDocument resources relayId
      nodeDocument resources relay.serviceNodeId)
    reject (relayNode.deviceId != transportNode.deviceId ||
      relayNode.deviceKeyId != transportNode.deviceKeyId) .referenceConflict
  else .ok ()

/-- The bindings of one candidate; none without a live endpoint. -/
def bindCandidate (topology : Topology) (tenantId : Uuid) (resources : List ControlResourceV1)
    (candidateId : Uuid) (candidate : PathCandidateV1) :
    Except ControlStoreError (Option (Uuid × List RuntimeTransportBinding)) := do
  let node ← orElse .referenceConflict (nodeDocument resources candidate.transportNodeId)
  let rows := topology.transportRows tenantId node.deviceId node.deviceKeyId
  reject (decide (8 < rows.length)) .invalidTransition
  if rows.isEmpty then return none
  else do
    checkRelay resources candidate node
    let bindings ← bindRows candidateId node.deviceId node.deviceKeyId [] rows
    return some (candidateId, bindings)

def pathCandidates (resources : List ControlResourceV1) : List (Uuid × PathCandidateV1) :=
  resources.filterMap fun resource =>
    resource.resource.pathCandidate?.map fun candidate => (resource.metadata.id, candidate)

def loadTransportBindings (topology : Topology) (tenantId : Uuid)
    (resources : List ControlResourceV1) : Except ControlStoreError TransportBindings := do
  let loaded ← (pathCandidates resources).mapM fun candidate =>
    bindCandidate topology tenantId resources candidate.1 candidate.2
  return loaded.filterMap id

/-- What the control store says of a segment at one revision. -/
structure SegmentControlSnapshot where
  tenantId : Uuid
  segmentId : Uuid
  desiredRevision : Nat
  policyOnly : Bool
  resources : List ControlResourceV1
  transportBindings : TransportBindings
deriving DecidableEq, Repr

/-- The second transaction and the last check of a snapshot. -/
def completeSnapshot (topology : Topology) (tenantId segmentId : Uuid) (desiredRevision : Nat)
    (reading : SegmentReading) : Except ControlStoreError SegmentControlSnapshot := do
  let transportBindings ← loadTransportBindings topology tenantId reading.resources
  reject (segmentDocument reading.resources segmentId).isNone .notFound
  return {
    tenantId
    segmentId
    desiredRevision
    policyOnly := reading.policyOnly
    resources := reading.resources
    transportBindings }

/-- Both reads of `segment_snapshot`, the second from the tables as they are
    after the bridge. -/
def segmentSnapshot (cloud : Cloud) (topology : Topology) (tenantId segmentId : Uuid)
    (desiredRevision : Nat) : Except ControlStoreError SegmentControlSnapshot := do
  let reading ← readSegment cloud tenantId segmentId desiredRevision
  completeSnapshot topology tenantId segmentId desiredRevision reading

end CandyCloud
