import CandyCloud.Foundation.Closure
import CandyCloud.Control.Contract
import CandyCloud.Queue.Jobs

/-! # The control tables

Resources with their documents, the references between them, the idempotency
records and the transport requests; a `Cloud` adds the job queue and the route
store that the control transactions also touch.
-/

namespace CandyCloud

open Foundation

inductive SocketAddr where
  | v4 (ip : BitVec 32) (port : Nat)
  | v6 (ip : BitVec 128) (port flowinfo scopeId : Nat)
deriving DecidableEq, Repr

structure ProvisionedTransportEndpoint where
  endpoint : SocketAddr
  serverName : String
deriving DecidableEq, Repr

structure ProvisionedTransportIdentity where
  nodeId : Uuid
  endpoints : List ProvisionedTransportEndpoint
  replayed : Bool
deriving DecidableEq, Repr

/-- A stored revision of a resource. -/
structure ResourceRow where
  tenantId : Uuid
  kind : ResourceKind
  id : Uuid
  revision : Nat
  state : ResourceState
  segmentId : Option Uuid
  document : ControlResourceV1
deriving DecidableEq, Repr

/-- A reference that one resource makes to another. -/
structure ReferenceRow where
  tenantId : Uuid
  source : ResourceKind × Uuid
  target : ResourceKind × Uuid
deriving DecidableEq, Repr

/-- `management_idempotency_records`. -/
structure IdempotencyRow where
  tenantId : Uuid
  actorId : String
  idempotencyKey : String
  requestMethod : String
  requestPath : String
  requestHash : Hash
  kind : ResourceKind
  resourceId : Uuid
  resourceRevision : Nat
  response : ControlResourceV1
  replayUntil : Instant
deriving DecidableEq, Repr

/-- `runtime_transport_identity_requests`. -/
structure TransportRequestRow where
  tenantId : Uuid
  deviceId : Uuid
  requestId : String
  requestHash : Hash
  response : ProvisionedTransportIdentity
deriving DecidableEq, Repr

structure ControlStore where
  resources : List ResourceRow
  references : List ReferenceRow
  idempotency : List IdempotencyRow
  transportRequests : List TransportRequestRow
deriving DecidableEq, Repr

/-- The control store, the job queue and the Route store, as one database. -/
structure Cloud where
  control : ControlStore
  queue : GenerationQueue
  route : RouteStore
deriving DecidableEq, Repr

def ResourceRow.at (row : ResourceRow) (tenantId : Uuid) (kind : ResourceKind) (id : Uuid) :
    Bool :=
  row.tenantId == tenantId && row.kind == kind && row.id == id

/-- The primary key. -/
def ResourceRow.conflict (a b : ResourceRow) : Bool :=
  b.at a.tenantId a.kind a.id

/-- `decode_resource`: the stored document, checked again. -/
def decodeResource (document : ControlResourceV1) : Except ControlStoreError ControlResourceV1 :=
  match document.validate with
  | .ok _ => .ok document
  | .error error => .error (.invalidResource error.message)

def affectedSegmentId (resource : ControlResourceV1) : Option Uuid :=
  match resource.resource with
  | .segment _ => some resource.metadata.id
  | other => other.segmentId

def ServicePolicyRuleV1.egress (rule : ServicePolicyRuleV1) : List (ResourceKind × Uuid) :=
  match rule.action with
  | .remoteEgress egressId => [(.egress, egressId)]
  | .localEgress => []

def specReferences : ResourceSpecV1 → List (ResourceKind × Uuid)
  | .node value => [(.site, value.siteId)]
  | .site _ | .segment _ => []
  | .attachment value =>
      [(.segment, value.segmentId), (.site, value.siteId), (.node, value.nodeId)]
  | .prefix_ value => [(.segment, value.segmentId), (.site, value.siteId)]
  | .peer value => [(.segment, value.segmentId), (.site, value.siteAId), (.site, value.siteBId)]
  | .relay value => [(.node, value.serviceNodeId)]
  | .pathCandidate value =>
      [(.segment, value.segmentId), (.peer, value.peerId),
        (.attachment, value.sourceAttachmentId), (.attachment, value.destinationAttachmentId),
        (.node, value.transportNodeId)] ++ value.relayId.toList.map fun id => (.relay, id)
  | .egress value => [(.site, value.siteId), (.attachment, value.attachmentId)]
  | .servicePolicy value =>
      (.segment, value.segmentId) :: value.rules.flatMap fun rule =>
        (rule.sourceSiteIds.map fun id => (.site, id)) ++ rule.egress
  | .dnsIntent value =>
      (.segment, value.segmentId) :: (value.siteId.toList.map fun id => (.site, id)) ++
        (value.siteIds.map fun id => (.site, id)) ++
        (value.records.filterMap (·.requiredPrefixId)).map fun id => (.prefix_, id)

def resourceReferences (resource : ControlResourceV1) : List (ResourceKind × Uuid) :=
  (specReferences resource.resource).dedup

namespace ControlStore

variable (store : ControlStore)

def resource (tenantId : Uuid) (kind : ResourceKind) (id : Uuid) : Option ResourceRow :=
  store.resources.find? fun row => row.at tenantId kind id

def loadControlResource (tenantId : Uuid) (kind : ResourceKind) (id : Uuid) :
    Except ControlStoreError ControlResourceV1 := do
  let row ← orElse .referenceConflict
    (store.resources.find? fun row => row.at tenantId kind id && row.state == .active)
  decodeResource row.document

def referenced (tenantId : Uuid) (kind : ResourceKind) (id : Uuid) : Bool :=
  store.references.any fun reference =>
    reference.tenantId == tenantId && reference.target == (kind, id) &&
      store.resources.any fun source =>
        source.at tenantId reference.source.1 reference.source.2 && source.state != .deleted

/-- From a resource to the resources that refer to it. -/
def dependentEdges (tenantId : Uuid) : List ((ResourceKind × Uuid) × (ResourceKind × Uuid)) :=
  (store.references.filter fun reference => reference.tenantId == tenantId).map fun reference =>
    (reference.target, reference.source)

def dependentSegments (tenantId : Uuid) (kind : ResourceKind) (id : Uuid) : List Uuid :=
  let dependents := reachable (store.dependentEdges tenantId) [(kind, id)]
  ((store.resources.filter fun row =>
    row.tenantId == tenantId && dependents.contains (row.kind, row.id) &&
      row.state != .deleted).filterMap (·.segmentId)).dedup

/-- Undeleted resources of one kind in a segment, except the given one. -/
def others (tenantId : Uuid) (kind : ResourceKind) (id segmentId : Uuid) : List ResourceRow :=
  store.resources.filter fun row =>
    row.tenantId == tenantId && row.kind == kind && row.id != id && row.state != .deleted &&
      row.segmentId == some segmentId

end ControlStore

namespace ResourceSpecV1

def node? : ResourceSpecV1 → Option NodeV1
  | .node value => some value
  | _ => none

def segment? : ResourceSpecV1 → Option SegmentV1
  | .segment value => some value
  | _ => none

def attachment? : ResourceSpecV1 → Option AttachmentV1
  | .attachment value => some value
  | _ => none

def prefix? : ResourceSpecV1 → Option PrefixV1
  | .prefix_ value => some value
  | _ => none

def peer? : ResourceSpecV1 → Option PeerV1
  | .peer value => some value
  | _ => none

def relay? : ResourceSpecV1 → Option RelayV1
  | .relay value => some value
  | _ => none

def pathCandidate? : ResourceSpecV1 → Option PathCandidateV1
  | .pathCandidate value => some value
  | _ => none

def egress? : ResourceSpecV1 → Option EgressV1
  | .egress value => some value
  | _ => none

def servicePolicy? : ResourceSpecV1 → Option ServicePolicyV1
  | .servicePolicy value => some value
  | _ => none

def dnsIntent? : ResourceSpecV1 → Option DnsIntentV1
  | .dnsIntent value => some value
  | _ => none

end ResourceSpecV1

end CandyCloud
