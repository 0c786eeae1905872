import Mathlib.Data.List.Lex
import CandyCloud.Route.PublicationChain
import CandyCloud.Worker.Egress
import CandyCloud.Worker.Publisher

/-! # The input of a publication

`build_input`: from a snapshot to what the core module signs.
-/

namespace CandyCloud

open Foundation

def routePublicationValiditySeconds : Nat := 24 * 60 * 60

def routePublicationStaleSeconds : Nat := 48 * 60 * 60

inductive RouteAttachmentState where
  | active
  | draining
  | revoked
deriving DecidableEq, Repr

structure SegmentAttachmentV1 where
  attachmentId : Uuid
  siteId : Uuid
  deviceId : Uuid
  deviceKeyId : Uuid
  overlayRouterIpv4 : BitVec 32
  localPrefixes : List Ipv4PrefixV1
  state : RouteAttachmentState
  epochFloor : Nat
deriving DecidableEq, Repr

structure TransportNodeIdentityV1 where
  nodeId : Uuid
  nodeKeyId : Uuid
deriving DecidableEq, Repr

structure PeerPathCandidateV1 where
  candidateId : Uuid
  peerSiteId : Uuid
  peerAttachmentId : Uuid
  kind : PathCandidateKindV1
  relayNode : Option TransportNodeIdentityV1
  nodePoolId : Uuid
  transportNode : TransportNodeIdentityV1
  endpoint : String
  serverName : String
  serverCertSha256 : Hash
  transportPreset : TransportPreset
  priority : Nat
  authorization : PolicyRefV1
deriving DecidableEq, Repr

structure CoherentPolicyManifestV1 where
  generation : Nat
  peerPathsHash : Hash
  egressAuthorization : Option PolicyRefV1
  egressGateway : Bool
deriving DecidableEq, Repr

structure PacketResourcePolicyV1 where
  maxRoutePrefixes : Nat
  maxQueuePackets : Nat
  maxQueueBytes : Nat
  replayWindowPackets : Nat
  maxPacketsPerSecond : Nat
  maxBytesPerSecond : Nat
  allowedTrafficClasses : Nat
deriving DecidableEq, Repr

/-- What one device's projection is built from. -/
structure DeviceProjectionInput where
  publicationId : Uuid
  attachmentId : Uuid
  projectionId : Uuid
  projectionGeneration : Nat
  previousHash : Hash
  localTransportNode : Option TransportNodeIdentityV1
  pathPolicy : PeerPathPolicyV1
  peerPaths : List PeerPathCandidateV1
  egressRoutes : List RemoteRouteV1
  egressDestinationPrefixes : List Ipv4PrefixV1
  coherentManifest : CoherentPolicyManifestV1
  maxInnerMtu : Nat
  resources : PacketResourcePolicyV1
deriving DecidableEq, Repr

/-- All that a publication of a segment is built from. -/
structure RoutePublicationInput where
  publicationId : Uuid
  auditEventId : Uuid
  actorId : String
  tenantId : Uuid
  segmentId : Uuid
  generation : Nat
  previousHash : Hash
  segmentOverlayPrefix : Ipv4PrefixV1
  attachments : List SegmentAttachmentV1
  notBefore : Nat
  expiresAt : Nat
  staleUntil : Nat
  projections : List DeviceProjectionInput
deriving DecidableEq, Repr

/-- The documents a build reads, the service policies apart. A map keeps the
    last document of an id, as repeated insertion does. -/
structure SegmentView where
  segment : Option SegmentV1
  attachments : List (ResourceMetadataV1 × AttachmentV1)
  prefixes : List PrefixV1
  peers : List (Uuid × PeerV1)
  paths : List (ResourceMetadataV1 × PathCandidateV1)
  relays : Uuid → Option RelayV1
  nodes : Uuid → Option NodeV1
  egresses : Uuid → Option EgressV1

/-- The active documents of one kind under an id; the last insertion wins. -/
def activeDocument {α : Type} (resources : List ControlResourceV1)
    (read : ResourceSpecV1 → Option α) (id : Uuid) : Option α :=
  resources.reverse.findSome? fun resource =>
    if resource.metadata.id = id ∧ resource.metadata.state = .active then read resource.resource
    else none

/-- The documents of one kind in a segment, with their metadata. -/
def documentsIn {α : Type} (resources : List ControlResourceV1)
    (read : ResourceSpecV1 → Option α) (wanted : ResourceMetadataV1 → α → Bool) :
    List (ResourceMetadataV1 × α) :=
  resources.filterMap fun resource =>
    (read resource.resource).bind fun value =>
      if wanted resource.metadata value then some (resource.metadata, value) else none

def segmentView (segmentId : Uuid) (resources : List ControlResourceV1) : SegmentView where
  segment := resources.reverse.findSome? fun resource =>
    if resource.metadata.id = segmentId then resource.resource.segment? else none
  attachments := documentsIn resources ResourceSpecV1.attachment? fun _ value =>
    value.segmentId == segmentId
  prefixes := (documentsIn resources ResourceSpecV1.prefix? fun metadata value =>
    value.segmentId == segmentId && metadata.state == .active).map Prod.snd
  peers := (documentsIn resources ResourceSpecV1.peer? fun metadata value =>
    value.segmentId == segmentId && metadata.state == .active).map fun (metadata, value) =>
      (metadata.id, value)
  paths := documentsIn resources ResourceSpecV1.pathCandidate? fun metadata value =>
    value.segmentId == segmentId && metadata.state == .active
  relays := activeDocument resources ResourceSpecV1.relay?
  nodes := activeDocument resources ResourceSpecV1.node?
  egresses := activeDocument resources ResourceSpecV1.egress?

namespace SegmentView

variable (view : SegmentView)

def activeAttachments : List (ResourceMetadataV1 × AttachmentV1) :=
  view.attachments.filter fun (metadata, _) => metadata.state == .active

def attachmentSites : List Uuid :=
  (view.activeAttachments.map fun (_, value) => value.siteId).dedup

def activePaths : List (ResourceMetadataV1 × PathCandidateV1) :=
  let active := view.activeAttachments.map fun (metadata, _) => metadata.id
  view.paths.filter fun (_, path) =>
    (view.peers.map Prod.fst).contains path.peerId && active.contains path.sourceAttachmentId &&
      active.contains path.destinationAttachmentId

/-- The attachment that an id names; the last insertion wins. -/
def attachment (id : Uuid) : Option AttachmentV1 :=
  (view.attachments.reverse.find? fun (metadata, _) => metadata.id == id).map Prod.snd

def localPrefixes (siteId : Uuid) : Except InputError (List Ipv4PrefixV1) :=
  (view.prefixes.filter fun value => value.siteId == siteId).mapM fun value =>
    match value.prefix_.validate with
    | .ok _ => .ok value.prefix_
    | .error _ => .error (.failed "invalid canonical IPv4 prefix")

/-- A revoked attachment whose node is gone is left out. -/
def coreAttachment (metadata : ResourceMetadataV1) (value : AttachmentV1) :
    Except InputError (Option SegmentAttachmentV1) :=
  match view.nodes value.nodeId with
  | none =>
      if metadata.state ≠ .active then .ok none else .error (.readiness .nodeIdentity)
  | some node => do
      let localPrefixes ← view.localPrefixes value.siteId
      return some {
        attachmentId := metadata.id
        siteId := value.siteId
        deviceId := node.deviceId
        deviceKeyId := node.deviceKeyId
        overlayRouterIpv4 := value.overlayRouterIpv4
        localPrefixes
        state := if metadata.state = .active then .active else .revoked
        epochFloor := value.epochFloor }

def coreAttachments : Except InputError (List SegmentAttachmentV1) := do
  let attachments ← view.attachments.mapM fun (metadata, value) =>
    view.coreAttachment metadata value
  return attachments.filterMap id

end SegmentView

def routeOwners (attachments : List SegmentAttachmentV1) : List Uuid :=
  (attachments.filter fun attachment =>
    attachment.state == .active && !attachment.localPrefixes.isEmpty).map (·.attachmentId)

/-- The route owners and the sources that reach every one of them. -/
def participatingAttachments (owners : List Uuid) (paths : List PathCandidateV1) : List Uuid :=
  owners ++ ((paths.filter fun path =>
    owners.contains path.destinationAttachmentId && !owners.contains path.sourceAttachmentId &&
      owners.all fun owner => paths.any fun other =>
        other.sourceAttachmentId == path.sourceAttachmentId &&
          other.destinationAttachmentId == owner).map (·.sourceAttachmentId)).dedup

def pathConnectsParticipants (participants : List Uuid) (path : PathCandidateV1) : Bool :=
  participants.contains path.sourceAttachmentId &&
    participants.contains path.destinationAttachmentId

/-- A direct path uses one of its two endpoint nodes, and all direct paths of a
    peer use the same one. -/
def checkDirectPath (view : SegmentView) (path : PathCandidateV1) : Except InputError Bool := do
  let source ← orElse (.failed "direct path source Attachment is missing")
    (view.attachment path.sourceAttachmentId)
  let destination ← orElse (.failed "direct path destination Attachment is missing")
    (view.attachment path.destinationAttachmentId)
  reject (path.transportNodeId != source.nodeId && path.transportNodeId != destination.nodeId)
    (.failed "direct path transport Node is not one of its endpoint Nodes")
  reject (view.nodes path.transportNodeId).isNone
    (.failed "direct path transport Node is missing")
  return path.transportNodeId != source.nodeId

/-- The transport node of each direct peer and whether some side dials. -/
def directPeer (view : SegmentView) (peers : List (Uuid × Uuid × Bool))
    (path : PathCandidateV1) : Except InputError (List (Uuid × Uuid × Bool)) :=
  if path.kind ≠ .direct then .ok peers
  else do
    let dials ← checkDirectPath view path
    match peers.find? fun (peerId, _) => peerId == path.peerId with
    | none => return peers ++ [(path.peerId, path.transportNodeId, dials)]
    | some (_, transportNodeId, _) =>
        reject (transportNodeId != path.transportNodeId)
          (.failed "direct peer has conflicting transport Nodes")
        return peers.map fun (peerId, nodeId, hasDialer) =>
          (peerId, nodeId, hasDialer || (peerId == path.peerId && dials))

def validateDirectDialers (view : SegmentView) (paths : List PathCandidateV1) :
    Except InputError Unit := do
  let peers ← updateEach (directPeer view) [] paths
  reject (peers.any fun (_, _, hasDialer) => !hasDialer)
    (.failed "direct peer must use one transport Node with exactly one outbound side")

def runtimePathCandidateId (sha256 : Bytes → Hash) (pathResourceId endpointId : Uuid) : Uuid :=
  digestUuid (sha256 (utf8 "candy/path-endpoint-candidate-v1" ++ [0] ++
    uuidBytes pathResourceId ++ uuidBytes endpointId))

/-- A path of a candidate over one endpoint, with the rate it is entitled to. -/
structure QuotaBoundPeerPathCandidate where
  peerPath : PeerPathCandidateV1
  entitlementRateLimit : Nat
deriving DecidableEq, Repr

def boundPath (sha256 : Bytes → Hash) (metadata : ResourceMetadataV1) (value : PathCandidateV1)
    (peerSiteId : Uuid) (contentHash : Hash) (transport : RuntimeTransportBinding) :
    Except InputError QuotaBoundPeerPathCandidate := do
  reject (transport.candidateId != metadata.id)
    (.failed "transport binding does not match its path resource")
  let transportNode : TransportNodeIdentityV1 :=
    ⟨transport.serviceNodeId, transport.serviceNodeKeyId⟩
  return {
    peerPath :=
      { candidateId := runtimePathCandidateId sha256 metadata.id transport.endpointId
        peerSiteId
        peerAttachmentId := value.destinationAttachmentId
        kind := value.kind
        relayNode := if value.kind = .relay then some transportNode else none
        nodePoolId := transport.nodePoolId
        transportNode
        endpoint := transport.endpoint
        serverName := transport.serverName
        serverCertSha256 := transport.serverCertSha256
        transportPreset := transport.transportPreset
        priority := value.priority
        authorization := ⟨metadata.id, metadata.revision, contentHash⟩ }
    entitlementRateLimit := transport.entitlementRateLimit }

def expandPath (encoding : DocumentEncoding) (bindings : TransportBindings) (view : SegmentView)
    (path : ResourceMetadataV1 × PathCandidateV1) :
    Except InputError (Uuid × List QuotaBoundPeerPathCandidate) := do
  let (metadata, value) := path
  let destination ←
    orElse (.failed "Path candidate references a missing destination Attachment")
      ((view.attachments.find? fun (item, _) => item.id == value.destinationAttachmentId).map
        Prod.snd)
  let transports ← orElse (.readiness .transportIdentity) (bindings.lookup metadata.id)
  if let some relayId := value.relayId then
    let relay ← orElse (.failed "relay path references a missing Relay") (view.relays relayId)
    reject (view.nodes relay.serviceNodeId).isNone (.readiness .nodeIdentity)
  reject ((value.kind == .relay) != value.relayId.isSome)
    (.failed "path candidate relay binding does not match its kind")
  let contentHash ← (documentHash encoding (.pathCandidate value)).mapError fun _ =>
    .failed "path candidate hash failed"
  let expanded ← transports.mapM
    (boundPath encoding.sha256 metadata value destination.siteId contentHash)
  return (metadata.id, expanded)

def effectiveProjectionRateLimit (limits : List Nat) : Except InputError Nat := do
  reject (limits.any (· == 0))
    (.failed "projection contains a zero outbound entitlement rate limit")
  orElse (.failed "projection has no outbound entitlement rate limit") limits.min?

/-- `sort_unstable_by_key` on peer, priority, kind and candidate. -/
def pathRank (path : PeerPathCandidateV1) : List Nat :=
  [path.peerSiteId.toNat, path.peerAttachmentId.toNat, path.priority,
    (match path.kind with
      | .direct => 1
      | .relay => 2), path.candidateId.toNat]

def policyFor (view : SegmentView) (siteA siteB : Uuid) : Except InputError PeerPathPolicyV1 := do
  let peer ← orElse (.readiness .peerPolicy) (view.peers.find? fun (_, peer) =>
    (peer.siteAId == siteA && peer.siteBId == siteB) ||
      (peer.siteAId == siteB && peer.siteBId == siteA))
  return peer.2.pathPolicy

def maxGeoRoutePrefixes : Nat := 65536

def nextProjection (head : Option (Nat × Hash)) : Except InputError (Nat × Hash) :=
  match head with
  | none => .ok (1, zeroHash)
  | some (generation, hash) => do
      let next ← orElse (.failed "projection generation overflow") (checkedAdd generation 1)
      return (next, hash)

/-- What a build reads besides the snapshot and the route store. -/
structure BuildEnvironment where
  encoding : DocumentEncoding
  geo : GeoProvider
  /-- Seconds since the epoch. -/
  now : Nat

/-- What is fixed before the projections are built. -/
structure PublicationFrame where
  snapshot : SegmentControlSnapshot
  view : SegmentView
  generation : Nat
  plan : EgressPlan
  participants : List Uuid
  paths : List (ResourceMetadataV1 × PathCandidateV1)
  pathMap : List (Uuid × List QuotaBoundPeerPathCandidate)

/-- The paths that leave an attachment, with their rates. -/
def PublicationFrame.outbound (frame : PublicationFrame) (attachmentId : Uuid) :
    Except InputError (List QuotaBoundPeerPathCandidate) := do
  let candidates ← (frame.paths.filter fun (_, path) =>
    path.sourceAttachmentId == attachmentId &&
      pathConnectsParticipants frame.participants path).mapM fun (metadata, _) =>
    orElse (.failed "path candidate conversion failed") (frame.pathMap.lookup metadata.id)
  return candidates.flatten

def localTransportNode (bindings : TransportBindings) (node : NodeV1) :
    Option TransportNodeIdentityV1 :=
  ((bindings.flatMap Prod.snd).find? fun binding =>
    binding.serviceDeviceId == node.deviceId && binding.serviceDeviceKeyId == node.deviceKeyId).map
    fun binding => ⟨binding.serviceNodeId, binding.serviceNodeKeyId⟩

def buildProjection (env : BuildEnvironment) (store : RouteStore) (frame : PublicationFrame)
    (metadata : ResourceMetadataV1) (attachment : AttachmentV1) :
    Except InputError DeviceProjectionInput := do
  let snapshot := frame.snapshot
  let node ← orElse (.failed "Attachment Node is missing") (frame.view.nodes attachment.nodeId)
  let outbound ← frame.outbound metadata.id
  let peerPaths := (outbound.map (·.peerPath)).insertionSort fun a b => pathRank a ≤ pathRank b
  let first ← orElse (.readiness .pathCandidates) peerPaths.head?
  let maxBytesPerSecond ← effectiveProjectionRateLimit (outbound.map (·.entitlementRateLimit))
  let head ← (projectionHead store snapshot.tenantId snapshot.segmentId metadata.id).mapError
    fun error => .store error "load site projection head"
  let (projectionGeneration, previousHash) ← nextProjection head
  let pathPolicy ← policyFor frame.view attachment.siteId first.peerSiteId
  return {
    publicationId := stableUuid env.encoding.sha256 snapshot.segmentId metadata.id
      snapshot.desiredRevision
    attachmentId := metadata.id
    projectionId := metadata.id
    projectionGeneration
    previousHash
    localTransportNode := localTransportNode snapshot.transportBindings node
    pathPolicy
    peerPaths
    egressRoutes := frame.plan.routes attachment.siteId
    egressDestinationPrefixes := frame.plan.destinations attachment.siteId
    coherentManifest :=
      { generation := frame.generation
        peerPathsHash := zeroHash
        egressAuthorization := frame.plan.policy attachment.siteId
        egressGateway := frame.plan.gateway attachment.siteId }
    maxInnerMtu := 1300
    resources :=
      { maxRoutePrefixes := maxGeoRoutePrefixes
        maxQueuePackets := 4096
        maxQueueBytes := 16 * 1024 * 1024
        replayWindowPackets := 4096
        maxPacketsPerSecond := 100000
        maxBytesPerSecond
        allowedTrafficClasses := 1 } }

/-- `current_head`. -/
def segmentHead (store : RouteStore) (tenantId segmentId : Uuid) : Except SdwanError (Nat × Hash) := do
  let row ← orElse .segmentNotFound (store.segments.find? fun row =>
    row.of tenantId segmentId && row.state == .active)
  reject ((row.currentGeneration == 0 && row.currentContentHash != zeroHash) ||
    (decide (0 < row.currentGeneration) && row.currentContentHash == zeroHash)) .invalidContentHash
  return (row.currentGeneration, row.currentContentHash)

/-- An active attachment outside the participants is withdrawn. -/
def withdrawOutsiders (participants : List Uuid) (attachment : SegmentAttachmentV1) :
    SegmentAttachmentV1 :=
  if attachment.state = .active ∧ attachment.attachmentId ∉ participants then
    { attachment with state := .revoked }
  else attachment

/-- The part of the build after the egress of the sites is planned. -/
def assembleInput (env : BuildEnvironment) (store : RouteStore) (snapshot : SegmentControlSnapshot)
    (view : SegmentView) (generation : Nat) (previousHash : Hash) (segment : SegmentV1)
    (plan : EgressPlan) : Except InputError RoutePublicationInput := do
  let core ← view.coreAttachments
  validateDirectDialers view (view.activePaths.map Prod.snd)
  let owners := routeOwners core
  let participants := participatingAttachments owners ((view.activePaths.map Prod.snd).filter
    fun path => owners.contains path.destinationAttachmentId)
  let paths := view.activePaths.filter fun (_, path) => pathConnectsParticipants participants path
  let pathMap ← paths.mapM (expandPath env.encoding snapshot.transportBindings view)
  let frame : PublicationFrame :=
    { snapshot, view, generation, plan, participants, paths, pathMap }
  let projections ← (view.attachments.filter fun (metadata, _) =>
    metadata.state == .active && participants.contains metadata.id).mapM
    fun (metadata, attachment) => buildProjection env store frame metadata attachment
  let segmentOverlayPrefix ← match segment.overlayPrefix.validate with
    | .ok _ => .ok segment.overlayPrefix
    | .error _ => .error (.failed "invalid canonical IPv4 prefix")
  return {
    publicationId := stableUuid env.encoding.sha256 snapshot.tenantId snapshot.segmentId
      snapshot.desiredRevision
    auditEventId := stableUuid env.encoding.sha256 snapshot.segmentId snapshot.tenantId
      (snapshot.desiredRevision ^^^ 0xa5a5)
    actorId := "cloud-worker"
    tenantId := snapshot.tenantId
    segmentId := snapshot.segmentId
    generation
    previousHash
    segmentOverlayPrefix
    attachments := core.map (withdrawOutsiders participants)
    notBefore := env.now
    expiresAt := env.now + routePublicationValiditySeconds
    staleUntil := env.now + routePublicationStaleSeconds
    projections }

/-- From the snapshot to the input of the publication. -/
def buildInput (env : BuildEnvironment) (store : RouteStore) (snapshot : SegmentControlSnapshot) :
    Except InputError RoutePublicationInput := do
  let (currentGeneration, currentHash) ←
    (segmentHead store snapshot.tenantId snapshot.segmentId).mapError fun error =>
      .store error "load segment publication head"
  let generation ← orElse (.failed "segment generation overflow") (checkedAdd currentGeneration 1)
  reject ((currentGeneration == 0 && currentHash != zeroHash) ||
    (currentGeneration != 0 && currentHash == zeroHash)) (.invalidHead currentGeneration)
  let rules ← servicePolicyRules env.encoding env.geo snapshot.segmentId snapshot.resources
  let view := segmentView snapshot.segmentId snapshot.resources
  let segment ← orElse (.failed "control snapshot is missing its Segment resource") view.segment
  let effective ← selectRemoteEgressRules view.attachmentSites view.egresses rules
  let plan ← planEgress view.egresses effective
  assembleInput env store snapshot view generation currentHash segment plan

end CandyCloud
