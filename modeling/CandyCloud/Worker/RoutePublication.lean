import CandyCloud.Foundation.SortedSets
import CandyCloud.Worker.Input

/-! # Route publications

`build_route_publication`: the attachments of an input are compiled to the routes of the
segment, the snapshot of the segment and a projection for every device are sealed by the core
module, and `database_write` makes the write of them.
-/

namespace CandyCloud

open Foundation

inductive AttachmentPrincipalV1 where
  | device (deviceId deviceKeyId : Uuid)
  | node (nodeId nodeKeyId : Uuid)
deriving DecidableEq, Repr

structure RouteAttachmentV1 where
  attachmentId : Uuid
  siteId : Option Uuid
  principal : AttachmentPrincipalV1
  overlayRouterIpv4 : BitVec 32
  localPrefixes : List Ipv4PrefixV1
  state : RouteAttachmentState
  epochFloor : Nat
deriving DecidableEq, Repr

/-- The attachments of an input are devices at a site. -/
def SegmentAttachmentV1.route (attachment : SegmentAttachmentV1) : RouteAttachmentV1 where
  attachmentId := attachment.attachmentId
  siteId := some attachment.siteId
  principal := .device attachment.deviceId attachment.deviceKeyId
  overlayRouterIpv4 := attachment.overlayRouterIpv4
  localPrefixes := attachment.localPrefixes
  state := attachment.state
  epochFloor := attachment.epochFloor

/-- A route of the segment and the attachments that own it. -/
structure SegmentRouteV1 where
  destinationPrefix : Ipv4PrefixV1
  ownerSiteId : Option Uuid
  ownerAttachmentIds : List Uuid
deriving DecidableEq, Repr

structure SegmentRouteSnapshotV1 where
  tenantId : Uuid
  segmentId : Uuid
  segmentGeneration : Nat
  segmentOverlayPrefix : Ipv4PrefixV1
  attachments : List RouteAttachmentV1
  routes : List SegmentRouteV1
  notBefore : Nat
  expiresAt : Nat
  staleUntil : Nat
  previousHash : Hash
deriving DecidableEq, Repr

structure SiteRouteProjectionV1 where
  tenantId : Uuid
  segmentId : Uuid
  segmentGeneration : Nat
  segmentContentHash : Hash
  siteId : Uuid
  attachmentId : Uuid
  deviceId : Uuid
  deviceKeyId : Uuid
  localTransportNode : Option TransportNodeIdentityV1
  overlayRouterIpv4 : BitVec 32
  localPrefixes : List Ipv4PrefixV1
  remoteRoutes : List RemoteRouteV1
  egressDestinationPrefixes : List Ipv4PrefixV1
  pathPolicy : PeerPathPolicyV1
  peerPaths : List PeerPathCandidateV1
  coherentManifest : CoherentPolicyManifestV1
  maxInnerMtu : Nat
  resources : PacketResourcePolicyV1
  epochFloor : Nat
  notBefore : Nat
  expiresAt : Nat
  staleUntil : Nat
  projectionId : Uuid
  projectionGeneration : Nat
  previousHash : Hash
deriving DecidableEq, Repr

inductive RoutePublicationError where
  | invalidGeneration
  | inactiveOwner
  | overlappingOwnership
  | incompleteProjectionSet
  | projectionAttachmentMismatch
  | unroutablePeerPath
  | expansionScopeMismatch
  | missingReverseRoute
  | core (text : String)
  | repository (error : SdwanError)
deriving DecidableEq, Repr

def RoutePublicationError.message : RoutePublicationError → String
  | .invalidGeneration => "publication generation is invalid"
  | .inactiveOwner => "a route owner is not ACTIVE"
  | .overlappingOwnership => "route ownership overlaps across Sites"
  | .incompleteProjectionSet => "every active DeviceAttachment requires exactly one projection"
  | .projectionAttachmentMismatch => "projection does not bind the selected DeviceAttachment"
  | .unroutablePeerPath => "projection has a remote route owner without a peer path"
  | .expansionScopeMismatch => "expansion object does not bind the selected Segment publication"
  | .missingReverseRoute => "every device projection requires a reverse route"
  | .core text => "Core module route operation failed: " ++ text
  | .repository _ => "SD-WAN repository rejected the publication"

structure PreparedObject where
  objectType : BitVec 32
  payload : Bytes
  signingTranscript : Bytes

/-- The core module; a failed call is told by its text. -/
structure CoreModule where
  prepare : Bytes → Except String PreparedObject
  routeContentHash : BitVec 32 → Bytes → Except String Hash
  assemble : BitVec 32 → Bytes → Bytes → Bytes → Except String Bytes
  validate : BitVec 32 → Bytes → Bytes → Except String Unit

structure SealedRouteObject (α : Type) where
  source : α
  contentHash : Hash
  envelope : Bytes
deriving DecidableEq, Repr

/-- `RouteSigner`, with the requests that its objects are sent in. -/
structure RouteSigner where
  keyId : Bytes
  sign : Bytes → Bytes
  publicKey : Bytes
  core : CoreModule
  segmentRequest : SegmentRouteSnapshotV1 → Except String Bytes
  projectionRequest : SiteRouteProjectionV1 → Except String Bytes

def routeEnvelopeType : BitVec 32 := 0x100

def segmentSnapshotType : BitVec 32 := 0x101

def siteProjectionType : BitVec 32 := 0x102

def prepareFailed (objectType : BitVec 32) (error : String) : RoutePublicationError :=
  .core ("object type " ++ toString objectType.toNat ++ " prepare failed: " ++ error)

namespace RouteSigner

variable (signer : RouteSigner)

def moduleSeal {α : Type} (objectType : BitVec 32) (source : α) (request : Except String Bytes) :
    Except RoutePublicationError (SealedRouteObject α) := do
  let request ← request.mapError .core
  let prepared ← (signer.core.prepare request).mapError (prepareFailed objectType)
  reject (prepared.objectType != objectType)
    (.core ("Core returned object type " ++ toString prepared.objectType.toNat ++ ", expected " ++
      toString objectType.toNat))
  let contentHash ← (signer.core.routeContentHash objectType prepared.payload).mapError .core
  let raw ← (signer.core.assemble objectType signer.keyId prepared.payload
    (signer.sign prepared.signingTranscript)).mapError .core
  (signer.core.validate routeEnvelopeType raw signer.publicKey).mapError .core
  return ⟨source, contentHash, raw⟩

def signSegmentSnapshot (object : SegmentRouteSnapshotV1) :
    Except RoutePublicationError (SealedRouteObject SegmentRouteSnapshotV1) :=
  signer.moduleSeal segmentSnapshotType object (signer.segmentRequest object)

def signSiteProjection (object : SiteRouteProjectionV1) :
    Except RoutePublicationError (SealedRouteObject SiteRouteProjectionV1) :=
  signer.moduleSeal siteProjectionType object (signer.projectionRequest object)

end RouteSigner

/-- One local prefix joins the route to it or opens one. -/
def announcePrefix (attachmentId siteId : Uuid) (routes : List SegmentRouteV1)
    (announced : Ipv4PrefixV1) : Except RoutePublicationError (List SegmentRouteV1) :=
  match routes.find? fun route => decide (route.destinationPrefix = announced) with
  | some route => do
      reject (decide (route.ownerSiteId ≠ some siteId)) .overlappingOwnership
      return routes.map fun other =>
        if other.destinationPrefix = announced then
          { other with ownerAttachmentIds := other.ownerAttachmentIds ++ [attachmentId] }
        else other
  | none => do
      reject (routes.any fun route => route.destinationPrefix.overlaps announced)
        .overlappingOwnership
      return routes ++ [⟨announced, some siteId, [attachmentId]⟩]

/-- The prefixes of one attachment; without a site it announces none. -/
def compileAttachment (routes : List SegmentRouteV1) (attachment : RouteAttachmentV1) :
    Except RoutePublicationError (List SegmentRouteV1) := do
  reject (!attachment.localPrefixes.isEmpty && decide (attachment.state ≠ .active)) .inactiveOwner
  if attachment.state ≠ .active then return routes
  else
    match attachment.siteId with
    | none => return routes
    | some siteId =>
        updateEach (announcePrefix attachment.attachmentId siteId) routes attachment.localPrefixes

/-- The routes of a segment, each owned by one site. -/
def compileRoutes (attachments : List RouteAttachmentV1) :
    Except RoutePublicationError (List SegmentRouteV1) := do
  let routes ← updateEach compileAttachment [] attachments
  let sorted := routes.insertionSort fun a b => prefixOrder a.destinationPrefix b.destinationPrefix
  return sorted.map fun route =>
    { route with ownerAttachmentIds := route.ownerAttachmentIds.insertionSort fun a b => a ≤ b }

/-- The routes of other sites and the egress of the attachment's own. -/
def remoteRoutes (routes : List SegmentRouteV1) (siteId : Uuid) (egressRoutes : List RemoteRouteV1) :
    Except RoutePublicationError (List RemoteRouteV1) := do
  let remote ← (routes.filter fun route => decide (route.ownerSiteId ≠ some siteId)).mapM
    fun route => do
      let ownerSiteId ← orElse .overlappingOwnership route.ownerSiteId
      return (⟨route.destinationPrefix, ownerSiteId, route.ownerAttachmentIds⟩ : RemoteRouteV1)
  return (remote ++ egressRoutes).insertionSort fun a b =>
    prefixOrder a.destinationPrefix b.destinationPrefix

def pathsCoverOwners (remote : List RemoteRouteV1) (peerPaths : List PeerPathCandidateV1) : Bool :=
  let peers := peerPaths.map fun path => (path.peerSiteId, path.peerAttachmentId)
  remote.all fun route =>
    route.ownerAttachmentIds.all fun attachmentId => peers.contains (route.ownerSiteId, attachmentId)

structure BuiltDeviceProjection where
  publicationId : Uuid
  sealedProjection : SealedRouteObject SiteRouteProjectionV1
deriving DecidableEq, Repr

/-- A publication, signed and not yet written. -/
structure BuiltRoutePublication where
  publicationId : Uuid
  auditEventId : Uuid
  actorId : String
  segment : SealedRouteObject SegmentRouteSnapshotV1
  projections : List BuiltDeviceProjection
deriving DecidableEq, Repr

def RouteAttachmentV1.isActiveDevice (attachment : RouteAttachmentV1) : Bool :=
  decide (attachment.state = .active) &&
    match attachment.principal with
    | .device _ _ => true
    | .node _ _ => false

def DeviceProjectionInput.projection (plan : DeviceProjectionInput) (input : RoutePublicationInput)
    (segmentContentHash : Hash) (attachment : RouteAttachmentV1)
    (siteId deviceId deviceKeyId : Uuid) (remote : List RemoteRouteV1) : SiteRouteProjectionV1 where
  tenantId := input.tenantId
  segmentId := input.segmentId
  segmentGeneration := input.generation
  segmentContentHash
  siteId
  attachmentId := attachment.attachmentId
  deviceId
  deviceKeyId
  localTransportNode := plan.localTransportNode
  overlayRouterIpv4 := attachment.overlayRouterIpv4
  localPrefixes := attachment.localPrefixes
  remoteRoutes := remote
  egressDestinationPrefixes := plan.egressDestinationPrefixes
  pathPolicy := plan.pathPolicy
  peerPaths := plan.peerPaths
  coherentManifest := plan.coherentManifest
  maxInnerMtu := plan.maxInnerMtu
  resources := plan.resources
  epochFloor := attachment.epochFloor
  notBefore := input.notBefore
  expiresAt := input.expiresAt
  staleUntil := input.staleUntil
  projectionId := plan.projectionId
  projectionGeneration := plan.projectionGeneration
  previousHash := plan.previousHash

def buildDeviceProjection (signer : RouteSigner) (input : RoutePublicationInput)
    (routes : List SegmentRouteV1) (devices : List RouteAttachmentV1) (segmentContentHash : Hash)
    (plan : DeviceProjectionInput) : Except RoutePublicationError BuiltDeviceProjection := do
  let attachment ← orElse .projectionAttachmentMismatch
    (devices.find? fun attachment => decide (attachment.attachmentId = plan.attachmentId))
  reject (isNil plan.publicationId) .projectionAttachmentMismatch
  let (deviceId, deviceKeyId) ← match attachment.principal with
    | .device deviceId deviceKeyId => .ok (deviceId, deviceKeyId)
    | .node _ _ => .error .projectionAttachmentMismatch
  let siteId ← orElse .projectionAttachmentMismatch attachment.siteId
  let remote ← remoteRoutes routes siteId plan.egressRoutes
  reject remote.isEmpty .missingReverseRoute
  reject (!pathsCoverOwners remote plan.peerPaths) .unroutablePeerPath
  let sealedProjection ← signer.signSiteProjection
    (plan.projection input segmentContentHash attachment siteId deviceId deviceKeyId remote)
  return ⟨plan.publicationId, sealedProjection⟩

/-- The attachments of an input in the order of their ids. -/
def sortedAttachments (input : RoutePublicationInput) : List RouteAttachmentV1 :=
  (input.attachments.map SegmentAttachmentV1.route).insertionSort fun a b =>
    a.attachmentId ≤ b.attachmentId

def sortedPlans (input : RoutePublicationInput) : List DeviceProjectionInput :=
  input.projections.insertionSort fun a b => a.attachmentId ≤ b.attachmentId

/-- Signs the segment and a projection for each of its devices. -/
def buildRoutePublication (signer : RouteSigner) (input : RoutePublicationInput) :
    Except RoutePublicationError BuiltRoutePublication := do
  reject (input.generation == 0 || isNil input.publicationId || isNil input.auditEventId ||
    input.actorId.isEmpty) .invalidGeneration
  let attachments := sortedAttachments input
  let routes ← compileRoutes attachments
  let devices := attachments.filter RouteAttachmentV1.isActiveDevice
  reject (decide (input.projections.length ≠ devices.length)) .incompleteProjectionSet
  let segment ← signer.signSegmentSnapshot {
    tenantId := input.tenantId
    segmentId := input.segmentId
    segmentGeneration := input.generation
    segmentOverlayPrefix := input.segmentOverlayPrefix
    attachments
    routes
    notBefore := input.notBefore
    expiresAt := input.expiresAt
    staleUntil := input.staleUntil
    previousHash := input.previousHash }
  let plans := sortedPlans input
  reject ((plans.zip plans.tail).any fun (a, b) => decide (a.attachmentId = b.attachmentId))
    .incompleteProjectionSet
  let projections ← plans.mapM
    (buildDeviceProjection signer input routes devices segment.contentHash)
  return ⟨input.publicationId, input.auditEventId, input.actorId, segment, projections⟩

def pairOrder (a b : Uuid × Uuid) : Prop :=
  a.1 < b.1 ∨ a.1 = b.1 ∧ a.2 ≤ b.2

instance : DecidableRel pairOrder := fun a b =>
  inferInstanceAs (Decidable (a.1 < b.1 ∨ a.1 = b.1 ∧ a.2 ≤ b.2))

def PeerPathCandidateV1.catalog (path : PeerPathCandidateV1) : RuntimeProjectionPathCatalogWrite where
  candidateId := path.candidateId
  peerAttachmentId := path.peerAttachmentId
  pathKind :=
    match path.kind with
    | .direct => .direct
    | .relay => .relay

def SealedRouteObject.object {α : Type} (sealedObject : SealedRouteObject α) : SignedObjectWrite :=
  ⟨sealedObject.contentHash, sealedObject.envelope⟩

def BuiltDeviceProjection.write (built : BuiltDeviceProjection) : SiteProjectionPublicationWrite :=
  let projection := built.sealedProjection.source
  { publicationId := built.publicationId
    projectionId := projection.projectionId
    tenantId := projection.tenantId
    segmentId := projection.segmentId
    siteId := projection.siteId
    attachmentId := projection.attachmentId
    deviceId := projection.deviceId
    deviceKeyId := projection.deviceKeyId
    segmentGeneration := projection.segmentGeneration
    segmentContentHash := projection.segmentContentHash
    projectionGeneration := projection.projectionGeneration
    previousHash := projection.previousHash
    object := built.sealedProjection.object
    transportNodes := sortedSet pairOrder (projection.peerPaths.map fun path =>
      (path.transportNode.nodeId, path.transportNode.nodeKeyId))
    runtimePaths := projection.peerPaths.map PeerPathCandidateV1.catalog }

def BuiltRoutePublication.databaseWrite (built : BuiltRoutePublication) :
    Except RoutePublicationError SegmentPublicationWrite := do
  let source := built.segment.source
  reject (source.segmentGeneration == 0) .invalidGeneration
  return {
    publicationId := built.publicationId
    tenantId := source.tenantId
    segmentId := source.segmentId
    expectedPreviousGeneration := source.segmentGeneration - 1
    expectedPreviousHash := source.previousHash
    generation := source.segmentGeneration
    policyOnly := false
    expiresAt := source.expiresAt
    staleUntil := source.staleUntil
    snapshot := built.segment.object
    projections := built.projections.map BuiltDeviceProjection.write
    expansions := []
    auditEventId := built.auditEventId
    actorId := built.actorId }

end CandyCloud
