import CandyCloud.Route.Store

/-! # `load_current_runtime_configuration`

What a device is told to run: its attachment, the rollout position of the current generation,
the projection to deliver, the catalog of its peers and the older generations that peers may
still be running.
-/

namespace CandyCloud

open Foundation

/-- The device key that asks. -/
structure RuntimeConfigurationLookup where
  tenantId : Uuid
  deviceId : Uuid
  deviceKeyId : Uuid
deriving DecidableEq, Repr

inductive RuntimeConfigurationError where
  | invalidScope
  | ambiguousConfiguration
  | missingCurrentProjection
  | invalidRecord
  | staleConfiguration
  | database
deriving DecidableEq, Repr

inductive RuntimeConfigurationActivationPhase where
  | prepare
  | commit
deriving DecidableEq, Repr

/-- The projection of a peer, as a device receives it. -/
structure RuntimePeerProjection where
  projectionId : Uuid
  projectionGeneration : Nat
  projectionContentHash : Hash
  signedProjectionEnvelope : Bytes
deriving DecidableEq, Repr

structure RuntimeCompatibilityGeneration where
  segmentGeneration : Nat
  segmentContentHash : Hash
  signedSegmentEnvelope : Bytes
  peerProjectionCatalog : List RuntimePeerProjection
deriving DecidableEq, Repr

/-- The configuration that a device is to run. -/
structure RuntimeConfigurationRecord where
  projectionPublicationId : Uuid
  projectionId : Uuid
  tenantId : Uuid
  segmentId : Uuid
  siteId : Uuid
  attachmentId : Uuid
  deviceId : Uuid
  deviceKeyId : Uuid
  segmentGeneration : Nat
  segmentContentHash : Hash
  projectionGeneration : Nat
  projectionContentHash : Hash
  signedSegmentEnvelope : Bytes
  signedProjectionEnvelope : Bytes
  peerProjectionCatalog : List RuntimePeerProjection
  compatibilityGenerations : List RuntimeCompatibilityGeneration
  activationPhase : RuntimeConfigurationActivationPhase
deriving DecidableEq, Repr

inductive RuntimeConfigurationState where
  | unassigned
  | current (record : RuntimeConfigurationRecord)
deriving DecidableEq, Repr

def RuntimeConfigurationLookup.validate (lookup : RuntimeConfigurationLookup) :
    Except RuntimeConfigurationError Unit :=
  reject (isNil lookup.tenantId || isNil lookup.deviceId || isNil lookup.deviceKeyId) .invalidScope

def invalidEnvelope (envelope : Bytes) : Bool :=
  envelope.isEmpty || decide (envelope.length > maxSignedEnvelopeLen)

namespace RuntimeConfigurationRecord

variable (record : RuntimeConfigurationRecord)

def invalidPeer (peer : RuntimePeerProjection) : Bool :=
  peer.projectionId == record.projectionId || isNil peer.projectionId ||
    peer.projectionGeneration == 0 || peer.projectionContentHash == zeroHash ||
    invalidEnvelope peer.signedProjectionEnvelope

def invalidCompatibility (generation : RuntimeCompatibilityGeneration) : Bool :=
  generation.segmentGeneration == 0 ||
    decide (generation.segmentGeneration ≥ record.segmentGeneration) ||
    decide (saturatingAdd generation.segmentGeneration maxCompatibilityGenerations
      < record.segmentGeneration) ||
    generation.segmentContentHash == zeroHash || invalidEnvelope generation.signedSegmentEnvelope ||
    generation.peerProjectionCatalog.isEmpty ||
    decide (generation.peerProjectionCatalog.length > maxProjections) ||
    generation.peerProjectionCatalog.any record.invalidPeer

def compatiblePeers : List RuntimePeerProjection :=
  record.compatibilityGenerations.flatMap (·.peerProjectionCatalog)

def validate (lookup : RuntimeConfigurationLookup) : Except RuntimeConfigurationError Unit := do
  reject (isNil record.projectionPublicationId || isNil record.projectionId ||
    isNil record.segmentId || isNil record.siteId || isNil record.attachmentId ||
    record.segmentGeneration == 0 || record.projectionGeneration == 0 ||
    record.segmentContentHash == zeroHash || record.projectionContentHash == zeroHash ||
    invalidEnvelope record.signedSegmentEnvelope ||
    invalidEnvelope record.signedProjectionEnvelope ||
    record.tenantId != lookup.tenantId || record.deviceId != lookup.deviceId ||
    record.deviceKeyId != lookup.deviceKeyId ||
    decide (record.peerProjectionCatalog.length > maxProjections) ||
    decide (record.compatibilityGenerations.length > maxCompatibilityGenerations) ||
    record.peerProjectionCatalog.any record.invalidPeer ||
    record.compatibilityGenerations.any record.invalidCompatibility) .invalidRecord
  reject (!decide (record.compatibilityGenerations.map (·.segmentGeneration)).SortedLT ||
    !decide (record.compatiblePeers.map (·.projectionId)).Nodup) .invalidRecord
  reject (decide (record.compatiblePeers.length > maxProjections) ||
    decide (record.compatiblePeers.length + record.peerProjectionCatalog.length
      > maxCatalogEntries)) .invalidRecord

end RuntimeConfigurationRecord

/-- One row of the join of a projection with its publication, its membership
    and the rollout of its generation. -/
structure Delivery where
  projection : ProjectionRow
  publication : PublicationRow
  member : MemberRow
  rollout : RolloutRow
deriving DecidableEq, Repr

namespace RouteStore

variable (store : RouteStore)

/-- `JOIN segments seg … AND seg.state = 'ACTIVE'`. -/
def activeSegments (tenantId segmentId : Uuid) : List SegmentRow :=
  store.segments.filter fun segment => segment.of tenantId segmentId && segment.state == .active

/-- Attachments of the device key in an active tenant, site and segment, each
    with its segment. -/
def attachedSegments (lookup : RuntimeConfigurationLookup) : List (AttachmentRow × SegmentRow) :=
  (store.topology.attachments.filter fun a =>
    a.tenantId == lookup.tenantId && a.deviceId == some lookup.deviceId &&
      a.deviceKeyId == some lookup.deviceKeyId && a.routed &&
      store.topology.activeTenant a.tenantId &&
      store.topology.activeSite a.tenantId a.siteId).flatMap fun a =>
    (store.activeSegments a.tenantId a.segmentId).map fun segment => (a, segment)

/-- The first query, which also requires the device and its key to be active. -/
def currentAttachments (lookup : RuntimeConfigurationLookup) : List (AttachmentRow × SegmentRow) :=
  (store.attachedSegments lookup).filter fun pair =>
    store.topology.activeDevice pair.1.tenantId pair.1.deviceId &&
      store.topology.activeDeviceKey pair.1.tenantId pair.1.deviceId pair.1.deviceKeyId

/-- Publication, membership and rollout of a projection. -/
def deliveriesOf (p : ProjectionRow) : List Delivery :=
  (store.publications.filter fun publication =>
    publication.id == p.publicationId && publication.tenantId == p.tenantId &&
      publication.segmentId == p.segmentId && publication.generation == p.segmentGeneration &&
      publication.contentHash == p.segmentContentHash).flatMap fun publication =>
    (store.members.filter fun member =>
      member.tenantId == p.tenantId && member.segmentPublicationId == publication.id &&
        member.projectionPublicationId == p.id && member.projectionId == p.projectionId &&
        member.attachmentId == p.attachmentId).flatMap fun member =>
      (store.rollouts.filter fun rollout =>
        rollout.of p.tenantId p.segmentId p.segmentGeneration).map fun rollout =>
          ⟨p, publication, member, rollout⟩

def deliveries (a : AttachmentRow) (generation : Nat) : List Delivery :=
  (store.projections.filter fun p =>
    p.tenantId == a.tenantId && p.segmentId == a.segmentId && some p.siteId == a.siteId &&
      p.attachmentId == a.id && some p.deviceId == a.deviceId &&
      some p.deviceKeyId == a.deviceKeyId && p.segmentGeneration == generation).flatMap
    store.deliveriesOf

/-- `rollout_query`: the current generation and the position in its rollout. -/
def rolloutPositions (lookup : RuntimeConfigurationLookup) : List (SegmentRow × Delivery) :=
  (store.attachedSegments lookup).flatMap fun pair =>
    ((store.deliveries pair.1 pair.2.currentGeneration).filter fun delivery =>
      delivery.projection.segmentContentHash == pair.2.currentContentHash).map fun delivery =>
        (pair.2, delivery)

def projectionRowsAt (now : Instant) (lookup : RuntimeConfigurationLookup) (generation : Nat) :
    List Delivery :=
  (store.attachedSegments lookup).flatMap fun pair =>
    (store.deliveries pair.1 generation).filter fun delivery =>
      decide (delivery.member.rolloutOrdinal ≤ delivery.rollout.allowedOrdinal) &&
        (generation == pair.2.currentGeneration ||
          decide (unixTimestamp now ≤ delivery.publication.staleUntil))

/-- `ORDER BY p.projection_id, p.projection_generation`. -/
def projectionOrder (a b : ProjectionRow) : Prop :=
  a.projectionId < b.projectionId ∨
    (a.projectionId = b.projectionId ∧ a.projectionGeneration ≤ b.projectionGeneration)

instance : DecidableRel projectionOrder :=
  fun _ _ => inferInstanceAs (Decidable (_ ∨ (_ ∧ _)))

/-- The coherent catalog of the other members of the delivered generation. -/
def catalogRows (tenantId segmentId : Uuid) (generation : Nat) (projectionId : Uuid) :
    List ProjectionRow :=
  (((store.projections.filter fun p =>
    p.tenantId == tenantId && p.segmentId == segmentId && p.segmentGeneration == generation &&
      p.projectionId != projectionId).flatMap store.deliveriesOf).filter fun delivery =>
        decide (delivery.member.rolloutOrdinal ≤ delivery.rollout.allowedOrdinal)).map
    (·.projection) |>.insertionSort projectionOrder

/-- No transport change after the projection's generation up to the current. -/
def onlyPolicySince (p : ProjectionRow) (generation : Nat) : Bool :=
  !store.publications.any fun changed =>
    changed.tenantId == p.tenantId && changed.segmentId == p.segmentId &&
      decide (p.segmentGeneration < changed.generation) &&
      decide (changed.generation ≤ generation) && changed.activationMode != .policyOnly

/-- The device runs a node with an active endpoint that serves some other
    projection of the generation. -/
def servesTransport (lookup : RuntimeConfigurationLookup) (segmentId : Uuid) (generation : Nat)
    (projectionId : Uuid) : Bool :=
  store.topology.nodes.any fun node =>
    node.tenantId == some lookup.tenantId && node.deviceId == some lookup.deviceId &&
    node.deviceKeyId == some lookup.deviceKeyId && node.status == .active &&
    store.topology.nodeEndpoints.any (fun endpoint =>
      endpoint.nodeId == node.id && endpoint.active && endpoint.quic) &&
    store.transportCatalog.any fun catalog =>
      catalog.transportNodeId == node.id && some catalog.transportNodeKeyId == node.deviceKeyId &&
      some catalog.tenantId == node.tenantId && catalog.segmentId == segmentId &&
      catalog.segmentGeneration == generation && catalog.projectionId != projectionId

def activeProjection (a : AttachmentRow) : Option ProjectionRow := do
  let status ← store.statuses.find? fun status =>
    status.tenantId == a.tenantId && some status.deviceId == a.deviceId &&
      some status.deviceKeyId == a.deviceKeyId
  store.projections.find? fun p =>
    some p.id == status.activeProjectionPublicationId && p.tenantId == status.tenantId

/-- Older projections of one peer that may still be in use. -/
def compatibleProjections (a : AttachmentRow) (generation : Nat) : List ProjectionRow :=
  store.projections.filter fun p =>
    p.tenantId == a.tenantId && p.segmentId == a.segmentId && some p.siteId == a.siteId &&
    p.attachmentId == a.id && some p.deviceId == a.deviceId && some p.deviceKeyId == a.deviceKeyId &&
    (some p.id == (store.activeProjection a).map (·.id) ||
      (((store.activeProjection a).isNone ||
        (store.activeProjection a).map (·.segmentGeneration) == some generation) &&
        p.segmentGeneration == generation - 1))

/-- Attachments of the segment with a projection of the delivered generation. -/
def compatiblePeers (tenantId segmentId : Uuid) (generation : Nat) : List AttachmentRow :=
  (store.topology.attachments.filter fun a =>
    a.tenantId == tenantId && a.segmentId == segmentId && a.routed &&
      store.topology.activeSite a.tenantId a.siteId &&
      store.topology.activeDevice a.tenantId a.deviceId &&
      store.topology.activeDeviceKey a.tenantId a.deviceId a.deviceKeyId).flatMap fun a =>
    (store.projections.filter fun target =>
      target.tenantId == a.tenantId && target.segmentId == a.segmentId &&
        target.attachmentId == a.id && some target.deviceId == a.deviceId &&
        some target.deviceKeyId == a.deviceKeyId &&
        target.segmentGeneration == generation).map fun _ => a

/-- Unexpired publications of a projection of which it is a member. -/
def retainedPublications (now : Instant) (p : ProjectionRow) : List PublicationRow :=
  (store.publications.filter fun publication =>
    publication.id == p.publicationId && publication.tenantId == p.tenantId &&
      publication.segmentId == p.segmentId && publication.generation == p.segmentGeneration &&
      decide (unixTimestamp now ≤ publication.staleUntil)).flatMap fun publication =>
    (store.members.filter fun member =>
      member.tenantId == p.tenantId && member.segmentPublicationId == publication.id &&
        member.projectionPublicationId == p.id && member.projectionId == p.projectionId &&
        member.attachmentId == p.attachmentId).map fun _ => publication

def compatibleOrder (a b : ProjectionRow × PublicationRow) : Prop :=
  a.2.generation < b.2.generation ∨ (a.2.generation = b.2.generation ∧ projectionOrder a.1 b.1)

instance : DecidableRel compatibleOrder :=
  fun _ _ => inferInstanceAs (Decidable (_ ∨ (_ ∧ _)))

def compatibleCatalogRows (policyIsolation : Bool) (now : Instant)
    (lookup : RuntimeConfigurationLookup) (segmentId : Uuid) (generation : Nat)
    (projectionId : Uuid) : List (ProjectionRow × PublicationRow) :=
  if store.servesTransport lookup segmentId generation projectionId then
    ((store.compatiblePeers lookup.tenantId segmentId generation).flatMap fun a =>
      ((store.compatibleProjections a generation).filter fun p =>
        p.projectionId != projectionId && decide (p.segmentGeneration < generation) &&
        (!policyIsolation ||
          decide (generation - maxCompatibilityGenerations ≤ p.segmentGeneration)) &&
        (p.segmentGeneration == generation - 1 ||
          (policyIsolation && store.onlyPolicySince p generation))).flatMap fun p =>
        (store.retainedPublications now p).map fun publication =>
          (p, publication)).insertionSort compatibleOrder
  else []

end RouteStore

def ProjectionRow.peer (p : ProjectionRow) : RuntimePeerProjection where
  projectionId := p.projectionId
  projectionGeneration := p.projectionGeneration
  projectionContentHash := p.contentHash
  signedProjectionEnvelope := p.signedEnvelope

/-- One round of the grouping loop over the compatible rows. -/
def groupCompatible (groups : List RuntimeCompatibilityGeneration)
    (row : ProjectionRow × PublicationRow) :
    Except RuntimeConfigurationError (List RuntimeCompatibilityGeneration) := do
  reject (groups.any fun group => group.peerProjectionCatalog.any fun peer =>
    peer.projectionId == row.1.projectionId) .ambiguousConfiguration
  match groups.getLast? with
  | some last =>
      if last.segmentGeneration == row.2.generation then
        return groups.dropLast ++
          [{ last with peerProjectionCatalog := last.peerProjectionCatalog ++ [row.1.peer] }]
      else do
        reject (groups.length == maxCompatibilityGenerations) .ambiguousConfiguration
        return groups ++ [⟨row.2.generation, row.2.contentHash, row.2.signedEnvelope, [row.1.peer]⟩]
  | none =>
      return [⟨row.2.generation, row.2.contentHash, row.2.signedEnvelope, [row.1.peer]⟩]

def deliveryGeneration (position : SegmentRow × Delivery) :
    Except RuntimeConfigurationError Nat :=
  if position.2.rollout.state == .blocked then .ok position.1.currentGeneration
  else if position.2.member.rolloutOrdinal ≤ position.2.rollout.allowedOrdinal then
    .ok position.1.currentGeneration
  else if position.1.currentGeneration == 0 then .error .missingCurrentProjection
  else .ok (position.1.currentGeneration - 1)

def activationPhase (rollout : RolloutRow) : RuntimeConfigurationActivationPhase :=
  if rollout.activationMode == .policyOnly || rollout.state == .committing ||
    rollout.state == .complete then .commit else .prepare

/-- Rows of the delivery generation, or of the current one when there are none. -/
def deliveredRows (store : RouteStore) (now : Instant) (lookup : RuntimeConfigurationLookup)
    (current delivered : Nat) : List Delivery :=
  let rows := store.projectionRowsAt now lookup delivered
  if rows.isEmpty && delivered != current then store.projectionRowsAt now lookup current else rows

def onlyRow : List Delivery → Except RuntimeConfigurationError Delivery
  | [] => .error .missingCurrentProjection
  | [row] => .ok row
  | _ => .error .ambiguousConfiguration

def assembleRecord (delivery : Delivery) (phase : RuntimeConfigurationActivationPhase)
    (catalog : List ProjectionRow) (compatibility : List RuntimeCompatibilityGeneration) :
    RuntimeConfigurationRecord where
  projectionPublicationId := delivery.projection.id
  projectionId := delivery.projection.projectionId
  tenantId := delivery.projection.tenantId
  segmentId := delivery.projection.segmentId
  siteId := delivery.projection.siteId
  attachmentId := delivery.projection.attachmentId
  deviceId := delivery.projection.deviceId
  deviceKeyId := delivery.projection.deviceKeyId
  segmentGeneration := delivery.projection.segmentGeneration
  segmentContentHash := delivery.projection.segmentContentHash
  projectionGeneration := delivery.projection.projectionGeneration
  projectionContentHash := delivery.projection.contentHash
  signedSegmentEnvelope := delivery.publication.signedEnvelope
  signedProjectionEnvelope := delivery.projection.signedEnvelope
  peerProjectionCatalog := catalog.map (·.peer)
  compatibilityGenerations := compatibility
  activationPhase := phase

/-- Everything after the attachment has been determined. -/
def loadAssigned (store : RouteStore) (now : Instant) (policyIsolation : Bool)
    (lookup : RuntimeConfigurationLookup) :
    Except RuntimeConfigurationError RuntimeConfigurationRecord := do
  let position ← orElse .missingCurrentProjection (store.rolloutPositions lookup).head?
  let generation ← deliveryGeneration position
  let row ← onlyRow (deliveredRows store now lookup position.1.currentGeneration generation)
  let catalog := store.catalogRows lookup.tenantId row.projection.segmentId
    row.projection.segmentGeneration row.projection.projectionId
  reject (decide (catalog.length > maxProjections) ||
    !decide (catalog.map (·.projectionId)).Nodup) .ambiguousConfiguration
  let compatible := store.compatibleCatalogRows policyIsolation now lookup
    row.projection.segmentId row.projection.segmentGeneration row.projection.projectionId
  reject (decide (compatible.length + catalog.length > maxCatalogEntries)) .ambiguousConfiguration
  let compatibility ← updateEach groupCompatible [] compatible
  let record := assembleRecord row (activationPhase position.2.rollout) catalog compatibility
  record.validate lookup
  return record

/-- What the device is to run now. -/
def loadCurrentRuntimeConfiguration (store : RouteStore) (now : Instant) (policyIsolation : Bool)
    (lookup : RuntimeConfigurationLookup) :
    Except RuntimeConfigurationError RuntimeConfigurationState :=
  match store.currentAttachments lookup with
  | [] => .ok .unassigned
  | [_] => return .current (← loadAssigned store now policyIsolation lookup)
  | _ => .error .ambiguousConfiguration

def currentRuntimeConfiguration (store : RouteStore) (now : Instant) (policyIsolation : Bool)
    (lookup : RuntimeConfigurationLookup) :
    Except RuntimeConfigurationError RuntimeConfigurationState := do
  lookup.validate
  loadCurrentRuntimeConfiguration store now policyIsolation lookup

end CandyCloud
