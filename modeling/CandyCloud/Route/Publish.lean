import CandyCloud.Route.Store

/-! # `SdwanRepository::publish`

One transaction: replay detection, the lock on the segment row, the gate for policy-only
generations, ownership and heads of the projections, the inserts and the advance of the segment
head.
-/

namespace CandyCloud

open Foundation

/-- Written by this call, or found as an earlier call wrote it. -/
inductive PublicationOutcome where
  | published
  | replayed
deriving DecidableEq, Repr

namespace SegmentPublicationWrite

def auditEvent (write : SegmentPublicationWrite) : AuditEventRow where
  id := write.auditEventId
  tenantId := write.tenantId
  actorType := .worker
  actorId := write.actorId
  action := "SDWAN_SEGMENT_ROUTES_PUBLISHED"
  objectType := "SEGMENT"
  objectId := write.segmentId
  metadata := .routesPublished write.generation (activationMode write.policyOnly)
    write.projections.length write.expansions.length

def publicationRow (write : SegmentPublicationWrite) : PublicationRow where
  id := write.publicationId
  tenantId := write.tenantId
  segmentId := write.segmentId
  expectedPreviousGeneration := write.expectedPreviousGeneration
  expectedPreviousHash := write.expectedPreviousHash
  generation := write.generation
  activationMode := activationMode write.policyOnly
  contentHash := write.snapshot.contentHash
  signedEnvelope := write.snapshot.signedEnvelope
  expiresAt := write.expiresAt
  staleUntil := write.staleUntil
  auditEventId := write.auditEventId
  actorId := write.actorId

def rolloutRow (write : SegmentPublicationWrite) : RolloutRow where
  tenantId := write.tenantId
  segmentId := write.segmentId
  segmentGeneration := write.generation
  allowedOrdinal := write.projections.length
  memberCount := write.projections.length
  activationMode := activationMode write.policyOnly
  state := if write.policyOnly then .committing else .preparing

end SegmentPublicationWrite

namespace SiteProjectionPublicationWrite

def projectionRow (segmentPublicationId : Uuid) (projection : SiteProjectionPublicationWrite) :
    ProjectionRow where
  id := projection.publicationId
  publicationId := segmentPublicationId
  projectionId := projection.projectionId
  tenantId := projection.tenantId
  segmentId := projection.segmentId
  siteId := projection.siteId
  attachmentId := projection.attachmentId
  deviceId := projection.deviceId
  deviceKeyId := projection.deviceKeyId
  segmentGeneration := projection.segmentGeneration
  segmentContentHash := projection.segmentContentHash
  projectionGeneration := projection.projectionGeneration
  previousHash := projection.previousHash
  contentHash := projection.object.contentHash
  signedEnvelope := projection.object.signedEnvelope

def memberRow (segmentPublicationId : Uuid) (rolloutOrdinal : Nat)
    (projection : SiteProjectionPublicationWrite) : MemberRow where
  tenantId := projection.tenantId
  segmentPublicationId := segmentPublicationId
  projectionPublicationId := projection.publicationId
  projectionId := projection.projectionId
  attachmentId := projection.attachmentId
  rolloutOrdinal := rolloutOrdinal

def transportCatalogRow (projection : SiteProjectionPublicationWrite) (node : Uuid × Uuid) :
    TransportCatalogRow where
  tenantId := projection.tenantId
  segmentId := projection.segmentId
  segmentGeneration := projection.segmentGeneration
  transportNodeId := node.1
  transportNodeKeyId := node.2
  projectionPublicationId := projection.publicationId
  projectionId := projection.projectionId

def pathCatalogRow (projection : SiteProjectionPublicationWrite)
    (path : RuntimeProjectionPathCatalogWrite) : PathCatalogRow where
  tenantId := projection.tenantId
  projectionPublicationId := projection.publicationId
  candidateId := path.candidateId
  sourceAttachmentId := projection.attachmentId
  destinationAttachmentId := path.peerAttachmentId
  pathKind := path.pathKind

end SiteProjectionPublicationWrite

def ExpansionObjectPublicationWrite.expansionRow (segmentPublicationId : Uuid)
    (expansion : ExpansionObjectPublicationWrite) : ExpansionRow where
  id := expansion.publicationId
  segmentPublicationId := segmentPublicationId
  tenantId := expansion.tenantId
  segmentId := expansion.segmentId
  objectKind := expansion.kind
  policyId := expansion.policyId
  generation := expansion.generation
  segmentGeneration := expansion.segmentGeneration
  segmentContentHash := expansion.segmentContentHash
  siteId := expansion.siteId
  attachmentId := expansion.attachmentId
  contentHash := expansion.object.contentHash
  signedEnvelope := expansion.object.signedEnvelope

def publicationExists (store : RouteStore) (publicationId : Uuid) : Bool :=
  store.publications.any fun p => p.id == publicationId

/-- The persisted projections of a publication `ORDER BY p.id`. -/
def persistedProjections (store : RouteStore) (publicationId : Uuid) : List ProjectionRow :=
  (store.projections.filter fun p => store.members.any fun m =>
    m.projectionPublicationId == p.id && m.segmentPublicationId == publicationId).insertionSort
      fun a b => a.id ≤ b.id

def persistedPaths (store : RouteStore) (projection : SiteProjectionPublicationWrite) :
    List PathCatalogRow :=
  (store.pathCatalog.filter fun path => path.tenantId == projection.tenantId &&
    path.projectionPublicationId == projection.publicationId).insertionSort
      fun a b => a.candidateId ≤ b.candidateId

def persistedExpansions (store : RouteStore) (publicationId : Uuid) : List ExpansionRow :=
  (store.expansions.filter fun e => e.segmentPublicationId == publicationId).insertionSort
    fun a b => a.id ≤ b.id

/-- Row by row comparison of a projection with what was stored for it. Neither
    the transport nodes nor the row's own publication column take part. -/
def projectionMatches (store : RouteStore) (row : ProjectionRow)
    (projection : SiteProjectionPublicationWrite) : Bool :=
  row == projection.projectionRow row.publicationId &&
    persistedPaths store projection ==
      (projection.runtimePaths.insertionSort fun a b => a.candidateId ≤ b.candidateId).map
        projection.pathCatalogRow

def publicationMatches (store : RouteStore) (write : SegmentPublicationWrite) : Bool :=
  (store.publications.find? fun p => p.id == write.publicationId) == some write.publicationRow &&
    (persistedProjections store write.publicationId).length == write.projections.length &&
    ((persistedProjections store write.publicationId).zip
      (write.projections.insertionSort fun a b => a.publicationId ≤ b.publicationId)).all
        (fun pair => projectionMatches store pair.1 pair.2) &&
    persistedExpansions store write.publicationId ==
      (write.expansions.insertionSort fun a b => a.publicationId ≤ b.publicationId).map
        (·.expansionRow write.publicationId)

/-- `MAX(transport.generation)` over the tunnel publications up to `generation`. -/
def latestTunnelGeneration (store : RouteStore) (tenantId segmentId : Uuid) (generation : Nat) :
    Option Nat :=
  (((store.segmentPublications tenantId segmentId).filter fun p =>
    p.activationMode == .tunnel && decide (p.generation ≤ generation)).map (·.generation)).max?

/-- State of the tunnel rollout of the latest tunnel publication. -/
def transportState (store : RouteStore) (tenantId segmentId : Uuid) (generation : Nat) :
    Option RolloutState := do
  let latest ← latestTunnelGeneration store tenantId segmentId generation
  let rollout ← store.rollouts.find? fun rollout =>
    rollout.of tenantId segmentId latest && rollout.activationMode == .tunnel
  return rollout.state

/-- Attached peers whose running generation leaves the compatibility window. -/
def laggingPeers (store : RouteStore) (write : SegmentPublicationWrite) : List ProjectionRow :=
  store.statuses.flatMap fun status => store.projections.filter fun active =>
    some active.id == status.activeProjectionPublicationId && active.tenantId == status.tenantId &&
    store.topology.attachments.any (fun attachment =>
      attachment.id == active.attachmentId && attachment.tenantId == active.tenantId &&
      attachment.deviceId == some active.deviceId &&
      attachment.deviceKeyId == some active.deviceKeyId &&
      (attachment.state == .active || attachment.state == .standby)) &&
    active.tenantId == write.tenantId && active.segmentId == write.segmentId &&
    decide (active.segmentGeneration < write.generation - maxCompatibilityGenerations)

def resyncEvent (sha256 : Bytes → Hash) (write : SegmentPublicationWrite) (active : ProjectionRow) :
    AuditEventRow where
  id := digestUuid (sha256 (utf8 "candy/sdwan/peer-policy-resync/v1\x00" ++
    uuidBytes write.tenantId ++ uuidBytes active.id))
  tenantId := write.tenantId
  actorType := .worker
  actorId := write.actorId
  action := "SDWAN_PEER_POLICY_RESYNC_REQUIRED"
  objectType := "DEVICE"
  objectId := active.deviceId
  metadata := .policyResyncRequired active.id active.segmentGeneration write.generation

/-- `INSERT … ON DUPLICATE KEY UPDATE id = id`. -/
def recordEvents (events : List AuditEventRow) (table : List AuditEventRow) :
    List AuditEventRow :=
  events.foldl (fun table event => upsert (fun old => old.id == event.id) event id table) table

/-- The `policy_only` block; its only write is to the audit events. -/
def policyGate (sha256 : Bytes → Hash) (policyIsolation : Bool) (write : SegmentPublicationWrite)
    (currentGeneration : Nat) (store : RouteStore) : Except SdwanError (List AuditEventRow) :=
  if write.policyOnly then do
    reject (!policyIsolation &&
      (store.rollout write.tenantId write.segmentId currentGeneration).map (·.state)
        != some .complete) .rolloutPending
    reject (currentGeneration == 0 ||
      transportState store write.tenantId write.segmentId currentGeneration != some .complete)
      .rolloutPending
    return if policyIsolation then
      recordEvents ((laggingPeers store write).map (resyncEvent sha256 write)) store.auditEvents
    else store.auditEvents
  else return store.auditEvents

/-- Device attachments of the segment whose site has an active prefix. -/
def requiredRouteOwners (store : RouteStore) (write : SegmentPublicationWrite) : List Uuid :=
  (store.topology.attachments.filter fun a =>
    a.tenantId == write.tenantId && a.segmentId == write.segmentId && a.routed &&
    store.topology.sitePrefixes.any fun sitePrefix =>
      sitePrefix.tenantId == a.tenantId && some sitePrefix.siteId == a.siteId &&
        sitePrefix.active).map (·.id)

def ownsProjection (topology : Topology) (projection : SiteProjectionPublicationWrite)
    (a : AttachmentRow) : Bool :=
  a.id == projection.attachmentId && a.tenantId == projection.tenantId &&
    a.segmentId == projection.segmentId && a.siteId == some projection.siteId &&
    a.deviceId == some projection.deviceId && a.deviceKeyId == some projection.deviceKeyId &&
    a.routed && topology.activeSite a.tenantId a.siteId &&
    topology.activeDevice a.tenantId a.deviceId &&
    topology.activeDeviceKey a.tenantId a.deviceId a.deviceKeyId

def validateProjectionOwnership (store : RouteStore) (write : SegmentPublicationWrite) :
    Except SdwanError Unit := do
  reject (requiredRouteOwners store write).isEmpty .missingProjection
  reject ((requiredRouteOwners store write).any fun owner =>
    !write.projections.any fun projection => projection.attachmentId == owner) .missingProjection
  checkEach (fun _ projection => reject
    ((store.topology.attachments.filter (ownsProjection store.topology projection)).length != 1)
    .scopeMismatch) [] write.projections

/-- `ORDER BY projection_generation DESC LIMIT 1`. -/
def latestProjection (store : RouteStore) (projection : SiteProjectionPublicationWrite) :
    Option ProjectionRow :=
  ((store.attachmentProjections projection.tenantId projection.segmentId
    projection.attachmentId).insertionSort
      fun a b => b.projectionGeneration ≤ a.projectionGeneration).head?

def validateProjectionHead (store : RouteStore) (projection : SiteProjectionPublicationWrite) :
    Except SdwanError Unit :=
  match latestProjection store projection with
  | none => reject (projection.projectionGeneration != 1 || projection.previousHash != zeroHash)
      .generationGap
  | some row => do
      let expectedGeneration ← orElse .generationGap (checkedAdd row.projectionGeneration 1)
      reject (projection.projectionGeneration != expectedGeneration ||
        projection.previousHash != row.contentHash) .generationGap

def validateProjectionHeads (store : RouteStore) (write : SegmentPublicationWrite) :
    Except SdwanError Unit :=
  checkEach (fun _ projection => validateProjectionHead store projection) [] write.projections

def insertTransport (projection : SiteProjectionPublicationWrite) (store : RouteStore)
    (node : Uuid × Uuid) : Except SdwanError RouteStore := do
  reject (!store.topology.nodes.any (fun row => row.id == node.1) ||
    !store.topology.deviceKeys.any (fun row => row.id == node.2)) .database
  let transportCatalog ← insertInto TransportCatalogRow.conflict store.transportCatalog
    (projection.transportCatalogRow node)
  return { store with transportCatalog }

def insertPath (projection : SiteProjectionPublicationWrite) (store : RouteStore)
    (path : RuntimeProjectionPathCatalogWrite) : Except SdwanError RouteStore := do
  reject (!store.topology.attachments.any fun row => row.id == path.peerAttachmentId) .database
  let pathCatalog ← insertInto PathCatalogRow.conflict store.pathCatalog
    (projection.pathCatalogRow path)
  return { store with pathCatalog }

def insertProjection (segmentPublicationId : Uuid) (store : RouteStore)
    (numbered : SiteProjectionPublicationWrite × Nat) : Except SdwanError RouteStore := do
  let projections ← insertInto ProjectionRow.conflict store.projections
    (numbered.1.projectionRow segmentPublicationId)
  let members ← insertInto MemberRow.conflict store.members
    (numbered.1.memberRow segmentPublicationId numbered.2)
  let store ← updateEach (insertTransport numbered.1) { store with projections, members }
    numbered.1.transportNodes
  updateEach (insertPath numbered.1) store numbered.1.runtimePaths

def insertExpansion (segmentPublicationId : Uuid) (store : RouteStore)
    (expansion : ExpansionObjectPublicationWrite) : Except SdwanError RouteStore := do
  let expansions ← insertInto ExpansionRow.conflict store.expansions
    (expansion.expansionRow segmentPublicationId)
  return { store with expansions }

def lockedSegment (store : RouteStore) (tenantId segmentId : Uuid) : Option SegmentRow :=
  store.segments.find? fun segment => segment.of tenantId segmentId && segment.state == .active

def SegmentRow.atHead (write : SegmentPublicationWrite) (segment : SegmentRow) : Bool :=
  segment.of write.tenantId write.segmentId &&
    segment.currentGeneration == write.expectedPreviousGeneration &&
    segment.currentContentHash == write.expectedPreviousHash

def SegmentRow.advance (write : SegmentPublicationWrite) (segment : SegmentRow) : SegmentRow :=
  { segment with
    currentGeneration := write.generation
    currentContentHash := write.snapshot.contentHash }

/-- The inserts and the final compare-and-set of the head. -/
def insertPublication (write : SegmentPublicationWrite) (store : RouteStore) :
    Except SdwanError RouteStore := do
  let auditEvents ← insertInto (fun a b => a.id == b.id) store.auditEvents write.auditEvent
  let publications ← insertInto PublicationRow.conflict store.publications write.publicationRow
  let store ← updateEach (insertProjection write.publicationId)
    { store with auditEvents, publications } (write.projections.zipIdx 1)
  let store ← updateEach (insertExpansion write.publicationId) store write.expansions
  let rollouts ← if write.projections.isEmpty then pure store.rollouts
    else insertInto RolloutRow.conflict store.rollouts write.rolloutRow
  reject ((store.segments.filter (·.atHead write)).length != 1) .generationGap
  return { store with
    rollouts
    segments := updateWhere (·.atHead write) (·.advance write) store.segments }

def commitPublication (sha256 : Bytes → Hash) (policyIsolation : Bool)
    (write : SegmentPublicationWrite) (store : RouteStore) : Except SdwanError RouteStore := do
  let segment ← orElse .segmentNotFound (lockedSegment store write.tenantId write.segmentId)
  reject (segment.currentGeneration != write.expectedPreviousGeneration ||
    segment.currentContentHash != write.expectedPreviousHash) .generationGap
  let auditEvents ← policyGate sha256 policyIsolation write segment.currentGeneration store
  validateProjectionOwnership store write
  validateProjectionHeads store write
  insertPublication write { store with auditEvents }

/-- A publication, written whole or not at all. -/
def publish (sha256 : Bytes → Hash) (policyIsolation : Bool) (write : SegmentPublicationWrite)
    (store : RouteStore) : Except SdwanError PublicationOutcome × RouteStore :=
  match write.validate with
  | .error error => (.error error, store)
  | .ok () =>
      if publicationExists store write.publicationId then
        if publicationMatches store write then (.ok .replayed, store)
        else (.error .divergentReplay, store)
      else
        match commitPublication sha256 policyIsolation write store with
        | .error error => (.error error, store)
        | .ok store' => (.ok .published, store')

end CandyCloud
