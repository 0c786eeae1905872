import CandyCloud.Foundation.Table
import CandyCloud.Topology
import CandyCloud.Route.Write

/-! # The route contract's tables

Rows of the publication tables with the unique keys of their migrations. An
insert that violates a key fails the statement and with it the transaction;
this is the `database` error of the repository. The heads of the publication
chains are the two `current_…` columns of `segments`.
-/

namespace CandyCloud

open Foundation

/-- The phases of a rollout. -/
inductive RolloutState where
  | preparing
  | committing
  | blocked
  | complete
deriving DecidableEq, Repr

/-- `RuntimeConfigurationApplyState`, also the `apply_state` column. -/
inductive ApplyState where
  | prepared
  | active
  | rejected
deriving DecidableEq, Repr

/-- A segment with the head of its publication chain. -/
structure SegmentRow where
  id : Uuid
  tenantId : Uuid
  name : String
  hubNodePoolId : Uuid
  overlayNetwork : BitVec 32
  overlayPrefixLen : Nat
  state : ResourceState
  currentGeneration : Nat
  currentContentHash : Hash
deriving DecidableEq, Repr

/-- A published generation of a segment. -/
structure PublicationRow where
  id : Uuid
  tenantId : Uuid
  segmentId : Uuid
  expectedPreviousGeneration : Nat
  expectedPreviousHash : Hash
  generation : Nat
  activationMode : ActivationMode
  contentHash : Hash
  signedEnvelope : Bytes
  expiresAt : Nat
  staleUntil : Nat
  auditEventId : Uuid
  actorId : String
deriving DecidableEq, Repr

/-- `site_route_projection_publications`. -/
structure ProjectionRow where
  id : Uuid
  publicationId : Uuid
  projectionId : Uuid
  tenantId : Uuid
  segmentId : Uuid
  siteId : Uuid
  attachmentId : Uuid
  deviceId : Uuid
  deviceKeyId : Uuid
  segmentGeneration : Nat
  segmentContentHash : Hash
  projectionGeneration : Nat
  previousHash : Hash
  contentHash : Hash
  signedEnvelope : Bytes
deriving DecidableEq, Repr

/-- `segment_route_publication_members`. -/
structure MemberRow where
  tenantId : Uuid
  segmentPublicationId : Uuid
  projectionPublicationId : Uuid
  projectionId : Uuid
  attachmentId : Uuid
  rolloutOrdinal : Nat
deriving DecidableEq, Repr

/-- `runtime_projection_transport_catalog`. -/
structure TransportCatalogRow where
  tenantId : Uuid
  segmentId : Uuid
  segmentGeneration : Nat
  transportNodeId : Uuid
  transportNodeKeyId : Uuid
  projectionPublicationId : Uuid
  projectionId : Uuid
deriving DecidableEq, Repr

/-- `runtime_projection_path_catalog`. -/
structure PathCatalogRow where
  tenantId : Uuid
  projectionPublicationId : Uuid
  candidateId : Uuid
  sourceAttachmentId : Uuid
  destinationAttachmentId : Uuid
  pathKind : RuntimePathKind
deriving DecidableEq, Repr

/-- `segment_expansion_publications`. -/
structure ExpansionRow where
  id : Uuid
  segmentPublicationId : Uuid
  tenantId : Uuid
  segmentId : Uuid
  objectKind : ExpansionObjectKind
  policyId : Uuid
  generation : Nat
  segmentGeneration : Nat
  segmentContentHash : Hash
  siteId : Option Uuid
  attachmentId : Option Uuid
  contentHash : Hash
  signedEnvelope : Bytes
deriving DecidableEq, Repr

/-- The rollout of one published generation. -/
structure RolloutRow where
  tenantId : Uuid
  segmentId : Uuid
  segmentGeneration : Nat
  allowedOrdinal : Nat
  memberCount : Nat
  activationMode : ActivationMode
  state : RolloutState
deriving DecidableEq, Repr

/-- The last status that a device key reported. -/
structure StatusRow where
  tenantId : Uuid
  deviceId : Uuid
  deviceKeyId : Uuid
  projectionPublicationId : Uuid
  activeProjectionPublicationId : Option Uuid
  envelopeSha256 : Hash
  applyState : ApplyState
  errorCode : Option String
  reportedAt : Instant
deriving DecidableEq, Repr

/-- `metadata_json` of the events the route contract writes. -/
inductive AuditMetadata where
  | routesPublished (generation : Nat) (activationMode : ActivationMode)
      (projectionCount expansionCount : Nat)
  | policyResyncRequired (activeProjectionPublicationId : Uuid)
      (activeSegmentGeneration targetSegmentGeneration : Nat)
  | statusReported (deviceName : String) (projectionPublicationId : Uuid)
      (segmentGeneration projectionGeneration : Nat) (previousState : Option ApplyState)
      (state : ApplyState) (errorCode : Option String)
deriving DecidableEq, Repr

inductive ActorType where
  | worker
  | device
deriving DecidableEq, Repr

/-- `audit_events`. -/
structure AuditEventRow where
  id : Uuid
  tenantId : Uuid
  actorType : ActorType
  actorId : String
  action : String
  objectType : String
  objectId : Uuid
  metadata : AuditMetadata
deriving DecidableEq, Repr

/-- The tables of the Route plane. -/
structure RouteStore where
  topology : Topology
  segments : List SegmentRow
  publications : List PublicationRow
  projections : List ProjectionRow
  members : List MemberRow
  transportCatalog : List TransportCatalogRow
  pathCatalog : List PathCatalogRow
  expansions : List ExpansionRow
  rollouts : List RolloutRow
  statuses : List StatusRow
  auditEvents : List AuditEventRow
deriving DecidableEq, Repr

/-- Primary key and `uq_segment_publication_generation`. -/
def PublicationRow.conflict (a b : PublicationRow) : Bool :=
  a.id == b.id ||
    (a.tenantId == b.tenantId && a.segmentId == b.segmentId && a.generation == b.generation)

/-- Primary key, `uq_projection_generation` and
    `uq_projection_publication_attachment`. -/
def ProjectionRow.conflict (a b : ProjectionRow) : Bool :=
  a.id == b.id ||
    (a.tenantId == b.tenantId && a.projectionId == b.projectionId &&
      a.projectionGeneration == b.projectionGeneration) ||
    (a.publicationId == b.publicationId && a.attachmentId == b.attachmentId)

/-- Primary key and `uq_publication_member_attachment`. -/
def MemberRow.conflict (a b : MemberRow) : Bool :=
  a.segmentPublicationId == b.segmentPublicationId &&
    (a.projectionPublicationId == b.projectionPublicationId || a.attachmentId == b.attachmentId)

/-- Primary key and `uq_transport_projection_generation`. -/
def TransportCatalogRow.conflict (a b : TransportCatalogRow) : Bool :=
  a.transportNodeId == b.transportNodeId &&
    (a.projectionPublicationId == b.projectionPublicationId ||
      (a.tenantId == b.tenantId && a.segmentId == b.segmentId &&
        a.segmentGeneration == b.segmentGeneration && a.projectionId == b.projectionId))

def PathCatalogRow.conflict (a b : PathCatalogRow) : Bool :=
  a.projectionPublicationId == b.projectionPublicationId && a.candidateId == b.candidateId

/-- Primary key and `uq_expansion_version`. -/
def ExpansionRow.conflict (a b : ExpansionRow) : Bool :=
  a.id == b.id ||
    (a.tenantId == b.tenantId && a.segmentId == b.segmentId && a.objectKind == b.objectKind &&
      a.policyId == b.policyId && a.generation == b.generation)

def RolloutRow.of (rollout : RolloutRow) (tenantId segmentId : Uuid) (generation : Nat) : Bool :=
  rollout.tenantId == tenantId && rollout.segmentId == segmentId &&
    rollout.segmentGeneration == generation

def RolloutRow.conflict (a b : RolloutRow) : Bool :=
  b.of a.tenantId a.segmentId a.segmentGeneration

def StatusRow.of (status : StatusRow) (tenantId deviceId deviceKeyId : Uuid) : Bool :=
  status.tenantId == tenantId && status.deviceId == deviceId && status.deviceKeyId == deviceKeyId

def SegmentRow.of (segment : SegmentRow) (tenantId segmentId : Uuid) : Bool :=
  segment.tenantId == tenantId && segment.id == segmentId

def insertInto {α : Type} (conflict : α → α → Bool) (rows : List α) (row : α) :
    Except SdwanError (List α) :=
  orElse .database (insertRow conflict rows row)

theorem insertInto_ok {α : Type} {conflict : α → α → Bool} {rows rows' : List α} {row : α} :
    insertInto conflict rows row = .ok rows' ↔
      (∀ old ∈ rows, conflict row old = false) ∧ rows' = rows ++ [row] := by
  rw [insertInto, orElse_ok, insertRow_some]

namespace RouteStore

variable (store : RouteStore)

def rollout (tenantId segmentId : Uuid) (generation : Nat) : Option RolloutRow :=
  store.rollouts.find? fun rollout => rollout.of tenantId segmentId generation

def segmentPublications (tenantId segmentId : Uuid) : List PublicationRow :=
  store.publications.filter fun p => p.tenantId == tenantId && p.segmentId == segmentId

def attachmentProjections (tenantId segmentId attachmentId : Uuid) : List ProjectionRow :=
  store.projections.filter fun p =>
    p.tenantId == tenantId && p.segmentId == segmentId && p.attachmentId == attachmentId

/-- The subquery that names a publication by its generation. -/
def publicationOf (tenantId segmentId : Uuid) (generation : Nat) : Option PublicationRow :=
  store.publications.find? fun p =>
    p.tenantId == tenantId && p.segmentId == segmentId && p.generation == generation

end RouteStore

end CandyCloud
