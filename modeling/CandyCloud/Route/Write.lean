import CandyCloud.Foundation.Fallible
import CandyCloud.Primitives

/-! # Publication writes

The value a route publisher hands to `SdwanRepository::publish` and the checks
`SegmentPublicationWrite::validate` makes before a transaction is opened.
-/

namespace CandyCloud

open Foundation

def maxSignedEnvelopeLen : Nat := 1024 * 1024
def maxActorIdLen : Nat := 120
def maxProjections : Nat := 4096
def maxCatalogEntries : Nat := 2 * maxProjections
def maxCompatibilityGenerations : Nat := 32
def maxExpansionObjects : Nat := 4096
def maxRuntimePaths : Nat := 256

inductive SdwanError where
  | invalidScope
  | scopeMismatch
  | invalidPrefix
  | overlappingPrefix
  | duplicateRouterAddress
  | principalMismatch
  | unsignedObject
  | generationGap
  | missingProjection
  | duplicateProjection
  | divergentReplay
  | invalidContentHash
  | segmentNotFound
  | rolloutPending
  | database
deriving DecidableEq, Repr

inductive RuntimePathKind where
  | direct
  | relay
deriving DecidableEq, Repr

inductive ExpansionObjectKind where
  | sharedHubAdmission
  | meshMembership
  | dynamicRouteSnapshot
  | fabricAssignment
deriving DecidableEq, Repr

structure SignedObjectWrite where
  contentHash : Hash
  signedEnvelope : Bytes
deriving DecidableEq, Repr

structure RuntimeProjectionPathCatalogWrite where
  candidateId : Uuid
  peerAttachmentId : Uuid
  pathKind : RuntimePathKind
deriving DecidableEq, Repr

/-- The signed projection of one attachment. -/
structure SiteProjectionPublicationWrite where
  publicationId : Uuid
  projectionId : Uuid
  tenantId : Uuid
  segmentId : Uuid
  siteId : Uuid
  attachmentId : Uuid
  deviceId : Uuid
  deviceKeyId : Uuid
  segmentGeneration : Nat
  segmentContentHash : Hash
  projectionGeneration : Nat
  previousHash : Hash
  object : SignedObjectWrite
  transportNodes : List (Uuid × Uuid)
  runtimePaths : List RuntimeProjectionPathCatalogWrite
deriving DecidableEq, Repr

structure ExpansionObjectPublicationWrite where
  publicationId : Uuid
  kind : ExpansionObjectKind
  policyId : Uuid
  tenantId : Uuid
  segmentId : Uuid
  generation : Nat
  segmentGeneration : Nat
  segmentContentHash : Hash
  siteId : Option Uuid
  attachmentId : Option Uuid
  object : SignedObjectWrite
deriving DecidableEq, Repr

/-- A signed generation of a segment with the projections of its members. -/
structure SegmentPublicationWrite where
  publicationId : Uuid
  tenantId : Uuid
  segmentId : Uuid
  expectedPreviousGeneration : Nat
  expectedPreviousHash : Hash
  generation : Nat
  policyOnly : Bool
  expiresAt : Nat
  staleUntil : Nat
  snapshot : SignedObjectWrite
  projections : List SiteProjectionPublicationWrite
  expansions : List ExpansionObjectPublicationWrite
  auditEventId : Uuid
  actorId : String
deriving DecidableEq, Repr

namespace SignedObjectWrite

def validate (object : SignedObjectWrite) : Except SdwanError Unit :=
  reject (object.contentHash == zeroHash || object.signedEnvelope.isEmpty ||
    decide (object.signedEnvelope.length > maxSignedEnvelopeLen)) .unsignedObject

end SignedObjectWrite

namespace SegmentPublicationWrite

variable (write : SegmentPublicationWrite)

/-- One round of the loop over `projections`; `seen` are the earlier ones. -/
def validateProjection (seen : List SiteProjectionPublicationWrite)
    (projection : SiteProjectionPublicationWrite) : Except SdwanError Unit := do
  reject (isNil projection.publicationId || isNil projection.projectionId ||
    isNil projection.siteId || isNil projection.attachmentId || isNil projection.deviceId ||
    isNil projection.deviceKeyId || projection.projectionGeneration == 0) .invalidScope
  reject (projection.tenantId != write.tenantId || projection.segmentId != write.segmentId ||
    projection.segmentGeneration != write.generation ||
    projection.segmentContentHash != write.snapshot.contentHash) .scopeMismatch
  reject ((projection.projectionGeneration == 1 && projection.previousHash != zeroHash) ||
    (projection.projectionGeneration != 1 && projection.previousHash == zeroHash)) .generationGap
  projection.object.validate
  reject (projection.transportNodes.isEmpty ||
    malformedOrRepeated (fun node => isNil node.1 || isNil node.2) id projection.transportNodes)
    .invalidScope
  reject (seen.any fun earlier =>
    earlier.publicationId == projection.publicationId ||
    (earlier.projectionId == projection.projectionId &&
      earlier.projectionGeneration == projection.projectionGeneration) ||
    earlier.attachmentId == projection.attachmentId ||
    (earlier.deviceId == projection.deviceId && earlier.deviceKeyId == projection.deviceKeyId))
    .duplicateProjection
  reject (projection.runtimePaths.isEmpty ||
    decide (projection.runtimePaths.length > maxRuntimePaths) ||
    malformedOrRepeated
      (fun path => isNil path.candidateId || isNil path.peerAttachmentId ||
        path.peerAttachmentId == projection.attachmentId)
      (fun path => path.candidateId) projection.runtimePaths) .invalidScope

/-- Mesh membership names a site and an attachment, every other kind neither. -/
def expansionScoped (expansion : ExpansionObjectPublicationWrite) : Bool :=
  match expansion.kind with
  | .meshMembership =>
      match expansion.siteId, expansion.attachmentId with
      | some site, some attachment => !isNil site && !isNil attachment
      | _, _ => false
  | .sharedHubAdmission | .dynamicRouteSnapshot | .fabricAssignment =>
      expansion.siteId.isNone && expansion.attachmentId.isNone

/-- One round of the loop over `expansions`; `seen` are the earlier ones. -/
def validateExpansion (seen : List ExpansionObjectPublicationWrite)
    (expansion : ExpansionObjectPublicationWrite) : Except SdwanError Unit := do
  reject (isNil expansion.publicationId || isNil expansion.policyId ||
    expansion.generation == 0 || expansion.tenantId != write.tenantId ||
    expansion.segmentId != write.segmentId || expansion.segmentGeneration != write.generation ||
    expansion.segmentContentHash != write.snapshot.contentHash) .scopeMismatch
  reject (!expansionScoped expansion || seen.any fun earlier =>
    earlier.publicationId == expansion.publicationId ||
    (earlier.kind == expansion.kind && earlier.policyId == expansion.policyId &&
      earlier.generation == expansion.generation)) .invalidScope
  expansion.object.validate

def validate : Except SdwanError Unit := do
  reject (isNil write.publicationId || isNil write.tenantId || isNil write.segmentId ||
    isNil write.auditEventId || write.actorId.isEmpty ||
    decide (write.actorId.utf8ByteSize > maxActorIdLen)) .invalidScope
  reject (write.generation == 0) .generationGap
  let next ← orElse .generationGap (checkedAdd write.expectedPreviousGeneration 1)
  reject (write.generation != next ||
    (write.expectedPreviousGeneration == 0 && write.expectedPreviousHash != zeroHash) ||
    (write.expectedPreviousGeneration != 0 && write.expectedPreviousHash == zeroHash))
    .generationGap
  reject (write.expiresAt == 0 || decide (write.staleUntil ≤ write.expiresAt)) .invalidScope
  write.snapshot.validate
  reject (write.projections.isEmpty || decide (write.projections.length > maxProjections))
    .missingProjection
  checkEach write.validateProjection [] write.projections
  reject (decide (write.expansions.length > maxExpansionObjects)) .invalidScope
  checkEach write.validateExpansion [] write.expansions

end SegmentPublicationWrite

/-- What the later steps of a publication rely on about each projection. -/
structure SiteProjectionPublicationWrite.Admitted (write : SegmentPublicationWrite)
    (projection : SiteProjectionPublicationWrite) : Prop where
  tenant : projection.tenantId = write.tenantId
  segment : projection.segmentId = write.segmentId
  generation : projection.segmentGeneration = write.generation
  segmentHash : projection.segmentContentHash = write.snapshot.contentHash
  positive : projection.projectionGeneration ≠ 0
  first : projection.projectionGeneration = 1 ↔ projection.previousHash = zeroHash
  hashed : projection.object.contentHash ≠ zeroHash
  present : ¬ isNil projection.publicationId

/-- The facts an accepted write carries into its transaction. -/
structure SegmentPublicationWrite.Admitted (write : SegmentPublicationWrite) : Prop where
  named : isNil write.publicationId = false ∧ isNil write.tenantId = false ∧
    isNil write.segmentId = false
  generation : write.generation = write.expectedPreviousGeneration + 1
  first : write.expectedPreviousGeneration = 0 ↔ write.expectedPreviousHash = zeroHash
  hashed : write.snapshot.contentHash ≠ zeroHash
  nonempty : write.projections ≠ []
  bounded : write.projections.length ≤ maxProjections
  projections : ∀ projection ∈ write.projections, projection.Admitted write
  publicationIds : (write.projections.map (·.publicationId)).Nodup
  attachments : (write.projections.map (·.attachmentId)).Nodup
  devices : (write.projections.map fun p => (p.deviceId, p.deviceKeyId)).Nodup

variable {u : Unit} {seen projections : List SiteProjectionPublicationWrite}

theorem SignedObjectWrite.validate_ok {object : SignedObjectWrite}
    (accepted : object.validate = .ok u) : object.contentHash ≠ zeroHash := by
  simp only [validate, reject_ok, Bool.or_eq_false_iff, beq_eq_false_iff_ne] at accepted
  exact accepted.1.1

namespace SegmentPublicationWrite

variable {write : SegmentPublicationWrite}

theorem validateProjection_ok {projection : SiteProjectionPublicationWrite}
    (accepted : write.validateProjection seen projection = .ok u) :
    projection.Admitted write ∧ ∀ earlier ∈ seen,
      earlier.publicationId ≠ projection.publicationId ∧
      earlier.attachmentId ≠ projection.attachmentId ∧
      (earlier.deviceId, earlier.deviceKeyId) ≠ (projection.deviceId, projection.deviceKeyId) := by
  simp only [validateProjection, unit_bind_ok, reject_ok, Bool.or_eq_false_iff,
    bne_eq_false_iff_eq, Bool.and_eq_false_iff, beq_eq_false_iff_ne, List.any_eq_false] at accepted
  obtain ⟨nils, scope, hashes, object, -, fresh, -⟩ := accepted
  obtain ⟨⟨⟨tenant, segment⟩, generation⟩, segmentHash⟩ := scope
  constructor
  · refine ⟨tenant, segment, generation, segmentHash, nils.2, ?_,
      SignedObjectWrite.validate_ok object, ?_⟩
    · rcases hashes with ⟨notFirst | zero, first | nonzero⟩
      · exact absurd first notFirst
      · exact ⟨fun first => absurd first notFirst, fun zero => absurd zero nonzero⟩
      · exact ⟨fun _ => zero, fun _ => first⟩
      · exact absurd zero nonzero
    · rw [nils.1.1.1.1.1.1]
      exact Bool.false_ne_true
  · intro earlier member
    have distinct := fresh earlier member
    simp only [Bool.or_eq_true, beq_iff_eq, Bool.and_eq_true, not_or, not_and] at distinct
    obtain ⟨⟨⟨id, -⟩, attachment⟩, device⟩ := distinct
    refine ⟨id, attachment, ?_⟩
    intro same
    exact device (congrArg Prod.fst same) (congrArg Prod.snd same)

theorem checkEach_admitted (each : checkEach write.validateProjection seen projections = .ok u) :
    ∀ projection ∈ projections, projection.Admitted write := by
  intro projection member
  obtain ⟨before, after, split⟩ := List.append_of_mem member
  exact (validateProjection_ok (checkEach_ok.mp each before projection after split)).1

theorem checkEach_nodup {κ : Type} {key : SiteProjectionPublicationWrite → κ}
    (fresh : ∀ seen projection, write.validateProjection seen projection = .ok () →
      ∀ earlier ∈ seen, key earlier ≠ key projection)
    (each : checkEach write.validateProjection [] projections = .ok u) :
    (projections.map key).Nodup := by
  rw [List.Nodup, List.pairwise_map]
  exact (checkEach_pairwise fresh each).1

theorem validate_ok (accepted : write.validate = .ok u) : write.Admitted := by
  simp only [validate, unit_bind_ok, orElse_bind_ok, reject_ok, Bool.or_eq_false_iff,
    bne_eq_false_iff_eq, Bool.and_eq_false_iff, beq_eq_false_iff_ne] at accepted
  obtain ⟨nils, -, next, sum, chain, -, snapshot, ⟨nonempty, bounded⟩, each, -⟩ := accepted
  obtain ⟨⟨generation, zeroFirst⟩, zeroLater⟩ := chain
  constructor
  case named => exact ⟨nils.1.1.1.1.1, nils.1.1.1.1.2, nils.1.1.1.2⟩
  case generation => rw [generation, checkedAdd_some sum]
  case first =>
    rcases zeroFirst with later | zero
    · exact ⟨fun first => absurd first later, fun zero => zeroLater.resolve_right (absurd zero)⟩
    · exact ⟨fun _ => zero, fun _ => zeroLater.resolve_right (absurd zero)⟩
  case hashed => exact SignedObjectWrite.validate_ok snapshot
  case nonempty =>
    intro empty
    rw [empty] at nonempty
    cases nonempty
  case bounded => simpa using bounded
  case projections => exact checkEach_admitted each
  case publicationIds =>
    exact checkEach_nodup (fun _ _ ok earlier old => ((validateProjection_ok ok).2 earlier old).1) each
  case attachments =>
    exact checkEach_nodup (fun _ _ ok earlier old => ((validateProjection_ok ok).2 earlier old).2.1)
      each
  case devices =>
    exact checkEach_nodup (fun _ _ ok earlier old => ((validateProjection_ok ok).2 earlier old).2.2)
      each

end SegmentPublicationWrite

end CandyCloud
