import CandyCloud.Route.Write

/-! # Writes that validate

`SegmentPublicationWrite::validate` from the other side: of a write whose header and
whose single projections are as they should be, it asks no more than that there are
projections, that each has a device of its own, and that none has too many paths.
-/

namespace CandyCloud

open Foundation

/-- What an accepted projection has by itself, the number of its paths apart. -/
structure SiteProjectionPublicationWrite.Complete (write : SegmentPublicationWrite)
    (projection : SiteProjectionPublicationWrite) : Prop where
  named : ∀ id ∈ [projection.publicationId, projection.projectionId, projection.siteId,
    projection.attachmentId, projection.deviceId, projection.deviceKeyId], isNil id = false
  scope : projection.tenantId = write.tenantId ∧ projection.segmentId = write.segmentId ∧
    projection.segmentGeneration = write.generation ∧
    projection.segmentContentHash = write.snapshot.contentHash
  positive : projection.projectionGeneration ≠ 0
  first : projection.projectionGeneration = 1 ↔ projection.previousHash = zeroHash
  object : projection.object.validate = .ok ()
  nodes : projection.transportNodes ≠ []
  nodesNamed : ∀ node ∈ projection.transportNodes, isNil node.1 = false ∧ isNil node.2 = false
  nodesOnce : projection.transportNodes.Nodup
  paths : projection.runtimePaths ≠ []
  pathsNamed : ∀ path ∈ projection.runtimePaths, isNil path.candidateId = false ∧
    isNil path.peerAttachmentId = false ∧ path.peerAttachmentId ≠ projection.attachmentId
  pathsOnce : (projection.runtimePaths.map (·.candidateId)).Nodup

def SiteProjectionPublicationWrite.Apart (a b : SiteProjectionPublicationWrite) : Prop :=
  a.publicationId ≠ b.publicationId ∧
    ¬ (a.projectionId = b.projectionId ∧ a.projectionGeneration = b.projectionGeneration) ∧
    a.attachmentId ≠ b.attachmentId ∧ (a.deviceId, a.deviceKeyId) ≠ (b.deviceId, b.deviceKeyId)

section Writes

variable {write : SegmentPublicationWrite}

theorem malformedOrRepeated_eq_false {α κ : Type} [DecidableEq κ] {malformed : α → Bool}
    {key : α → κ} {elements : List α} : malformedOrRepeated malformed key elements = false ↔
      (∀ element ∈ elements, malformed element = false) ∧ (elements.map key).Nodup := by
  simp only [malformedOrRepeated, Bool.or_eq_false_iff, List.any_eq_false, Bool.not_eq_true,
    Bool.not_eq_false', decide_eq_true_eq]

theorem validateProjection_complete {seen : List SiteProjectionPublicationWrite}
    {projection : SiteProjectionPublicationWrite} (complete : projection.Complete write) :
    write.validateProjection seen projection = .ok () ↔
      (∀ earlier ∈ seen, earlier.Apart projection) ∧
        projection.runtimePaths.length ≤ maxRuntimePaths := by
  obtain ⟨named, ⟨tenant, segment, generation, contentHash⟩, positive, first, object, nodes,
    nodesNamed, nodesOnce, paths, pathsNamed, pathsOnce⟩ := complete
  simp only [List.mem_cons, List.not_mem_nil, or_false, forall_eq_or_imp, forall_eq] at named
  have chain : ((projection.projectionGeneration == 1 && projection.previousHash != zeroHash) ||
      (projection.projectionGeneration != 1 && projection.previousHash == zeroHash)) = false := by
    by_cases one : projection.projectionGeneration = 1
    · simp [one, first.mp one]
    · simp [one, mt first.mpr one]
  have carriers : (projection.transportNodes.isEmpty || malformedOrRepeated
      (fun node : Uuid × Uuid => isNil node.1 || isNil node.2) id projection.transportNodes) =
        false := by
    rw [Bool.or_eq_false_iff, List.isEmpty_eq_false_iff, malformedOrRepeated_eq_false]
    refine ⟨nodes, ?_, by simpa using nodesOnce⟩
    intro node member
    rw [(nodesNamed node member).1, (nodesNamed node member).2]
    rfl
  have routes : malformedOrRepeated (fun path : RuntimeProjectionPathCatalogWrite =>
      isNil path.candidateId || isNil path.peerAttachmentId ||
        path.peerAttachmentId == projection.attachmentId) (fun path => path.candidateId)
      projection.runtimePaths = false := by
    rw [malformedOrRepeated_eq_false]
    refine ⟨?_, pathsOnce⟩
    intro path member
    obtain ⟨candidate, peer, foreign⟩ := pathsNamed path member
    rw [candidate, peer, beq_false_of_ne foreign]
    rfl
  have positive : (projection.projectionGeneration == 0) = false := beq_false_of_ne positive
  have paths : projection.runtimePaths.isEmpty = false := List.isEmpty_eq_false_iff.mpr paths
  have apart : ∀ seen : List SiteProjectionPublicationWrite, (seen.any fun earlier =>
      earlier.publicationId == projection.publicationId ||
      (earlier.projectionId == projection.projectionId &&
        earlier.projectionGeneration == projection.projectionGeneration) ||
      earlier.attachmentId == projection.attachmentId ||
      (earlier.deviceId == projection.deviceId && earlier.deviceKeyId == projection.deviceKeyId)) =
        false ↔ ∀ earlier ∈ seen, earlier.Apart projection := by
    intro seen
    simp only [List.any_eq_false, Bool.not_eq_true, Bool.or_eq_false_iff, Bool.and_eq_false_iff,
      beq_eq_false_iff_ne, SiteProjectionPublicationWrite.Apart, Prod.mk.injEq, not_and_or, ne_eq,
      and_assoc]
  simp [SegmentPublicationWrite.validateProjection, unit_bind_ok, reject_ok, named, tenant,
    segment, generation, contentHash, chain, object, carriers, routes, positive, paths, apart]

/-- What a write has apart from its projections. -/
structure SegmentPublicationWrite.Headed (write : SegmentPublicationWrite) : Prop where
  named : ∀ id ∈ [write.publicationId, write.tenantId, write.segmentId, write.auditEventId],
    isNil id = false
  actor : write.actorId ≠ "" ∧ write.actorId.utf8ByteSize ≤ maxActorIdLen
  generation : checkedAdd write.expectedPreviousGeneration 1 = some write.generation
  first : write.expectedPreviousGeneration = 0 ↔ write.expectedPreviousHash = zeroHash
  times : write.expiresAt ≠ 0 ∧ write.expiresAt < write.staleUntil
  snapshot : write.snapshot.validate = .ok ()
  expansions : write.expansions = []

theorem validate_headed (headed : write.Headed)
    (bounded : write.projections.length ≤ maxProjections)
    (complete : ∀ projection ∈ write.projections, projection.Complete write)
    (apart : write.projections.Pairwise fun a b => a.publicationId ≠ b.publicationId ∧
      a.projectionId ≠ b.projectionId ∧ a.attachmentId ≠ b.attachmentId) :
    write.validate = .ok () ↔ write.projections ≠ [] ∧
      (write.projections.map fun projection =>
        (projection.deviceId, projection.deviceKeyId)).Nodup ∧
      ∀ projection ∈ write.projections, projection.runtimePaths.length ≤ maxRuntimePaths := by
  obtain ⟨named, ⟨acting, short⟩, generation, first, ⟨expires, stale⟩, snapshot, expansions⟩ :=
    headed
  simp only [List.mem_cons, List.not_mem_nil, or_false, forall_eq_or_imp, forall_eq] at named
  have successor := checkedAdd_some generation
  have later : write.expectedPreviousGeneration ≠ 0 → write.expectedPreviousHash ≠ zeroHash :=
    mt first.mpr
  have each : checkEach write.validateProjection [] write.projections = .ok () ↔
      write.projections.Pairwise SiteProjectionPublicationWrite.Apart ∧
        ∀ projection ∈ write.projections, projection.runtimePaths.length ≤ maxRuntimePaths :=
    checkEach_iff fun projection member _ =>
      validateProjection_complete (complete projection member)
  have devices : write.projections.Pairwise SiteProjectionPublicationWrite.Apart ↔
      (write.projections.map fun projection =>
        (projection.deviceId, projection.deviceKeyId)).Nodup := by
    rw [List.Nodup, List.pairwise_map]
    constructor
    · exact fun distinct => distinct.imp fun facts => facts.2.2.2
    · intro distinct
      refine (apart.and distinct).imp ?_
      intro a b facts
      exact ⟨facts.1.1, fun same => facts.1.2.1 same.1, facts.1.2.2, facts.2⟩
  simp [SegmentPublicationWrite.validate, unit_bind_ok, orElse_bind_ok, reject_ok, named, acting,
    short, generation, successor, expires, stale, snapshot, expansions, each, devices, bounded,
    checkEach]
  tauto

end Writes
end CandyCloud
