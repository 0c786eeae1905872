import CandyCloud.Route.Rollout

/-! # The rows behind a configuration

What the checks of a write establish stays true of the rows it becomes, and a publication lists
every attachment once.
-/

namespace CandyCloud

open Foundation

structure ProjectionRow.Sound (p : ProjectionRow) : Prop where
  id : isNil p.id = false
  projectionId : isNil p.projectionId = false
  segmentId : isNil p.segmentId = false
  siteId : isNil p.siteId = false
  attachmentId : isNil p.attachmentId = false
  generation : p.projectionGeneration ≠ 0
  segmentHash : p.segmentContentHash ≠ zeroHash
  hash : p.contentHash ≠ zeroHash
  envelope : invalidEnvelope p.signedEnvelope = false

structure PublicationRow.Sound (p : PublicationRow) : Prop where
  generation : p.generation ≤ u64Max
  hash : p.contentHash ≠ zeroHash
  envelope : invalidEnvelope p.signedEnvelope = false

theorem SignedObjectWrite.validate_envelope {object : SignedObjectWrite} {u : Unit}
    (accepted : object.validate = .ok u) : invalidEnvelope object.signedEnvelope = false := by
  simp only [validate, reject_ok, Bool.or_eq_false_iff] at accepted
  rw [invalidEnvelope, Bool.or_eq_false_iff]
  exact ⟨accepted.1.2, accepted.2⟩

variable {projection : SiteProjectionPublicationWrite}

section Write

variable {write : SegmentPublicationWrite}

theorem SegmentPublicationWrite.publication_sound (valid : write.validate = .ok ()) :
    write.publicationRow.Sound := by
  simp only [validate, unit_bind_ok, orElse_bind_ok, reject_ok, Bool.or_eq_false_iff,
    bne_eq_false_iff_eq] at valid
  obtain ⟨-, -, next, sum, ⟨⟨generation, -⟩, -⟩, -, snapshot, -⟩ := valid
  constructor
  case generation =>
    rw [show write.publicationRow.generation = next from generation]
    unfold checkedAdd at sum
    split at sum
    · rename_i fits
      obtain rfl := Option.some.inj sum
      exact fits
    · cases sum
  case hash => exact SignedObjectWrite.validate_ok snapshot
  case envelope => exact SignedObjectWrite.validate_envelope snapshot

theorem SegmentPublicationWrite.projection_sound (valid : write.validate = .ok ())
    (written : projection ∈ write.projections) :
    (projection.projectionRow write.publicationId).Sound := by
  have admitted := validate_ok valid
  have facts := admitted.projections projection written
  simp only [validate, unit_bind_ok, orElse_bind_ok] at valid
  obtain ⟨-, -, next, -, -, -, -, -, each, -⟩ := valid
  obtain ⟨before, after, split⟩ := List.append_of_mem written
  have checked := checkEach_ok.mp each before projection after split
  simp only [validateProjection, unit_bind_ok, reject_ok, Bool.or_eq_false_iff] at checked
  obtain ⟨⟨⟨⟨⟨⟨⟨id, projectionId⟩, siteId⟩, attachmentId⟩, -⟩, -⟩, -⟩, -, -, object, -⟩ := checked
  constructor
  case id => exact id
  case projectionId => exact projectionId
  case segmentId =>
    rw [show (projection.projectionRow write.publicationId).segmentId = write.segmentId from
      facts.segment]
    exact admitted.named.2.2
  case siteId => exact siteId
  case attachmentId => exact attachmentId
  case generation => exact facts.positive
  case segmentHash =>
    rw [show (projection.projectionRow write.publicationId).segmentContentHash =
      write.snapshot.contentHash from facts.segmentHash]
    exact admitted.hashed
  case hash => exact facts.hashed
  case envelope => exact SignedObjectWrite.validate_envelope object

theorem publish_validated {sha256 : Bytes → Hash} {policyIsolation : Bool}
    {store store' : RouteStore}
    (done : publish sha256 policyIsolation write store = (.ok .published, store')) :
    write.validate = .ok () := by
  unfold publish at done
  cases valid : write.validate with
  | error error =>
      rw [valid] at done
      cases (congrArg Prod.fst done)
  | ok u => rfl

end Write

def ProjectionRow.place (p : ProjectionRow) : Uuid × Uuid × Nat × Uuid :=
  (p.tenantId, p.segmentId, p.segmentGeneration, p.attachmentId)

def MemberRow.key (member : MemberRow) : Uuid × Uuid :=
  (member.segmentPublicationId, member.projectionPublicationId)

structure Cataloged (store : RouteStore) : Prop where
  rollout : RolloutInvariant store
  projections : ∀ p ∈ store.projections, p.Sound
  publications : ∀ p ∈ store.publications, p.Sound
  places : (store.projections.map (·.place)).Nodup
  members : (store.members.map (·.key)).Nodup
  bounded : ∀ publicationId,
    (store.projections.filter (·.publicationId == publicationId)).length ≤ maxProjections

theorem RouteStore.Unpublished.cataloged {store : RouteStore} (empty : store.Unpublished) :
    Cataloged store := by
  refine ⟨empty.rolloutInvariant, ?_, ?_, ?_, ?_, ?_⟩
  · simp [empty.projections]
  · simp [empty.publications]
  · simp [empty.projections]
  · simp [empty.members]
  · simp [empty.projections]

theorem Cataloged.frame {store store' : RouteStore} (inv : Cataloged store)
    (same : SamePublications store store') (rollout : RolloutInvariant store') :
    Cataloged store' := by
  refine ⟨rollout, ?_, ?_, ?_, ?_, ?_⟩
  · rw [same.projections]
    exact inv.projections
  · rw [same.publications]
    exact inv.publications
  · rw [same.projections]
    exact inv.places
  · rw [same.members]
    exact inv.members
  · rw [same.projections]
    exact inv.bounded

section Commit

variable {policyIsolation : Bool} {write : SegmentPublicationWrite} {store store' : RouteStore}
  (committed : Committed policyIsolation write store store')

include committed

theorem Committed.place_new (inv : RolloutInvariant store)
    (written : projection ∈ write.projections) {old : ProjectionRow}
    (member : old ∈ store.projections) :
    (projection.projectionRow write.publicationId).place ≠ old.place := by
  intro same
  have facts := committed.admitted.projections projection written
  obtain ⟨publication, published, link⟩ := inv.membership.owned old member
  simp only [ProjectionRow.place, SiteProjectionPublicationWrite.projectionRow, Prod.mk.injEq] at same
  obtain ⟨tenant, segment, generation, -⟩ := same
  have below := committed.above inv.chain published
    (by rw [← link.tenant, ← tenant, facts.tenant]) (by rw [← link.segment, ← segment, facts.segment])
  rw [← link.generation, ← generation, facts.generation] at below
  exact Nat.lt_irrefl _ below

theorem Committed.places (inv : Cataloged store) : (store'.projections.map (·.place)).Nodup := by
  rw [committed.projections, List.map_append, List.nodup_append]
  refine ⟨inv.places, ?_, ?_⟩
  · -- one write names each attachment once
    have unique : ((write.projections.map (·.projectionRow write.publicationId)).map
        (·.attachmentId)).Nodup := by
      rw [List.map_map]
      exact committed.admitted.attachments
    refine List.Nodup.of_map (fun place => place.2.2.2) ?_
    rw [List.map_map]
    exact unique
  · intro a old b new same
    obtain ⟨row, member, rfl⟩ := List.mem_map.mp old
    obtain ⟨row', member', rfl⟩ := List.mem_map.mp new
    obtain ⟨projection, written, rfl⟩ := List.mem_map.mp member'
    exact committed.place_new inv.rollout written member same.symm

theorem Committed.memberKeys (inv : Cataloged store) : (store'.members.map (·.key)).Nodup := by
  rw [committed.members, List.map_append, List.nodup_append]
  refine ⟨inv.members, ?_, ?_⟩
  · refine List.Nodup.of_map Prod.snd ?_
    have ids : ((memberRows write.publicationId (write.projections.zipIdx 1)).map (·.key)).map
        Prod.snd = write.projections.map (·.publicationId) := by
      rw [memberRows, List.map_map, List.map_map, ← List.zipIdx_map_fst 1 write.projections,
        List.map_map, List.zipIdx_map_fst]
      rfl
    rw [ids]
    exact committed.admitted.publicationIds
  · intro a old b new same
    obtain ⟨member, present, rfl⟩ := List.mem_map.mp old
    obtain ⟨row, listed, rfl⟩ := List.mem_map.mp new
    obtain ⟨projection, -, ordinal, -, rfl⟩ := mem_memberRows listed
    obtain ⟨p, existing, link⟩ := inv.rollout.membership.linked member present
    obtain ⟨publication, published, owner⟩ := inv.rollout.membership.owned p existing
    have id : member.segmentPublicationId = write.publicationId := congrArg Prod.fst same
    refine committed.freshId published ?_
    rw [← owner.publicationId, ← link.publicationId, id]

theorem Committed.cataloged (valid : write.validate = .ok ()) (inv : Cataloged store) :
    Cataloged store' where
  rollout := committed.rolloutInvariant inv.rollout
  projections := by
    intro p member
    rcases committed.mem_projections.mp member with old | ⟨projection, written, rfl⟩
    · exact inv.projections p old
    · exact SegmentPublicationWrite.projection_sound valid written
  publications := by
    intro p member
    rw [committed.publications] at member
    rcases mem_concat.mp member with old | new
    · exact inv.publications p old
    · rw [new]
      exact SegmentPublicationWrite.publication_sound valid
  places := committed.places inv
  members := committed.memberKeys inv
  bounded := by
    intro publicationId
    rw [committed.projections, List.filter_append]
    by_cases own : write.publicationId = publicationId
    · have none : store.projections.filter (·.publicationId == publicationId) = [] := by
        rw [List.filter_eq_nil_iff]
        intro p member same
        obtain ⟨publication, published, owner⟩ := inv.rollout.membership.owned p member
        refine committed.freshId published ?_
        rw [own, ← owner.publicationId]
        exact (beq_iff_eq.mp same).symm
      rw [none, List.nil_append]
      refine (List.length_filter_le _ _).trans ?_
      rw [List.length_map]
      exact committed.admitted.bounded
    · have none : (write.projections.map (·.projectionRow write.publicationId)).filter
          (·.publicationId == publicationId) = [] := by
        rw [List.filter_eq_nil_iff]
        intro p member same
        obtain ⟨projection, -, rfl⟩ := List.mem_map.mp member
        exact own (beq_iff_eq.mp same)
      rw [none, List.append_nil]
      exact inv.bounded publicationId

end Commit

theorem routeStep_cataloged (sha256 : Bytes → Hash) (store : RouteStore) (call : RouteCall)
    (inv : Cataloged store) : Cataloged (routeStep sha256 store call) := by
  have rollout := routeStep_rolloutInvariant sha256 store call inv.rollout
  cases call with
  | publish policyIsolation write =>
      exact routeStep_publish sha256 policyIsolation write inv fun outcome committed =>
        committed.cataloged (publish_validated outcome) inv
  | report policyIsolation now auditId status =>
      obtain ⟨same, -⟩ := report_frame store now auditId policyIsolation status
      exact inv.frame same rollout
  | environment topology segments => exact inv.frame ⟨rfl, rfl, rfl⟩ rollout

theorem run_cataloged (sha256 : Bytes → Hash) {start : RouteStore} (empty : start.Unpublished)
    (calls : List RouteCall) : Cataloged (run (routeStep sha256) start calls) :=
  run_invariant (routeStep_cataloged sha256) empty.cataloged calls

section Joins

variable {store : RouteStore} (inv : Cataloged store)
include inv

theorem Cataloged.memberships_le_one (p : ProjectionRow) (publicationId : Uuid) :
    (store.members.filter fun member =>
      member.tenantId == p.tenantId && member.segmentPublicationId == publicationId &&
        member.projectionPublicationId == p.id && member.projectionId == p.projectionId &&
        member.attachmentId == p.attachmentId).length ≤ 1 := by
  refine length_filter_key_le_one inv.members (publicationId, p.id) ?_
  intro member _ selected
  simp only [Bool.and_eq_true, beq_iff_eq] at selected
  exact Prod.ext selected.1.1.1.2 selected.1.1.2

theorem Cataloged.deliveriesOf_le_one (p : ProjectionRow) : (store.deliveriesOf p).length ≤ 1 := by
  have publications : (store.publications.filter fun publication =>
      publication.id == p.publicationId && publication.tenantId == p.tenantId &&
        publication.segmentId == p.segmentId && publication.generation == p.segmentGeneration &&
        publication.contentHash == p.segmentContentHash).length ≤ 1 := by
    refine length_filter_key_le_one inv.rollout.membership.publicationIds p.publicationId ?_
    intro publication _ selected
    simp only [Bool.and_eq_true, beq_iff_eq] at selected
    exact selected.1.1.1.1
  have rollouts : (store.rollouts.filter fun rollout =>
      rollout.of p.tenantId p.segmentId p.segmentGeneration).length ≤ 1 := by
    refine length_filter_key_le_one inv.rollout.keys (p.tenantId, p.segmentId, p.segmentGeneration) ?_
    intro rollout _ selected
    exact RolloutRow.of_iff.mp selected
  refine length_flatMap_le_one publications fun publication _ => ?_
  refine length_flatMap_le_one (inv.memberships_le_one p publication.id) fun member _ => ?_
  rw [List.length_map]
  exact rollouts

theorem Cataloged.deliveries_le_one (a : AttachmentRow) (generation : Nat) :
    (store.deliveries a generation).length ≤ 1 := by
  refine length_flatMap_le_one ?_ fun p _ => inv.deliveriesOf_le_one p
  refine length_filter_key_le_one inv.places (a.tenantId, a.segmentId, generation, a.id) ?_
  intro p _ selected
  simp only [Bool.and_eq_true, beq_iff_eq] at selected
  obtain ⟨⟨⟨⟨⟨⟨tenant, segment⟩, -⟩, attachment⟩, -⟩, -⟩, generation⟩ := selected
  rw [ProjectionRow.place, tenant, segment, generation, attachment]

theorem Cataloged.retained_le_one (now : Instant) (p : ProjectionRow) :
    (store.retainedPublications now p).length ≤ 1 := by
  refine length_flatMap_le_one ?_ ?_
  · refine length_filter_key_le_one inv.rollout.membership.publicationIds p.publicationId ?_
    intro publication _ selected
    simp only [Bool.and_eq_true, beq_iff_eq] at selected
    exact selected.1.1.1.1
  · intro publication _
    rw [List.length_map]
    exact inv.memberships_le_one p publication.id

theorem Cataloged.attachments_nodup {tenantId segmentId : Uuid} {generation : Nat}
    {rows : List ProjectionRow} (part : rows.Sublist store.projections)
    (within : ∀ p ∈ rows, p.tenantId = tenantId ∧ p.segmentId = segmentId ∧
      p.segmentGeneration = generation) : (rows.map (·.attachmentId)).Nodup := by
  have places : (rows.map (·.place)).Nodup := (part.map _).nodup inv.places
  have same : rows.map (·.place) = (rows.map (·.attachmentId)).map
      fun attachmentId => (tenantId, segmentId, generation, attachmentId) := by
    rw [List.map_map]
    refine List.map_congr_left fun p member => ?_
    obtain ⟨tenant, segment, number⟩ := within p member
    rw [ProjectionRow.place, tenant, segment, number]
    rfl
  rw [same] at places
  exact List.Nodup.of_map _ places

theorem Cataloged.attachments_bounded (tenantId segmentId : Uuid) (generation : Nat) :
    ∃ attachments : List Uuid, attachments.length ≤ maxProjections ∧
      ∀ p ∈ store.projections, p.tenantId = tenantId → p.segmentId = segmentId →
        p.segmentGeneration = generation → p.attachmentId ∈ attachments := by
  by_cases published : ∃ publication ∈ store.publications, publication.tenantId = tenantId ∧
      publication.segmentId = segmentId ∧ publication.generation = generation
  · obtain ⟨publication, present, rfl, rfl, rfl⟩ := published
    refine ⟨(store.projections.filter (·.publicationId == publication.id)).map (·.attachmentId),
      ?_, ?_⟩
    · rw [List.length_map]
      exact inv.bounded publication.id
    · intro p member tenant segment generation
      obtain ⟨owner, existing, link⟩ := inv.rollout.membership.owned p member
      have equal := inv.rollout.chain.publication_unique existing present
        (link.tenant.symm.trans tenant) (link.segment.symm.trans segment)
        (link.generation.symm.trans generation)
      refine List.mem_map_of_mem (List.mem_filter.mpr ⟨member, beq_iff_eq.mpr ?_⟩)
      rw [link.publicationId, equal]
  · refine ⟨[], Nat.zero_le _, ?_⟩
    intro p member tenant segment generation
    obtain ⟨owner, existing, link⟩ := inv.rollout.membership.owned p member
    exact absurd ⟨owner, existing, link.tenant.symm.trans tenant, link.segment.symm.trans segment,
      link.generation.symm.trans generation⟩ published

end Joins

end CandyCloud
