import CandyCloud.Route.PublicationChain

/-! # Publications, their members and their rollouts

A publication comes with its projections, one membership row for each of them and one rollout
row that counts them.
-/

namespace CandyCloud

open Foundation

def RolloutRow.key (rollout : RolloutRow) : Uuid × Uuid × Nat :=
  (rollout.tenantId, rollout.segmentId, rollout.segmentGeneration)

def StatusRow.key (status : StatusRow) : Uuid × Uuid × Uuid :=
  (status.tenantId, status.deviceId, status.deviceKeyId)

/-- The rollout belongs to the generation of the publication. -/
def RolloutRow.rolls (rollout : RolloutRow) (publication : PublicationRow) : Prop :=
  rollout.key = (publication.tenantId, publication.segmentId, publication.generation)

variable {rollout : RolloutRow} {tenantId segmentId publicationId : Uuid} {generation : Nat}
  {member : MemberRow} {a b : PublicationRow}

theorem RolloutRow.of_iff :
    rollout.of tenantId segmentId generation = true ↔
      rollout.key = (tenantId, segmentId, generation) := by
  simp only [RolloutRow.of, RolloutRow.key, Bool.and_eq_true, beq_iff_eq, Prod.mk.injEq, and_assoc]

theorem RouteStore.rollout_some {store : RouteStore}
    (found : store.rollout tenantId segmentId generation = some rollout) :
    rollout ∈ store.rollouts ∧ rollout.key = (tenantId, segmentId, generation) := by
  unfold RouteStore.rollout at found
  have matched := List.find?_some found
  exact ⟨List.mem_of_find?_eq_some found, RolloutRow.of_iff.mp matched⟩

theorem StatusRow.of_iff {status : StatusRow} {deviceId deviceKeyId : Uuid} :
    status.of tenantId deviceId deviceKeyId = true ↔
      status.key = (tenantId, deviceId, deviceKeyId) := by
  simp only [StatusRow.of, StatusRow.key, Bool.and_eq_true, beq_iff_eq, Prod.mk.injEq, and_assoc]

def RouteStore.membersOf (store : RouteStore) (publicationId : Uuid) : List MemberRow :=
  store.members.filter fun member => member.segmentPublicationId == publicationId

theorem RouteStore.mem_membersOf {store : RouteStore} :
    member ∈ store.membersOf publicationId ↔
      member ∈ store.members ∧ member.segmentPublicationId = publicationId := by
  simp only [membersOf, List.mem_filter, beq_iff_eq]

/-- The projection was inserted by the publication. -/
structure ProjectionLink (publication : PublicationRow) (projection : ProjectionRow) : Prop where
  publicationId : projection.publicationId = publication.id
  tenant : projection.tenantId = publication.tenantId
  segment : projection.segmentId = publication.segmentId
  generation : projection.segmentGeneration = publication.generation

structure MemberLink (projection : ProjectionRow) (member : MemberRow) : Prop where
  projectionId : member.projectionPublicationId = projection.id
  publicationId : member.segmentPublicationId = projection.publicationId
  tenant : member.tenantId = projection.tenantId

structure Membership (store : RouteStore) : Prop where
  publicationIds : (store.publications.map (·.id)).Nodup
  projectionIds : (store.projections.map (·.id)).Nodup
  owned : ∀ projection ∈ store.projections,
    ∃ publication ∈ store.publications, ProjectionLink publication projection
  linked : ∀ member ∈ store.members, ∃ projection ∈ store.projections, MemberLink projection member
  ordinals : ∀ member ∈ store.members,
    member.rolloutOrdinal ≤ (store.membersOf member.segmentPublicationId).length
  devices : ∀ p ∈ store.projections, ∀ q ∈ store.projections, p.publicationId = q.publicationId →
    p.deviceId = q.deviceId → p.deviceKeyId = q.deviceKeyId → p = q

theorem RouteStore.Unpublished.membership {store : RouteStore} (empty : store.Unpublished) :
    Membership store := by
  refine ⟨?_, ?_, ?_, ?_, ?_, ?_⟩
  · simp [empty.publications]
  · simp [empty.projections]
  · simp [empty.projections]
  · simp [empty.members]
  · simp [empty.members]
  · simp [empty.projections]

theorem Membership.frame {store store' : RouteStore} (inv : Membership store)
    (same : SamePublications store store') : Membership store' := by
  refine ⟨?_, ?_, ?_, ?_, ?_, ?_⟩
  · rw [same.publications]
    exact inv.publicationIds
  · rw [same.projections]
    exact inv.projectionIds
  · rw [same.publications, same.projections]
    exact inv.owned
  · rw [same.members, same.projections]
    exact inv.linked
  · unfold RouteStore.membersOf
    rw [same.members]
    exact inv.ordinals
  · rw [same.projections]
    exact inv.devices

theorem ChainInvariant.publication_unique {store : RouteStore} (inv : ChainInvariant store)
    (ha : a ∈ store.publications) (hb : b ∈ store.publications) (tenant : a.tenantId = b.tenantId)
    (segment : a.segmentId = b.segmentId) (generation : a.generation = b.generation) : a = b := by
  have chain := inv.publications b.tenantId b.segmentId
  have unique : ((store.segmentPublications b.tenantId b.segmentId).map (·.generation)).Nodup := by
    rw [chain.numbered]
    exact List.nodup_range'
  refine eq_of_key unique ?_ ?_ generation
  · exact List.mem_filter.mpr ⟨ha, by simp [tenant, segment]⟩
  · exact List.mem_filter.mpr ⟨hb, by simp⟩

theorem ChainInvariant.publicationOf {store : RouteStore} (inv : ChainInvariant store)
    {publication : PublicationRow} (member : publication ∈ store.publications) :
    store.publicationOf publication.tenantId publication.segmentId publication.generation
      = some publication := by
  obtain ⟨found, located⟩ := Option.isSome_iff_exists.mp (List.find?_isSome
    (p := fun p : PublicationRow => p.tenantId == publication.tenantId &&
      p.segmentId == publication.segmentId && p.generation == publication.generation) |>.mpr
    ⟨publication, member, by simp⟩)
  have same := List.find?_some located
  simp only [Bool.and_eq_true, beq_iff_eq] at same
  have unique := inv.publication_unique (List.mem_of_find?_eq_some located) member
    same.1.1 same.1.2 same.2
  rw [RouteStore.publicationOf, located, unique]

theorem Membership.publication_of_id {store : RouteStore} (inv : Membership store)
    (ha : a ∈ store.publications) (hb : b ∈ store.publications) (same : a.id = b.id) : a = b :=
  eq_of_key inv.publicationIds ha hb same

theorem Membership.projection_of_id {store : RouteStore} (inv : Membership store)
    {a b : ProjectionRow} (ha : a ∈ store.projections) (hb : b ∈ store.projections)
    (same : a.id = b.id) : a = b :=
  eq_of_key inv.projectionIds ha hb same

section Commit

variable {policyIsolation : Bool} {write : SegmentPublicationWrite} {store store' : RouteStore}

theorem Committed.freshId (committed : Committed policyIsolation write store store')
    {old : PublicationRow} (member : old ∈ store.publications) : write.publicationId ≠ old.id := by
  have free := committed.fresh old member
  simp only [PublicationRow.conflict, Bool.or_eq_false_iff, beq_eq_false_iff_ne] at free
  exact free.1

theorem Committed.freshProjectionId (committed : Committed policyIsolation write store store')
    {projection : SiteProjectionPublicationWrite} (written : projection ∈ write.projections)
    {old : ProjectionRow} (member : old ∈ store.projections) :
    projection.publicationId ≠ old.id := by
  have free := committed.freshProjections projection written old member
  simp only [ProjectionRow.conflict, Bool.or_eq_false_iff, beq_eq_false_iff_ne] at free
  exact free.1.1

theorem Committed.newPublication (committed : Committed policyIsolation write store store') :
    write.publicationRow ∈ store'.publications := by
  rw [committed.publications]
  exact List.mem_append_right _ (List.mem_singleton_self _)

theorem mem_memberRows {projections : List SiteProjectionPublicationWrite}
    (row : member ∈ memberRows publicationId (projections.zipIdx 1)) :
    ∃ projection ∈ projections, ∃ ordinal ≤ projections.length,
      member = projection.memberRow publicationId ordinal := by
  obtain ⟨⟨projection, ordinal⟩, numbered, rfl⟩ := List.mem_map.mp row
  have position := List.mem_zipIdx numbered
  refine ⟨projection, ?_, ordinal, by omega, rfl⟩
  rw [position.2.2]
  exact List.getElem_mem _

theorem Committed.membersOf (committed : Committed policyIsolation write store store')
    (inv : Membership store) (publicationId : Uuid) :
    store'.membersOf publicationId =
      if write.publicationId = publicationId then
        memberRows write.publicationId (write.projections.zipIdx 1)
      else store.membersOf publicationId := by
  simp only [RouteStore.membersOf, committed.members, List.filter_append]
  by_cases same : write.publicationId = publicationId
  · subst same
    rw [if_pos rfl, List.filter_eq_nil_iff.mpr, List.nil_append, List.filter_eq_self]
    · intro member row
      obtain ⟨projection, -, ordinal, -, rfl⟩ := mem_memberRows row
      exact beq_self_eq_true write.publicationId
    · intro member old matched
      obtain ⟨projection, present, link⟩ := inv.linked member old
      obtain ⟨publication, published, owner⟩ := inv.owned projection present
      refine committed.freshId published ?_
      rw [← owner.publicationId, ← link.publicationId]
      exact (beq_iff_eq.mp matched).symm
  · rw [if_neg same, List.append_right_eq_self, List.filter_eq_nil_iff]
    intro member row matched
    obtain ⟨projection, -, ordinal, -, rfl⟩ := mem_memberRows row
    exact same (beq_iff_eq.mp matched)

theorem length_memberRows (publicationId : Uuid)
    (projections : List SiteProjectionPublicationWrite) :
    (memberRows publicationId (projections.zipIdx 1)).length = projections.length := by
  simp only [memberRows, List.length_map, List.length_zipIdx]

theorem Committed.projectionIds (committed : Committed policyIsolation write store store')
    (inv : Membership store) : (store'.projections.map (·.id)).Nodup := by
  rw [committed.projections, List.map_append, List.map_map, List.nodup_append]
  refine ⟨inv.projectionIds, committed.admitted.publicationIds, ?_⟩
  intro a ha b hb same
  obtain ⟨old, present, rfl⟩ := List.mem_map.mp ha
  obtain ⟨projection, written, rfl⟩ := List.mem_map.mp hb
  exact committed.freshProjectionId written present same.symm

theorem Committed.mem_projections (committed : Committed policyIsolation write store store')
    {row : ProjectionRow} : row ∈ store'.projections ↔ row ∈ store.projections ∨
      ∃ projection ∈ write.projections, row = projection.projectionRow write.publicationId := by
  rw [committed.projections, List.mem_append, List.mem_map]
  constructor
  · rintro (old | ⟨projection, written, rfl⟩)
    · exact .inl old
    · exact .inr ⟨projection, written, rfl⟩
  · rintro (old | ⟨projection, written, rfl⟩)
    · exact .inl old
    · exact .inr ⟨projection, written, rfl⟩

theorem Committed.membership (committed : Committed policyIsolation write store store')
    (inv : Membership store) : Membership store' where
  publicationIds := by
    rw [committed.publications]
    exact nodup_concat_key inv.publicationIds fun old member => committed.freshId member
  projectionIds := committed.projectionIds inv
  owned := by
    intro row member
    rcases committed.mem_projections.mp member with old | ⟨projection, written, rfl⟩
    · obtain ⟨publication, published, link⟩ := inv.owned row old
      refine ⟨publication, ?_, link⟩
      rw [committed.publications]
      exact List.mem_append_left _ published
    · have admitted := committed.admitted.projections projection written
      exact ⟨write.publicationRow, committed.newPublication, rfl, admitted.tenant,
        admitted.segment, admitted.generation⟩
  linked := by
    intro member present
    rw [committed.members] at present
    rcases List.mem_append.mp present with old | new
    · obtain ⟨projection, existing, link⟩ := inv.linked member old
      exact ⟨projection, committed.mem_projections.mpr (.inl existing), link⟩
    · obtain ⟨projection, written, ordinal, -, rfl⟩ := mem_memberRows new
      exact ⟨projection.projectionRow write.publicationId,
        committed.mem_projections.mpr (.inr ⟨projection, written, rfl⟩), rfl, rfl, rfl⟩
  ordinals := by
    intro member present
    rw [committed.membersOf inv]
    rw [committed.members] at present
    rcases List.mem_append.mp present with old | new
    · rw [if_neg]
      · exact inv.ordinals member old
      · obtain ⟨projection, existing, link⟩ := inv.linked member old
        obtain ⟨publication, published, owner⟩ := inv.owned projection existing
        rw [link.publicationId, owner.publicationId]
        exact committed.freshId published
    · obtain ⟨projection, written, ordinal, bound, rfl⟩ := mem_memberRows new
      have own : write.publicationId =
        (projection.memberRow write.publicationId ordinal).segmentPublicationId := rfl
      rw [if_pos own, length_memberRows]
      exact bound
  devices := by
    have separate : ∀ old ∈ store.projections, old.publicationId ≠ write.publicationId := by
      intro old present same
      obtain ⟨publication, published, owner⟩ := inv.owned old present
      exact committed.freshId published (same.symm.trans owner.publicationId)
    intro p hp q hq same device key
    rcases committed.mem_projections.mp hp with oldP | ⟨a, writtenA, rfl⟩
    · rcases committed.mem_projections.mp hq with oldQ | ⟨b, writtenB, rfl⟩
      · exact inv.devices p oldP q oldQ same device key
      · exact absurd same (separate p oldP)
    · rcases committed.mem_projections.mp hq with oldQ | ⟨b, writtenB, rfl⟩
      · exact absurd same.symm (separate q oldQ)
      · have equal : a = b := eq_of_key committed.admitted.devices writtenA writtenB
          (Prod.ext device key)
        rw [equal]

end Commit

end CandyCloud
