import CandyCloud.Route.Barrier

/-! # Rollouts that no report finishes

Phase advancement is evaluated only inside the branches of the report that matches the rollout
state.
-/

namespace CandyCloud

open Foundation

/-- The member has prepared or activated its projection. -/
def settled (store : RouteStore) (member : MemberRow) : Bool :=
  memberReported store .prepared member || memberReported store .active member

def allSettled (store : RouteStore) (publication : PublicationRow) : Bool :=
  (store.membersOf publication.id).all (settled store)

/-- The publication the segment's head names. -/
structure CurrentPublication (store : RouteStore) (segment : SegmentRow)
    (publication : PublicationRow) : Prop where
  present : segment ∈ store.segments
  published : publication ∈ store.publications
  tenant : segment.tenantId = publication.tenantId
  segmentId : segment.id = publication.segmentId
  generation : segment.currentGeneration = publication.generation

/-- No current publication has all members done and an unfinished rollout. -/
def Unstuck (store : RouteStore) : Prop :=
  ∀ segment publication rollout, CurrentPublication store segment publication →
    rollout ∈ store.rollouts → rollout.rolls publication →
    (allReported store publication .active = true → rollout.state = .complete) ∧
    (allSettled store publication = true →
      rollout.state = .committing ∨ rollout.state = .complete)

def others (store : RouteStore) (publication : PublicationRow) (reporter : Uuid)
    (test : MemberRow → Bool) : Bool :=
  (store.membersOf publication.id).all fun member =>
    member.projectionPublicationId == reporter || test member

/-- The report settles the last open member of a preparing or blocked rollout
    without meeting the count of its branch. -/
def Misses (applyState : ApplyState) (state : RolloutState) (prepared active : Bool) : Prop :=
  (state = .preparing ∨ state = .blocked) ∧
    match applyState with
    | .prepared => prepared = false
    | .active => state = .preparing ∨ active = false
    | .rejected => False

instance (applyState : ApplyState) (state : RolloutState) (prepared active : Bool) :
    Decidable (Misses applyState state prepared active) :=
  match applyState with
  | .prepared => inferInstanceAs (Decidable ((state = .preparing ∨ state = .blocked) ∧
      prepared = false))
  | .active => inferInstanceAs (Decidable ((state = .preparing ∨ state = .blocked) ∧
      (state = .preparing ∨ active = false)))
  | .rejected => inferInstanceAs (Decidable ((state = .preparing ∨ state = .blocked) ∧ False))

structure StrandingReport (store : RouteStore) (policyIsolation : Bool) (now : Instant)
    (auditId : Uuid) (status : RuntimeConfigurationStatusWrite)
    (configuration : RuntimeConfigurationRecord) (publication : PublicationRow)
    (rollout : RolloutRow) : Prop where
  acceptable : Acceptable policyIsolation now auditId status configuration store
  published : publication ∈ store.publications
  scope : (publication.tenantId, publication.segmentId, publication.generation)
    = (configuration.tenantId, configuration.segmentId, configuration.segmentGeneration)
  rolled : rollout ∈ store.rollouts
  rolls : rollout.rolls publication
  last : others store publication configuration.projectionPublicationId (settled store) = true
  misses : Misses status.applyState rollout.state
    (others store publication configuration.projectionPublicationId (memberReported store .prepared))
    (others store publication configuration.projectionPublicationId (memberReported store .active))

/-- The report is the last one missing, and its rollout does not advance on it. -/
def Strands (store : RouteStore) : RouteCall → Prop
  | .report policyIsolation now auditId status => ∃ configuration publication rollout,
      StrandingReport store policyIsolation now auditId status configuration publication rollout
  | _ => False

/-- Primary key of the attachments, and projected attachments in place. -/
structure Placed (store : RouteStore) : Prop where
  ids : (store.topology.attachments.map (·.id)).Nodup
  segments : ∀ projection ∈ store.projections, ∀ a ∈ store.topology.attachments,
    a.id = projection.attachmentId → a.segmentId = projection.segmentId

/-- The control bridge never rewrites `segment_attachments.segment_id`. -/
def KeepsPlaces (store : RouteStore) : RouteCall → Prop
  | .environment topology segments => Placed (store.reshape topology segments)
  | _ => True

theorem routeStep_placed (sha256 : Bytes → Hash) (store : RouteStore) (call : RouteCall)
    (placed : Placed store) (keeps : KeepsPlaces store call) :
    Placed (routeStep sha256 store call) := by
  cases call with
  | publish policyIsolation write =>
      refine routeStep_publish sha256 policyIsolation write placed fun _ committed => ?_
      constructor
      · rw [committed.topology]
        exact placed.ids
      · rw [committed.topology]
        intro row member a routed same
        rcases committed.mem_projections.mp member with old | ⟨projection, written, rfl⟩
        · exact placed.segments row old a routed same
        · obtain ⟨owner, present, owns⟩ := committed.owned projection written
          simp only [ownsProjection, Bool.and_eq_true, beq_iff_eq] at owns
          obtain ⟨⟨⟨⟨⟨⟨⟨⟨⟨id, -⟩, segment⟩, -⟩, -⟩, -⟩, -⟩, -⟩, -⟩, -⟩ := owns
          have equal : a = owner := eq_of_key placed.ids routed present (same.trans id.symm)
          rw [equal]
          exact segment
  | report policyIsolation now auditId status =>
      obtain ⟨devices, statuses, rollouts, auditEvents, writes⟩ :=
        report_writes store now auditId policyIsolation status
      rw [routeStep, writes]
      exact ⟨placed.ids, placed.segments⟩
  | environment topology segments => exact keeps

variable {member : MemberRow} {state : ApplyState} {policyIsolation : Bool}
  {write : SegmentPublicationWrite}

section Report

variable {status : RuntimeConfigurationStatusWrite} {configuration : RuntimeConfigurationRecord}
  {segment : SegmentRow} {delivery : Delivery} {store store' : RouteStore} {now : Instant}

theorem memberReported_after (inv : RolloutInvariant store) (same : SamePublications store store')
    (statuses : store'.statuses = writeStatus now status delivery.projection.id store.statuses)
    {projection : ProjectionRow} (present : projection ∈ store.projections)
    (link : MemberLink projection member) :
    memberReported store' state member = true ↔
      (projection.deviceKey = status.lookup.key ∧ projection.id = delivery.projection.id ∧
        state = status.applyState) ∨
      (projection.deviceKey ≠ status.lookup.key ∧ memberReported store state member = true) := by
  have present' : projection ∈ store'.projections := by
    rw [same.projections]
    exact present
  rw [memberReported_iff (inv.membership.frame same) present' link, statuses, reports_writeStatus,
    memberReported_iff inv.membership present link]

theorem all_members_after
    (current : Current store status.lookup configuration segment delivery)
    (same : SamePublications store store') {after before : MemberRow → Bool} {own : Bool}
    (reporter : ∀ member ∈ store.members,
      member.projectionPublicationId = delivery.projection.id → after member = own)
    (fellows : ∀ member ∈ store.members, member.segmentPublicationId = delivery.publication.id →
      member.projectionPublicationId ≠ delivery.projection.id → after member = before member) :
    (store'.membersOf delivery.publication.id).all after =
      (own && others store delivery.publication delivery.projection.id before) := by
  have members : store'.membersOf delivery.publication.id
      = store.membersOf delivery.publication.id := by
    rw [RouteStore.membersOf, RouteStore.membersOf, same.members]
  have reporting : delivery.member ∈ store.membersOf delivery.publication.id :=
    RouteStore.mem_membersOf.mpr
      ⟨current.member, current.memberLink.publicationId.trans current.link.publicationId⟩
  rw [members, Bool.eq_iff_iff, Bool.and_eq_true, others, List.all_eq_true, List.all_eq_true]
  constructor
  · intro all
    constructor
    · rw [← reporter delivery.member current.member current.memberLink.projectionId]
      exact all delivery.member reporting
    · intro member listed
      obtain ⟨present, fellow⟩ := RouteStore.mem_membersOf.mp listed
      by_cases own : member.projectionPublicationId = delivery.projection.id
      · simp [own]
      · rw [← fellows member present fellow own, all member listed, Bool.or_true]
  · rintro ⟨owned, rest⟩ member listed
    obtain ⟨present, fellow⟩ := RouteStore.mem_membersOf.mp listed
    by_cases own : member.projectionPublicationId = delivery.projection.id
    · rw [reporter member present own, owned]
    · have tested := rest member listed
      rw [Bool.or_eq_true, beq_iff_eq] at tested
      rw [fellows member present fellow own]
      exact tested.resolve_left own

section Reported

variable (inv : RolloutInvariant store)
  (current : Current store status.lookup configuration segment delivery)
  (same : SamePublications store store')
  (statuses : store'.statuses = writeStatus now status delivery.projection.id store.statuses)
include inv current same statuses

theorem memberReported_reporter (present : member ∈ store.members)
    (own : member.projectionPublicationId = delivery.projection.id) :
    memberReported store' state member = true ↔ state = status.applyState := by
  obtain ⟨projection, existing, link⟩ := inv.membership.linked member present
  have equal : projection = delivery.projection := by
    apply inv.membership.projection_of_id existing current.projection
    rw [← link.projectionId, own]
  subst equal
  have key : delivery.projection.deviceKey = status.lookup.key := current.lookupKey
  rw [memberReported_after inv same statuses existing link]
  constructor
  · rintro (⟨-, -, state⟩ | ⟨other, -⟩)
    · exact state
    · exact absurd key other
  · intro state
    exact .inl ⟨key, rfl, state⟩

theorem memberReported_fellow (present : member ∈ store.members)
    (fellow : member.segmentPublicationId = delivery.publication.id)
    (other : member.projectionPublicationId ≠ delivery.projection.id) (state : ApplyState) :
    memberReported store' state member = memberReported store state member := by
  obtain ⟨projection, existing, link⟩ := inv.membership.linked member present
  have publication : projection.publicationId = delivery.projection.publicationId := by
    rw [← link.publicationId, fellow, current.link.publicationId]
  have distinct : projection.deviceKey ≠ status.lookup.key := by
    intro key
    have keys : projection.deviceKey = delivery.projection.deviceKey :=
      key.trans current.lookupKey.symm
    simp only [ProjectionRow.deviceKey, Prod.mk.injEq] at keys
    have equal := inv.membership.devices projection existing delivery.projection current.projection
      publication keys.2.1 keys.2.2
    exact other (link.projectionId.trans (congrArg ProjectionRow.id equal))
  rw [Bool.eq_iff_iff, memberReported_after inv same statuses existing link]
  constructor
  · rintro (⟨key, -⟩ | ⟨-, reported⟩)
    · exact absurd key distinct
    · exact reported
  · intro reported
    exact .inr ⟨distinct, reported⟩

theorem memberReported_foreign (present : member ∈ store.members)
    (foreign : member.segmentPublicationId ≠ delivery.publication.id)
    (reported : memberReported store' state member = true) :
    memberReported store state member = true := by
  obtain ⟨projection, existing, link⟩ := inv.membership.linked member present
  rcases (memberReported_after inv same statuses existing link).mp reported with
    ⟨-, id, -⟩ | ⟨-, before⟩
  · have equal := inv.membership.projection_of_id existing current.projection id
    subst equal
    exact absurd (link.publicationId.trans current.link.publicationId) foreign
  · exact before

theorem allReported_after (state : ApplyState) :
    allReported store' delivery.publication state = (decide (state = status.applyState) &&
      others store delivery.publication delivery.projection.id (memberReported store state)) := by
  refine all_members_after current same ?_ ?_
  · intro member present own
    rw [Bool.eq_iff_iff, decide_eq_true_eq]
    exact memberReported_reporter inv current same statuses present own
  · intro member present fellow other
    exact memberReported_fellow inv current same statuses present fellow other state

theorem allSettled_after :
    allSettled store' delivery.publication = (decide (status.applyState ≠ .rejected) &&
      others store delivery.publication delivery.projection.id (settled store)) := by
  refine all_members_after current same ?_ ?_
  · intro member present own
    rw [Bool.eq_iff_iff, decide_eq_true_eq, settled, Bool.or_eq_true,
      memberReported_reporter inv current same statuses present own,
      memberReported_reporter inv current same statuses present own]
    cases status.applyState <;> decide
  · intro member present fellow other
    simp only [settled, memberReported_fellow inv current same statuses present fellow other]

end Reported

theorem nextState_unstuck (applyState : ApplyState) (state : RolloutState)
    (prepared active settled : Bool) (activeSettled : active = true → settled = true) :
    (((decide (ApplyState.active = applyState) && active) = true →
        nextState applyState state (decide (ApplyState.prepared = applyState) && prepared)
          (decide (ApplyState.active = applyState) && active) = .complete) ∧
      ((decide (applyState ≠ .rejected) && settled) = true →
        nextState applyState state (decide (ApplyState.prepared = applyState) && prepared)
          (decide (ApplyState.active = applyState) && active) = .committing ∨
        nextState applyState state (decide (ApplyState.prepared = applyState) && prepared)
          (decide (ApplyState.active = applyState) && active) = .complete)) ↔
      ¬ (settled = true ∧ Misses applyState state prepared active) := by
  cases applyState <;> cases state <;> cases prepared <;> cases active <;> cases settled <;>
    simp_all [nextState, Misses]

/-- After an accepted report only its own publication can be stuck, and it is
    exactly when the report missed its count. -/
theorem unstuck_report (inv : RolloutInvariant store) (unstuck : Unstuck store)
    (current : Current store status.lookup configuration segment delivery)
    (effect : Effect status.applyState delivery.publication delivery.rollout store store')
    (statuses : store'.statuses = writeStatus now status delivery.projection.id store.statuses) :
    Unstuck store' ↔
      ¬ (others store delivery.publication delivery.projection.id (settled store) = true ∧
        Misses status.applyState delivery.rollout.state
          (others store delivery.publication delivery.projection.id (memberReported store .prepared))
          (others store delivery.publication delivery.projection.id
            (memberReported store .active))) := by
  have activeSettled : others store delivery.publication delivery.projection.id
      (memberReported store .active) = true →
      others store delivery.publication delivery.projection.id (settled store) = true := by
    simp only [others, List.all_eq_true, settled, Bool.or_eq_true]
    intro all member listed
    exact (all member listed).imp_right .inr
  rw [← nextState_unstuck _ _ _ _ _ activeSettled,
    ← allReported_after inv current effect.same statuses .prepared,
    ← allReported_after inv current effect.same statuses .active,
    ← allSettled_after inv current effect.same statuses]
  constructor
  · intro unstuck'
    refine unstuck' segment delivery.publication _ ⟨?_, ?_, ?_, ?_, ?_⟩
      (effect.moved current.rollout) current.rolls
    · rw [effect.segments]
      exact current.present
    · rw [effect.same.publications]
      exact current.publication
    · rw [current.tenant, current.link.tenant]
    · rw [current.segmentId, current.link.segment]
    · rw [current.generation, current.link.generation]
  · intro own segment' publication rollout head rolled rolls
    obtain ⟨present, published, tenant, segmentId, generation⟩ := head
    rw [effect.segments] at present
    rw [effect.same.publications] at published
    rw [effect.rollouts] at rolled
    obtain ⟨old, existing, rfl⟩ := mem_updateWhere.mp rolled
    by_cases key : old.key = delivery.rollout.key
    · rw [if_pos (decide_eq_true key)] at rolls ⊢
      have scope : old.key = (publication.tenantId, publication.segmentId,
        publication.generation) := rolls
      rw [key, current.rolls, Prod.mk.injEq, Prod.mk.injEq] at scope
      have equal := inv.chain.publication_unique published current.publication scope.1.symm
        scope.2.1.symm scope.2.2.symm
      rw [equal]
      exact own
    · rw [if_neg (by simpa using key)] at rolls ⊢
      have foreign : publication.id ≠ delivery.publication.id := by
        intro same
        have equal := inv.membership.publication_of_id published current.publication same
        rw [equal] at rolls
        exact key (rolls.trans current.rolls.symm)
      obtain ⟨complete, committing⟩ := unstuck segment' publication old
        ⟨present, published, tenant, segmentId, generation⟩ existing rolls
      have members : store'.membersOf publication.id = store.membersOf publication.id := by
        rw [RouteStore.membersOf, RouteStore.membersOf, effect.same.members]
      have earlier : ∀ member ∈ store.membersOf publication.id, ∀ state,
          memberReported store' state member = true → memberReported store state member = true := by
        intro member listed state reported
        obtain ⟨present, own⟩ := RouteStore.mem_membersOf.mp listed
        exact memberReported_foreign inv current effect.same statuses present
          (fun same => foreign (own.symm.trans same)) reported
      constructor
      · intro all
        apply complete
        rw [allReported, members, List.all_eq_true] at all
        rw [allReported, List.all_eq_true]
        exact fun member listed => earlier member listed .active (all member listed)
      · intro all
        apply committing
        rw [allSettled, members, List.all_eq_true] at all
        rw [allSettled, List.all_eq_true]
        intro member listed
        have done := all member listed
        simp only [settled, Bool.or_eq_true] at done ⊢
        exact done.imp (earlier member listed .prepared) (earlier member listed .active)

end Report

theorem Unstuck.transfer {store store' : RouteStore} (unstuck : Unstuck store)
    (heads : ∀ segment' publication, CurrentPublication store' segment' publication →
      allSettled store' publication = true →
      ∃ segment, CurrentPublication store segment publication)
    (rollouts : ∀ publication ∈ store.publications, ∀ rollout ∈ store'.rollouts,
      rollout.rolls publication → rollout ∈ store.rollouts)
    (members : ∀ publication ∈ store.publications,
      store'.membersOf publication.id = store.membersOf publication.id)
    (reports : ∀ segment' publication, CurrentPublication store' segment' publication →
      ∀ member ∈ store.membersOf publication.id, ∀ state,
      memberReported store' state member = true → memberReported store state member = true) :
    Unstuck store' := by
  have settledActive : ∀ publication, allReported store' publication .active = true →
      allSettled store' publication = true := by
    intro publication all
    rw [allReported, List.all_eq_true] at all
    rw [allSettled, List.all_eq_true]
    intro member listed
    rw [settled, all member listed, Bool.or_true]
  intro segment' publication rollout head rolled rolls
  have earlier : allSettled store' publication = true →
      (allReported store' publication .active = true → rollout.state = .complete) ∧
      (allSettled store' publication = true →
        rollout.state = .committing ∨ rollout.state = .complete) := by
    intro all
    obtain ⟨segment, current⟩ := heads segment' publication head all
    have old := rollouts publication current.published rollout rolled rolls
    obtain ⟨complete, committing⟩ := unstuck segment publication rollout current old rolls
    have same := members publication current.published
    constructor
    · intro active
      apply complete
      rw [allReported, same, List.all_eq_true] at active
      rw [allReported, List.all_eq_true]
      exact fun member listed =>
        reports segment' publication head member listed .active (active member listed)
    · intro all
      apply committing
      rw [allSettled, same, List.all_eq_true] at all
      rw [allSettled, List.all_eq_true]
      intro member listed
      have done := all member listed
      simp only [settled, Bool.or_eq_true] at done ⊢
      exact done.imp (reports segment' publication head member listed .prepared)
        (reports segment' publication head member listed .active)
  exact ⟨fun active => (earlier (settledActive publication active)).1 active,
    fun all => (earlier all).2 all⟩

theorem reshape_heads (segments rows : List SegmentRow) {segment' : SegmentRow}
    (member : segment' ∈ rows.foldl reshapeSegment segments) :
    segment'.currentGeneration = 0 ∨ ∃ segment ∈ segments, segment.tenantId = segment'.tenantId ∧
      segment.id = segment'.id ∧ segment.currentGeneration = segment'.currentGeneration := by
  induction rows generalizing segments with
  | nil => exact .inr ⟨segment', member, rfl, rfl, rfl⟩
  | cons row rest ih =>
      rcases ih (reshapeSegment segments row) member with zero | ⟨middle, present, tenant, id, head⟩
      · exact .inl zero
      · rcases mem_upsert present with rfl | ⟨old, existing, rfl⟩
        · exact .inl head.symm
        · refine .inr ⟨old, existing, ?_⟩
          by_cases same : (old.id == row.id) = true
          · rw [if_pos same] at tenant id head
            exact ⟨tenant, id, head⟩
          · rw [if_neg same] at tenant id head
            exact ⟨tenant, id, head⟩

theorem unstuck_reshape {store : RouteStore} (inv : RolloutInvariant store)
    (unstuck : Unstuck store) (topology : Topology) (segments : List SegmentRow) :
    Unstuck (store.reshape topology segments) := by
  refine unstuck.transfer ?_ (fun _ _ _ member _ => member) (fun _ _ => rfl)
    (fun _ _ _ _ _ _ reported => reported)
  intro segment' publication head _
  have published : publication ∈ store.publications := head.published
  rcases reshape_heads store.segments segments head.present with
    zero | ⟨segment, present, tenant, id, generation⟩
  · have positive := inv.chain.positive published
    rw [← head.generation, zero] at positive
    exact absurd positive (Nat.lt_irrefl 0)
  · exact ⟨segment, present, published, tenant.trans head.tenant, id.trans head.segmentId,
      generation.trans head.generation⟩

theorem Committed.unreported {store store' : RouteStore}
    (committed : Committed policyIsolation write store store') (inv : RolloutInvariant store)
    : allSettled store' write.publicationRow = false := by
  obtain ⟨projection, rest, nonempty⟩ := List.exists_cons_of_ne_nil committed.admitted.nonempty
  have written : projection ∈ write.projections := by
    rw [nonempty]
    exact List.mem_cons_self
  have listed : projection.memberRow write.publicationId 1 ∈
      store'.membersOf write.publicationRow.id := by
    have own : write.publicationId = write.publicationRow.id := rfl
    rw [committed.membersOf inv.membership, if_pos own, nonempty]
    exact List.mem_cons_self
  have row : projection.projectionRow write.publicationId ∈ store'.projections :=
    committed.mem_projections.mpr (.inr ⟨projection, written, rfl⟩)
  have absent : ∀ state,
      memberReported store' state (projection.memberRow write.publicationId 1) = false := by
    intro state
    by_contra reported
    rw [Bool.not_eq_false, memberReported_iff (committed.membership inv.membership) row
      ⟨rfl, rfl, rfl⟩, committed.statuses] at reported
    obtain ⟨status, present, -, named, -⟩ := reported
    obtain ⟨old, existing, id, -⟩ := inv.statuses.owner status present
    exact committed.freshProjectionId written existing (named.symm.trans id.symm)
  by_contra all
  rw [Bool.not_eq_false, allSettled, List.all_eq_true] at all
  have done := all _ listed
  rw [settled, absent, absent] at done
  cases done

theorem unstuck_published {store store' : RouteStore}
    (committed : Committed policyIsolation write store store') (inv : RolloutInvariant store)
    (unstuck : Unstuck store) : Unstuck store' := by
  have inv' := committed.rolloutInvariant inv
  refine unstuck.transfer ?_ ?_ ?_ ?_
  · intro segment' publication head all
    have published := head.published
    rw [committed.publications] at published
    rcases mem_concat.mp published with old | new
    · have present := head.present
      rw [committed.segments] at present
      obtain ⟨segment, existing, same⟩ := mem_updateWhere.mp present
      split at same
      · rename_i advanced
        simp only [SegmentRow.atHead, SegmentRow.of, Bool.and_eq_true, beq_iff_eq] at advanced
        subst same
        have tenant : segment.tenantId = publication.tenantId := head.tenant
        have id : segment.id = publication.segmentId := head.segmentId
        have generation : write.generation = publication.generation := head.generation
        have above := committed.above inv.chain old
          (tenant.symm.trans advanced.1.1.1) (id.symm.trans advanced.1.1.2)
        omega
      · subst same
        exact ⟨segment, existing, old, head.tenant, head.segmentId, head.generation⟩
    · rw [new, committed.unreported inv] at all
      cases all
  · intro publication published rollout rolled rolls
    rw [committed.rollouts] at rolled
    rcases mem_concat.mp rolled with old | new
    · exact old
    · rw [new] at rolls
      have free := committed.fresh publication published
      have scope : (write.tenantId, write.segmentId, write.generation) = (publication.tenantId,
        publication.segmentId, publication.generation) := rolls
      simp only [Prod.mk.injEq] at scope
      simp [PublicationRow.conflict, SegmentPublicationWrite.publicationRow, scope] at free
  · intro publication published
    rw [committed.membersOf inv.membership, if_neg (committed.freshId published)]
  · intro segment' publication head member listed state reported
    obtain ⟨present, -⟩ := RouteStore.mem_membersOf.mp listed
    obtain ⟨projection, existing, link⟩ := inv.membership.linked member present
    rw [memberReported_iff inv'.membership (committed.mem_projections.mpr (.inl existing)) link,
      committed.statuses] at reported
    exact (memberReported_iff inv.membership existing link).mpr reported

theorem unstuck_receipt {now : Instant} {status : RuntimeConfigurationStatusWrite}
    {configuration : RuntimeConfigurationRecord} {store store' : RouteStore}
    (inv : RolloutInvariant store) (placed : Placed store)
    (superseded : Superseded policyIsolation now status configuration store store')
    (unstuck : Unstuck store) : Unstuck store' := by
  obtain ⟨projection, present, id, owner, attachment, older⟩ := superseded.projection
  obtain ⟨segment, delivery, current⟩ := load_current inv superseded.loaded
  obtain ⟨a, routed, attached, segmentId⟩ := current.attachment
  have same : projection.segmentId = delivery.projection.segmentId := by
    rw [← segmentId]
    refine (placed.segments projection present a routed ?_).symm
    rw [attached, attachment, current.recordAttachment]
  rw [superseded.result]
  refine unstuck.transfer ?_ (fun _ _ _ member _ => member) (fun _ _ => rfl) ?_
  · intro segment' publication head _
    exact ⟨segment', head.present, head.published, head.tenant, head.segmentId, head.generation⟩
  · intro segment' publication head member listed state reported
    obtain ⟨listed, own⟩ := RouteStore.mem_membersOf.mp listed
    obtain ⟨projected, existing, link⟩ := inv.membership.linked member listed
    have frame : SamePublications store (recordReceipt store now status) := ⟨rfl, rfl, rfl⟩
    rw [memberReported_iff (inv.membership.frame frame) existing link] at reported
    rw [memberReported_iff inv.membership existing link]
    obtain ⟨row, member', key, named, reportedState⟩ := reported
    rcases mem_upsert member' with rfl | ⟨old, before, rfl⟩
    · have equal : projected = projection :=
        inv.membership.projection_of_id existing present (named.symm.trans id.symm)
      subst equal
      have published : publication ∈ store.publications := head.published
      obtain ⟨owned, ownedPublished, ownedLink⟩ := inv.membership.owned projected existing
      have publicationEq : owned = publication := by
        apply inv.membership.publication_of_id ownedPublished published
        rw [← ownedLink.publicationId, ← link.publicationId, own]
      subst publicationEq
      have rows : segment' = segment := by
        apply eq_of_key inv.chain.heads.ids head.present current.present
        rw [head.segmentId, ← ownedLink.segment, same, current.segmentId]
      have generation := head.generation
      rw [rows, current.generation, ← current.recordGeneration, ← ownedLink.generation] at generation
      omega
    · refine ⟨old, before, ?_⟩
      by_cases touched : status.sameKey old = true
      · rw [if_pos touched] at key named reportedState
        exact ⟨key, named, reportedState⟩
      · rw [if_neg touched] at key named reportedState
        exact ⟨key, named, reportedState⟩

theorem routeStep_unstuck (sha256 : Bytes → Hash) (store : RouteStore) (call : RouteCall)
    (inv : RolloutInvariant store) (placed : Placed store) (unstuck : Unstuck store) :
    Unstuck (routeStep sha256 store call) ↔ ¬ Strands store call := by
  cases call with
  | publish policyIsolation write =>
      simp only [Strands, not_false_eq_true, iff_true]
      exact routeStep_publish sha256 policyIsolation write unstuck fun _ committed =>
        unstuck_published committed inv unstuck
  | report policyIsolation now auditId status =>
      constructor
      · rintro unstuck' ⟨configuration, publication, rollout, stranding⟩
        obtain ⟨segment, delivery, current, effect, statuses⟩ :=
          stranding.acceptable.accepted.effect inv stranding.acceptable.loaded
        have samePublication : publication = delivery.publication := by
          have scope := stranding.scope
          rw [Prod.mk.injEq, Prod.mk.injEq, current.recordTenant, current.recordSegment,
            current.recordGeneration, current.link.tenant, current.link.segment,
            current.link.generation] at scope
          exact inv.chain.publication_unique stranding.published current.publication scope.1
            scope.2.1 scope.2.2
        subst samePublication
        have sameRollout := inv.rollout_unique stranding.rolled current.rollout
          (stranding.rolls.trans current.rolls.symm)
        subst sameRollout
        have last := stranding.last
        have misses := stranding.misses
        rw [current.recordId] at last misses
        exact (unstuck_report inv unstuck current effect statuses).mp unstuck' ⟨last, misses⟩
      · intro free
        rcases report_cases store now auditId policyIsolation status with
          same | ⟨configuration, superseded⟩ | ⟨configuration, acceptable, accepted⟩
        · simp only [routeStep, same]
          exact unstuck
        · exact unstuck_receipt inv placed superseded unstuck
        · obtain ⟨segment, delivery, current, effect, statuses⟩ :=
            accepted.effect inv acceptable.loaded
          refine (unstuck_report inv unstuck current effect statuses).mpr ?_
          rintro ⟨last, misses⟩
          rw [← current.recordId] at last misses
          refine free ⟨configuration, delivery.publication, delivery.rollout, acceptable,
            current.publication, ?_, current.rollout, current.rolls, last, misses⟩
          rw [current.recordTenant, current.recordSegment, current.recordGeneration,
            current.link.tenant, current.link.segment, current.link.generation]
  | environment topology segments =>
      simp only [Strands, not_false_eq_true, iff_true]
      exact unstuck_reshape inv unstuck topology segments

theorem RouteStore.Unpublished.unstuck {store : RouteStore} (empty : store.Unpublished) :
    Unstuck store := by
  intro segment publication rollout head
  have published := head.published
  rw [empty.publications] at published
  cases published

/-- Every state of a run is free of stuck rollouts exactly when no report of
    the run strands one. -/
theorem unstuck_iff_no_stranding (sha256 : Bytes → Hash) (start : RouteStore)
    (empty : start.Unpublished) (unique : (start.topology.attachments.map (·.id)).Nodup)
    (calls : List RouteCall) (places : Along (routeStep sha256) KeepsPlaces start calls) :
    (∀ before after, calls = before ++ after → Unstuck (run (routeStep sha256) start before)) ↔
      Along (routeStep sha256) (fun store call => ¬ Strands store call) start calls := by
  have placed : Placed start := by
    refine ⟨unique, ?_⟩
    rw [empty.projections]
    exact fun _ member => absurd member List.not_mem_nil
  refine everywhere_iff_along (I := fun store => RolloutInvariant store ∧ Placed store) ?_ ?_
    ⟨empty.rolloutInvariant, placed⟩ empty.unstuck calls places
  · intro store call inv keeps
    exact ⟨routeStep_rolloutInvariant sha256 store call inv.1,
      routeStep_placed sha256 store call inv.2 keeps⟩
  · intro store call inv _ unstuck
    exact routeStep_unstuck sha256 store call inv.1 inv.2 unstuck

theorem not_strands_of {store : RouteStore} {policyIsolation : Bool} {now : Instant}
    {auditId : Uuid} {status : RuntimeConfigurationStatusWrite}
    (free : ∀ publication ∈ store.publications, ∀ rollout ∈ store.rollouts,
      others store publication status.projectionPublicationId (settled store) = true →
        ¬ Misses status.applyState rollout.state
          (others store publication status.projectionPublicationId
            (memberReported store .prepared))
          (others store publication status.projectionPublicationId
            (memberReported store .active))) :
    ¬ Strands store (.report policyIsolation now auditId status) := by
  rintro ⟨configuration, publication, rollout, stranding⟩
  have last := stranding.last
  have misses := stranding.misses
  rw [stranding.acceptable.reported] at last misses
  exact free publication stranding.published rollout stranding.rolled last misses

def completedRun : List RouteCall :=
  [.publish false (sampleWrite 1 false), sampleReport 1 1 .prepared, sampleReport 1 2 .prepared,
    sampleReport 1 1 .active, sampleReport 1 2 .active]

theorem unstuck_iff_no_stranding_completed :
    Unstuck (run (routeStep fun _ => 0) twoSiteStore completedRun) ∧
      (run (routeStep fun _ => 0) twoSiteStore completedRun).rollouts.map (·.state) =
        [.complete] := by
  constructor
  · apply (unstuck_iff_no_stranding (fun _ => 0) twoSiteStore twoSiteStore_unpublished (by decide)
      completedRun ⟨trivial, trivial, trivial, trivial, trivial, trivial⟩).mpr ?_ completedRun []
      (List.append_nil _).symm
    refine ⟨id, ?_, ?_, ?_, ?_, trivial⟩
    -- the other site is still open
    · exact not_strands_of (by decide +kernel)
    · exact not_strands_of (by decide +kernel)
    · exact not_strands_of (by decide +kernel)
    · exact not_strands_of (by decide +kernel)
  · decide +kernel

def activeRun : List RouteCall :=
  [.publish false (sampleWrite 1 false), sampleReport 1 1 .active, sampleReport 1 2 .active]

/-- All members are active and the rollout is still preparing. -/
theorem active_run_stuck : ¬ Unstuck (run (routeStep fun _ => 0) twoSiteStore activeRun) := by
  intro unstuck
  have head : CurrentPublication (run (routeStep fun _ => 0) twoSiteStore activeRun)
      ((⟨3, 1, "segment", 5, 0x64400000, 24, .active, 0, zeroHash⟩ : SegmentRow).advance
        (sampleWrite 1 false)) (sampleWrite 1 false).publicationRow := by
    refine ⟨?_, ?_, rfl, rfl, rfl⟩
    · decide +kernel
    · decide +kernel
  have complete := (unstuck _ _ (sampleWrite 1 false).rolloutRow head (by decide +kernel) rfl).1
    (by decide +kernel)
  cases complete

end CandyCloud
