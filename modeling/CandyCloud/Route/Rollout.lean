import CandyCloud.Route.Membership

/-! # Rollouts along a run

The rollout row of a publication counts its members, and status rows name projections of their
own device key.
-/

namespace CandyCloud

open Foundation

structure Rolls (store : RouteStore) (publication : PublicationRow) (rollout : RolloutRow) :
    Prop where
  rolls : rollout.rolls publication
  mode : rollout.activationMode = publication.activationMode
  count : rollout.memberCount = (store.membersOf publication.id).length
  allowed : rollout.allowedOrdinal = rollout.memberCount
  positive : 0 < rollout.memberCount

structure StatusInvariant (projections : List ProjectionRow) (statuses : List StatusRow) :
    Prop where
  keys : (statuses.map (·.key)).Nodup
  owner : ∀ status ∈ statuses, ∃ projection ∈ projections,
    projection.id = status.projectionPublicationId ∧
      status.key = (projection.tenantId, projection.deviceId, projection.deviceKeyId)

structure RolloutInvariant (store : RouteStore) : Prop where
  chain : ChainInvariant store
  membership : Membership store
  keys : (store.rollouts.map (·.key)).Nodup
  backed : ∀ publication ∈ store.publications,
    ∃ rollout ∈ store.rollouts, Rolls store publication rollout
  statuses : StatusInvariant store.projections store.statuses

variable {store store' : RouteStore} {publication : PublicationRow} {rollout : RolloutRow}
  {lookup : RuntimeConfigurationLookup} {a : AttachmentRow} {segment : SegmentRow}
  {generation : Nat} {delivery : Delivery} {policyIsolation : Bool}
  {record configuration : RuntimeConfigurationRecord} {row : StatusRow}
  {state applyState : ApplyState} {allowed : RolloutState → Bool}

theorem RouteStore.Unpublished.rolloutInvariant (empty : store.Unpublished) :
    RolloutInvariant store := by
  refine ⟨empty.chainInvariant, empty.membership, ?_, ?_, ?_, ?_⟩
  · simp [empty.rollouts]
  · simp [empty.publications]
  · simp [empty.statuses]
  · simp [empty.statuses]

theorem RolloutInvariant.rollout_unique (inv : RolloutInvariant store) {a b : RolloutRow}
    (ha : a ∈ store.rollouts) (hb : b ∈ store.rollouts) (same : a.key = b.key) : a = b :=
  eq_of_key inv.keys ha hb same

theorem RolloutInvariant.rolls_of_key (inv : RolloutInvariant store)
    (published : publication ∈ store.publications) (member : rollout ∈ store.rollouts)
    (rolls : rollout.rolls publication) : Rolls store publication rollout := by
  obtain ⟨backing, present, facts⟩ := inv.backed publication published
  rw [inv.rollout_unique member present (rolls.trans facts.rolls.symm)]
  exact facts

/-- The joined rows behind a delivered configuration. -/
structure Current (store : RouteStore) (lookup : RuntimeConfigurationLookup)
    (record : RuntimeConfigurationRecord) (segment : SegmentRow) (delivery : Delivery) : Prop where
  present : segment ∈ store.segments
  tenant : segment.tenantId = delivery.projection.tenantId
  segmentId : segment.id = delivery.projection.segmentId
  generation : segment.currentGeneration = delivery.projection.segmentGeneration
  projection : delivery.projection ∈ store.projections
  publication : delivery.publication ∈ store.publications
  link : ProjectionLink delivery.publication delivery.projection
  member : delivery.member ∈ store.members
  memberLink : MemberLink delivery.projection delivery.member
  rollout : delivery.rollout ∈ store.rollouts
  rolls : delivery.rollout.rolls delivery.publication
  attachment : ∃ a ∈ store.topology.attachments, a.id = delivery.projection.attachmentId ∧
    a.segmentId = delivery.projection.segmentId
  lookupKey : (delivery.projection.tenantId, delivery.projection.deviceId,
    delivery.projection.deviceKeyId) = (lookup.tenantId, lookup.deviceId, lookup.deviceKeyId)
  recordId : record.projectionPublicationId = delivery.projection.id
  recordTenant : record.tenantId = delivery.projection.tenantId
  recordSegment : record.segmentId = delivery.projection.segmentId
  recordAttachment : record.attachmentId = delivery.projection.attachmentId
  recordGeneration : record.segmentGeneration = delivery.projection.segmentGeneration
  phase : record.activationPhase = activationPhase delivery.rollout

/-- Device and key of the lookup are the same for every attachment, so the
    first query either keeps all attached segments or none. -/
theorem attachedSegments_of_current {pair : AttachmentRow × SegmentRow}
    (only : store.currentAttachments lookup = [pair]) :
    store.attachedSegments lookup = [pair] := by
  have keyed : ∀ other ∈ store.attachedSegments lookup, other.1.tenantId = lookup.tenantId ∧
      other.1.deviceId = some lookup.deviceId ∧ other.1.deviceKeyId = some lookup.deviceKeyId := by
    intro other member
    simp only [RouteStore.attachedSegments, List.mem_flatMap, List.mem_filter, List.mem_map,
      Bool.and_eq_true, beq_iff_eq] at member
    obtain ⟨a, ⟨-, conditions⟩, segment, -, rfl⟩ := member
    exact ⟨conditions.1.1.1.1.1, conditions.1.1.1.1.2, conditions.1.1.1.2⟩
  have kept : pair ∈ store.currentAttachments lookup := by
    rw [only]
    exact List.mem_singleton_self pair
  obtain ⟨attached, active⟩ := List.mem_filter.mp kept
  obtain ⟨tenant, device, key⟩ := keyed pair attached
  rw [tenant, device, key] at active
  rw [← only, RouteStore.currentAttachments, eq_comm, List.filter_eq_self]
  intro other member
  obtain ⟨tenant, device, key⟩ := keyed other member
  rw [tenant, device, key]
  exact active

theorem mem_attachedSegments (member : (a, segment) ∈ store.attachedSegments lookup) :
    a ∈ store.topology.attachments ∧
      segment ∈ store.segments ∧ segment.tenantId = a.tenantId ∧ segment.id = a.segmentId ∧
      a.tenantId = lookup.tenantId ∧ a.deviceId = some lookup.deviceId ∧
      a.deviceKeyId = some lookup.deviceKeyId := by
  simp only [RouteStore.attachedSegments, RouteStore.activeSegments, SegmentRow.of,
    List.mem_flatMap, List.mem_filter, List.mem_map, Bool.and_eq_true, beq_iff_eq,
    Prod.mk.injEq] at member
  obtain ⟨b, ⟨routed, conditions⟩, other, ⟨present, ⟨tenant, id⟩, -⟩, rfl, rfl⟩ := member
  exact ⟨routed, present, tenant, id, conditions.1.1.1.1.1, conditions.1.1.1.1.2, conditions.1.1.1.2⟩

theorem mem_deliveries (member : delivery ∈ store.deliveries a generation) :
    delivery.projection ∈ store.projections ∧ delivery.publication ∈ store.publications ∧
      ProjectionLink delivery.publication delivery.projection ∧
      delivery.member ∈ store.members ∧ MemberLink delivery.projection delivery.member ∧
      delivery.rollout ∈ store.rollouts ∧ delivery.rollout.rolls delivery.publication ∧
      delivery.projection.tenantId = a.tenantId ∧ delivery.projection.segmentId = a.segmentId ∧
      delivery.projection.attachmentId = a.id ∧ some delivery.projection.deviceId = a.deviceId ∧
      some delivery.projection.deviceKeyId = a.deviceKeyId ∧
      delivery.projection.segmentGeneration = generation := by
  simp only [RouteStore.deliveries, RouteStore.deliveriesOf, List.mem_flatMap, List.mem_filter,
    List.mem_map, Bool.and_eq_true, beq_iff_eq] at member
  obtain ⟨p, ⟨projected, owner⟩, publication, ⟨published, link⟩, row, ⟨present, membership⟩,
    rollout, ⟨rolled, rolls⟩, rfl⟩ := member
  obtain ⟨⟨⟨⟨⟨⟨tenant, segment⟩, -⟩, attachment⟩, device⟩, key⟩, generation⟩ := owner
  obtain ⟨⟨⟨⟨id, publicationTenant⟩, publicationSegment⟩, publicationGeneration⟩, -⟩ := link
  obtain ⟨⟨⟨⟨memberTenant, memberPublication⟩, memberProjection⟩, -⟩, -⟩ := membership
  refine ⟨projected, published, ?_, present, ?_, rolled, ?_, tenant, segment, attachment, device,
    key, generation⟩
  · exact ⟨id.symm, publicationTenant.symm, publicationSegment.symm, publicationGeneration.symm⟩
  · exact ⟨memberProjection, memberPublication.trans id, memberTenant⟩
  · rw [RolloutRow.rolls, publicationTenant, publicationSegment, publicationGeneration]
    exact RolloutRow.of_iff.mp rolls

theorem delivery_allowed (inv : RolloutInvariant store)
    (joined : delivery ∈ store.deliveries a generation) :
    delivery.member.rolloutOrdinal ≤ delivery.rollout.allowedOrdinal := by
  obtain ⟨-, published, link, member, memberLink, rolled, rolls, -⟩ := mem_deliveries joined
  have facts := inv.rolls_of_key published rolled rolls
  have bound := inv.membership.ordinals delivery.member member
  rw [memberLink.publicationId, link.publicationId, ← facts.count, ← facts.allowed] at bound
  exact bound

/-- Ordinals never exceed the allowed one, so the current generation is
    delivered in every rollout state. -/
theorem deliveryGeneration_current (inv : RolloutInvariant store)
    (joined : delivery ∈ store.deliveries a generation) :
    deliveryGeneration (segment, delivery) = .ok segment.currentGeneration := by
  have allowed := delivery_allowed inv joined
  unfold deliveryGeneration
  split
  · rfl
  · rfl

theorem onlyRow_ok {rows : List Delivery} {row : Delivery} (only : onlyRow rows = .ok row) :
    row ∈ rows := by
  match rows, only with
  | [other], only =>
      rw [← Except.ok.inj only]
      exact List.mem_singleton_self other

/-- Position and delivered row are joined for the same generation and hence
    with the same rollout. -/
theorem current_of_join (inv : RolloutInvariant store) {top row : Delivery}
    {catalog : List ProjectionRow} {compatibility : List RuntimeCompatibilityGeneration}
    (attached : (a, segment) ∈ store.attachedSegments lookup)
    (joined : top ∈ store.deliveries a segment.currentGeneration)
    (delivered : row ∈ store.deliveries a segment.currentGeneration) :
    Current store lookup
      (assembleRecord row (activationPhase top.rollout) catalog compatibility) segment row := by
  obtain ⟨routed, present, tenant, id, lookupTenant, lookupDevice, lookupKey⟩ :=
    mem_attachedSegments attached
  obtain ⟨-, -, topLink, -, -, topRolled, topRolls, topTenant, topSegment, -, -, -,
    topGeneration⟩ := mem_deliveries joined
  obtain ⟨projected, published, link, member, memberLink, rolled, rolls, rowTenant, rowSegment,
    rowAttachment, rowDevice, rowKey, rowGeneration⟩ := mem_deliveries delivered
  have sameRollout : top.rollout = row.rollout := by
    apply inv.rollout_unique topRolled rolled
    rw [topRolls, rolls, ← topLink.tenant, ← topLink.segment, ← topLink.generation, ← link.tenant,
      ← link.segment, ← link.generation, topTenant, topSegment, topGeneration, rowTenant,
      rowSegment, rowGeneration]
  rw [lookupDevice, Option.some.injEq] at rowDevice
  rw [lookupKey, Option.some.injEq] at rowKey
  refine ⟨present, ?_, ?_, rowGeneration.symm, projected, published, link, member, memberLink,
    rolled, rolls, ⟨a, routed, rowAttachment.symm, rowSegment.symm⟩, ?_, rfl, rfl, rfl, rfl, rfl,
    ?_⟩
  · rw [tenant, rowTenant]
  · rw [id, rowSegment]
  · rw [rowTenant, lookupTenant, rowDevice, rowKey]
  · rw [← sameRollout]
    rfl

/-- A delivered configuration is assembled from the one row of its attachment in
    the current generation. -/
theorem load_delivered (inv : RolloutInvariant store) {now : Instant}
    (loaded : loadCurrentRuntimeConfiguration store now policyIsolation lookup
      = .ok (.current record)) :
    ∃ a segment top delivery catalog compatibility,
      store.attachedSegments lookup = [(a, segment)] ∧
      top ∈ store.deliveries a segment.currentGeneration ∧
      delivery ∈ store.deliveries a segment.currentGeneration ∧
      record = assembleRecord delivery (activationPhase top.rollout) catalog compatibility := by
  unfold loadCurrentRuntimeConfiguration at loaded
  split at loaded
  · cases loaded
  · rename_i pair only
    obtain ⟨a, segment⟩ := pair
    have attached := attachedSegments_of_current only
    simp only [bind_ok, pure_ok, RuntimeConfigurationState.current.injEq] at loaded
    obtain ⟨_, assigned, rfl⟩ := loaded
    simp only [loadAssigned, orElse_bind_ok, bind_ok (α := Nat), bind_ok (α := Delivery),
      unit_bind_ok, bind_ok (α := List RuntimeCompatibilityGeneration), pure_ok] at assigned
    obtain ⟨position, head, generation, delivered, row, only, -, -, compatibility, -, -, rfl⟩ :=
      assigned
    have positioned := List.mem_of_head? head
    simp only [RouteStore.rolloutPositions, attached, List.flatMap_singleton, List.mem_map,
      List.mem_filter] at positioned
    obtain ⟨top, ⟨joined, -⟩, rfl⟩ := positioned
    rw [deliveryGeneration_current inv joined] at delivered
    obtain rfl := Except.ok.inj delivered
    have row := onlyRow_ok only
    simp only [deliveredRows, bne_self_eq_false, Bool.and_false, Bool.false_eq_true, if_false,
      RouteStore.projectionRowsAt, attached, List.flatMap_singleton, List.mem_filter] at row
    exact ⟨a, segment, top, _, _, compatibility, attached, joined, row.1, rfl⟩
  · cases loaded

theorem load_current (inv : RolloutInvariant store) {now : Instant}
    (loaded : loadCurrentRuntimeConfiguration store now policyIsolation lookup
      = .ok (.current record)) :
    ∃ segment delivery, Current store lookup record segment delivery := by
  obtain ⟨a, segment, top, delivery, catalog, compatibility, attached, joined, delivered, rfl⟩ :=
    load_delivered inv loaded
  have member : (a, segment) ∈ store.attachedSegments lookup := by
    rw [attached]
    exact List.mem_singleton_self _
  exact ⟨segment, delivery, current_of_join inv member joined delivered⟩

/-- A row of the device key names the projection and has the given state. -/
def Reports (statuses : List StatusRow) (key : Uuid × Uuid × Uuid) (projectionPublicationId : Uuid)
    (state : ApplyState) : Prop :=
  ∃ status ∈ statuses, status.key = key ∧
    status.projectionPublicationId = projectionPublicationId ∧ status.applyState = state

def RuntimeConfigurationLookup.key (lookup : RuntimeConfigurationLookup) : Uuid × Uuid × Uuid :=
  (lookup.tenantId, lookup.deviceId, lookup.deviceKeyId)

def ProjectionRow.deviceKey (projection : ProjectionRow) : Uuid × Uuid × Uuid :=
  (projection.tenantId, projection.deviceId, projection.deviceKeyId)

theorem sameKey_iff {status : RuntimeConfigurationStatusWrite} :
    status.sameKey row = true ↔ row.key = status.lookup.key :=
  StatusRow.of_iff

section Statuses

variable {now : Instant} {status : RuntimeConfigurationStatusWrite} {id : Uuid}
  {statuses : List StatusRow}

theorem mem_upsertStatus (member : row ∈ upsertStatus now status id statuses) :
    (row.key = status.lookup.key ∧ row.projectionPublicationId = id ∧
      row.applyState = status.applyState) ∨
    (row ∈ statuses ∧ row.key ≠ status.lookup.key) := by
  rcases mem_upsert member with rfl | ⟨old, present, rfl⟩
  · exact .inl ⟨rfl, rfl, rfl⟩
  · split
    · rename_i same
      exact .inl ⟨sameKey_iff.mp same, rfl, rfl⟩
    · rename_i other
      exact .inr ⟨present, fun same => other (sameKey_iff.mpr same)⟩

theorem mem_writeStatus (member : row ∈ writeStatus now status id statuses) :
    (row.key = status.lookup.key ∧ row.projectionPublicationId = id ∧
      row.applyState = status.applyState) ∨
    (row ∈ statuses ∧ row.key ≠ status.lookup.key) := by
  unfold writeStatus at member
  split at member
  · obtain ⟨old, present, rfl⟩ := mem_updateWhere.mp member
    split
    · rename_i same
      rcases mem_upsertStatus present with reporter | ⟨-, other⟩
      · exact .inl reporter
      · exact absurd (sameKey_iff.mp same) other
    · exact mem_upsertStatus present
  · exact mem_upsertStatus member

theorem upsertStatus_reporter (now : Instant) (status : RuntimeConfigurationStatusWrite) (id : Uuid)
    (statuses : List StatusRow) :
    Reports (upsertStatus now status id statuses) status.lookup.key id status.applyState := by
  unfold upsertStatus upsert
  split
  · rename_i exists_row
    obtain ⟨old, present, same⟩ := List.any_eq_true.mp exists_row
    refine ⟨_, List.mem_map_of_mem present, ?_⟩
    rw [if_pos same]
    exact ⟨sameKey_iff.mp same, rfl, rfl⟩
  · exact ⟨_, List.mem_append_right _ (List.mem_singleton_self _), rfl, rfl, rfl⟩

theorem upsertStatus_other (present : row ∈ statuses) (other : row.key ≠ status.lookup.key)
    : row ∈ upsertStatus now status id statuses := by
  have unselected : status.sameKey row = false := by
    by_contra same
    exact other (sameKey_iff.mp (by simpa using same))
  unfold upsertStatus upsert
  split
  · exact mem_updateWhere.mpr ⟨row, present, by rw [unselected]; rfl⟩
  · exact List.mem_append_left _ present

/-- After an accepted report the reporter's key names the reported projection
    with the reported state, and every other key is as before. -/
theorem reports_writeStatus {key : Uuid × Uuid × Uuid} {projection : Uuid} :
    Reports (writeStatus now status id statuses) key projection state ↔
      (key = status.lookup.key ∧ projection = id ∧ state = status.applyState) ∨
      (key ≠ status.lookup.key ∧ Reports statuses key projection state) := by
  constructor
  · rintro ⟨row, member, rfl, rfl, rfl⟩
    rcases mem_writeStatus member with reporter | ⟨present, other⟩
    · exact .inl reporter
    · exact .inr ⟨other, row, present, rfl, rfl, rfl⟩
  · have pointer : ∀ row ∈ upsertStatus now status id statuses, ∃ row' ∈ writeStatus now status id
        statuses, row'.key = row.key ∧ row'.projectionPublicationId = row.projectionPublicationId ∧
          row'.applyState = row.applyState := by
      intro row member
      unfold writeStatus
      split
      · refine ⟨_, List.mem_map_of_mem member, ?_⟩
        split
        · exact ⟨rfl, rfl, rfl⟩
        · exact ⟨rfl, rfl, rfl⟩
      · exact ⟨row, member, rfl, rfl, rfl⟩
    rintro (⟨rfl, rfl, rfl⟩ | ⟨other, row, present, rfl, rfl, rfl⟩)
    · obtain ⟨row, member, key, projection, state⟩ :=
        upsertStatus_reporter now status projection statuses
      obtain ⟨row', member', sameKey, sameProjection, sameState⟩ := pointer row member
      exact ⟨row', member', sameKey.trans key, sameProjection.trans projection,
        sameState.trans state⟩
    · exact pointer row (upsertStatus_other present other)

theorem StatusInvariant.write {projections : List ProjectionRow} (inv : StatusInvariant projections
    statuses) {projection : ProjectionRow} (present : projection ∈ projections)
    (named : projection.id = id) (owner : projection.deviceKey = status.lookup.key) :
    StatusInvariant projections (writeStatus now status id statuses) where
  keys := by
    have upserted : ((upsertStatus now status id statuses).map (·.key)).Nodup := by
      refine nodup_upsert_key inv.keys (fun _ => rfl) ?_
      intro row same
      exact sameKey_iff.mpr same.symm
    unfold writeStatus
    split
    · rw [map_updateWhere]
      · exact upserted
      · exact fun _ => rfl
    · exact upserted
  owner := by
    intro row member
    rcases mem_writeStatus member with ⟨key, reported, -⟩ | ⟨old, -⟩
    · exact ⟨projection, present, named.trans reported.symm, key.trans owner.symm⟩
    · exact inv.owner row old

end Statuses

theorem StatusInvariant.receipt {now : Instant} {status : RuntimeConfigurationStatusWrite}
    (inv : StatusInvariant store.projections store.statuses) {projection : ProjectionRow}
    (present : projection ∈ store.projections)
    (named : projection.id = status.projectionPublicationId)
    (owner : projection.deviceKey = status.lookup.key) :
    StatusInvariant store.projections (recordReceipt store now status).statuses where
  keys := by
    refine nodup_upsert_key inv.keys (fun _ => rfl) ?_
    intro row same
    exact sameKey_iff.mpr same.symm
  owner := by
    intro row member
    rcases mem_upsert member with rfl | ⟨old, existing, rfl⟩
    · exact ⟨projection, present, named, owner.symm⟩
    · obtain ⟨projection, present, facts⟩ := inv.owner old existing
      refine ⟨projection, present, ?_⟩
      split
      · exact facts
      · exact facts

/-- Every member of the publication has reported its projection with the state. -/
def allReported (store : RouteStore) (publication : PublicationRow) (state : ApplyState) : Bool :=
  (store.membersOf publication.id).all (memberReported store state)

theorem publicationMembers_eq (chain : ChainInvariant store) (inv : Membership store)
    (published : publication ∈ store.publications) :
    publicationMembers store publication.tenantId publication.segmentId publication.generation
      = store.membersOf publication.id := by
  unfold publicationMembers RouteStore.membersOf
  rw [chain.publicationOf published]
  apply List.filter_congr
  intro member present
  obtain ⟨projection, existing, link⟩ := inv.linked member present
  obtain ⟨other, otherPublished, owner⟩ := inv.owned projection existing
  rw [Bool.eq_iff_iff]
  simp only [Option.map_some, Bool.and_eq_true, beq_iff_eq, Option.some.injEq]
  constructor
  · rintro ⟨-, same⟩
    exact same.symm
  · intro same
    have equal : other = publication := by
      apply inv.publication_of_id otherPublished published
      rw [← owner.publicationId, ← link.publicationId, same]
    refine ⟨?_, same.symm⟩
    rw [link.tenant, owner.tenant, equal]

theorem reportedCount_eq (chain : ChainInvariant store) (inv : Membership store)
    (published : publication ∈ store.publications) (state : ApplyState) :
    (reportedCount store publication.tenantId publication.segmentId publication.generation state
      == (store.membersOf publication.id).length) = allReported store publication state := by
  rw [Bool.eq_iff_iff, beq_iff_eq, reportedCount, publicationMembers_eq chain inv published,
    length_filter_eq_length, allReported, List.all_eq_true]

theorem memberReported_iff (inv : Membership store) {member : MemberRow}
    {projection : ProjectionRow} (present : projection ∈ store.projections)
    (link : MemberLink projection member) :
    memberReported store state member = true ↔
      Reports store.statuses projection.deviceKey projection.id state := by
  simp only [memberReported, List.any_eq_true, Bool.and_eq_true, beq_iff_eq, StatusRow.of_iff]
  constructor
  · rintro ⟨other, existing, same, status, reported, facts⟩
    have equal : other = projection :=
      inv.projection_of_id existing present (same.trans link.projectionId)
    subst equal
    exact ⟨status, reported, facts.1.1, facts.1.2, facts.2⟩
  · rintro ⟨status, reported, key, named, reportedState⟩
    exact ⟨projection, present, link.projectionId.symm, status, reported, ⟨key, named⟩,
      reportedState⟩

def nextState (applyState : ApplyState) (state : RolloutState) (prepared active : Bool) :
    RolloutState :=
  match applyState, state with
  | .prepared, .preparing => if prepared then .committing else .preparing
  | .prepared, .blocked => if prepared then .committing else .blocked
  | .active, .committing => if active then .complete else .committing
  | .active, .blocked => if active then .complete else .blocked
  | .rejected, .preparing => .blocked
  | _, state => state

theorem setRollout_rollouts (unique : (store.rollouts.map (·.key)).Nodup)
    (member : rollout ∈ store.rollouts) {state : RolloutState} :
    (setRollout rollout.tenantId rollout.segmentId rollout.segmentGeneration allowed state
      store).rollouts =
    updateWhere (fun row => decide (row.key = rollout.key))
      (fun row => { row with state := if allowed rollout.state then state else rollout.state })
      store.rollouts := by
  apply List.map_congr_left
  intro row present
  by_cases same : row.key = rollout.key
  · have equal := eq_of_key unique present member same
    subst equal
    have own : row.of row.tenantId row.segmentId row.segmentGeneration = true :=
      RolloutRow.of_iff.mpr rfl
    cases permitted : allowed row.state with
    | true => simp [own, permitted]
    | false => simp [own, permitted]
  · have other : row.of rollout.tenantId rollout.segmentId rollout.segmentGeneration = false := by
      by_contra matched
      exact same (RolloutRow.of_iff.mp (by simpa using matched))
    simp [other, same]

theorem Rolls.frame (same : SamePublications store store') (facts : Rolls store publication rollout)
    : Rolls store' publication rollout := by
  refine ⟨facts.rolls, facts.mode, ?_, facts.allowed, facts.positive⟩
  rw [facts.count, RouteStore.membersOf, RouteStore.membersOf, same.members]

theorem rolloutMember_eq (keys : (store.rollouts.map (·.key)).Nodup)
    (current : Current store lookup record segment delivery) :
    rolloutMember store lookup.tenantId record = some delivery.rollout := by
  have tenant : delivery.projection.tenantId = lookup.tenantId := congrArg (·.1) current.lookupKey
  have listed : (store.members.any fun member => member.tenantId == lookup.tenantId &&
      member.projectionPublicationId == record.projectionPublicationId) = true := by
    refine List.any_eq_true.mpr ⟨delivery.member, current.member, ?_⟩
    rw [current.recordId, current.memberLink.projectionId, current.memberLink.tenant, tenant]
    simp
  have key : delivery.rollout.key = (lookup.tenantId, record.segmentId, record.segmentGeneration) := by
    rw [current.rolls, ← current.link.tenant, ← current.link.segment, ← current.link.generation,
      tenant, current.recordSegment, current.recordGeneration]
  rw [rolloutMember, if_pos listed, RouteStore.rollout]
  refine find_of_key keys current.rollout ?_
  intro candidate
  rw [RolloutRow.of_iff, key]

/-- Everything an accepted report does. -/
structure Effect (applyState : ApplyState) (publication : PublicationRow) (rollout : RolloutRow)
    (store store' : RouteStore) : Prop where
  same : SamePublications store store'
  segments : store'.segments = store.segments
  rollouts : store'.rollouts = updateWhere (fun row => decide (row.key = rollout.key))
    (fun row => { row with
      state := nextState applyState rollout.state (allReported store' publication .prepared)
        (allReported store' publication .active) }) store.rollouts

theorem Effect.moved {applyState : ApplyState} {publication : PublicationRow} {rollout : RolloutRow}
    {store store' : RouteStore} (effect : Effect applyState publication rollout store store')
    (member : rollout ∈ store.rollouts) :
    { rollout with
      state := nextState applyState rollout.state (allReported store' publication .prepared)
        (allReported store' publication .active) } ∈ store'.rollouts := by
  rw [effect.rollouts]
  exact mem_updateWhere.mpr ⟨rollout, member, if_pos (decide_eq_true rfl)⟩

theorem updateWhere_unchanged {rollouts : List RolloutRow} (unique : (rollouts.map (·.key)).Nodup)
    (member : rollout ∈ rollouts) :
    updateWhere (fun row => decide (row.key = rollout.key))
      (fun row => { row with state := rollout.state }) rollouts = rollouts := by
  conv_rhs => rw [← List.map_id rollouts]
  apply List.map_congr_left
  intro row present
  by_cases same : row.key = rollout.key
  · rw [eq_of_key unique present member same]
    simp
  · simp [same]

theorem Effect.unchanged (keys : (store.rollouts.map (·.key)).Nodup)
    (member : rollout ∈ store.rollouts)
    (still : nextState applyState rollout.state (allReported store publication .prepared)
      (allReported store publication .active) = rollout.state) :
    Effect applyState publication rollout store store := by
  refine ⟨SamePublications.refl store, rfl, ?_⟩
  rw [still, updateWhere_unchanged keys member]

theorem Effect.set (keys : (store.rollouts.map (·.key)).Nodup) (member : rollout ∈ store.rollouts)
    {state : RolloutState}
    (next : nextState applyState rollout.state (allReported store publication .prepared)
      (allReported store publication .active) = if allowed rollout.state then state
        else rollout.state) :
    Effect applyState publication rollout store
      (setRollout rollout.tenantId rollout.segmentId rollout.segmentGeneration allowed state
        store) := by
  refine ⟨⟨rfl, rfl, rfl⟩, rfl, ?_⟩
  rw [setRollout_rollouts keys member, ← next]
  rfl

theorem advanceRollout_effect (inv : RolloutInvariant store) (applyState : ApplyState)
    (current : Current store lookup record segment delivery) :
    Effect applyState delivery.publication delivery.rollout store
      (advanceRollout applyState lookup.tenantId record store) := by
  have facts := inv.rolls_of_key current.publication current.rollout current.rolls
  have key := current.rolls
  simp only [RolloutRow.rolls, RolloutRow.key, Prod.mk.injEq] at key
  obtain ⟨rolloutTenant, rolloutSegment, rolloutGeneration⟩ := key
  have tenant : lookup.tenantId = delivery.publication.tenantId :=
    (congrArg (·.1) current.lookupKey).symm.trans current.link.tenant
  have segment : record.segmentId = delivery.publication.segmentId :=
    current.recordSegment.trans current.link.segment
  have generation : record.segmentGeneration = delivery.publication.generation :=
    current.recordGeneration.trans current.link.generation
  have counted := fun state => reportedCount_eq inv.chain inv.membership current.publication state
  rw [← facts.count] at counted
  unfold advanceRollout
  rw [rolloutMember_eq inv.keys current]
  rw [tenant, segment, generation]
  simp only [counted]
  rw [← rolloutTenant, ← rolloutSegment, ← rolloutGeneration]
  cases applyState with
  | prepared =>
      simp only
      split
      · rename_i passed
        refine Effect.set inv.keys current.rollout ?_
        cases state : delivery.rollout.state <;> simp_all [nextState]
      · rename_i failed
        refine Effect.unchanged inv.keys current.rollout ?_
        cases state : delivery.rollout.state <;> simp_all [nextState]
  | active =>
      simp only
      split
      · rename_i passed
        refine Effect.set inv.keys current.rollout ?_
        cases state : delivery.rollout.state <;> simp_all [nextState]
      · rename_i failed
        refine Effect.unchanged inv.keys current.rollout ?_
        cases state : delivery.rollout.state <;> simp_all [nextState]
  | rejected =>
      refine Effect.set inv.keys current.rollout ?_
      cases state : delivery.rollout.state <;> simp [nextState]

/-- A rollout row without the one column that reports change. -/
def RolloutRow.fixed (rollout : RolloutRow) : RolloutRow := { rollout with state := .preparing }

theorem RolloutInvariant.transfer (inv : RolloutInvariant store)
    (same : SamePublications store store') (chain : ChainInvariant store')
    (rollouts : store'.rollouts.map (·.fixed) = store.rollouts.map (·.fixed))
    (statuses : StatusInvariant store'.projections store'.statuses) : RolloutInvariant store' := by
  have keys : store'.rollouts.map (·.key) = store.rollouts.map (·.key) := by
    have mapped := congrArg (List.map (·.key)) rollouts
    rw [List.map_map, List.map_map] at mapped
    exact mapped
  refine ⟨chain, inv.membership.frame same, ?_, ?_, statuses⟩
  · rw [keys]
    exact inv.keys
  · intro publication published
    rw [same.publications] at published
    obtain ⟨rollout, present, facts⟩ := inv.backed publication published
    have image : rollout.fixed ∈ store'.rollouts.map (·.fixed) := by
      rw [rollouts]
      exact List.mem_map_of_mem present
    obtain ⟨rollout', present', fixed⟩ := List.mem_map.mp image
    simp only [RolloutRow.fixed, RolloutRow.mk.injEq] at fixed
    obtain ⟨tenant, segment, generation, allowed, count, mode, -⟩ := fixed
    refine ⟨rollout', present', ?_⟩
    have moved := facts.frame same
    constructor
    · rw [RolloutRow.rolls, RolloutRow.key, tenant, segment, generation]
      exact moved.rolls
    · rw [mode, moved.mode]
    · rw [count, moved.count]
    · rw [allowed, count, moved.allowed]
    · rw [count]
      exact moved.positive

theorem Current.seen (current : Current store lookup record segment delivery) {now : Instant}
    {status : RuntimeConfigurationStatusWrite} {statuses : List StatusRow}
    {auditEvents : List AuditEventRow} :
    Current { store with topology := store.topology.seen now status, statuses, auditEvents }
      lookup record segment delivery :=
  { current with }

/-- An accepted report writes the status row of the delivered projection and
    moves the rollout of its publication. -/
theorem Accepted.effect {now : Instant} {status : RuntimeConfigurationStatusWrite}
    (accepted : Accepted now status configuration store store') (inv : RolloutInvariant store)
    (loaded : loadCurrentRuntimeConfiguration store now policyIsolation
      status.lookup = .ok (.current configuration)) :
    ∃ segment delivery, Current store status.lookup configuration segment delivery ∧
      Effect status.applyState delivery.publication delivery.rollout store store' ∧
      store'.statuses = writeStatus now status delivery.projection.id store.statuses := by
  obtain ⟨segment, delivery, current⟩ := load_current inv loaded
  obtain ⟨auditEvents, rfl⟩ := accepted
  have written : RolloutInvariant { store with
      topology := store.topology.seen now status
      statuses := writeStatus now status configuration.projectionPublicationId store.statuses
      auditEvents } :=
    inv.transfer ⟨rfl, rfl, rfl⟩ (inv.chain.frame ⟨rfl, rfl, rfl⟩ rfl) rfl
      (inv.statuses.write current.projection current.recordId.symm current.lookupKey)
  have effect := advanceRollout_effect written status.applyState current.seen
  obtain ⟨rollouts, frame⟩ := advanceRollout_frame status.applyState status.lookup.tenantId
    configuration { store with
      topology := store.topology.seen now status
      statuses := writeStatus now status configuration.projectionPublicationId store.statuses
      auditEvents }
  refine ⟨segment, delivery, current, ?_, ?_⟩
  · exact ⟨⟨effect.same.publications, effect.same.projections, effect.same.members⟩,
      effect.segments, effect.rollouts⟩
  · rw [frame, ← current.recordId]

theorem Superseded.projection {now : Instant} {status : RuntimeConfigurationStatusWrite}
    (superseded : Superseded policyIsolation now status configuration store store') :
    ∃ projection ∈ store.projections, projection.id = status.projectionPublicationId ∧
      projection.deviceKey = status.lookup.key ∧
      projection.attachmentId = configuration.attachmentId ∧
      projection.segmentGeneration < configuration.segmentGeneration := by
  obtain ⟨generation, found, -⟩ := superseded.historical
  obtain ⟨head, -⟩ := Option.filter_eq_some_iff.mp found
  obtain ⟨projection, member, -⟩ := List.mem_map.mp (List.mem_of_head? head)
  simp only [List.mem_filter, Bool.and_eq_true, beq_iff_eq, decide_eq_true_eq] at member
  obtain ⟨present, conditions⟩ := member
  obtain ⟨⟨⟨⟨⟨⟨⟨⟨⟨id, tenant⟩, device⟩, key⟩, attachment⟩, -⟩, -⟩, older⟩, -⟩, -⟩ := conditions
  refine ⟨projection, present, id, ?_, attachment, older⟩
  rw [ProjectionRow.deviceKey, RuntimeConfigurationLookup.key, tenant, device, key]

theorem Committed.rolloutInvariant {write : SegmentPublicationWrite}
    (committed : Committed policyIsolation write store store') (inv : RolloutInvariant store)
    : RolloutInvariant store' where
  chain := committed.chainInvariant inv.chain
  membership := committed.membership inv.membership
  keys := by
    rw [committed.rollouts]
    refine nodup_concat_key inv.keys ?_
    intro old present same
    have free := committed.freshRollout old present
    rw [RolloutRow.conflict, RolloutRow.of_iff.mpr same.symm] at free
    cases free
  backed := by
    intro publication published
    rw [committed.rollouts]
    rw [committed.publications] at published
    rcases mem_concat.mp published with old | rfl
    · obtain ⟨rollout, present, facts⟩ := inv.backed publication old
      refine ⟨rollout, List.mem_append_left _ present, facts.rolls, facts.mode, ?_, facts.allowed,
        facts.positive⟩
      rw [committed.membersOf inv.membership, if_neg (committed.freshId old)]
      exact facts.count
    · refine ⟨write.rolloutRow, List.mem_append_right _ (List.mem_singleton_self _), rfl, rfl, ?_,
        rfl, List.length_pos_iff.mpr committed.admitted.nonempty⟩
      have own : write.publicationId = write.publicationRow.id := rfl
      rw [committed.membersOf inv.membership, if_pos own, length_memberRows]
      rfl
  statuses := by
    rw [committed.statuses]
    refine ⟨inv.statuses.keys, ?_⟩
    intro status member
    obtain ⟨projection, present, facts⟩ := inv.statuses.owner status member
    exact ⟨projection, committed.mem_projections.mpr (.inl present), facts⟩

theorem Effect.fixed (effect : Effect applyState publication rollout store store') :
    store'.rollouts.map (·.fixed) = store.rollouts.map (·.fixed) := by
  rw [effect.rollouts, map_updateWhere]
  exact fun _ => rfl

theorem routeStep_rolloutInvariant (sha256 : Bytes → Hash) (store : RouteStore) (call : RouteCall)
    (inv : RolloutInvariant store) : RolloutInvariant (routeStep sha256 store call) := by
  have chain := routeStep_chainInvariant sha256 store call inv.chain
  cases call with
  | publish policyIsolation write =>
      exact routeStep_publish sha256 policyIsolation write inv fun _ committed =>
        committed.rolloutInvariant inv
  | report policyIsolation now auditId status =>
      rcases report_cases store now auditId policyIsolation status with
        same | ⟨configuration, superseded⟩ | ⟨configuration, acceptable, accepted⟩
      · simp only [routeStep, same]
        exact inv
      · obtain ⟨projection, present, id, owner, -, -⟩ := superseded.projection
        simp only [routeStep, superseded.result] at chain ⊢
        exact inv.transfer ⟨rfl, rfl, rfl⟩ chain rfl (inv.statuses.receipt present id owner)
      · obtain ⟨segment, delivery, current, effect, statuses⟩ := accepted.effect inv acceptable.loaded
        refine inv.transfer effect.same chain effect.fixed ?_
        simp only [routeStep] at statuses ⊢
        rw [statuses, effect.same.projections]
        exact inv.statuses.write current.projection rfl current.lookupKey
  | environment topology segments =>
      exact inv.transfer ⟨rfl, rfl, rfl⟩ chain rfl inv.statuses

theorem run_rolloutInvariant (sha256 : Bytes → Hash) {start : RouteStore}
    (empty : start.Unpublished) (calls : List RouteCall) :
    RolloutInvariant (run (routeStep sha256) start calls) :=
  run_invariant (routeStep_rolloutInvariant sha256) empty.rolloutInvariant calls

end CandyCloud
