import CandyCloud.Route.Compatibility
import CandyCloud.Route.Authorization

/-! # Grants and configurations

Delivery and authorization choose the generation of a device by queries of their own.
-/

namespace CandyCloud

open Foundation

def AuthorizationLookup.device (lookup : AuthorizationLookup) : RuntimeConfigurationLookup :=
  ⟨lookup.tenantId, lookup.deviceId, lookup.deviceKeyId⟩

variable {grant account : AuthorizationRecord} {policy : AuthorizationRoutePolicy}
  {p : ProjectionRow} {live : MemberRow × PublicationRow} {delivery : Delivery}

section Load

variable {store : RouteStore} {tables : AuthorizationTables} {policyIsolation : Bool}
  {now : Instant} {lookup : AuthorizationLookup} {requested : Option AuthorizationPolicyRef}

structure Account (store : RouteStore) (tables : AuthorizationTables)
    (lookup : AuthorizationLookup) (account : AuthorizationRecord) : Prop where
  first : (store.authorizationRows tables lookup).head? = some account
  entitled : account.entitled = true

theorem loadForPolicy_granted
    (granted : loadForPolicy store tables policyIsolation now lookup requested = .ok (some grant))
    (bound : grant.routePolicy = some policy) :
    ∃ account, Account store tables lookup account ∧
      store.routePolicies policyIsolation now lookup requested = [policy] := by
  simp only [loadForPolicy, unit_bind_ok] at granted
  obtain ⟨-, -, granted⟩ := granted
  split at granted
  · cases granted
  · rename_i account first
    split at granted
    · cases granted
    · rename_i permitted
      have entitled : account.entitled = true := by simpa using permitted
      split at granted
      · split at granted
        · rename_i only found
          obtain rfl : { account with routePolicy := some only } = grant :=
            Option.some.inj (Except.ok.inj granted)
          obtain rfl : only = policy := Option.some.inj bound
          exact ⟨account, ⟨first, entitled⟩, found⟩
        · cases granted
      · obtain rfl : account = grant := Option.some.inj (Except.ok.inj granted)
        have listed := List.mem_of_head? first
        simp only [RouteStore.authorizationRows, List.mem_flatMap, List.mem_map] at listed
        obtain ⟨_, -, _, -, _, -, _, -, _, -, _, -, _, -, rfl⟩ := listed
        cases bound

theorem loadForPolicy_tunnel (valid : lookup.validate = .ok ())
    (wellFormed : requested.any (·.malformed) = false) (owner : Account store tables lookup account)
    (tunnel : account.servicePermission = privateTunConnect)
    (only : store.routePolicies policyIsolation now lookup requested = [policy]) :
    loadForPolicy store tables policyIsolation now lookup requested
      = .ok (some { account with routePolicy := some policy }) := by
  simp only [loadForPolicy, unit_bind_ok]
  refine ⟨valid, by rw [wellFormed]; rfl, ?_⟩
  simp only [owner.first, owner.entitled, tunnel, only, Bool.not_true, Bool.false_eq_true,
    if_false, beq_self_eq_true, if_true]
  rfl

theorem Account.device_active (owner : Account store tables lookup account) :
    store.topology.activeDevice lookup.tenantId (some lookup.deviceId) = true ∧
      store.topology.activeDeviceKey lookup.tenantId (some lookup.deviceId)
        (some lookup.deviceKeyId) = true := by
  have listed := List.mem_of_head? owner.first
  have entitled := owner.entitled
  simp only [RouteStore.authorizationRows, RouteStore.activeTenants, List.mem_flatMap, List.mem_map,
    List.mem_filter, Bool.and_eq_true, beq_iff_eq] at listed
  obtain ⟨tenant, ⟨_, ⟨-, tenantId, -⟩, _, -, rfl⟩, device, ⟨device_mem, deviceTenant, deviceId⟩, key,
    ⟨key_mem, ⟨⟨keyTenant, keyDevice⟩, keyId⟩, keyActive⟩, _, -, _, -, _, -, _, -, rfl⟩ := listed
  simp only [AuthorizationRecord.entitled, Bool.and_eq_true, beq_iff_eq] at entitled
  constructor
  · refine List.any_eq_true.mpr ⟨device, device_mem, ?_⟩
    simp [deviceId, deviceTenant, tenantId, entitled.1.1]
  · refine List.any_eq_true.mpr ⟨key, key_mem, ?_⟩
    simp [keyId, keyTenant, keyDevice, keyActive, deviceId, tenantId]

end Load

section Rows

variable {store : RouteStore} {now : Instant} {lookup : AuthorizationLookup}

variable {a : AttachmentRow}

/-- The attachment of a delivered configuration is the only one that the
    queries find, with the rollout of its current generation. -/
theorem rolloutAttachments_of_attached (keys : (store.rollouts.map (·.key)).Nodup)
    {segment : SegmentRow} {rollout : RolloutRow}
    (attached : store.attachedSegments lookup.device = [(a, segment)])
    (present : rollout ∈ store.rollouts)
    (rolls : rollout.key = (segment.tenantId, segment.id, segment.currentGeneration)) :
    store.rolloutAttachments lookup = [(a, segment, rollout)] := by
  have member : (a, segment) ∈ store.attachedSegments lookup.device := by
    rw [attached]
    exact List.mem_singleton_self _
  have active : store.topology.activeTenant lookup.tenantId = true := by
    simp only [RouteStore.attachedSegments, List.mem_flatMap, List.mem_filter, List.mem_map,
      Bool.and_eq_true, beq_iff_eq] at member
    obtain ⟨b, ⟨-, conditions⟩, -⟩ := member
    rw [← conditions.1.2, conditions.1.1.1.1.1]
    rfl
  have same : (store.topology.attachments.filter fun a =>
      a.tenantId == lookup.tenantId && a.deviceId == some lookup.deviceId &&
        a.deviceKeyId == some lookup.deviceKeyId && a.routed &&
        store.topology.activeSite a.tenantId a.siteId) =
      store.topology.attachments.filter fun a =>
        a.tenantId == lookup.device.tenantId && a.deviceId == some lookup.device.deviceId &&
          a.deviceKeyId == some lookup.device.deviceKeyId && a.routed &&
          store.topology.activeTenant a.tenantId &&
          store.topology.activeSite a.tenantId a.siteId := by
    refine List.filter_congr fun a _ => ?_
    by_cases tenant : a.tenantId = lookup.tenantId
    · simp [AuthorizationLookup.device, tenant, active]
    · have other : (a.tenantId == lookup.tenantId) = false := beq_eq_false_iff_ne.mpr tenant
      simp [AuthorizationLookup.device, other]
  have joined : store.rolloutAttachments lookup = (store.attachedSegments lookup.device).flatMap
      fun pair => (store.rollouts.filter fun rollout =>
        rollout.of pair.2.tenantId pair.2.id pair.2.currentGeneration).map fun rollout =>
          (pair.1, pair.2, rollout) := by
    rw [RouteStore.rolloutAttachments, same, RouteStore.attachedSegments, List.flatMap_assoc]
    refine List.flatMap_congr fun a _ => ?_
    rw [List.flatMap_map]
  rw [joined, attached, List.flatMap_singleton, filter_of_key keys present, List.map_singleton]
  intro candidate _
  rw [RolloutRow.of_iff, rolls]

theorem mem_attachmentVersions (member : p ∈ store.attachmentVersions a)
    : p ∈ store.projections ∧ p.tenantId = a.tenantId ∧
      p.segmentId = a.segmentId ∧ some p.siteId = a.siteId ∧ p.attachmentId = a.id ∧
      some p.deviceId = a.deviceId ∧ some p.deviceKeyId = a.deviceKeyId := by
  simp only [RouteStore.attachmentVersions, List.mem_filter, Bool.and_eq_true, beq_iff_eq] at member
  obtain ⟨projected, ⟨⟨⟨⟨tenant, segment⟩, site⟩, attachment⟩, device⟩, key⟩ := member
  exact ⟨projected, tenant, segment, site, attachment, device, key⟩

theorem mem_livePublications (member : live ∈ store.livePublications now p)
    : live.1 ∈ store.members ∧
      live.1.tenantId = p.tenantId ∧ live.1.projectionPublicationId = p.id ∧
      live.1.attachmentId = p.attachmentId ∧ live.1.projectionId = p.projectionId ∧
      live.2 ∈ store.publications ∧ live.2.id = live.1.segmentPublicationId ∧
      live.2.tenantId = p.tenantId ∧ live.2.segmentId = p.segmentId ∧
      live.2.generation = p.segmentGeneration ∧ live.2.contentHash = p.segmentContentHash ∧
      unixTimestamp now ≤ live.2.expiresAt ∧ unixTimestamp now ≤ live.2.staleUntil := by
  simp only [RouteStore.livePublications, List.mem_flatMap, List.mem_filter, List.mem_map,
    Bool.and_eq_true, beq_iff_eq, decide_eq_true_eq] at member
  obtain ⟨row, ⟨present, ⟨⟨tenant, id⟩, attachment⟩, projection⟩, publication, ⟨published, facts⟩,
    rfl⟩ := member
  obtain ⟨⟨⟨⟨⟨⟨owner, publicationTenant⟩, segment⟩, generation⟩, hash⟩, expires⟩, stale⟩ := facts
  exact ⟨present, tenant, id, attachment, projection, published, owner, publicationTenant, segment,
    generation, hash, expires, stale⟩

/-- The membership that a delivered projection was joined with is live as long
    as its publication is. -/
theorem live_of_delivery {generation : Nat} (joined : delivery ∈ store.deliveries a generation)
    (unexpired : unixTimestamp now ≤ delivery.publication.expiresAt)
    (fresh : unixTimestamp now ≤ delivery.publication.staleUntil) :
    delivery.projection ∈ store.attachmentVersions a ∧
      (delivery.member, delivery.publication) ∈ store.livePublications now delivery.projection := by
  simp only [RouteStore.deliveries, RouteStore.deliveriesOf, List.mem_flatMap, List.mem_filter,
    List.mem_map, Bool.and_eq_true, beq_iff_eq] at joined
  obtain ⟨p, ⟨projected, place⟩, publication, ⟨published, link⟩, member, ⟨present, membership⟩,
    rollout, -, rfl⟩ := joined
  obtain ⟨⟨⟨⟨⟨⟨tenant, segment⟩, site⟩, attachment⟩, device⟩, key⟩, -⟩ := place
  obtain ⟨⟨⟨⟨id, publicationTenant⟩, publicationSegment⟩, number⟩, hash⟩ := link
  obtain ⟨⟨⟨⟨memberTenant, memberPublication⟩, memberProjection⟩, projectionId⟩, memberAttachment⟩ :=
    membership
  constructor
  · refine List.mem_filter.mpr ⟨projected, ?_⟩
    simp [tenant, segment, site, attachment, device, key]
  · simp only [RouteStore.livePublications, List.mem_flatMap, List.mem_filter, List.mem_map,
      Bool.and_eq_true, beq_iff_eq, decide_eq_true_eq]
    exact ⟨member, ⟨present, ⟨⟨memberTenant, memberProjection⟩, memberAttachment⟩, projectionId⟩,
      publication, ⟨published, ⟨⟨⟨⟨⟨⟨memberPublication.symm, publicationTenant⟩, publicationSegment⟩,
        number⟩, hash⟩, unexpired⟩, fresh⟩⟩, rfl⟩

theorem Cataloged.live_le_one (inv : Cataloged store) (projected : p ∈ store.projections)
    : (store.livePublications now p).length ≤ 1 := by
  refine length_flatMap_le_one ?_ ?_
  · refine length_filter_key_le_one inv.members (p.publicationId, p.id) ?_
    intro member present selected
    simp only [Bool.and_eq_true, beq_iff_eq] at selected
    obtain ⟨q, existing, link⟩ := inv.rollout.membership.linked member present
    have equal : q = p := inv.rollout.membership.projection_of_id existing projected
      (link.projectionId.symm.trans selected.1.1.2)
    subst equal
    exact Prod.ext link.publicationId selected.1.1.2
  · intro member _
    rw [List.length_map]
    refine length_filter_key_le_one inv.rollout.membership.publicationIds
      member.segmentPublicationId ?_
    intro publication _ selected
    simp only [Bool.and_eq_true, beq_iff_eq] at selected
    exact selected.1.1.1.1.1.1

end Rows

/-- The default choice for the attachment reaches back to the previous
    generation: its rollout is blocked and there is one, or there is a live one
    whose ordinal is beyond what the current rollout allows. -/
def RouteStore.heldBack (store : RouteStore) (now : Instant)
    (row : AttachmentRow × SegmentRow × RolloutRow) : Bool :=
  if row.2.2.state == .blocked then !(store.targets row.1 (row.2.1.currentGeneration - 1)).isEmpty
  else (store.attachmentVersions row.1).any fun p =>
    p.segmentGeneration + 1 == row.2.1.currentGeneration &&
      (store.livePublications now p).any fun live =>
        decide (row.2.2.allowedOrdinal < live.1.rolloutOrdinal)

structure NamesDelivered (policy : AuthorizationRoutePolicy) (record : RuntimeConfigurationRecord) :
    Prop where
  projectionId : policy.projectionId = record.projectionId
  projectionGeneration : policy.projectionGeneration = record.projectionGeneration
  contentHash : policy.projectionContentHash = record.projectionContentHash
  segmentGeneration : policy.segmentGeneration = record.segmentGeneration

section Default

variable {store : RouteStore} {now : Instant} {a : AttachmentRow} {segment : SegmentRow}
  {rollout : RolloutRow}

def RouteStore.defaultOf (store : RouteStore) (now : Instant) (a : AttachmentRow)
    (segment : SegmentRow) (rollout : RolloutRow) : List AuthorizationRoutePolicy :=
  (store.attachmentVersions a).flatMap fun p =>
    ((store.livePublications now p).filter fun live =>
      store.defaultChoice segment rollout p live.1).map fun live => p.routePolicy live.2

theorem mem_defaultOf :
    policy ∈ store.defaultOf now a segment rollout ↔ ∃ p ∈ store.attachmentVersions a,
      ∃ live ∈ store.livePublications now p, store.defaultChoice segment rollout p live.1 = true ∧
        p.routePolicy live.2 = policy := by
  simp only [RouteStore.defaultOf, List.mem_flatMap, List.mem_map, List.mem_filter, and_assoc]

theorem Cataloged.defaultOf_nodup (inv : Cataloged store) :
    ((store.defaultOf now a segment rollout).map (·.segmentGeneration)).Nodup := by
  have sub : ((store.defaultOf now a segment rollout).map (·.segmentGeneration)).Sublist
      ((store.attachmentVersions a).map (·.segmentGeneration)) := by
    refine map_flatMap_sublist ?_ ?_
    · intro p member
      rw [List.length_map]
      exact (List.length_filter_le _ _).trans (inv.live_le_one (mem_attachmentVersions member).1)
    · intro p _ policy listed
      obtain ⟨live, kept, rfl⟩ := List.mem_map.mp listed
      obtain ⟨-, -, -, -, -, -, -, -, -, generation, -⟩ :=
        mem_livePublications (List.mem_filter.mp kept).1
      exact generation
  have versions : ((store.attachmentVersions a).map (·.segmentGeneration)).Nodup := by
    have places : ((store.attachmentVersions a).map (·.place)).Nodup :=
      (List.Sublist.map _ List.filter_sublist).nodup inv.places
    have same : (store.attachmentVersions a).map (·.place) =
        ((store.attachmentVersions a).map (·.segmentGeneration)).map
          fun generation => (a.tenantId, a.segmentId, generation, a.id) := by
      rw [List.map_map]
      refine List.map_congr_left fun p member => ?_
      obtain ⟨-, tenant, segment, -, attachment, -⟩ := mem_attachmentVersions member
      rw [ProjectionRow.place, tenant, segment, attachment]
      rfl
    rw [same] at places
    exact List.Nodup.of_map _ places
  exact sub.nodup versions

theorem projectedBefore_iff (version : p ∈ store.attachmentVersions a) :
    store.projectedBefore segment p = !(store.targets a (segment.currentGeneration - 1)).isEmpty := by
  obtain ⟨-, tenant, segmentId, -, attachment, device, key⟩ := mem_attachmentVersions version
  have same : store.projectedBefore segment p = store.projections.any fun previous =>
      previous.tenantId == a.tenantId && previous.segmentId == a.segmentId &&
        previous.attachmentId == a.id && some previous.deviceId == a.deviceId &&
        some previous.deviceKeyId == a.deviceKeyId &&
        previous.segmentGeneration == segment.currentGeneration - 1 := by
    simp [RouteStore.projectedBefore, ← tenant, ← segmentId, ← attachment, ← device, ← key]
  rw [same, Bool.eq_iff_iff, List.any_eq_true, Bool.not_eq_true', List.isEmpty_eq_false_iff_exists_mem]
  simp only [RouteStore.targets, List.mem_filter]

theorem defaultOf_current (held : store.heldBack now (a, segment, rollout) = false)
    (listed : policy ∈ store.defaultOf now a segment rollout) :
    policy.segmentGeneration = segment.currentGeneration := by
  obtain ⟨p, version, live, kept, choice, rfl⟩ := mem_defaultOf.mp listed
  obtain ⟨-, -, -, -, -, -, -, -, -, generation, -⟩ := mem_livePublications kept
  change live.2.generation = segment.currentGeneration
  rw [generation]
  simp only [RouteStore.defaultChoice, Bool.or_eq_true, Bool.and_eq_true, beq_iff_eq,
    decide_eq_true_eq] at choice
  rcases choice with (⟨⟨back, later⟩, previous⟩ | ⟨-, current⟩) | ⟨⟨-, current⟩, -⟩
  · exfalso
    unfold RouteStore.heldBack at held
    by_cases blocked : rollout.state = .blocked
    · -- a blocked rollout names the previous projection, which is a target of its generation
      have present : p ∈ store.targets a (segment.currentGeneration - 1) := by
        obtain ⟨projected, tenant, segmentId, -, attachment, device, key⟩ :=
          mem_attachmentVersions version
        refine List.mem_filter.mpr ⟨projected, ?_⟩
        simp [tenant, segmentId, attachment, device, key, previous]
      simp only [blocked, beq_self_eq_true, if_true, Bool.not_eq_false', List.isEmpty_iff] at held
      rw [held] at present
      cases present
    · have other : (rollout.state == .blocked) = false := beq_eq_false_iff_ne.mpr blocked
      simp only [other, Bool.false_eq_true, if_false, List.any_eq_false, Bool.and_eq_true,
        beq_iff_eq, List.any_eq_true, decide_eq_true_eq, not_and, not_exists] at held
      rcases back with state | beyond
      · exact blocked state
      · exact held p version (by omega) live kept beyond
  · exact current
  · exact current

/-- The delivered projection is among the default policies unless the
    attachment is held back by a blocked rollout. -/
theorem delivered_default (joined : delivery ∈ store.deliveries a segment.currentGeneration)
    (allowed : delivery.member.rolloutOrdinal ≤ rollout.allowedOrdinal)
    (unexpired : unixTimestamp now ≤ delivery.publication.expiresAt)
    (fresh : unixTimestamp now ≤ delivery.publication.staleUntil)
    (held : store.heldBack now (a, segment, rollout) = false) :
    delivery.projection.routePolicy delivery.publication
      ∈ store.defaultOf now a segment rollout := by
  obtain ⟨version, live⟩ := live_of_delivery joined unexpired fresh
  obtain ⟨-, -, -, -, -, -, -, -, -, -, -, -, current⟩ := mem_deliveries joined
  refine mem_defaultOf.mpr ⟨delivery.projection, version, _, live, ?_, rfl⟩
  simp only [RouteStore.defaultChoice, projectedBefore_iff version, current, beq_self_eq_true,
    allowed, decide_true, Bool.and_true]
  unfold RouteStore.heldBack at held
  by_cases blocked : rollout.state = .blocked
  · simp only [blocked, beq_self_eq_true, if_true] at held
    simp [blocked, held]
  · have other : (rollout.state == .blocked) = false := beq_eq_false_iff_ne.mpr blocked
    simp [blocked]

/-- A held back attachment has no policy or a policy of the previous generation
    among its policies. -/
theorem held_back_default (inv : Cataloged store)
    (held : store.heldBack now (a, segment, rollout) = true)
    (only : store.defaultOf now a segment rollout = [policy]) :
    policy.segmentGeneration ≠ segment.currentGeneration := by
  intro current
  have listed : policy ∈ store.defaultOf now a segment rollout := by
    rw [only]
    exact List.mem_singleton_self policy
  obtain ⟨p, version, live, kept, choice, same⟩ := mem_defaultOf.mp listed
  obtain ⟨-, -, -, -, -, -, -, -, -, generation, -⟩ := mem_livePublications kept
  have number : p.segmentGeneration = segment.currentGeneration := by
    rw [← generation, ← current, ← same]
    rfl
  unfold RouteStore.heldBack at held
  by_cases blocked : rollout.state = .blocked
  · simp only [blocked, beq_self_eq_true, if_true] at held
    simp only [RouteStore.defaultChoice, projectedBefore_iff version, held, number, blocked,
      Bool.or_eq_true, Bool.and_eq_true, beq_iff_eq, decide_eq_true_eq, bne_self_eq_false,
      Bool.false_eq_true, false_and, or_false, Bool.not_true, and_false] at choice
    omega
  · have other : (rollout.state == .blocked) = false := beq_eq_false_iff_ne.mpr blocked
    simp only [other, Bool.false_eq_true, if_false, List.any_eq_true, Bool.and_eq_true, beq_iff_eq,
      decide_eq_true_eq] at held
    obtain ⟨previous, earlier, before, live', kept', beyond⟩ := held
    -- the previous projection has a policy of its own
    have second : previous.routePolicy live'.2 ∈ store.defaultOf now a segment rollout := by
      refine mem_defaultOf.mpr ⟨previous, earlier, live', kept', ?_, rfl⟩
      obtain ⟨owner, published, link⟩ :=
        inv.rollout.membership.owned previous (mem_attachmentVersions earlier).1
      have positive := inv.rollout.chain.positive published
      rw [← link.generation] at positive
      have later : 1 < segment.currentGeneration := by omega
      have number' : previous.segmentGeneration = segment.currentGeneration - 1 := by omega
      simp [RouteStore.defaultChoice, beyond, later, number']
    rw [only, List.mem_singleton] at second
    obtain ⟨-, -, -, -, -, -, -, -, -, generation', -⟩ := mem_livePublications kept'
    have equal : previous.segmentGeneration = segment.currentGeneration := by
      rw [← generation', ← current, ← second]
      rfl
    omega

end Default

/-- In every state reached, the default grant of an entitled device whose
    configuration is delivered and live names that configuration exactly when
    the choice does not reach back to the previous generation. -/
theorem default_grant_iff (sha256 : Bytes → Hash) {start : RouteStore} (empty : start.Unpublished)
    (calls : List RouteCall) (tables : AuthorizationTables) (now : Instant)
    (delivering granting : Bool) {lookup : AuthorizationLookup} {account : AuthorizationRecord}
    {record : RuntimeConfigurationRecord} (valid : lookup.validate = .ok ())
    (owner : Account (run (routeStep sha256) start calls) tables lookup account)
    (tunnel : account.servicePermission = privateTunConnect)
    (loaded : loadCurrentRuntimeConfiguration (run (routeStep sha256) start calls) now delivering
      lookup.device = .ok (.current record))
    (live : ∀ publication ∈ (run (routeStep sha256) start calls).publications,
      publication.tenantId = record.tenantId → publication.segmentId = record.segmentId →
      publication.generation = record.segmentGeneration →
      unixTimestamp now ≤ publication.expiresAt ∧ unixTimestamp now ≤ publication.staleUntil) :
    let store := run (routeStep sha256) start calls
    (∃ grant policy, loadForPolicy store tables granting now lookup none = .ok (some grant) ∧
      grant.routePolicy = some policy ∧ NamesDelivered policy record) ↔
    (store.rolloutAttachments lookup).any (store.heldBack now) = false := by
  intro store
  have inv : Cataloged store := run_cataloged sha256 empty calls
  obtain ⟨a, segment, top, delivery, catalog, compatibility, attached, -, joined, rfl⟩ :=
    load_delivered inv.rollout loaded
  have member : (a, segment) ∈ store.attachedSegments lookup.device := by
    rw [attached]
    exact List.mem_singleton_self _
  obtain ⟨-, -, segmentTenant, segmentId, -, -, -⟩ := mem_attachedSegments member
  obtain ⟨-, published, link, -, -, rolled, rolls, tenant, segmentOf, -, -, -, current⟩ :=
    mem_deliveries joined
  have key : delivery.rollout.key = (segment.tenantId, segment.id, segment.currentGeneration) := by
    rw [rolls, ← link.tenant, ← link.segment, ← link.generation, tenant, segmentOf, current,
      segmentTenant, segmentId]
  have rows : store.rolloutAttachments lookup = [(a, segment, delivery.rollout)] :=
    rolloutAttachments_of_attached inv.rollout.keys attached rolled key
  have policies : store.routePolicies granting now lookup none
      = store.defaultOf now a segment delivery.rollout := by
    change store.defaultPolicies now lookup = _
    rw [RouteStore.defaultPolicies, rows, List.flatMap_singleton]
    rfl
  obtain ⟨unexpired, fresh⟩ := live delivery.publication published link.tenant.symm
    link.segment.symm link.generation.symm
  rw [rows, List.any_cons, List.any_nil, Bool.or_false]
  constructor
  · rintro ⟨grant, policy, granted, bound, names⟩
    obtain ⟨-, -, only⟩ := loadForPolicy_granted granted bound
    rw [policies] at only
    by_contra held
    exact held_back_default inv (by simpa using held) only (names.segmentGeneration.trans current)
  · intro held
    have listed := delivered_default joined (delivery_allowed inv.rollout joined) unexpired fresh held
    have unique : ((store.defaultOf now a segment delivery.rollout).map
        (·.segmentGeneration)).Nodup := inv.defaultOf_nodup
    have only : store.defaultOf now a segment delivery.rollout
        = [delivery.projection.routePolicy delivery.publication] := by
      have whole : (store.defaultOf now a segment delivery.rollout).filter (fun _ => true)
          = [delivery.projection.routePolicy delivery.publication] := by
        refine filter_of_key unique listed ?_
        intro other present
        rw [defaultOf_current held present, defaultOf_current held listed]
        exact ⟨fun _ => rfl, fun _ => rfl⟩
      rwa [List.filter_true] at whole
    have granted : loadForPolicy store tables granting now lookup none = _ :=
      loadForPolicy_tunnel valid rfl owner tunnel (policies.trans only)
    exact ⟨_, _, granted, rfl, rfl, rfl, rfl, link.generation.symm⟩

section Requested

variable {store : RouteStore} {policyIsolation : Bool} {now : Instant}

/-- A granted policy that is not the current target is the version the device
    runs, still within the window. -/
structure GrantedOlder (store : RouteStore) (policyIsolation : Bool) (now : Instant)
    (lookup : AuthorizationLookup) (policy : AuthorizationRoutePolicy) (a : AttachmentRow)
    (segment : SegmentRow) (p : ProjectionRow) (live : MemberRow × PublicationRow) : Prop where
  attachment : a ∈ store.topology.attachments
  tenant : a.tenantId = lookup.tenantId
  device : a.deviceId = some lookup.deviceId
  deviceKey : a.deviceKeyId = some lookup.deviceKeyId
  routed : a.routed = true
  site : store.topology.activeSite a.tenantId a.siteId = true
  segmentPresent : segment ∈ store.segments
  segmentTenant : segment.tenantId = a.tenantId
  segmentId : segment.id = a.segmentId
  target : ∃ target, target ∈ store.targets a segment.currentGeneration
  version : p ∈ store.attachmentVersions a
  kept : live ∈ store.livePublications now p
  own : live.2.id = p.publicationId
  result : p.routePolicy live.2 = policy
  choice : p.segmentGeneration < segment.currentGeneration →
    some p.id = store.activePointer a ∧ (p.segmentGeneration = segment.currentGeneration - 1 ∨
      policyIsolation = true ∧
        segment.currentGeneration - maxCompatibilityGenerations ≤ p.segmentGeneration ∧
        store.onlyPolicySince p segment.currentGeneration = true)

variable {tables : AuthorizationTables} {lookup : AuthorizationLookup} {a : AttachmentRow}

theorem Cataloged.granted_older (inv : Cataloged store) {requested : AuthorizationPolicyRef}
    (granted : loadForPolicy store tables policyIsolation now lookup (some requested)
      = .ok (some grant)) (bound : grant.routePolicy = some policy) :
    ∃ account a segment p live, Account store tables lookup account ∧
      GrantedOlder store policyIsolation now lookup policy a segment p live := by
  obtain ⟨account, owner, only⟩ := loadForPolicy_granted granted bound
  have listed : policy ∈ store.requestedPolicies policyIsolation now lookup requested := by
    change policy ∈ store.routePolicies policyIsolation now lookup (some requested)
    rw [only]
    exact List.mem_singleton_self policy
  simp only [RouteStore.requestedPolicies, RouteStore.rolloutAttachments, RouteStore.activeSegments,
    SegmentRow.of, List.mem_flatMap, List.mem_filter, List.mem_map, Bool.and_eq_true,
    beq_iff_eq] at listed
  obtain ⟨_, ⟨a, ⟨attachment, ⟨⟨⟨tenant, device⟩, key⟩, routed⟩, site⟩, segment,
    ⟨present, ⟨segmentTenant, segmentId⟩, -⟩, rollout, -, rfl⟩, target, targeted, p,
    ⟨version, -⟩, live, ⟨kept, own, choice⟩, rfl⟩ := listed
  refine ⟨account, a, segment, p, live, owner, ?_⟩
  refine ⟨attachment, tenant, device, key, routed, site, present, segmentTenant, segmentId,
    ⟨target, targeted⟩, version, kept, own, rfl, ?_⟩
  intro older
  simp only [RouteStore.requestedChoice, Bool.or_eq_true, Bool.and_eq_true, beq_iff_eq,
    decide_eq_true_eq] at choice
  rcases choice with ⟨same, -⟩ | ⟨⟨running, -⟩, window⟩
  · -- the target itself is of the current generation
    obtain ⟨projected, conditions⟩ := List.mem_filter.mp targeted
    simp only [Bool.and_eq_true, beq_iff_eq] at conditions
    have equal := inv.rollout.membership.projection_of_id (mem_attachmentVersions version).1
      projected same
    rw [equal, conditions.2] at older
    exact absurd older (Nat.lt_irrefl _)
  · refine ⟨running, ?_⟩
    rcases window with previous | ⟨⟨isolated, inside⟩, unchanged⟩
    · exact .inl previous
    · refine .inr ⟨isolated, ?_, unchanged⟩
      unfold maxCompatibilityGenerations
      omega

theorem Cataloged.activeProjection_of_pointer (inv : Cataloged store)
    (projected : p ∈ store.projections) (tenant : p.tenantId = a.tenantId)
    (running : some p.id = store.activePointer a) : store.activeProjection a = some p := by
  obtain ⟨status, found, pointer⟩ := Option.bind_eq_some_iff.mp running.symm
  have owner := List.find?_some found
  simp only [Bool.and_eq_true, beq_iff_eq] at owner
  obtain ⟨other, located⟩ := Option.isSome_iff_exists.mp (List.find?_isSome
    (p := fun q : ProjectionRow =>
      some q.id == status.activeProjectionPublicationId && q.tenantId == status.tenantId) |>.mpr
    ⟨p, projected, by simp [pointer, tenant, owner.1.1]⟩)
  have same := List.find?_some located
  simp only [pointer, Bool.and_eq_true, beq_iff_eq, Option.some.injEq] at same
  have equal := inv.rollout.membership.projection_of_id (List.mem_of_find?_eq_some located)
    projected same.1
  subst equal
  exact Option.bind_eq_some_iff.mpr ⟨status, found, located⟩

theorem GrantedOlder.cataloged (inv : Cataloged store) {segment : SegmentRow}
    (older : GrantedOlder store policyIsolation now lookup policy a segment p live)
    (owner : Account store tables lookup account)
    (below : p.segmentGeneration < segment.currentGeneration) {peer : RuntimeConfigurationLookup}
    {projectionId : Uuid} (tenant : peer.tenantId = a.tenantId)
    (remote : p.projectionId ≠ projectionId)
    (serves : store.servesTransport peer a.segmentId segment.currentGeneration projectionId = true)
    :
    (p, live.2) ∈ store.compatibleCatalogRows policyIsolation now peer a.segmentId
      segment.currentGeneration projectionId := by
  obtain ⟨running, window⟩ := older.choice below
  obtain ⟨projected, pTenant, pSegment, pSite, pAttachment, pDevice, pKey⟩ :=
    mem_attachmentVersions older.version
  obtain ⟨member, memberTenant, memberProjection, memberAttachment, memberId, published, owned,
    publicationTenant, publicationSegment, generation, -, -, stale⟩ := mem_livePublications older.kept
  have active := inv.activeProjection_of_pointer projected pTenant running
  obtain ⟨deviceActive, keyActive⟩ := owner.device_active
  obtain ⟨target, targeted⟩ := older.target
  rw [compatibleCatalogRows_eq, if_pos serves, List.mem_insertionSort, List.mem_flatMap]
  refine ⟨a, ?_, ?_⟩
  · simp only [RouteStore.compatiblePeers, List.mem_flatMap, List.mem_filter, List.mem_map,
      Bool.and_eq_true, beq_iff_eq]
    refine ⟨a, ⟨older.attachment, ⟨⟨⟨⟨tenant.symm, rfl⟩, older.routed⟩, older.site⟩, ?_⟩, ?_⟩, target, ?_,
      rfl⟩
    · rw [older.tenant, older.device]
      exact deviceActive
    · rw [older.tenant, older.device, older.deviceKey]
      exact keyActive
    · have facts := List.mem_filter.mp targeted
      simp only [Bool.and_eq_true, beq_iff_eq] at facts
      exact facts
  · simp only [RouteStore.compatibleOf, RouteStore.compatibleProjections,
      RouteStore.retainedPublications, List.mem_flatMap, List.mem_map, List.mem_filter,
      Bool.and_eq_true, Bool.or_eq_true, beq_iff_eq, bne_iff_ne, decide_eq_true_eq,
      Bool.not_eq_true']
    refine ⟨p, ⟨⟨projected, ⟨⟨⟨⟨⟨⟨pTenant, pSegment⟩, pSite⟩, pAttachment⟩, pDevice⟩, pKey⟩, ?_⟩⟩,
      ⟨⟨remote, below⟩, ?_⟩, ?_⟩, live.2, ⟨live.2, ?_, live.1, ?_, rfl⟩, rfl⟩
    · left
      rw [active]
      rfl
    · right
      rcases window with previous | ⟨-, inside, -⟩
      · unfold maxCompatibilityGenerations
        omega
      · exact inside
    · rcases window with previous | ⟨isolated, -, unchanged⟩
      · exact .inl previous
      · exact .inr ⟨isolated, unchanged⟩
    · exact ⟨published, ⟨⟨⟨older.own, publicationTenant⟩, publicationSegment⟩, generation⟩, stale⟩
    · exact ⟨member, ⟨⟨⟨memberTenant, owned.symm⟩, memberProjection⟩, memberId⟩, memberAttachment⟩

/-- In every state reached by publications that name attachments, a grant for a
    requested policy of an older generation is one that every other device of
    the segment is told about when its node serves the current generation: its
    catalog lists the projection with that generation and content hash, and no
    other version of it. -/
theorem granted_policy_cataloged (sha256 : Bytes → Hash) {start : RouteStore}
    (empty : start.Unpublished) (calls : List RouteCall)
    (own : ∀ isolation write, .publish isolation write ∈ calls →
      ∀ projection ∈ write.projections, projection.projectionId = projection.attachmentId)
    (keys : ((run (routeStep sha256) start calls).topology.attachments.map (·.id)).Nodup)
    (tables : AuthorizationTables) (policyIsolation : Bool) (now : Instant)
    {lookup : AuthorizationLookup} {requested : AuthorizationPolicyRef} {grant : AuthorizationRecord}
    {policy : AuthorizationRoutePolicy}
    (granted : loadForPolicy (run (routeStep sha256) start calls) tables policyIsolation now lookup
      (some requested) = .ok (some grant)) (bound : grant.routePolicy = some policy)
    (older : ∀ segment ∈ (run (routeStep sha256) start calls).segments,
      segment.id = policy.segmentId → policy.segmentGeneration < segment.currentGeneration)
    {peer : RuntimeConfigurationLookup} (other : peer ≠ lookup.device)
    {record : RuntimeConfigurationRecord}
    (loaded : loadCurrentRuntimeConfiguration (run (routeStep sha256) start calls) now
      policyIsolation peer = .ok (.current record))
    (fellow : record.segmentId = policy.segmentId)
    (serves : (run (routeStep sha256) start calls).servesTransport peer record.segmentId
      record.segmentGeneration record.projectionId = true) :
    (∃ entry ∈ record.compatibilityGenerations,
      entry.segmentGeneration = policy.segmentGeneration ∧
      ∃ listed ∈ entry.peerProjectionCatalog, listed.projectionId = policy.projectionId ∧
        listed.projectionGeneration = policy.projectionGeneration ∧
        listed.projectionContentHash = policy.projectionContentHash) ∧
    ∀ listed ∈ record.compatiblePeers, listed.projectionId = policy.projectionId →
      listed.projectionGeneration = policy.projectionGeneration ∧
      listed.projectionContentHash = policy.projectionContentHash := by
  have inv : Cataloged (run (routeStep sha256) start calls) := run_cataloged sha256 empty calls
  have named : NamesAttachments (run (routeStep sha256) start calls) :=
    run_namesAttachments sha256 own empty.namesAttachments
  generalize run (routeStep sha256) start calls = store at *
  obtain ⟨account, a, segment, p, live, owner, facts⟩ := inv.granted_older granted bound
  obtain rfl := facts.result
  obtain ⟨projected, pTenant, pSegment, -, pAttachment, -, -⟩ := mem_attachmentVersions facts.version
  obtain ⟨-, -, -, -, -, -, -, -, -, number, -⟩ := mem_livePublications facts.kept
  have below : p.segmentGeneration < segment.currentGeneration := by
    rw [← number]
    exact older segment facts.segmentPresent (facts.segmentId.trans pSegment.symm)
  obtain ⟨a', segment', delivery, phase, groups, assigned, rfl⟩ :=
    load_assigned inv named keys loaded
  obtain ⟨present, present', tenant', id', peerTenant, peerDevice, peerKey⟩ :=
    mem_attachedSegments assigned.attached
  obtain ⟨dProjected, -, -, -, -, -, -, dTenant, dSegment, dAttachment, -, -, current⟩ :=
    mem_deliveries assigned.joined
  -- both devices are attached to the one segment row
  have segmentId : delivery.projection.segmentId = a.segmentId := fellow.trans pSegment
  have home : segment' = segment := by
    refine eq_of_key inv.rollout.chain.heads.ids present' facts.segmentPresent ?_
    rw [id', facts.segmentId, ← segmentId, dSegment]
  subst home
  have tenant : peer.tenantId = a.tenantId := by
    rw [← peerTenant, ← tenant', facts.segmentTenant]
  have remote : p.projectionId ≠ delivery.projection.projectionId := by
    intro same
    rw [named p projected, named delivery.projection dProjected, pAttachment, dAttachment] at same
    have equal := eq_of_key keys facts.attachment present same
    subst equal
    have device := Option.some.inj (peerDevice.symm.trans facts.device)
    have key := Option.some.inj (peerKey.symm.trans facts.deviceKey)
    apply other
    cases peer with
    | mk peerTenantId peerDeviceId peerKeyId =>
        simp only at tenant device key
        rw [AuthorizationLookup.device, tenant, device, key, facts.tenant]
  have row : (p, live.2) ∈ compatibleWith store policyIsolation now peer delivery.projection := by
    rw [compatibleWith, segmentId, current]
    refine facts.cataloged inv owner below tenant remote ?_
    rw [← segmentId, ← current]
    exact serves
  have compatible := assigned.grouped.compatible inv named keys (congrArg (·.1) assigned.owner) phase
  obtain ⟨entry, listed, generation, peerListed⟩ := assigned.grouped.listed _ row
  refine ⟨⟨entry, listed, generation, p.peer, peerListed, rfl, rfl, rfl⟩, ?_⟩
  intro other listed' same
  have mine : p.peer ∈ (deliveredRecord store peer delivery phase groups).compatiblePeers :=
    List.mem_flatMap.mpr ⟨entry, listed, peerListed⟩
  have equal := eq_of_key compatible.peers listed' mine same
  rw [equal]
  exact ⟨rfl, rfl⟩

end Requested

def entitledTopology : Topology :=
  { servedTopology with
    subscriptions := [⟨6, 1, true⟩]
    entitlements := [⟨7, 1, 6, 5, privateTunConnect, 0, 0, true⟩] }

def sampleTables : AuthorizationTables where
  policies := []
  revocationGenerations := []
  authorizationGenerations := [⟨1, 1⟩]
  publicKey := fun _ => [1]
  assuranceLevel := fun _ => 1
  inGrace := fun _ => false
  entitlementGeneration := fun _ => 1
  quotaJson := fun _ => "quota"

def grantLookup (site : Nat) : AuthorizationLookup :=
  ⟨1, BitVec.ofNat 128 (10 + site), BitVec.ofNat 128 (20 + site), 5⟩

def sampleAccount (site : Nat) : AuthorizationRecord where
  organizationId := 2
  tenantId := 1
  subscriptionId := 6
  deviceId := BitVec.ofNat 128 (10 + site)
  deviceStatus := .active
  deviceKeyId := BitVec.ofNat 128 (20 + site)
  devicePublicKey := [1]
  assuranceLevel := 1
  nodePoolId := 5
  isPrivate := true
  entitlementId := 7
  servicePermission := privateTunConnect
  entitlementActive := true
  entitlementGeneration := 1
  subscriptionPermits := true
  policyGeneration := 0
  revocationGeneration := 0
  authorizationGeneration := 1
  quotaJson := "quota"
  routePolicy := none

def grantedPolicy (generation site : Nat) : AuthorizationRoutePolicy :=
  ((attachmentProjection generation site).projectionRow 0).routePolicy
    (attachmentWrite generation false).publicationRow

def entitledRun : List RouteCall :=
  [.environment entitledTopology [], .publish false (attachmentWrite 1 false)]

def blockedRun : List RouteCall :=
  entitledRun ++ [.publish false (attachmentWrite 2 false), sampleReport 2 1 .rejected]

def shrunkRun : List RouteCall :=
  entitledRun ++ [.environment { entitledTopology with
    attachments := [⟨41, 1, 3, some 31, .device, some 11, some 21, 0x64400001, .disabled, 1⟩,
      ⟨42, 1, 3, some 32, .device, some 12, some 22, 0x64400002, .active, 1⟩] } [],
    .publish false { attachmentWrite 2 false with projections := [attachmentProjection 2 2] }]

def deliveredTo (generation site ordinal : Nat) (write : SegmentPublicationWrite)
    (catalog : List ProjectionRow) (compatibility : List RuntimeCompatibilityGeneration) :
    RuntimeConfigurationRecord :=
  assembleRecord
    { projection := (attachmentProjection generation site).projectionRow write.publicationId
      publication := write.publicationRow
      member := (attachmentProjection generation site).memberRow write.publicationId ordinal
      rollout := write.rolloutRow }
    .prepare catalog compatibility

/-- A blocked rollout grants the generation before the delivered one, and a
    rollout with fewer members than the one before refuses a device whose
    configuration is delivered. -/
theorem default_grant_diverges :
    (let store := run (routeStep fun _ => 0) twoSiteStore blockedRun
    (∃ record, loadCurrentRuntimeConfiguration store 0 false (grantLookup 1).device
        = .ok (.current record) ∧ record.segmentGeneration = 2) ∧
      (∀ publication ∈ store.publications, unixTimestamp 0 ≤ publication.expiresAt ∧
        unixTimestamp 0 ≤ publication.staleUntil) ∧
      loadForPolicy store sampleTables false 0 (grantLookup 1) none
        = .ok (some { sampleAccount 1 with routePolicy := some (grantedPolicy 1 1) })) ∧
    (let store := run (routeStep fun _ => 0) twoSiteStore shrunkRun
    (∃ record, loadCurrentRuntimeConfiguration store 0 false (grantLookup 2).device
        = .ok (.current record) ∧ record.segmentGeneration = 2) ∧
      (∀ publication ∈ store.publications, unixTimestamp 0 ≤ publication.expiresAt ∧
        unixTimestamp 0 ≤ publication.staleUntil) ∧
      loadForPolicy store sampleTables false 0 (grantLookup 2) none
        = .error .invalidAuthorizationScope) := by
  refine ⟨⟨⟨deliveredTo 2 1 1 (attachmentWrite 2 false)
      [(attachmentProjection 2 2).projectionRow 0x9002]
      [⟨1, sampleHash 1, [1], [((attachmentProjection 1 2).projectionRow 0x9001).peer]⟩], ?_, rfl⟩,
      ?_, ?_⟩, ⟨deliveredTo 2 2 1 { attachmentWrite 2 false with projections := [attachmentProjection 2 2] }
      [] [], ?_, rfl⟩, ?_, ?_⟩
  · decide +kernel
  · decide +kernel
  · decide +kernel
  · decide +kernel
  · decide +kernel
  · decide +kernel

theorem default_grant_iff_first_publication :
    ∃ grant policy, loadForPolicy (run (routeStep fun _ => 0) twoSiteStore entitledRun)
        sampleTables false 0 (grantLookup 1) none = .ok (some grant) ∧
      grant.routePolicy = some policy ∧
      NamesDelivered policy (deliveredTo 1 1 1 (attachmentWrite 1 false)
        [(attachmentProjection 1 2).projectionRow 0x9001] []) := by
  have owner : Account (run (routeStep fun _ => 0) twoSiteStore entitledRun) sampleTables
      (grantLookup 1) (sampleAccount 1) := ⟨by decide +kernel, rfl⟩
  refine (default_grant_iff (fun _ => 0) twoSiteStore_unpublished entitledRun sampleTables 0 false
    false ?_ owner rfl ?_ ?_).mpr ?_
  · decide
  · decide +kernel
  · decide +kernel
  · decide +kernel

def olderRun : List RouteCall :=
  entitledRun ++ [sampleReport 1 1 .prepared, sampleReport 1 2 .prepared, sampleReport 1 1 .active,
    .publish false (attachmentWrite 2 false)]

def olderRecord : RuntimeConfigurationRecord :=
  deliveredTo 2 2 2 (attachmentWrite 2 false) [(attachmentProjection 2 1).projectionRow 0x9002]
    [⟨1, sampleHash 1, [1], [((attachmentProjection 1 1).projectionRow 0x9001).peer]⟩]

theorem granted_policy_cataloged_two_sites :
    ∃ entry ∈ olderRecord.compatibilityGenerations, entry.segmentGeneration = 1 ∧
      ∃ listed ∈ entry.peerProjectionCatalog, listed.projectionId = 41 ∧
        listed.projectionGeneration = 1 ∧ listed.projectionContentHash = sampleHash 1 := by
  have granted : loadForPolicy (run (routeStep fun _ => 0) twoSiteStore olderRun) sampleTables true 0
      (grantLookup 1) (some ⟨41, 1, sampleHash 1⟩)
        = .ok (some { sampleAccount 1 with routePolicy := some (grantedPolicy 1 1) }) := by
    decide +kernel
  have delivered : loadCurrentRuntimeConfiguration (run (routeStep fun _ => 0) twoSiteStore olderRun)
      0 true (sampleLookup 2) = .ok (.current olderRecord) := by
    decide +kernel
  refine (granted_policy_cataloged (fun _ => 0) twoSiteStore_unpublished olderRun ?_ ?_ sampleTables
    true 0 granted rfl ?_ ?_ delivered rfl ?_).1
  · intro isolation write published
    simp only [olderRun, entitledRun, sampleReport, List.cons_append, List.nil_append, List.mem_cons,
      RouteCall.publish.injEq, reduceCtorEq, false_or, List.not_mem_nil, or_false] at published
    rcases published with ⟨-, rfl⟩ | ⟨-, rfl⟩
    · decide
    · decide
  · decide +kernel
  · decide +kernel
  · decide
  · decide +kernel

end CandyCloud
