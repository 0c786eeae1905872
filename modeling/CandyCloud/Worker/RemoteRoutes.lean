import CandyCloud.Worker.EgressPriority
import CandyCloud.Worker.Stages

/-! # Destinations of a projection

The remote routes of a projection are the compiled routes of the other sites and the egress
routes of its own. Each of the two holds a destination once.
-/

namespace CandyCloud

open Foundation

/-- No destination twice, and none of the device's own. -/
structure SiteRouteProjectionV1.Unambiguous (projection : SiteRouteProjectionV1) : Prop where
  distinct : (projection.remoteRoutes.map (·.destinationPrefix)).Nodup
  foreign : ∀ route ∈ projection.remoteRoutes, route.destinationPrefix ∉ projection.localPrefixes

/-- No prefix of a site with an active attachment is what a foremost rule sends a
    participating site to an egress for. -/
def SegmentControlSnapshot.EgressApart (snapshot : SegmentControlSnapshot)
    (rules : List PolicyRule) : Prop :=
  let view := segmentView snapshot.segmentId snapshot.resources
  ∀ core, view.coreAttachments = .ok core →
    ∀ entry ∈ view.activeAttachments, entry.1.id ∈ view.participants core →
      ∀ destination remote egressId,
        Foremost view.attachmentSites view.egresses rules entry.2.siteId destination remote →
        remote.2.action = .remoteEgress egressId →
          ∀ value ∈ view.prefixes, value.siteId ∈ view.attachmentSites →
            value.prefix_ ≠ destination

variable {α : Type} {routes : List SegmentRouteV1} {plan : DeviceProjectionInput}
  {built : BuiltDeviceProjection} {siteId : Uuid} {egressRoutes : List RemoteRouteV1}
  {rules : List EffectiveRemoteEgressRule} {block : Ipv4PrefixV1}
  {egresses : Uuid → Option EgressV1} {entry : ResourceMetadataV1 × AttachmentV1}

theorem isChain_of_adjacent {κ : Type} [DecidableEq κ] {key : α → κ} {l : List α}
    (apart : ((l.zip l.tail).any fun pair => decide (key pair.1 = key pair.2)) = false) :
    (l.map key).IsChain (· ≠ ·) := by
  induction l with
  | nil => exact .nil
  | cons a l ih =>
      cases l with
      | nil => exact .singleton _
      | cons b l =>
          rw [List.tail_cons, List.zip_cons_cons, List.any_cons, Bool.or_eq_false_iff,
            decide_eq_false_iff_not] at apart
          exact List.isChain_cons_cons.mpr ⟨apart.1, ih apart.2⟩

section Publication

variable {signer : RouteSigner} {input : RoutePublicationInput}

theorem moduleSeal_source {objectType : BitVec 32} {source : α} {request : Except String Bytes}
    {sealedObject : SealedRouteObject α}
    (done : signer.moduleSeal objectType source request = .ok sealedObject) :
    sealedObject.source = source := by
  simp only [RouteSigner.moduleSeal, bind_ok, pure_ok] at done
  obtain ⟨_, -, _, -, _, -, _, -, _, -, _, -, rfl⟩ := done
  rfl

theorem buildDeviceProjection_ok {devices : List RouteAttachmentV1} {contentHash : Hash}
    (done : buildDeviceProjection signer input routes devices contentHash plan = .ok built) :
    ∃ device ∈ devices, device.attachmentId = plan.attachmentId ∧
      ∃ siteId deviceId deviceKeyId remote, device.siteId = some siteId ∧
        device.principal = .device deviceId deviceKeyId ∧
        remoteRoutes routes siteId plan.egressRoutes = .ok remote ∧
        built.publicationId = plan.publicationId ∧ signer.signSiteProjection (plan.projection input
          contentHash device siteId deviceId deviceKeyId remote) = .ok built.sealedProjection := by
  unfold buildDeviceProjection at done
  obtain ⟨device, found, done⟩ := bind_ok.mp done
  have found := orElse_ok.mp found
  have selects := List.find?_some found
  obtain ⟨_, -, done⟩ := bind_ok.mp done
  cases principal : device.principal with
  | node nodeId nodeKeyId =>
      rw [principal] at done
      obtain ⟨_, refused, -⟩ := bind_ok.mp done
      cases refused
  | device deviceId deviceKeyId =>
      rw [principal] at done
      obtain ⟨_, passed, done⟩ := bind_ok.mp done
      cases passed
      simp only [bind_ok, orElse_ok, pure_ok] at done
      obtain ⟨siteId, site, remote, collected, _, -, _, -, sealedProjection, signed, rfl⟩ := done
      exact ⟨device, List.mem_of_find?_eq_some found, of_decide_eq_true selects, siteId, deviceId,
        deviceKeyId, remote, site, principal, collected, rfl, signed⟩

def RoutePublicationInput.segmentSnapshot (input : RoutePublicationInput)
    (routes : List SegmentRouteV1) : SegmentRouteSnapshotV1 where
  tenantId := input.tenantId
  segmentId := input.segmentId
  segmentGeneration := input.generation
  segmentOverlayPrefix := input.segmentOverlayPrefix
  attachments := sortedAttachments input
  routes
  notBefore := input.notBefore
  expiresAt := input.expiresAt
  staleUntil := input.staleUntil
  previousHash := input.previousHash

/-- What a publication that is built holds. -/
structure Published (signer : RouteSigner) (input : RoutePublicationInput)
    (publication : BuiltRoutePublication) (routes : List SegmentRouteV1) : Prop where
  identity : publication.publicationId = input.publicationId ∧
    publication.auditEventId = input.auditEventId ∧ publication.actorId = input.actorId
  compiled : compileRoutes (sortedAttachments input) = .ok routes
  segment : signer.signSegmentSnapshot (input.segmentSnapshot routes) = .ok publication.segment
  once : (input.projections.map (·.attachmentId)).Nodup
  projections : (sortedPlans input).mapM (buildDeviceProjection signer input routes
    ((sortedAttachments input).filter RouteAttachmentV1.isActiveDevice)
      publication.segment.contentHash) = .ok publication.projections

theorem buildRoutePublication_ok {publication : BuiltRoutePublication}
    (done : buildRoutePublication signer input = .ok publication) :
    ∃ routes, Published signer input publication routes := by
  simp only [buildRoutePublication, bind_ok, reject_ok, pure_ok] at done
  obtain ⟨_, -, routes, compiled, _, -, segment, signed, _, apart, projections, built, rfl⟩ := done
  refine ⟨routes, ⟨rfl, rfl, rfl⟩, compiled, signed, ?_, built⟩
  have chain : ((sortedPlans input).map (·.attachmentId)).IsChain (· ≠ ·) :=
    isChain_of_adjacent apart
  have ordered : ((sortedPlans input).map (·.attachmentId)).Pairwise (· ≤ ·) := by
    have trans : IsTrans DeviceProjectionInput fun a b => a.attachmentId ≤ b.attachmentId :=
      ⟨fun _ _ _ => BitVec.le_trans⟩
    have total : Std.Total fun a b : DeviceProjectionInput => a.attachmentId ≤ b.attachmentId :=
      ⟨fun _ _ => BitVec.le_total _ _⟩
    rw [sortedPlans, List.pairwise_map]
    exact List.pairwise_insertionSort _ input.projections
  have unique := nodup_of_isChain_ne (fun _ _ => BitVec.le_antisymm) ordered chain
  exact ((List.perm_insertionSort _ input.projections).map _).nodup_iff.mp unique

theorem mem_sortedPlans :
    plan ∈ sortedPlans input ↔ plan ∈ input.projections :=
  List.mem_insertionSort _

theorem remoteRoutes_destinations {remote : List RemoteRouteV1}
    (collected : remoteRoutes routes siteId egressRoutes = .ok remote) :
    (remote.map (·.destinationPrefix)).Perm
      ((routes.filter fun route => decide (route.ownerSiteId ≠ some siteId)).map
        (·.destinationPrefix) ++ egressRoutes.map (·.destinationPrefix)) := by
  simp only [remoteRoutes, bind_ok, pure_ok] at collected
  obtain ⟨others, converted, rfl⟩ := collected
  have named : others.map (·.destinationPrefix) = (routes.filter fun route =>
      decide (route.ownerSiteId ≠ some siteId)).map (·.destinationPrefix) := by
    refine map_mapM ?_ converted
    intro route made conversion
    simp only [bind_ok, pure_ok] at conversion
    obtain ⟨_, -, rfl⟩ := conversion
    rfl
  rw [← named, ← List.map_append]
  exact (List.perm_insertionSort _ _).map _

theorem unambiguous_iff {found : List SegmentRouteV1} {projection : SiteRouteProjectionV1}
    (announced : Compiled (announcementsOf (sortedAttachments input)) found)
    (collected : remoteRoutes (finishRoutes found) siteId egressRoutes =
      .ok projection.remoteRoutes) (once : (egressRoutes.map (·.destinationPrefix)).Nodup)
    (announces : ∀ block, block ∈ projection.localPrefixes ↔
      ∃ attachment ∈ sortedAttachments input, attachment.Announces siteId block) :
    projection.Unambiguous ↔ ∀ route ∈ egressRoutes,
      route.destinationPrefix ∉ (finishRoutes found).map (·.destinationPrefix) := by
  have destinations := remoteRoutes_destinations collected
  have distinct := (finishRoutes_destinations found).nodup_iff.mpr announced.distinct
  -- A compiled route that is announced at the site is owned by the site.
  have own : ∀ route ∈ finishRoutes found, route.ownerSiteId = some siteId ↔
      route.destinationPrefix ∈ projection.localPrefixes := by
    intro route member
    rw [announces]
    constructor
    · intro owned
      have listed := announced.mem_destinations.mp (List.mem_map_of_mem member)
      obtain ⟨attachment, present, site, announcing⟩ := listed
      have same := announced.site member present announcing
      rw [owned, Option.some.injEq] at same
      exact ⟨attachment, present, same ▸ announcing⟩
    · intro listed
      obtain ⟨attachment, present, announcing⟩ := listed
      exact announced.site member present announcing
  constructor
  · intro unambiguous route member listed
    obtain ⟨compiled, present, same⟩ := List.mem_map.mp listed
    by_cases owned : compiled.ownerSiteId = some siteId
    · apply unambiguous.foreign route ((mem_remoteRoutes collected).mpr (.inl member))
      rw [← same]
      exact (own compiled present).mp owned
    · have apart := List.nodup_append.mp (destinations.nodup_iff.mp unambiguous.distinct)
      refine apart.2.2 route.destinationPrefix ?_ _ (List.mem_map_of_mem member) rfl
      rw [← same]
      exact List.mem_map_of_mem (List.mem_filter.mpr ⟨present, decide_eq_true owned⟩)
  · intro apart
    constructor
    · rw [destinations.nodup_iff, List.nodup_append]
      refine ⟨distinct.sublist (List.filter_sublist.map _), once, ?_⟩
      intro block other egress chosen same
      obtain ⟨compiled, kept, rfl⟩ := List.mem_map.mp other
      obtain ⟨route, member, rfl⟩ := List.mem_map.mp chosen
      apply apart route member
      rw [← same]
      exact List.mem_map_of_mem (List.mem_of_mem_filter kept)
    · intro route member local_
      rcases (mem_remoteRoutes collected).mp member with egress | compiled
      · apply apart route egress
        obtain ⟨attachment, present, announcing⟩ := (announces _).mp local_
        exact announced.mem_destinations.mpr ⟨attachment, present, siteId, announcing⟩
      · obtain ⟨compiled, present, foreign, -, same, -⟩ := compiled
        rw [← same] at local_
        exact foreign ((own compiled present).mpr local_)

end Publication

/-- The destinations that the rules have for a site. -/
def destinationsOf (rules : List EffectiveRemoteEgressRule) (siteId : Uuid) : List Ipv4PrefixV1 :=
  (rules.filter fun rule => rule.sourceSiteId == siteId).map (·.destination)

theorem mem_destinationsOf : block ∈ destinationsOf rules siteId ↔
      (siteId, block) ∈ rules.map EffectiveRemoteEgressRule.pair := by
  simp only [destinationsOf, List.mem_map, List.mem_filter, beq_iff_eq,
    EffectiveRemoteEgressRule.pair, Prod.mk.injEq, and_assoc]

theorem destinationsOf_nodup (once : (rules.map EffectiveRemoteEgressRule.pair).Nodup)
    (siteId : Uuid) :
    (destinationsOf rules siteId).Nodup := by
  simp only [destinationsOf, List.Nodup, List.pairwise_map, List.pairwise_filter] at once ⊢
  refine once.imp ?_
  intro a b apart ownA ownB same
  exact apart (Prod.ext ((beq_iff_eq.mp ownA).trans (beq_iff_eq.mp ownB).symm) same)

theorem planRule_routes {plan plan' : EgressPlan} {rule : EffectiveRemoteEgressRule}
    (done : planRule egresses plan rule = .ok plan')
    (fresh : rule.destination ∉ (plan.routes rule.sourceSiteId).map (·.destinationPrefix))
    (siteId : Uuid) : (plan'.routes siteId).map (·.destinationPrefix) =
      (plan.routes siteId).map (·.destinationPrefix) ++ destinationsOf [rule] siteId := by
  simp only [planRule, bind_ok, pure_ok] at done
  obtain ⟨egress, -, gatewayPlan, first, sourcePlan, second, -, -, rfl⟩ := done
  have same : sourcePlan.routes = plan.routes :=
    (authorize_ok second).1.trans (authorize_ok first).1
  by_cases own : rule.sourceSiteId = siteId
  · subst own
    have new : (⟨rule.destination, egress.siteId, [egress.attachmentId]⟩ : RemoteRouteV1) ∉
        plan.routes rule.sourceSiteId := fun listed =>
      fresh (List.mem_map_of_mem (f := (·.destinationPrefix)) listed)
    simp [new, same, destinationsOf]
  · simp [own, Ne.symm own, same, destinationsOf]

theorem planEgress_destinations {plan : EgressPlan}
    (once : (rules.map EffectiveRemoteEgressRule.pair).Nodup)
    (done : planEgress egresses rules = .ok plan) (siteId : Uuid) :
    (plan.routes siteId).map (·.destinationPrefix) = destinationsOf rules siteId := by
  refine updateEach_processed (P := fun seen plan =>
    (seen.map EffectiveRemoteEgressRule.pair).Nodup → ∀ siteId,
      (plan.routes siteId).map (·.destinationPrefix) = destinationsOf seen siteId)
    ?_ ?_ done once siteId
  · intro seen rule plan plan' _ _ planned step distinct siteId
    rw [List.map_append, List.nodup_append] at distinct
    have listed := planned distinct.1
    have fresh : rule.destination ∉ (plan.routes rule.sourceSiteId).map (·.destinationPrefix) := by
      rw [listed, mem_destinationsOf]
      exact fun member => distinct.2.2 _ member rule.pair (List.mem_singleton.mpr rfl) rfl
    rw [planRule_routes step fresh, listed, destinationsOf, destinationsOf, ← List.map_append,
      ← List.filter_append]
    rfl
  · intro _ siteId
    rfl

theorem mem_localPrefixes {view : SegmentView} {localPrefixes : List Ipv4PrefixV1}
    (read : view.localPrefixes siteId = .ok localPrefixes) :
    block ∈ localPrefixes ↔ ∃ value ∈ view.prefixes, value.siteId = siteId ∧
      value.prefix_ = block := by
  have same : localPrefixes = (view.prefixes.filter fun value => value.siteId == siteId).map
      (·.prefix_) := by
    refine (List.map_id _).symm.trans (map_mapM ?_ read)
    intro value made conversion
    cases valid : value.prefix_.validate with
    | error error => simp [valid] at conversion
    | ok _ =>
        simp only [valid, Except.ok.injEq] at conversion
        exact conversion.symm
  rw [same, List.mem_map]
  simp only [List.mem_filter, beq_iff_eq, and_assoc]

section Announced

variable {env : BuildEnvironment} {store : RouteStore} {snapshot : SegmentControlSnapshot}
  {core : List SegmentAttachmentV1} {frame : PublicationFrame} {input : RoutePublicationInput}

theorem Builds.announced_iff (parts : Builds env store snapshot core frame input)
    : (∃ attachment ∈ sortedAttachments input,
      attachment.Announces siteId block) ↔ siteId ∈ frame.view.attachmentSites ∧
        ∃ value ∈ frame.view.prefixes, value.siteId = siteId ∧ value.prefix_ = block := by
  have attached : siteId ∈ frame.view.attachmentSites ↔ ∃ entry ∈ frame.view.attachments,
      entry.1.state = .active ∧ entry.2.siteId = siteId := by
    simp only [SegmentView.attachmentSites, SegmentView.activeAttachments, List.mem_dedup,
      List.mem_map, List.mem_filter, beq_iff_eq, and_assoc]
  rw [attached]
  constructor
  · intro announced
    obtain ⟨attachment, member, active, site, inside⟩ := announced
    obtain ⟨-, origin, -, rfl, metadata, value, listed, state, hands⟩ :=
      parts.active_origin member active
    cases site
    exact ⟨⟨(metadata, value), listed, state, hands.site.symm⟩,
      (mem_localPrefixes (hands.site ▸ hands.prefixes)).mp inside⟩
  · intro owned
    obtain ⟨⟨⟨metadata, value⟩, listed, active, rfl⟩, inside⟩ := owned
    obtain ⟨attachment, member, state, hands⟩ :=
      coreAttachment_present parts.converted listed active
    have announced := (mem_localPrefixes hands.prefixes).mpr inside
    have participates := parts.owner_participates member state (List.ne_nil_of_mem announced)
    refine ⟨attachment.route, parts.mem_sorted.mpr ⟨attachment, member, ?_⟩, state,
      congrArg some hands.site, announced⟩
    rw [withdrawOutsiders_inside participates]

theorem Builds.device_origin (parts : Builds env store snapshot core frame input)
    (once : (input.projections.map (·.attachmentId)).Nodup)
    (listed : entry ∈ frame.view.attachments) (active : entry.1.state = .active)
    (participates : entry.1.id ∈ frame.participants) {device : RouteAttachmentV1}
    (member : device ∈ (sortedAttachments input).filter RouteAttachmentV1.isActiveDevice)
    (named : device.attachmentId = entry.1.id) :
    ∃ origin ∈ core, origin.route = device ∧ frame.view.Hands entry.1 entry.2 origin := by
  obtain ⟨sorted, activeDevice⟩ := List.mem_filter.mp member
  have state : device.state = .active := by
    rw [RouteAttachmentV1.isActiveDevice, Bool.and_eq_true] at activeDevice
    exact of_decide_eq_true activeDevice.1
  obtain ⟨inside, origin, present, rfl, metadata, value, listed', active', hands⟩ :=
    parts.active_origin sorted state
  rw [parts.projected_ids] at once
  have same : entry = (metadata, value) := by
    refine eq_of_key once (List.mem_filter.mpr ⟨listed, ?_⟩) (List.mem_filter.mpr ⟨listed', ?_⟩)
      (named.symm.trans hands.id)
    · simp [active, participates]
    · have taking : metadata.id ∈ frame.participants := hands.id ▸ inside
      simp [active', taking]
  rw [same]
  exact ⟨origin, present, rfl, hands⟩

variable {signer : RouteSigner} {publication : BuiltRoutePublication} {found : List SegmentRouteV1}
  {effective : List EffectiveRemoteEgressRule}

/-- The projection of an attachment is unambiguous when the destinations that the rules
    have for its site are the prefixes of no attached site. -/
theorem Builds.unambiguous_iff (parts : Builds env store snapshot core frame input)
    (whole : Published signer input publication (finishRoutes found))
    (announced : Compiled (announcementsOf (sortedAttachments input)) found)
    (once : (effective.map EffectiveRemoteEgressRule.pair).Nodup)
    (planned : planEgress frame.view.egresses effective = .ok frame.plan)
    (listed : entry ∈ frame.view.attachments) (active : entry.1.state = .active)
    (participates : entry.1.id ∈ frame.participants)
    (made : buildProjection env store frame entry.1 entry.2 = .ok plan)
    (finished : buildDeviceProjection signer input
      (finishRoutes found) ((sortedAttachments input).filter RouteAttachmentV1.isActiveDevice)
        publication.segment.contentHash plan = .ok built) :
    built.sealedProjection.source.Unambiguous ↔
      ∀ block, (entry.2.siteId, block) ∈ effective.map EffectiveRemoteEgressRule.pair →
        ∀ value ∈ frame.view.prefixes, value.siteId ∈ frame.view.attachmentSites →
          value.prefix_ ≠ block := by
  obtain ⟨named, -, egress, -⟩ := buildProjection_ok made
  obtain ⟨device, member, same, siteId, deviceId, deviceKeyId, remote, site, -, collected, -,
    signed⟩ := buildDeviceProjection_ok finished
  have source := moduleSeal_source signed
  obtain ⟨origin, -, rfl, hands⟩ := parts.device_origin whole.once listed active participates member
    (same.trans named)
  have place : siteId = entry.2.siteId := (Option.some.inj site).symm.trans hands.site
  subst place
  have destinations : plan.egressRoutes.map (·.destinationPrefix) =
      destinationsOf effective entry.2.siteId := by
    rw [egress]
    exact planEgress_destinations once planned entry.2.siteId
  have attached : entry.2.siteId ∈ frame.view.attachmentSites := by
    simp only [SegmentView.attachmentSites, SegmentView.activeAttachments, List.mem_dedup,
      List.mem_map, List.mem_filter, beq_iff_eq]
    exact ⟨entry, ⟨listed, active⟩, rfl⟩
  rw [source, CandyCloud.unambiguous_iff announced collected]
  · constructor
    · intro apart block ruled value present owned equal
      rw [← mem_destinationsOf, ← destinations] at ruled
      obtain ⟨route, chosen, rfl⟩ := List.mem_map.mp ruled
      apply apart route chosen
      obtain ⟨attachment, there, announces⟩ := parts.announced_iff.mpr ⟨owned, value, present, rfl,
        equal⟩
      exact announced.mem_destinations.mpr ⟨attachment, there, _, announces⟩
    · intro apart route chosen compiled
      obtain ⟨attachment, there, siteId, announces⟩ := announced.mem_destinations.mp compiled
      obtain ⟨owned, value, present, rfl, equal⟩ := parts.announced_iff.mp ⟨attachment, there,
        announces⟩
      refine apart route.destinationPrefix ?_ value present owned equal
      rw [← mem_destinationsOf, ← destinations]
      exact List.mem_map_of_mem chosen
  · rw [destinations]
    exact destinationsOf_nodup once entry.2.siteId
  · intro block
    rw [parts.announced_iff]
    exact (mem_localPrefixes hands.prefixes).trans (and_iff_right attached).symm

end Announced

/-- The projections of a publication are unambiguous exactly when no participating site
    is sent to an egress for a prefix of an attached site. -/
theorem projections_unambiguous_iff (signer : RouteSigner) (env : BuildEnvironment)
    (store : RouteStore) (snapshot : SegmentControlSnapshot) {rules : List PolicyRule}
    {input : RoutePublicationInput} {publication : BuiltRoutePublication}
    (collected : servicePolicyRules env.encoding env.geo snapshot.segmentId snapshot.resources =
      .ok rules)
    (built : buildInput env store snapshot = .ok input)
    (published : buildRoutePublication signer input = .ok publication) :
    (∀ projection ∈ publication.projections,
      projection.sealedProjection.source.Unambiguous) ↔ snapshot.EgressApart rules := by
  obtain ⟨core, frame, parts⟩ := buildInput_builds built
  obtain ⟨routes, whole⟩ := buildRoutePublication_ok published
  obtain ⟨found, rfl, announced⟩ := compileRoutes_compiled whole.compiled
  obtain ⟨rules', effective, collected', selected, planned⟩ := parts.planned
  cases collected.symm.trans collected'
  have spec := selection_effective selected
  have participants : frame.participants = frame.view.participants core := parts.participants
  have converted := parts.converted
  constructor
  · intro unambiguous core' same entry attached participates destination remote egressId foremost
      action
    rw [← parts.view] at same attached participates foremost ⊢
    cases converted.symm.trans same
    rw [← participants] at participates
    rw [SegmentView.activeAttachments, List.mem_filter, beq_iff_eq] at attached
    obtain ⟨plan, member, made⟩ := mapM_mem parts.projections (List.mem_filter.mpr
      ⟨attached.1, by simp [attached.2, participates]⟩)
    obtain ⟨projection, present, finished⟩ :=
      mapM_mem whole.projections (mem_sortedPlans.mpr member)
    obtain ⟨rule, inEffect, pair, -⟩ := spec.complete _ _ remote egressId foremost action
    exact (parts.unambiguous_iff whole announced spec.once planned attached.1 attached.2
      participates made finished).mp (unambiguous projection present) destination
        (pair ▸ List.mem_map_of_mem inEffect)
  · intro apart projection present
    obtain ⟨plan, sorted, finished⟩ := mem_mapM whole.projections present
    obtain ⟨entry, chosen, made⟩ := mem_mapM parts.projections (mem_sortedPlans.mp sorted)
    simp only [List.mem_filter, Bool.and_eq_true, beq_iff_eq, List.contains_iff_mem] at chosen
    obtain ⟨listed, active, participates⟩ := chosen
    refine (parts.unambiguous_iff whole announced spec.once planned listed active participates made
      finished).mpr ?_
    intro block ruled
    obtain ⟨rule, inEffect, pair⟩ := List.mem_map.mp ruled
    obtain ⟨site, rfl⟩ := Prod.mk.inj pair
    obtain ⟨remote, foremost, action, -⟩ := spec.sound rule inEffect
    rw [site] at foremost
    have attached : entry ∈ frame.view.activeAttachments :=
      List.mem_filter.mpr ⟨listed, beq_iff_eq.mpr active⟩
    rw [participants] at participates
    rw [parts.view] at converted attached participates foremost ⊢
    exact apart core converted entry attached participates _ remote rule.egressId foremost action

/-- The policy of the sample sends the prefix of the second site through its egress. -/
def prefixText : String := exceptionText "\"network\":\"10.2.0.0\",\"prefix_len\":16"

def prefixJson : ResourceSpecV1 → Bytes
  | .servicePolicy policy =>
      if policy.rules = exceptionRules ⟨0x0a020000, 16⟩ then utf8 prefixText
      else exceptionJson (.servicePolicy policy)
  | spec => exceptionJson spec

def prefixEnvironment : BuildEnvironment :=
  { egressEnvironment with
    encoding := ⟨fun bytes => ((exceptionHashes ++ [(utf8 prefixText,
      0x095490ad20cff1c8be59a9ea39d8782633fe76b97a4f752df3dd516d7f291ca6)]).lookup bytes).getD 0,
      prefixJson⟩ }

def BuiltDeviceProjection.blocks (built : BuiltDeviceProjection) :
    List Ipv4PrefixV1 × List Ipv4PrefixV1 :=
  (built.sealedProjection.source.remoteRoutes.map (·.destinationPrefix),
    built.sealedProjection.source.localPrefixes)

def publishedBlocks (snapshot : SegmentControlSnapshot) : Except InputError
    (Except RoutePublicationError (List (List Ipv4PrefixV1 × List Ipv4PrefixV1))) :=
  (buildInput prefixEnvironment egressStore snapshot).map fun input =>
    (buildRoutePublication sampleSigner input).map fun publication =>
      publication.projections.map BuiltDeviceProjection.blocks

/-- An egress to a site repeats the prefix that the site announces. -/
theorem egress_repeats_prefix :
    ∃ snapshot input publication, exceptionSnapshot ⟨0x0a020000, 16⟩ = .ok snapshot ∧
      buildInput prefixEnvironment egressStore snapshot = .ok input ∧
      buildRoutePublication sampleSigner input = .ok publication ∧
      publication.projections.map BuiltDeviceProjection.blocks =
        [([⟨0x0a020000, 16⟩, ⟨0x0a020000, 16⟩], [⟨0x0a010000, 16⟩]),
          ([⟨0x0a010000, 16⟩], [⟨0x0a020000, 16⟩])] ∧
      ¬ ∀ projection ∈ publication.projections,
        projection.sealedProjection.source.Unambiguous := by
  have read : (exceptionSnapshot ⟨0x0a020000, 16⟩).map publishedBlocks =
      .ok (.ok (.ok [([⟨0x0a020000, 16⟩, ⟨0x0a020000, 16⟩], [⟨0x0a010000, 16⟩]),
        ([⟨0x0a010000, 16⟩], [⟨0x0a020000, 16⟩])])) := by
    decide +kernel
  obtain ⟨snapshot, taken, facts⟩ := map_ok.mp read
  obtain ⟨input, built, finished⟩ := map_ok.mp facts
  obtain ⟨publication, published, listed⟩ := map_ok.mp finished
  refine ⟨snapshot, input, publication, taken, built, published, listed, ?_⟩
  intro unambiguous
  obtain ⟨projection, present, same⟩ : ∃ projection ∈ publication.projections,
      projection.blocks = ([⟨0x0a020000, 16⟩, ⟨0x0a020000, 16⟩], [⟨0x0a010000, 16⟩]) := by
    rw [← List.mem_map, listed]
    exact List.mem_cons_self
  have distinct : projection.blocks.1.Nodup := (unambiguous projection present).distinct
  rw [same] at distinct
  exact absurd distinct (by decide)

theorem egress_elsewhere_apart :
    ∃ snapshot rules input publication, exceptionSnapshot ⟨0xcb007100, 24⟩ = .ok snapshot ∧
      servicePolicyRules prefixEnvironment.encoding prefixEnvironment.geo snapshot.segmentId
        snapshot.resources = .ok rules ∧
      buildInput prefixEnvironment egressStore snapshot = .ok input ∧
      buildRoutePublication sampleSigner input = .ok publication ∧
      snapshot.EgressApart rules := by
  have read : (exceptionSnapshot ⟨0xcb007100, 24⟩).map publishedBlocks =
      .ok (.ok (.ok [([⟨0x0a020000, 16⟩, ⟨0xcb007100, 24⟩], [⟨0x0a010000, 16⟩]),
        ([⟨0x0a010000, 16⟩], [⟨0x0a020000, 16⟩])])) := by
    decide +kernel
  obtain ⟨snapshot, taken, facts⟩ := map_ok.mp read
  obtain ⟨input, built, finished⟩ := map_ok.mp facts
  obtain ⟨publication, published, listed⟩ := map_ok.mp finished
  obtain ⟨core, frame, parts⟩ := buildInput_builds built
  obtain ⟨rules, -, collected, -⟩ := parts.planned
  refine ⟨snapshot, rules, input, publication, taken, collected, built, published, ?_⟩
  refine (projections_unambiguous_iff sampleSigner prefixEnvironment egressStore snapshot collected
    built published).mp ?_
  intro projection present
  have member := List.mem_map_of_mem (f := BuiltDeviceProjection.blocks) present
  rw [listed] at member
  have apart : ∀ pair ∈ [([⟨0x0a020000, 16⟩, ⟨0xcb007100, 24⟩], [⟨0x0a010000, 16⟩]),
      ([⟨0x0a010000, 16⟩], [(⟨0x0a020000, 16⟩ : Ipv4PrefixV1)])],
      pair.1.Nodup ∧ ∀ block ∈ pair.1, block ∉ pair.2 := by
    decide
  obtain ⟨distinct, foreign⟩ := apart _ member
  exact ⟨distinct, fun route listed => foreign _ (List.mem_map_of_mem listed)⟩

end CandyCloud
