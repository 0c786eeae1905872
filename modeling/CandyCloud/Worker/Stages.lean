import CandyCloud.Worker.CompiledRoutes
import CandyCloud.Worker.Principals

/-! # The stages of a publication

`build_input` decides who takes part, and `build_route_publication` derives it once more from
the attachments.
-/

namespace CandyCloud

open Foundation

variable {α : Type} {attachment : RouteAttachmentV1} {siteId : Uuid} {remote : List RemoteRouteV1}

section Failures

variable {signer : RouteSigner} {error : RoutePublicationError}

theorem moduleSeal_avoids {objectType : BitVec 32} {source : α} {request : Except String Bytes}
    (other : ∀ text, RoutePublicationError.core text ≠ error) :
    Avoids error (signer.moduleSeal objectType source request) := by
  unfold RouteSigner.moduleSeal
  refine (avoids_mapError fun text _ => other text).bind fun bytes => ?_
  refine (avoids_mapError fun text _ => other _).bind fun prepared => ?_
  refine (avoids_reject (other _)).bind fun _ => ?_
  refine (avoids_mapError fun text _ => other text).bind fun contentHash => ?_
  refine (avoids_mapError fun text _ => other text).bind fun raw => ?_
  exact (avoids_mapError fun text _ => other text).bind fun _ => avoids_ok _

theorem announcePrefix_avoids (other : RoutePublicationError.overlappingOwnership ≠ error)
    (attachmentId siteId : Uuid) (routes : List SegmentRouteV1) (announced : Ipv4PrefixV1) :
    Avoids error (announcePrefix attachmentId siteId routes announced) := by
  unfold announcePrefix
  split
  · exact (avoids_reject other).bind fun _ => avoids_ok _
  · exact (avoids_reject other).bind fun _ => avoids_ok _

theorem compileRoutes_avoids (other : RoutePublicationError.overlappingOwnership ≠ error)
    {attachments : List RouteAttachmentV1} (owns : ∀ attachment ∈ attachments, attachment.Owns) :
    Avoids error (compileRoutes attachments) := by
  unfold compileRoutes
  refine (avoids_updateEach ?_ []).bind fun routes => avoids_ok _
  intro attachment member routes
  unfold compileAttachment
  refine (avoids_passed ?_).bind fun _ => ?_
  · have owned := owns attachment member
    by_cases active : attachment.state = .active
    · simp [active]
    · simp [owned active]
  · split
    · exact avoids_ok routes
    · split
      · exact avoids_ok routes
      · exact avoids_updateEach (fun announced _ routes =>
          announcePrefix_avoids other _ _ routes announced) routes

theorem remoteRoutes_avoids (other : RoutePublicationError.overlappingOwnership ≠ error)
    (routes : List SegmentRouteV1) (siteId : Uuid) (egressRoutes : List RemoteRouteV1) :
    Avoids error (remoteRoutes routes siteId egressRoutes) := by
  unfold remoteRoutes
  refine (avoids_mapM fun route => ?_).bind fun remote => avoids_ok _
  exact (avoids_orElse other).bind fun _ => avoids_ok _

/-- The rest of a round that has found its attachment. -/
def projectDevice (signer : RouteSigner) (routes : List SegmentRouteV1) (siteId : Uuid)
    (plan : DeviceProjectionInput) (object : List RemoteRouteV1 → SiteRouteProjectionV1) :
    Except RoutePublicationError BuiltDeviceProjection := do
  let remote ← remoteRoutes routes siteId plan.egressRoutes
  reject remote.isEmpty .missingReverseRoute
  reject (!pathsCoverOwners remote plan.peerPaths) .unroutablePeerPath
  let sealedProjection ← signer.signSiteProjection (object remote)
  return ⟨plan.publicationId, sealedProjection⟩

variable {input : RoutePublicationInput} {routes : List SegmentRouteV1}
  {devices : List RouteAttachmentV1} {contentHash : Hash} {plan : DeviceProjectionInput}

theorem buildDeviceProjection_found
    (found : devices.find? (fun attachment => decide (attachment.attachmentId = plan.attachmentId)) =
      some attachment) (named : isNil plan.publicationId = false) {deviceId deviceKeyId : Uuid}
    (principal : attachment.principal = .device deviceId deviceKeyId)
    (site : attachment.siteId = some siteId) :
    buildDeviceProjection signer input routes devices contentHash plan =
      projectDevice signer routes siteId plan
        (plan.projection input contentHash attachment siteId deviceId deviceKeyId) := by
  cases attachment with
  | mk attachmentId site' principal' overlay localPrefixes state epochFloor =>
      cases principal
      cases site
      rw [buildDeviceProjection, found, named]
      rfl

theorem projectDevice_avoids (sealing : ∀ text, RoutePublicationError.core text ≠ error)
    (overlap : RoutePublicationError.overlappingOwnership ≠ error)
    (reverse : RoutePublicationError.missingReverseRoute ≠ error)
    (unroutable : RoutePublicationError.unroutablePeerPath ≠ error) (siteId : Uuid)
    (object : List RemoteRouteV1 → SiteRouteProjectionV1) :
    Avoids error (projectDevice signer routes siteId plan object) := by
  unfold projectDevice
  refine (remoteRoutes_avoids overlap routes siteId plan.egressRoutes).bind fun remote => ?_
  refine (avoids_reject reverse).bind fun _ => ?_
  refine (avoids_reject unroutable).bind fun _ => ?_
  exact (moduleSeal_avoids sealing).bind fun _ => avoids_ok _

theorem projectDevice_routable
    (covered : ∀ remote, remoteRoutes routes siteId plan.egressRoutes = .ok remote →
      pathsCoverOwners remote plan.peerPaths = true)
    (object : List RemoteRouteV1 → SiteRouteProjectionV1) :
    Avoids .unroutablePeerPath (projectDevice signer routes siteId plan object) := by
  have overlap : RoutePublicationError.overlappingOwnership ≠ .unroutablePeerPath := by decide
  unfold projectDevice
  cases collected : remoteRoutes routes siteId plan.egressRoutes with
  | error raised =>
      intro failed
      exact remoteRoutes_avoids overlap routes siteId plan.egressRoutes
        (collected.trans (congrArg Except.error (Except.error.inj failed)))
  | ok remote =>
      refine (avoids_reject (by decide)).bind fun _ => ?_
      refine (avoids_passed (by simp [covered remote collected])).bind fun _ => ?_
      exact (moduleSeal_avoids fun _ => by simp).bind fun _ => avoids_ok _

theorem buildRoutePublication_avoids (sealing : ∀ text, RoutePublicationError.core text ≠ error)
    (overlap : RoutePublicationError.overlappingOwnership ≠ error)
    (identified : (input.generation == 0 || isNil input.publicationId ||
      isNil input.auditEventId || input.actorId.isEmpty) = false)
    (owns : ∀ attachment ∈ sortedAttachments input, attachment.Owns)
    (counted : input.projections.length =
      ((sortedAttachments input).filter RouteAttachmentV1.isActiveDevice).length)
    (distinct : (((sortedPlans input).zip (sortedPlans input).tail).any fun pair =>
      decide (pair.1.attachmentId = pair.2.attachmentId)) = false)
    (each : ∀ plan ∈ sortedPlans input, ∀ routes contentHash,
      Avoids error (buildDeviceProjection signer input routes
        ((sortedAttachments input).filter RouteAttachmentV1.isActiveDevice) contentHash plan)) :
    Avoids error (buildRoutePublication signer input) := by
  unfold buildRoutePublication
  refine (avoids_passed identified).bind fun _ => ?_
  refine (compileRoutes_avoids overlap owns).bind fun routes => ?_
  refine (avoids_passed (by simp [counted])).bind fun _ => ?_
  refine (moduleSeal_avoids sealing).bind fun segment => ?_
  refine (avoids_passed distinct).bind fun _ => ?_
  refine (avoids_mapM_mem fun plan member => ?_).bind fun projections => avoids_ok _
  exact each plan member routes segment.contentHash

theorem mem_remoteRoutes {routes : List SegmentRouteV1} {egressRoutes : List RemoteRouteV1}
    (collected : remoteRoutes routes siteId egressRoutes = .ok remote) {route : RemoteRouteV1} :
    route ∈ remote ↔ route ∈ egressRoutes ∨ ∃ compiled ∈ routes,
      compiled.ownerSiteId ≠ some siteId ∧ compiled.ownerSiteId = some route.ownerSiteId ∧
      compiled.destinationPrefix = route.destinationPrefix ∧
      compiled.ownerAttachmentIds = route.ownerAttachmentIds := by
  simp only [remoteRoutes, bind_ok, pure_ok] at collected
  obtain ⟨others, converted, rfl⟩ := collected
  rw [List.mem_insertionSort, List.mem_append, or_comm]
  apply or_congr_right
  constructor
  · intro member
    obtain ⟨compiled, kept, made⟩ := mem_mapM converted member
    rw [List.mem_filter, decide_eq_true_eq] at kept
    simp only [bind_ok, orElse_ok, pure_ok] at made
    obtain ⟨owner, site, rfl⟩ := made
    exact ⟨compiled, kept.1, kept.2, site, rfl, rfl⟩
  · rintro ⟨compiled, member, foreign, site, destination, owners⟩
    obtain ⟨made, present, conversion⟩ := mapM_mem converted
      (List.mem_filter.mpr ⟨member, decide_eq_true foreign⟩)
    simp only [bind_ok, orElse_ok, pure_ok, site] at conversion
    obtain ⟨_, ⟨⟩, rfl⟩ := conversion
    rw [destination, owners] at present
    exact present

end Failures

theorem adjacent_distinct {κ : Type} [DecidableEq κ] {key : α → κ} {l : List α}
    (unique : (l.map key).Nodup) :
    ((l.zip l.tail).any fun pair => decide (key pair.1 = key pair.2)) = false := by
  induction l with
  | nil => rfl
  | cons a l ih =>
      cases l with
      | nil => rfl
      | cons b l =>
          obtain ⟨fresh, rest⟩ := List.nodup_cons.mp unique
          have different : key a ≠ key b := by
            intro same
            exact fresh (same ▸ List.mem_cons_self)
          rw [List.tail_cons, List.zip_cons_cons, List.any_cons]
          simpa [different] using ih rest

section Agreement

variable {env : BuildEnvironment} {store : RouteStore} {snapshot : SegmentControlSnapshot}
  {core : List SegmentAttachmentV1} {frame : PublicationFrame} {input : RoutePublicationInput}

theorem Builds.mem_sorted (parts : Builds env store snapshot core frame input)
    : attachment ∈ sortedAttachments input ↔
      ∃ origin ∈ core, (withdrawOutsiders frame.participants origin).route = attachment := by
  rw [sortedAttachments, List.mem_insertionSort, parts.attachments, List.map_map, List.mem_map]
  exact Iff.rfl

theorem Builds.active_origin (parts : Builds env store snapshot core frame input)
    (member : attachment ∈ sortedAttachments input) (active : attachment.state = .active)
    : attachment.attachmentId ∈ frame.participants ∧
      ∃ origin ∈ core, origin.route = attachment ∧ ∃ metadata value,
        (metadata, value) ∈ frame.view.attachments ∧ metadata.state = .active ∧
          frame.view.Hands metadata value origin := by
  obtain ⟨origin, listed, rfl⟩ := parts.mem_sorted.mp member
  have inside : origin.attachmentId ∈ frame.participants := by
    by_contra outside
    by_cases state : origin.state = .active
    · rw [withdrawOutsiders, if_pos ⟨state, outside⟩] at active
      cases active
    · rw [withdrawOutsiders, if_neg fun withdrawn => state withdrawn.1] at active
      exact state active
  rw [withdrawOutsiders_inside inside] at active ⊢
  obtain ⟨metadata, value, present, hands⟩ := coreAttachments_origin parts.converted listed
  exact ⟨inside, origin, listed, rfl, metadata, value, present, hands.state.mp active, hands⟩

theorem Builds.announcer (parts : Builds env store snapshot core frame input)
    (member : attachment ∈ sortedAttachments input) {block : Ipv4PrefixV1}
    (announces : attachment.Announces siteId block) :
    attachment.attachmentId ∈ routeOwners core ∧ ∃ metadata value,
      (metadata, value) ∈ frame.view.attachments ∧ metadata.id = attachment.attachmentId ∧
        value.siteId = siteId := by
  obtain ⟨state, site, inside⟩ := announces
  obtain ⟨-, origin, listed, rfl, metadata, value, present, -, hands⟩ :=
    parts.active_origin member state
  constructor
  · exact mem_coreOwners.mpr ⟨origin, listed, rfl, state, List.ne_nil_of_mem inside⟩
  · exact ⟨metadata, value, present, hands.id.symm, hands.site.symm.trans (Option.some.inj site)⟩

variable {attachment : SegmentAttachmentV1} {plan : DeviceProjectionInput}

theorem Builds.owner_participates (parts : Builds env store snapshot core frame input)
    (member : attachment ∈ core) (active : attachment.state = .active)
    (owns : attachment.localPrefixes ≠ []) :
    attachment.attachmentId ∈ frame.participants := by
  rw [parts.participants]
  exact owners_participate (mem_coreOwners.mpr ⟨attachment, member, rfl, active, owns⟩)

theorem Builds.covered (parts : Builds env store snapshot core frame input)
    (keys : (snapshot.resources.map ControlResourceV1.key).Nodup)
    (bound : ∀ entry ∈ frame.paths, ∃ transports,
      snapshot.transportBindings.lookup entry.1.id = some transports ∧ transports ≠ [])
    {routes : List SegmentRouteV1} (compiled : compileRoutes (sortedAttachments input) = .ok routes)
    (planned : plan ∈ input.projections)
    (plain : ∀ attachment ∈ input.attachments, attachment.attachmentId = plan.attachmentId →
      attachment.localPrefixes = []) (local_ : plan.egressRoutes = [])
    (collected : remoteRoutes routes siteId plan.egressRoutes = .ok remote) :
    pathsCoverOwners remote plan.peerPaths = true := by
  obtain ⟨found, rfl, announced⟩ := compileRoutes_compiled compiled
  obtain ⟨entry, chosen, made⟩ := mem_mapM parts.projections planned
  rw [List.mem_filter, Bool.and_eq_true, List.contains_iff_mem] at chosen
  obtain ⟨listed, -, participates⟩ := chosen
  have named := (buildProjection_ok made).1
  -- The device is not among the owners.
  have outside : entry.1.id ∉ routeOwners core := by
    intro owner
    obtain ⟨origin, member, id, -, owns⟩ := mem_coreOwners.mp owner
    have inside : origin.attachmentId ∈ frame.participants := id ▸ participates
    apply owns
    apply plain origin _ (id.trans named.symm)
    rw [parts.attachments, List.mem_map]
    exact ⟨origin, member, withdrawOutsiders_inside inside⟩
  simp only [pathsCoverOwners, List.all_eq_true, List.contains_iff_mem, List.mem_map]
  intro route present owner owning
  rw [local_] at collected
  obtain ⟨compiled, member, -, site, destination, owners⟩ :=
    ((mem_remoteRoutes collected).mp present).resolve_left List.not_mem_nil
  rw [← owners, announced.mem_owners member] at owning
  obtain ⟨announcer, sorted, rfl, siteId', announces⟩ := owning
  have place := announced.site member sorted announces
  obtain ⟨owner, metadata, value, listed', id, at_⟩ := parts.announcer sorted announces
  -- The device takes part, so it has a candidate to this owner.
  rw [parts.participants] at participates
  obtain ⟨path, candidate, source, target⟩ := participants_reach participates outside owner
  obtain ⟨row, active', rfl⟩ := List.mem_map.mp (List.mem_of_mem_filter candidate)
  have connected : row ∈ frame.paths := by
    rw [parts.paths, List.mem_filter, pathConnectsParticipants, Bool.and_eq_true,
      List.contains_iff_mem, List.contains_iff_mem, source, target, parts.participants]
    exact ⟨active', participates, owners_participate owner⟩
  obtain ⟨reached, inside, peerSite, peer, -⟩ := (parts.leads_iff keys made).mpr ⟨row, connected,
    source, target, rfl, ⟨(metadata, value), listed', id, at_⟩, bound row connected⟩
  refine ⟨reached, inside, ?_⟩
  rw [peerSite, peer, Option.some.inj (site.symm.trans place)]

variable (active : ∀ resource ∈ snapshot.resources, resource.metadata.state = .active)
include active

variable (parts : Builds env store snapshot core frame input)

include parts

theorem Builds.view_active : ∀ entry ∈ frame.view.attachments, entry.1.state = .active := by
  intro entry listed
  rw [parts.view, segmentView_attachments, mem_documentsIn] at listed
  obtain ⟨resource, member, same, -, -⟩ := listed
  exact same ▸ active resource member

theorem Builds.core_active (member : attachment ∈ core) : attachment.state = .active := by
  obtain ⟨metadata, value, listed, hands⟩ := coreAttachments_origin parts.converted member
  exact hands.state.mpr (parts.view_active active _ listed)

theorem Builds.owns : ∀ attachment ∈ sortedAttachments input, attachment.Owns := by
  intro attachment member withdrawn
  obtain ⟨origin, listed, rfl⟩ := parts.mem_sorted.mp member
  by_contra owned
  have prefixes : origin.localPrefixes ≠ [] := by
    unfold withdrawOutsiders at owned
    split at owned
    · exact owned
    · exact owned
  have inside := parts.owner_participates listed (parts.core_active active listed) prefixes
  rw [withdrawOutsiders_inside inside] at withdrawn
  exact withdrawn (parts.core_active active listed)

theorem Builds.device_iff {origin : SegmentAttachmentV1} (listed : origin ∈ core) :
    (withdrawOutsiders frame.participants origin).route.isActiveDevice =
      frame.participants.contains origin.attachmentId := by
  have state := parts.core_active active listed
  by_cases inside : origin.attachmentId ∈ frame.participants
  · rw [withdrawOutsiders_inside inside]
    simp [RouteAttachmentV1.isActiveDevice, SegmentAttachmentV1.route, state, inside]
  · rw [withdrawOutsiders, if_pos ⟨state, inside⟩]
    simp [RouteAttachmentV1.isActiveDevice, SegmentAttachmentV1.route, inside]

theorem Builds.counted :
    input.projections.length =
      ((sortedAttachments input).filter RouteAttachmentV1.isActiveDevice).length := by
  have ids := coreAttachments_ids parts.converted (parts.view_active active)
  have devices : ((sortedAttachments input).filter RouteAttachmentV1.isActiveDevice).length =
      (core.filter fun origin => frame.participants.contains origin.attachmentId).length := by
    rw [sortedAttachments, ((List.perm_insertionSort _ _).filter _).length_eq, parts.attachments,
      List.map_map, List.filter_map, List.length_map]
    congr 1
    apply List.filter_congr
    exact fun origin listed => parts.device_iff active listed
  have named : (core.filter fun origin => frame.participants.contains origin.attachmentId).length =
      ((core.map (·.attachmentId)).filter frame.participants.contains).length := by
    rw [List.filter_map, List.length_map]
    rfl
  rw [devices, named, ids, List.filter_map, List.length_map]
  rw [← List.length_map (f := (·.attachmentId)), parts.projected_ids, List.length_map]
  congr 1
  apply List.filter_congr
  intro entry listed
  simp [parts.view_active active entry listed]

theorem Builds.device_found (planned : plan ∈ input.projections) :
    ∃ origin ∈ core, origin.attachmentId = plan.attachmentId ∧
      ((sortedAttachments input).filter RouteAttachmentV1.isActiveDevice).find?
        (fun attachment => decide (attachment.attachmentId = plan.attachmentId)) =
          some origin.route ∧
      origin.attachmentId ∈ frame.participants := by
  obtain ⟨entry, chosen, made⟩ := mem_mapM parts.projections planned
  rw [List.mem_filter, Bool.and_eq_true, List.contains_iff_mem] at chosen
  obtain ⟨listed, -, participates⟩ := chosen
  have named := (buildProjection_ok made).1
  obtain ⟨origin, member, -, ⟨id, -⟩⟩ := coreAttachment_present parts.converted listed
    (parts.view_active active entry listed)
  have inside : origin.attachmentId ∈ frame.participants := id ▸ participates
  have device : origin.route ∈
      (sortedAttachments input).filter RouteAttachmentV1.isActiveDevice := by
    rw [List.mem_filter]
    have same := withdrawOutsiders_inside inside
    refine ⟨parts.mem_sorted.mpr ⟨origin, member, by rw [same]⟩, ?_⟩
    have flagged := parts.device_iff active member
    rw [same] at flagged
    simp [flagged, inside]
  cases found : ((sortedAttachments input).filter RouteAttachmentV1.isActiveDevice).find?
      fun attachment => decide (attachment.attachmentId = plan.attachmentId) with
  | none =>
      have absent := List.find?_eq_none.mp found origin.route device
      exact absurd (decide_eq_true (id.trans named.symm)) absent
  | some attachment =>
      obtain ⟨present, flagged⟩ := List.mem_filter.mp (List.mem_of_find?_eq_some found)
      obtain ⟨other, listed', rfl⟩ := parts.mem_sorted.mp present
      rw [parts.device_iff active listed', List.contains_iff_mem] at flagged
      rw [withdrawOutsiders_inside flagged] at found ⊢
      have selects := List.find?_some found
      exact ⟨other, listed', of_decide_eq_true selects, rfl, flagged⟩

end Agreement

/-- The participants of a segment, from what the builder hands over. -/
def SegmentView.participants (view : SegmentView) (core : List SegmentAttachmentV1) : List Uuid :=
  participatingAttachments (routeOwners core) ((view.activePaths.map Prod.snd).filter fun path =>
    (routeOwners core).contains path.destinationAttachmentId)

/-- Every candidate between two participants has a transport binding. -/
def SegmentControlSnapshot.Bound (snapshot : SegmentControlSnapshot) : Prop :=
  let view := segmentView snapshot.segmentId snapshot.resources
  ∀ core, view.coreAttachments = .ok core → ∀ entry ∈ view.activePaths,
    pathConnectsParticipants (view.participants core) entry.2 = true →
      ∃ transports, snapshot.transportBindings.lookup entry.1.id = some transports ∧
        transports ≠ []

/-- No digest that an identifier of the publication is taken from starts with sixteen
    zero bytes. -/
structure IdentifiersPresent (sha256 : Bytes → Hash) (snapshot : SegmentControlSnapshot) :
    Prop where
  publication : isNil (stableUuid sha256 snapshot.tenantId snapshot.segmentId
    snapshot.desiredRevision) = false
  audit : isNil (stableUuid sha256 snapshot.segmentId snapshot.tenantId
    (snapshot.desiredRevision ^^^ 0xa5a5)) = false
  projections : ∀ entry ∈ (segmentView snapshot.segmentId snapshot.resources).attachments,
    isNil (stableUuid sha256 snapshot.segmentId entry.1.id snapshot.desiredRevision) = false

section Identifiers

variable {env : BuildEnvironment} {store : RouteStore} {snapshot : SegmentControlSnapshot}
  {core : List SegmentAttachmentV1} {frame : PublicationFrame} {input : RoutePublicationInput}

theorem Builds.identified (parts : Builds env store snapshot core frame input)
    (present : IdentifiersPresent env.encoding.sha256 snapshot) :
    (input.generation == 0 || isNil input.publicationId || isNil input.auditEventId ||
      input.actorId.isEmpty) = false := by
  rw [parts.publicationId, parts.auditEventId, parts.actorId, present.publication, present.audit,
    beq_false_of_ne parts.generation]
  rfl

theorem Builds.plan_named (parts : Builds env store snapshot core frame input)
    (present : IdentifiersPresent env.encoding.sha256 snapshot) {plan : DeviceProjectionInput}
    (planned : plan ∈ input.projections) : isNil plan.publicationId = false := by
  obtain ⟨entry, chosen, made⟩ := mem_mapM parts.projections planned
  have listed := List.mem_of_mem_filter chosen
  rw [parts.view] at listed
  rw [(buildProjection_ok made).2.1, parts.read]
  exact present.projections entry listed

theorem Builds.bound (parts : Builds env store snapshot core frame input)
    (bound : snapshot.Bound) : ∀ entry ∈ frame.paths, ∃ transports,
      snapshot.transportBindings.lookup entry.1.id = some transports ∧ transports ≠ [] := by
  intro entry listed
  have converted := parts.converted
  rw [parts.paths, List.mem_filter, parts.participants, parts.view] at listed
  rw [parts.view] at converted
  exact bound core converted entry listed.1 listed.2

end Identifiers

/-- On a snapshot of active resources the second stage finds what the first decided: it
    never refuses the generation, an owner, the number of projections or the device of
    one, and a device without prefixes and without egress has all the paths it needs. -/
theorem stages_agree (signer : RouteSigner) (env : BuildEnvironment) (store : RouteStore)
    (snapshot : SegmentControlSnapshot) {input : RoutePublicationInput}
    (keys : (snapshot.resources.map ControlResourceV1.key).Nodup)
    (active : ∀ resource ∈ snapshot.resources, resource.metadata.state = .active)
    (bound : snapshot.Bound) (present : IdentifiersPresent env.encoding.sha256 snapshot)
    (built : buildInput env store snapshot = .ok input) :
    buildRoutePublication signer input ≠ .error .invalidGeneration ∧
    buildRoutePublication signer input ≠ .error .inactiveOwner ∧
    buildRoutePublication signer input ≠ .error .incompleteProjectionSet ∧
    buildRoutePublication signer input ≠ .error .projectionAttachmentMismatch ∧
    ∀ routes, compileRoutes (sortedAttachments input) = .ok routes →
      ∀ plan ∈ input.projections,
        (∀ attachment ∈ input.attachments, attachment.attachmentId = plan.attachmentId →
          attachment.localPrefixes = []) → plan.egressRoutes = [] → ∀ contentHash,
            buildDeviceProjection signer input routes
              ((sortedAttachments input).filter RouteAttachmentV1.isActiveDevice) contentHash plan ≠
                .error .unroutablePeerPath := by
  obtain ⟨core, frame, parts⟩ := buildInput_builds built
  have round : ∀ plan ∈ input.projections, ∀ routes contentHash, ∃ siteId object,
      buildDeviceProjection signer input routes
        ((sortedAttachments input).filter RouteAttachmentV1.isActiveDevice) contentHash plan =
          projectDevice signer routes siteId plan object := by
    intro plan planned routes contentHash
    obtain ⟨origin, -, -, found, -⟩ := parts.device_found active planned
    exact ⟨_, _, buildDeviceProjection_found found (parts.plan_named present planned) rfl rfl⟩
  have distinct : (((sortedPlans input).zip (sortedPlans input).tail).any fun pair =>
      decide (pair.1.attachmentId = pair.2.attachmentId)) = false := by
    apply adjacent_distinct
    exact ((List.perm_insertionSort _ input.projections).map _).nodup_iff.mpr
      (parts.projected_nodup keys)
  have avoids : ∀ error, (∀ text, RoutePublicationError.core text ≠ error) →
      .overlappingOwnership ≠ error → .missingReverseRoute ≠ error → .unroutablePeerPath ≠ error →
        Avoids error (buildRoutePublication signer input) := by
    intro error sealing overlap reverse unroutable
    refine buildRoutePublication_avoids sealing overlap (parts.identified present)
      (parts.owns active) (parts.counted active) distinct ?_
    intro plan listed routes contentHash
    rw [sortedPlans, List.mem_insertionSort] at listed
    obtain ⟨siteId, object, same⟩ := round plan listed routes contentHash
    rw [same]
    exact projectDevice_avoids sealing overlap reverse unroutable siteId object
  refine ⟨?_, ?_, ?_, ?_, ?_⟩
  · exact avoids _ (fun _ => by simp) (by decide) (by decide) (by decide)
  · exact avoids _ (fun _ => by simp) (by decide) (by decide) (by decide)
  · exact avoids _ (fun _ => by simp) (by decide) (by decide) (by decide)
  · exact avoids _ (fun _ => by simp) (by decide) (by decide) (by decide)
  · intro routes compiled plan planned plain local_ contentHash
    obtain ⟨siteId, object, same⟩ := round plan planned routes contentHash
    rw [same]
    apply projectDevice_routable
    intro remote collected
    exact parts.covered keys (parts.bound bound) compiled planned plain local_ collected

def sampleSigner : RouteSigner where
  keyId := [1]
  sign _ := [2]
  publicKey := [3]
  core := {
    prepare := fun request =>
      .ok ⟨if request = [1] then segmentSnapshotType else siteProjectionType, request, request⟩
    routeContentHash := fun _ _ => .ok 7
    assemble := fun _ _ payload _ => .ok (4 :: payload)
    validate := fun _ _ _ => .ok () }
  segmentRequest _ := .ok [1]
  projectionRequest _ := .ok [2]

theorem SegmentControlSnapshot.bound_of_all {snapshot : SegmentControlSnapshot}
    (filled : ((segmentView snapshot.segmentId snapshot.resources).activePaths.all fun entry =>
      (snapshot.transportBindings.lookup entry.1.id).any (!·.isEmpty)) = true) :
    snapshot.Bound := by
  intro core converted entry listed connects
  have row := List.all_eq_true.mp filled entry listed
  rw [Option.any_eq_true] at row
  obtain ⟨transports, found, nonempty⟩ := row
  exact ⟨transports, found, by simpa using nonempty⟩

def SegmentControlSnapshot.meets (snapshot : SegmentControlSnapshot) (sha256 : Bytes → Hash) :
    Bool :=
  let view := segmentView snapshot.segmentId snapshot.resources
  decide (snapshot.resources.map ControlResourceV1.key).Nodup &&
    (snapshot.resources.all fun resource => resource.metadata.state == .active) &&
    (view.activePaths.all fun entry =>
      (snapshot.transportBindings.lookup entry.1.id).any (!·.isEmpty)) &&
    !isNil (stableUuid sha256 snapshot.tenantId snapshot.segmentId snapshot.desiredRevision) &&
    !isNil (stableUuid sha256 snapshot.segmentId snapshot.tenantId
      (snapshot.desiredRevision ^^^ 0xa5a5)) &&
    view.attachments.all fun entry =>
      !isNil (stableUuid sha256 snapshot.segmentId entry.1.id snapshot.desiredRevision)

/-- Both prefixes lie at the first site, so the second takes part without one. -/
def bareSnapshot : Except ControlStoreError SegmentControlSnapshot :=
  segmentSnapshot (run controlStep sampleCloud ((egressGraph .localEgress).set 8
    (sampleCreate 62 (.prefix_ ⟨31, 3, ⟨0x0a020000, 16⟩, .configured⟩)))) egressTopology 1 3 9

/-- A participant has no prefix and no egress route, and the routes can be compiled. -/
def RoutePublicationInput.bare (input : RoutePublicationInput) : Prop :=
  (compileRoutes (sortedAttachments input)).isOk = true ∧
    ∃ plan ∈ input.projections, plan.egressRoutes = [] ∧
      ∀ attachment ∈ input.attachments, attachment.attachmentId = plan.attachmentId →
        attachment.localPrefixes = []

instance (input : RoutePublicationInput) : Decidable input.bare :=
  inferInstanceAs (Decidable (_ ∧ ∃ plan ∈ input.projections, _ ∧ _))

theorem stages_agree_bare :
    ∃ snapshot input, bareSnapshot = .ok snapshot ∧
      buildInput egressEnvironment egressStore snapshot = .ok input ∧ input.bare ∧
      buildRoutePublication sampleSigner input ≠ .error .invalidGeneration ∧
      buildRoutePublication sampleSigner input ≠ .error .inactiveOwner ∧
      buildRoutePublication sampleSigner input ≠ .error .incompleteProjectionSet ∧
      buildRoutePublication sampleSigner input ≠ .error .projectionAttachmentMismatch ∧
      ∀ routes, compileRoutes (sortedAttachments input) = .ok routes →
        ∀ plan ∈ input.projections,
          (∀ attachment ∈ input.attachments, attachment.attachmentId = plan.attachmentId →
            attachment.localPrefixes = []) → plan.egressRoutes = [] → ∀ contentHash,
              buildDeviceProjection sampleSigner input routes
                ((sortedAttachments input).filter RouteAttachmentV1.isActiveDevice) contentHash
                plan ≠ .error .unroutablePeerPath := by
  have read : bareSnapshot.map (fun snapshot =>
      (snapshot.meets egressEnvironment.encoding.sha256,
        (buildInput egressEnvironment egressStore snapshot).map fun input => decide input.bare)) =
      .ok (true, .ok true) := by
    decide +kernel
  obtain ⟨snapshot, taken, facts⟩ := map_ok.mp read
  obtain ⟨meets, bare⟩ := Prod.mk.inj facts
  obtain ⟨input, built, bare⟩ := map_ok.mp bare
  simp only [SegmentControlSnapshot.meets, Bool.and_eq_true, decide_eq_true_eq,
    Bool.not_eq_true'] at meets
  obtain ⟨⟨⟨⟨⟨keys, active⟩, filled⟩, publication⟩, audit⟩, projections⟩ := meets
  refine ⟨snapshot, input, taken, built, of_decide_eq_true bare, stages_agree sampleSigner
    egressEnvironment egressStore snapshot keys ?_ (SegmentControlSnapshot.bound_of_all filled)
    ⟨publication, audit, ?_⟩ built⟩
  · simpa using active
  · simpa using projections

end CandyCloud
