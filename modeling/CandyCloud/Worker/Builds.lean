import CandyCloud.Control.Documents
import CandyCloud.Worker.Input

/-! # What a build reads

The stages of `build_input` taken apart: which documents of a snapshot take part, what
is handed over for an attachment, and which candidates become the paths of its
projection.
-/

namespace CandyCloud

open Foundation

section Parts

variable {env : BuildEnvironment} {store : RouteStore} {snapshot : SegmentControlSnapshot}

/-- The stages of a successful `build_input`. -/
structure Builds (env : BuildEnvironment) (store : RouteStore) (snapshot : SegmentControlSnapshot)
    (core : List SegmentAttachmentV1) (frame : PublicationFrame) (input : RoutePublicationInput) :
    Prop where
  scope : input.tenantId = snapshot.tenantId ∧ input.segmentId = snapshot.segmentId
  head : ∃ current, segmentHead store snapshot.tenantId snapshot.segmentId =
    .ok (current, input.previousHash) ∧ checkedAdd current 1 = some input.generation
  times : input.expiresAt = env.now + routePublicationValiditySeconds ∧
    input.staleUntil = env.now + routePublicationStaleSeconds
  read : frame.snapshot = snapshot
  view : frame.view = segmentView snapshot.segmentId snapshot.resources
  converted : frame.view.coreAttachments = .ok core
  participants : frame.participants = participatingAttachments (routeOwners core)
    ((frame.view.activePaths.map Prod.snd).filter fun path =>
      (routeOwners core).contains path.destinationAttachmentId)
  paths : frame.paths = frame.view.activePaths.filter fun entry =>
    pathConnectsParticipants frame.participants entry.2
  expanded : frame.paths.mapM (expandPath env.encoding snapshot.transportBindings frame.view) =
    .ok frame.pathMap
  planned : ∃ rules effective,
    servicePolicyRules env.encoding env.geo snapshot.segmentId snapshot.resources = .ok rules ∧
    selectRemoteEgressRules frame.view.attachmentSites frame.view.egresses rules = .ok effective ∧
      planEgress frame.view.egresses effective = .ok frame.plan
  projections : (frame.view.attachments.filter fun entry =>
      entry.1.state == .active && frame.participants.contains entry.1.id).mapM
    (fun entry => buildProjection env store frame entry.1 entry.2) = .ok input.projections
  attachments : input.attachments = core.map (withdrawOutsiders frame.participants)
  publicationId : input.publicationId = stableUuid env.encoding.sha256 snapshot.tenantId
    snapshot.segmentId snapshot.desiredRevision
  auditEventId : input.auditEventId = stableUuid env.encoding.sha256 snapshot.segmentId
    snapshot.tenantId (snapshot.desiredRevision ^^^ 0xa5a5)
  actorId : input.actorId = "cloud-worker"

variable {input : RoutePublicationInput}

theorem buildInput_builds (built : buildInput env store snapshot = .ok input) :
    ∃ core frame, Builds env store snapshot core frame input := by
  simp only [buildInput, bind_ok] at built
  obtain ⟨⟨current, hash⟩, head, generation, next, _, -, rules, collected, segment, -, effective,
    selected, plan, planned, built⟩ := built
  simp only [assembleInput, bind_ok] at built
  obtain ⟨core, converted, _, -, pathMap, expanded, projections, projected, finished⟩ := built
  split at finished
  · simp only [bind_ok, pure_ok] at finished
    obtain ⟨_, -, rfl⟩ := finished
    exact ⟨core, _, {
      scope := ⟨rfl, rfl⟩
      head := ⟨current, mapError_ok.mp head, orElse_ok.mp next⟩
      times := ⟨rfl, rfl⟩
      read := rfl
      view := rfl
      converted
      participants := rfl
      paths := rfl
      expanded
      planned := ⟨rules, effective, collected, selected, planned⟩
      projections := projected
      attachments := rfl
      publicationId := rfl
      auditEventId := rfl
      actorId := rfl }⟩
  · cases finished

theorem Builds.generation {core : List SegmentAttachmentV1} {frame : PublicationFrame}
    (parts : Builds env store snapshot core frame input) :
    input.generation ≠ 0 := by
  obtain ⟨current, -, next⟩ := parts.head
  rw [checkedAdd_some next]
  exact Nat.succ_ne_zero current

end Parts

/-- The kind and the id that a resource is stored under. -/
def ControlResourceV1.key (resource : ControlResourceV1) : ResourceKind × Uuid :=
  (resource.resource.kind, resource.metadata.id)

theorem reads_pathCandidate :
    ResourceSpecV1.Reads ResourceSpecV1.pathCandidate? .pathCandidate := by
  intro spec
  cases spec <;> simp [ResourceSpecV1.pathCandidate?, ResourceSpecV1.kind]

section Documents

variable {α : Type} {resources : List ControlResourceV1} {read : ResourceSpecV1 → Option α}
  {wanted : ResourceMetadataV1 → α → Bool}

theorem mem_documentsIn {entry : ResourceMetadataV1 × α} :
    entry ∈ documentsIn resources read wanted ↔ ∃ resource ∈ resources,
      resource.metadata = entry.1 ∧ read resource.resource = some entry.2 ∧
        wanted entry.1 entry.2 = true := by
  obtain ⟨metadata, value⟩ := entry
  simp only [documentsIn, List.mem_filterMap, Option.bind_eq_some_iff,
    Option.ite_none_right_eq_some, Option.some.injEq, Prod.mk.injEq]
  constructor
  · rintro ⟨resource, member, _, document, chosen, rfl, rfl⟩
    exact ⟨resource, member, rfl, document, chosen⟩
  · rintro ⟨resource, member, rfl, document, chosen⟩
    exact ⟨resource, member, value, document, chosen, rfl, rfl⟩

theorem documentsIn_nodup {kind : ResourceKind} (reads : ResourceSpecV1.Reads read kind)
    (keys : (resources.map ControlResourceV1.key).Nodup) :
    ((documentsIn resources read wanted).map fun entry => entry.1.id).Nodup := by
  simp only [documentsIn, List.Nodup, List.pairwise_map, List.pairwise_filterMap] at keys ⊢
  refine keys.imp ?_
  intro a b distinct entryA readA entryB readB same
  obtain ⟨value, documentA, chosen⟩ := Option.bind_eq_some_iff.mp readA
  obtain ⟨value', documentB, chosen'⟩ := Option.bind_eq_some_iff.mp readB
  obtain rfl := Option.some.inj (Option.ite_none_right_eq_some.mp chosen).2
  obtain rfl := Option.some.inj (Option.ite_none_right_eq_some.mp chosen').2
  exact distinct (Prod.ext ((reads.kind_eq documentA).trans (reads.kind_eq documentB).symm) same)

end Documents

variable {metadata : ResourceMetadataV1} {value : AttachmentV1} {id owner : Uuid}
  {owners : List Uuid} {paths : List PathCandidateV1} {bound : QuotaBoundPeerPathCandidate}
  {κ β : Type} {table : List (κ × β)} {projection : DeviceProjectionInput}

section Attachments

variable {view : SegmentView} {core : List SegmentAttachmentV1}

/-- What is handed over for an attachment of the view. -/
structure SegmentView.Hands (view : SegmentView) (metadata : ResourceMetadataV1)
    (value : AttachmentV1) (attachment : SegmentAttachmentV1) : Prop where
  id : attachment.attachmentId = metadata.id
  site : attachment.siteId = value.siteId
  state : attachment.state = .active ↔ metadata.state = .active
  prefixes : view.localPrefixes value.siteId = .ok attachment.localPrefixes
  node : ∃ node, view.nodes value.nodeId = some node ∧ attachment.deviceId = node.deviceId ∧
    attachment.deviceKeyId = node.deviceKeyId

variable {attachment : SegmentAttachmentV1}

theorem coreAttachment_some
    (conversion : view.coreAttachment metadata value = .ok (some attachment)) :
    view.Hands metadata value attachment := by
  simp only [SegmentView.coreAttachment] at conversion
  split at conversion
  · split at conversion
    · cases conversion
    · cases conversion
  · rename_i node found
    simp only [bind_ok, pure_ok, Option.some.injEq] at conversion
    obtain ⟨localPrefixes, read, rfl⟩ := conversion
    refine ⟨rfl, rfl, ?_, read, node, found, rfl, rfl⟩
    by_cases active : metadata.state = .active
    · simp [active]
    · simp [active]

theorem coreAttachment_active (active : metadata.state = .active)
    {made : Option SegmentAttachmentV1}
    (conversion : view.coreAttachment metadata value = .ok made) :
    ∃ attachment, made = some attachment := by
  simp only [SegmentView.coreAttachment] at conversion
  split at conversion
  · simp [active] at conversion
  · simp only [bind_ok, pure_ok] at conversion
    obtain ⟨localPrefixes, -, rfl⟩ := conversion
    exact ⟨_, rfl⟩

theorem coreAttachments_ids (converted : view.coreAttachments = .ok core)
    (active : ∀ entry ∈ view.attachments, entry.1.state = .active) :
    core.map (·.attachmentId) = view.attachments.map fun entry => entry.1.id := by
  simp only [SegmentView.coreAttachments, bind_ok, pure_ok] at converted
  obtain ⟨each, made, rfl⟩ := converted
  refine filterMap_mapM ?_ made
  intro entry listed made conversion
  obtain ⟨attachment, rfl⟩ := coreAttachment_active (active entry listed) conversion
  exact ⟨attachment, rfl, (coreAttachment_some conversion).id⟩

theorem coreAttachments_origin (converted : view.coreAttachments = .ok core)
    (member : attachment ∈ core) :
    ∃ metadata value, (metadata, value) ∈ view.attachments ∧
      view.Hands metadata value attachment := by
  simp only [SegmentView.coreAttachments, bind_ok, pure_ok] at converted
  obtain ⟨each, made, rfl⟩ := converted
  obtain ⟨found, present, rfl⟩ := List.mem_filterMap.mp member
  obtain ⟨⟨metadata, value⟩, listed, conversion⟩ := mem_mapM made present
  exact ⟨metadata, value, listed, coreAttachment_some conversion⟩

theorem coreAttachment_present (converted : view.coreAttachments = .ok core)
    (listed : (metadata, value) ∈ view.attachments) (active : metadata.state = .active) :
    ∃ attachment ∈ core, attachment.state = .active ∧ view.Hands metadata value attachment := by
  simp only [SegmentView.coreAttachments, bind_ok, pure_ok] at converted
  obtain ⟨each, made, rfl⟩ := converted
  obtain ⟨found, present, conversion⟩ := mapM_mem made listed
  obtain ⟨attachment, rfl⟩ := coreAttachment_active active conversion
  have hands := coreAttachment_some conversion
  exact ⟨attachment, List.mem_filterMap.mpr ⟨_, present, rfl⟩, hands.state.mpr active, hands⟩

end Attachments

theorem withdrawOutsiders_inside {participants : List Uuid} {attachment : SegmentAttachmentV1}
    (inside : attachment.attachmentId ∈ participants) :
    withdrawOutsiders participants attachment = attachment := by
  rw [withdrawOutsiders, if_neg fun outside => outside.2 inside]

theorem mem_coreOwners {core : List SegmentAttachmentV1} :
    id ∈ routeOwners core ↔ ∃ attachment ∈ core, attachment.attachmentId = id ∧
      attachment.state = .active ∧ attachment.localPrefixes ≠ [] := by
  simp only [routeOwners, List.mem_map, List.mem_filter, Bool.and_eq_true, beq_iff_eq,
    Bool.not_eq_true', List.isEmpty_eq_false_iff]
  constructor
  · rintro ⟨attachment, ⟨member, active, owns⟩, rfl⟩
    exact ⟨attachment, member, rfl, active, owns⟩
  · rintro ⟨attachment, member, rfl, active, owns⟩
    exact ⟨attachment, ⟨member, active, owns⟩, rfl⟩

section Withdrawn

variable {participants : List Uuid} (attachment : SegmentAttachmentV1)

theorem withdrawOutsiders_id :
    (withdrawOutsiders participants attachment).attachmentId = attachment.attachmentId := by
  unfold withdrawOutsiders
  split
  · rfl
  · rfl

theorem withdrawOutsiders_device :
    ((withdrawOutsiders participants attachment).deviceId,
      (withdrawOutsiders participants attachment).deviceKeyId) =
      (attachment.deviceId, attachment.deviceKeyId) := by
  unfold withdrawOutsiders
  split
  · rfl
  · rfl

end Withdrawn

theorem owners_participate (owns : owner ∈ owners)
    : owner ∈ participatingAttachments owners paths :=
  List.mem_append_left _ owns

theorem participants_reach (participates : id ∈ participatingAttachments owners paths)
    (outside : id ∉ owners) (owns : owner ∈ owners) :
    ∃ path ∈ paths, path.sourceAttachmentId = id ∧ path.destinationAttachmentId = owner := by
  have reaching := (List.mem_append.mp participates).resolve_left outside
  rw [List.mem_dedup, List.mem_map] at reaching
  obtain ⟨path, chosen, rfl⟩ := reaching
  rw [List.mem_filter, Bool.and_eq_true, List.all_eq_true] at chosen
  have reached := chosen.2.2 owner owns
  simp only [List.any_eq_true, Bool.and_eq_true, beq_iff_eq] at reached
  obtain ⟨other, listed, source, destination⟩ := reached
  exact ⟨other, listed, source, destination⟩

section Paths

variable {encoding : DocumentEncoding} {bindings : TransportBindings} {view : SegmentView}

variable {value : PathCandidateV1}

theorem boundPath_ok {sha256 : Bytes → Hash} {peerSiteId : Uuid} {contentHash : Hash}
    {transport : RuntimeTransportBinding}
    (made : boundPath sha256 metadata value peerSiteId contentHash transport = .ok bound) :
    bound.peerPath.candidateId = runtimePathCandidateId sha256 metadata.id transport.endpointId ∧
      bound.peerPath.peerSiteId = peerSiteId ∧
      bound.peerPath.peerAttachmentId = value.destinationAttachmentId ∧
      bound.peerPath.kind = value.kind ∧
      bound.peerPath.transportNode = ⟨transport.serviceNodeId, transport.serviceNodeKeyId⟩ := by
  simp only [boundPath, bind_ok, pure_ok] at made
  obtain ⟨-, -, rfl⟩ := made
  exact ⟨rfl, rfl, rfl, rfl, rfl⟩

theorem expandPath_ok {row : Uuid × List QuotaBoundPeerPathCandidate}
    (expanded : expandPath encoding bindings view (metadata, value) = .ok row) :
    row.1 = metadata.id ∧ ∃ destination transports contentHash,
      (view.attachments.find? fun entry => entry.1.id == value.destinationAttachmentId).map
        Prod.snd = some destination ∧
      bindings.lookup metadata.id = some transports ∧
      transports.mapM (boundPath encoding.sha256 metadata value destination.siteId contentHash) =
        .ok row.2 := by
  simp only [expandPath, bind_ok, orElse_ok] at expanded
  obtain ⟨destination, located, transports, found, rest⟩ := expanded
  have finished : ∃ contentHash, transports.mapM
      (boundPath encoding.sha256 metadata value destination.siteId contentHash) = .ok row.2 ∧
        row.1 = metadata.id := by
    cases carried : value.relayId with
    | none =>
        simp only [carried, bind_ok, pure_ok] at rest
        obtain ⟨-, -, contentHash, -, others, made, rfl⟩ := rest
        exact ⟨contentHash, made, rfl⟩
    | some relayId =>
        simp only [carried, bind_ok, pure_ok] at rest
        obtain ⟨-, -, -, -, -, -, contentHash, -, others, made, rfl⟩ := rest
        exact ⟨contentHash, made, rfl⟩
  obtain ⟨contentHash, made, named⟩ := finished
  exact ⟨named, destination, transports, contentHash, located, found, made⟩

end Paths

theorem segmentView_attachments (segmentId : Uuid) (resources : List ControlResourceV1) :
    (segmentView segmentId resources).attachments =
      documentsIn resources ResourceSpecV1.attachment? fun _ value =>
        value.segmentId == segmentId := rfl

theorem segmentView_paths (segmentId : Uuid) (resources : List ControlResourceV1) :
    (segmentView segmentId resources).paths =
      documentsIn resources ResourceSpecV1.pathCandidate? fun metadata value =>
        value.segmentId == segmentId && metadata.state == .active := rfl

theorem lookup_of_mem [BEq κ] [LawfulBEq κ] (unique : (table.map Prod.fst).Nodup) {key : κ}
    {value : β} (member : (key, value) ∈ table) :
    table.lookup key = some value := by
  obtain ⟨before, after, rfl⟩ := List.append_of_mem member
  rw [List.lookup_eq_some_iff]
  refine ⟨before, after, rfl, ?_⟩
  intro row earlier
  rw [List.map_append, List.map_cons, List.nodup_append] at unique
  have different := unique.2.2 row.1 (List.mem_map_of_mem earlier) key List.mem_cons_self
  exact bne_iff_ne.mpr different.symm

theorem mem_of_lookup [BEq κ] [LawfulBEq κ] {key : κ} {value : β}
    (found : table.lookup key = some value) : (key, value) ∈ table := by
  obtain ⟨before, after, rfl, -⟩ := List.lookup_eq_some_iff.mp found
  exact List.mem_append_right _ List.mem_cons_self

section Projections

variable {env : BuildEnvironment} {store : RouteStore} {snapshot : SegmentControlSnapshot}
  {core : List SegmentAttachmentV1} {frame : PublicationFrame} {input : RoutePublicationInput}

section

variable (parts : Builds env store snapshot core frame input)
  (keys : (snapshot.resources.map ControlResourceV1.key).Nodup)

include parts keys

theorem Builds.attachment_ids : (frame.view.attachments.map fun entry => entry.1.id).Nodup := by
  rw [parts.view, segmentView_attachments]
  exact documentsIn_nodup ResourceSpecV1.reads_attachment keys

theorem Builds.path_ids : (frame.paths.map fun entry => entry.1.id).Nodup := by
  have listed : (frame.view.paths.map fun entry => entry.1.id).Nodup := by
    rw [parts.view, segmentView_paths]
    exact documentsIn_nodup reads_pathCandidate keys
  rw [parts.paths, SegmentView.activePaths]
  exact listed.sublist ((List.filter_sublist.trans List.filter_sublist).map _)

theorem Builds.lookup {entry : ResourceMetadataV1 × PathCandidateV1} (listed : entry ∈ frame.paths)
    {expanded : List QuotaBoundPeerPathCandidate} :
    frame.pathMap.lookup entry.1.id = some expanded ↔
      expandPath env.encoding snapshot.transportBindings frame.view entry =
        .ok (entry.1.id, expanded) := by
  have named : frame.pathMap.map Prod.fst = frame.paths.map fun entry => entry.1.id :=
    map_mapM (fun entry row made => (expandPath_ok made).1) parts.expanded
  have unique : (frame.pathMap.map Prod.fst).Nodup := named ▸ parts.path_ids keys
  obtain ⟨row, present, made⟩ := mapM_mem parts.expanded listed
  have same : row = (entry.1.id, row.2) := Prod.ext (expandPath_ok made).1 rfl
  rw [lookup_of_mem unique (same ▸ present), made]
  constructor
  · rintro ⟨⟩
    rw [← same]
  · intro equal
    rw [Except.ok.injEq] at equal
    rw [equal]

theorem Builds.mem_outbound {outbound : List QuotaBoundPeerPathCandidate}
    (left : frame.outbound id = .ok outbound) :
    bound ∈ outbound ↔ ∃ entry ∈ frame.paths, entry.2.sourceAttachmentId = id ∧
      ∃ expanded, expandPath env.encoding snapshot.transportBindings frame.view entry =
        .ok (entry.1.id, expanded) ∧ bound ∈ expanded := by
  simp only [PublicationFrame.outbound, bind_ok, pure_ok] at left
  obtain ⟨candidates, read, rfl⟩ := left
  rw [List.mem_flatten]
  constructor
  · rintro ⟨expanded, present, inside⟩
    obtain ⟨entry, chosen, found⟩ := mem_mapM read present
    rw [List.mem_filter, Bool.and_eq_true, beq_iff_eq] at chosen
    exact ⟨entry, chosen.1, chosen.2.1, expanded, (parts.lookup keys chosen.1).mp
      (orElse_ok.mp found), inside⟩
  · rintro ⟨entry, listed, source, expanded, made, inside⟩
    have connects : pathConnectsParticipants frame.participants entry.2 = true := by
      rw [parts.paths, List.mem_filter] at listed
      exact listed.2
    obtain ⟨found, present, read⟩ := mapM_mem read (List.mem_filter.mpr
      ⟨listed, by simp [source, connects]⟩)
    have same := (parts.lookup keys listed).mpr made
    cases (orElse_ok.mp read).symm.trans same
    exact ⟨_, present, inside⟩

end

variable {attachment : AttachmentV1}

theorem buildProjection_ok
    (built : buildProjection env store frame metadata attachment = .ok projection) :
    projection.attachmentId = metadata.id ∧
      projection.publicationId = stableUuid env.encoding.sha256 frame.snapshot.segmentId metadata.id
        frame.snapshot.desiredRevision ∧
      projection.egressRoutes = frame.plan.routes attachment.siteId ∧
      ∃ outbound first, frame.outbound metadata.id = .ok outbound ∧
        projection.peerPaths = (outbound.map (·.peerPath)).insertionSort
          (fun a b => pathRank a ≤ pathRank b) ∧
        projection.peerPaths.head? = some first ∧
        policyFor frame.view attachment.siteId first.peerSiteId = .ok projection.pathPolicy := by
  simp only [buildProjection, bind_ok, pure_ok] at built
  obtain ⟨_, -, outbound, left, first, least, _, -, _, -, ⟨_, _⟩, -, policy, chosen, rfl⟩ := built
  exact ⟨rfl, rfl, rfl, outbound, first, left, rfl, orElse_ok.mp least, chosen⟩

theorem buildProjection_head
    (built : buildProjection env store frame metadata attachment = .ok projection) :
    projection.projectionId = metadata.id ∧ ∃ head,
      projectionHead store frame.snapshot.tenantId frame.snapshot.segmentId metadata.id = .ok head ∧
      nextProjection head = .ok (projection.projectionGeneration, projection.previousHash) := by
  simp only [buildProjection, bind_ok, mapError_ok, pure_ok] at built
  obtain ⟨_, -, _, -, _, -, _, -, head, read, ⟨_, _⟩, next, _, -, rfl⟩ := built
  exact ⟨rfl, head, read, next⟩

variable (parts : Builds env store snapshot core frame input)

include parts

theorem Builds.projected_ids :
    input.projections.map (·.attachmentId) =
      (frame.view.attachments.filter fun entry => entry.1.state == .active &&
        frame.participants.contains entry.1.id).map fun entry => entry.1.id :=
  map_mapM (fun _ _ made => (buildProjection_ok made).1) parts.projections

theorem Builds.projected_nodup (keys : (snapshot.resources.map ControlResourceV1.key).Nodup) :
    (input.projections.map (·.attachmentId)).Nodup := by
  rw [parts.projected_ids]
  exact (parts.attachment_ids keys).sublist (List.filter_sublist.map _)

theorem Builds.mem_peerPaths (keys : (snapshot.resources.map ControlResourceV1.key).Nodup)
    (built : buildProjection env store frame metadata attachment = .ok projection)
    {path : PeerPathCandidateV1} :
    path ∈ projection.peerPaths ↔ ∃ entry ∈ frame.paths,
      entry.2.sourceAttachmentId = metadata.id ∧ ∃ expanded,
        expandPath env.encoding snapshot.transportBindings frame.view entry =
          .ok (entry.1.id, expanded) ∧ path ∈ expanded.map (·.peerPath) := by
  obtain ⟨-, -, -, outbound, -, left, paths, -, -⟩ := buildProjection_ok built
  rw [paths, List.mem_insertionSort, List.mem_map]
  constructor
  · rintro ⟨bound, member, rfl⟩
    obtain ⟨entry, listed, source, expanded, made, inside⟩ :=
      (parts.mem_outbound keys left).mp member
    exact ⟨entry, listed, source, expanded, made, List.mem_map_of_mem inside⟩
  · rintro ⟨entry, listed, source, expanded, made, inside⟩
    obtain ⟨bound, member, rfl⟩ := List.mem_map.mp inside
    exact ⟨bound, (parts.mem_outbound keys left).mpr
      ⟨entry, listed, source, expanded, made, member⟩, rfl⟩

/-- The sites and the kinds of the paths of a projection are those of the candidates
    that leave its attachment and have a transport. -/
theorem Builds.leads_iff (keys : (snapshot.resources.map ControlResourceV1.key).Nodup)
    {plan : DeviceProjectionInput}
    (made : buildProjection env store frame metadata attachment = .ok plan) {siteId peerId : Uuid}
    {kind : PathCandidateKindV1} :
    (∃ path ∈ plan.peerPaths, path.peerSiteId = siteId ∧ path.peerAttachmentId = peerId ∧
        path.kind = kind) ↔
      ∃ entry ∈ frame.paths, entry.2.sourceAttachmentId = metadata.id ∧
        entry.2.destinationAttachmentId = peerId ∧ entry.2.kind = kind ∧
        (∃ target ∈ frame.view.attachments, target.1.id = peerId ∧ target.2.siteId = siteId) ∧
        ∃ transports, snapshot.transportBindings.lookup entry.1.id = some transports ∧
          transports ≠ [] := by
  constructor
  · intro listed
    obtain ⟨path, member, rfl, rfl, rfl⟩ := listed
    obtain ⟨entry, present, source, expanded, expansion, inside⟩ :=
      (parts.mem_peerPaths keys made).mp member
    obtain ⟨bound, listed, rfl⟩ := List.mem_map.mp inside
    obtain ⟨-, destination, transports, contentHash, place, found, converted⟩ :=
      expandPath_ok expansion
    obtain ⟨transport, used, conversion⟩ := mem_mapM converted listed
    obtain ⟨-, site, peer, kind, -⟩ := boundPath_ok conversion
    obtain ⟨target, located, rfl⟩ := Option.map_eq_some_iff.mp place
    have selects : target.1.id = entry.2.destinationAttachmentId :=
      beq_iff_eq.mp (List.find?_some (p := fun item : ResourceMetadataV1 × AttachmentV1 =>
        item.1.id == entry.2.destinationAttachmentId) located)
    exact ⟨entry, present, source, peer.symm, kind.symm, ⟨target, List.mem_of_find?_eq_some located,
      selects.trans peer.symm, site.symm⟩, transports, found, List.ne_nil_of_mem used⟩
  · intro leads
    obtain ⟨entry, listed, source, rfl, rfl, ⟨target, present, destination, rfl⟩, transports,
      filled, nonempty⟩ := leads
    obtain ⟨row, -, expansion⟩ := mapM_mem parts.expanded listed
    obtain ⟨named, place, others, contentHash, located, found, converted⟩ := expandPath_ok expansion
    cases found.symm.trans filled
    obtain ⟨transport, rest, rfl⟩ := List.exists_cons_of_ne_nil nonempty
    obtain ⟨first, inside, conversion⟩ := mapM_mem converted List.mem_cons_self
    obtain ⟨-, site, peer, kind, -⟩ := boundPath_ok conversion
    have same : row = (entry.1.id, row.2) := Prod.ext named rfl
    have unique : frame.view.attachments.find? (fun candidate =>
        candidate.1.id == entry.2.destinationAttachmentId) = some target :=
      find_of_key (parts.attachment_ids keys) present fun candidate => by simp [destination]
    rw [unique] at located
    refine ⟨first.peerPath, (parts.mem_peerPaths keys made).mpr ⟨entry, listed, source, row.2,
      same ▸ expansion, List.mem_map_of_mem inside⟩, ?_, peer, kind⟩
    rw [site, ← Option.some.inj located]

end Projections

end CandyCloud
