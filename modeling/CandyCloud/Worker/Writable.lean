import CandyCloud.Enrollment.ReenrollmentRuns
import CandyCloud.Route.Admission
import CandyCloud.Worker.RemoteRoutes

/-! # Publications that can be written

What `database_write` makes of a built publication, held against what the store asks of it.
-/

namespace CandyCloud

open Foundation

variable {head : Option (Nat × Hash)} {tenantId segmentId deviceId deviceKeyId id : Uuid}
  {generation : Nat} {topology : Topology} {resources : List ControlResourceV1} {cloud : Cloud}
  {node : NodeV1} {metadata : ResourceMetadataV1} {attachment : AttachmentV1}
  {plan : DeviceProjectionInput} {path : PeerPathCandidateV1}
  {entry : ResourceMetadataV1 × AttachmentV1} {projection : SiteProjectionPublicationWrite}
  {built : BuiltDeviceProjection} {write : SegmentPublicationWrite}

theorem walkProjections_head {n : Nat} {h : Hash} {found : Option (Nat × Hash)}
    {rows : List ProjectionRow} (walked : walkProjections n h head rows = .ok found)
    (positive : n ≠ 0) (hashed : ∀ generation contentHash, head = some (generation, contentHash) →
      generation ≠ 0 ∧ contentHash ≠ zeroHash) :
    ∀ generation contentHash, found = some (generation, contentHash) →
      generation ≠ 0 ∧ contentHash ≠ zeroHash := by
  induction rows generalizing n h head with
  | nil =>
      cases walked
      exact hashed
  | cons row rest ih =>
      simp only [walkProjections, bind_ok, orElse_ok, reject_ok, Bool.or_eq_false_iff,
        bne_eq_false_iff_eq, beq_eq_false_iff_ne] at walked
      obtain ⟨_, ⟨⟨⟨same, -⟩, -⟩, present⟩, next, sum, walked⟩ := walked
      refine ih walked ?_ ?_
      · rw [checkedAdd_some sum]
        exact Nat.succ_ne_zero n
      · intro generation contentHash named
        cases named
        exact ⟨same ▸ positive, present⟩

theorem projectionHead_next {store : RouteStore} {attachmentId : Uuid}
    (read : projectionHead store tenantId segmentId attachmentId = .ok head) {previousHash : Hash}
    (next : nextProjection head = .ok (generation, previousHash)) :
    generation ≠ 0 ∧ (generation = 1 ↔ previousHash = zeroHash) := by
  have hashed := walkProjections_head read Nat.one_ne_zero fun _ _ named => by cases named
  cases head with
  | none =>
      cases next
      simp
  | some found =>
      obtain ⟨current, contentHash⟩ := found
      simp only [nextProjection, bind_ok, orElse_ok, pure_ok] at next
      obtain ⟨sum, added, same⟩ := next
      cases same
      obtain ⟨positive, present⟩ := hashed current _ rfl
      rw [checkedAdd_some added]
      simp [positive, present]

theorem segmentHead_first {store : RouteStore} {contentHash : Hash}
    (read : segmentHead store tenantId segmentId = .ok (generation, contentHash)) :
    generation = 0 ↔ contentHash = zeroHash := by
  simp only [segmentHead, bind_ok, orElse_ok, pure_ok, reject_ok, Bool.or_eq_false_iff] at read
  obtain ⟨row, -, _, ⟨zero, later⟩, same⟩ := read
  cases same
  by_cases none : row.currentGeneration = 0
  · simpa [none] using zero
  · simpa [none, Nat.pos_of_ne_zero none] using later

/-- The endpoints of the candidates that have transports. -/
def SegmentControlSnapshot.endpoints (snapshot : SegmentControlSnapshot) : List (Uuid × Uuid) :=
  snapshot.transportBindings.flatMap fun row => row.2.map fun transport =>
    (row.1, transport.endpointId)

/-- What the loader has made sure of about the bindings of a candidate. -/
structure BoundTo (topology : Topology) (resources : List ControlResourceV1)
    (transports : List RuntimeTransportBinding) : Prop where
  once : (transports.map (·.endpointId)).Nodup
  served : ∀ transport ∈ transports, ∃ node ∈ topology.nodes, transport.serviceNodeId = node.id
  keyed : ∀ transport ∈ transports, ∃ id node, nodeDocument resources id = some node ∧
    transport.serviceNodeKeyId = node.deviceKeyId

theorem bindRows_ok {candidateId : Uuid} {seen : List Uuid} {rows : List TransportRow}
    {transports : List RuntimeTransportBinding}
    (bound : bindRows candidateId deviceId deviceKeyId seen rows = .ok transports) :
    (transports.map (·.endpointId)).Nodup ∧ ∀ transport ∈ transports,
      transport.endpointId ∉ seen ∧ transport.serviceNodeKeyId = deviceKeyId ∧
        ∃ row ∈ rows, transport.serviceNodeId = row.node.id := by
  induction rows generalizing seen transports with
  | nil =>
      cases bound
      exact ⟨List.nodup_nil, fun _ member => absurd member List.not_mem_nil⟩
  | cons row rest ih =>
      simp only [bindRows, bind_ok, pure_ok, reject_ok] at bound
      obtain ⟨_, fresh, first, made, others, later, rfl⟩ := bound
      obtain ⟨distinct, each⟩ := ih later
      simp only [TransportRow.binding, bind_ok, pure_ok] at made
      obtain ⟨_, -, _, -, _, -, _, -, rfl⟩ := made
      constructor
      · rw [List.map_cons, List.nodup_cons]
        refine ⟨?_, distinct⟩
        intro repeated
        obtain ⟨other, member, same⟩ := List.mem_map.mp repeated
        exact (each other member).1 (same ▸ List.mem_cons_self)
      · intro transport member
        cases List.mem_cons.mp member with
        | inl same =>
            subst same
            exact ⟨by simpa using fresh, rfl, row, List.mem_cons_self, rfl⟩
        | inr member =>
            obtain ⟨unseen, keyed, other, present, node⟩ := each transport member
            exact ⟨fun inside => unseen (List.mem_cons_of_mem _ inside), keyed, other,
              List.mem_cons_of_mem _ present, node⟩

theorem transportRows_node {row : TransportRow}
    (member : row ∈ topology.transportRows tenantId deviceId deviceKeyId) :
    row.node ∈ topology.nodes := by
  simp only [Topology.transportRows, List.mem_insertionSort, List.mem_flatMap, List.mem_filter,
    List.mem_map] at member
  obtain ⟨node, ⟨present, -⟩, entitlement, -, endpoint, -, rfl⟩ := member
  exact present

theorem loadTransportBindings_ok {bindings : TransportBindings}
    (loaded : loadTransportBindings topology tenantId resources = .ok bindings) :
    ∀ row ∈ bindings, BoundTo topology resources row.2 := by
  intro row member
  simp only [loadTransportBindings, bind_ok, pure_ok] at loaded
  obtain ⟨each, made, rfl⟩ := loaded
  obtain ⟨found, present, rfl⟩ := List.mem_filterMap.mp member
  obtain ⟨candidate, -, bound⟩ := mem_mapM made present
  simp only [bindCandidate, bind_ok, orElse_ok] at bound
  obtain ⟨node, document, _, -, bound⟩ := bound
  split at bound
  · cases bound
  · simp only [bind_ok, pure_ok, Option.some.injEq] at bound
    obtain ⟨_, -, transports, bound, rfl⟩ := bound
    obtain ⟨once, facts⟩ := bindRows_ok bound
    refine ⟨once, ?_, ?_⟩
    · intro transport inside
      obtain ⟨-, -, served, listed, same⟩ := facts transport inside
      exact ⟨served.node, transportRows_node listed, same⟩
    · intro transport inside
      exact ⟨_, node, document, (facts transport inside).2.1⟩

theorem requireIds_ok {ids : List Uuid} :
    requireIds ids = .ok () ↔ ∀ id ∈ ids, isNil id = false := by
  simp only [requireIds, reject_ok, List.any_eq_false, Bool.not_eq_true]

theorem graphDocuments_valid (graph : GraphInvariant tenantId cloud.control) :
    ∀ resource ∈ (cloud.control.graphRows tenantId segmentId).map (·.document),
      resource.validate = .ok () := by
  intro resource member
  obtain ⟨row, loaded, rfl⟩ := List.mem_map.mp member
  obtain ⟨present, tenant, -⟩ := mem_graphRows.mp loaded
  exact (graph.rows row present tenant).valid

section Valid

variable {resource : ControlResourceV1} (valid : resource.validate = .ok ())

include valid

theorem valid_id : isNil resource.metadata.id = false := by
  simp only [ControlResourceV1.validate, ResourceMetadataV1.validate, unit_bind_ok, reject_ok,
    Bool.or_eq_false_iff] at valid
  exact valid.1.1.1.2

theorem valid_attachment {value : AttachmentV1}
    (document : resource.resource.attachment? = some value) : isNil value.siteId = false := by
  rw [ResourceSpecV1.attachment?_eq_some] at document
  simp only [ControlResourceV1.validate, document, ResourceSpecV1.validate, unit_bind_ok,
    requireIds_ok] at valid
  exact valid.2.1 _ (by simp)

theorem valid_node {value : NodeV1} (document : resource.resource.node? = some value) :
    isNil value.deviceId = false ∧ isNil value.deviceKeyId = false := by
  rw [ResourceSpecV1.node?_eq_some] at document
  simp only [ControlResourceV1.validate, document, ResourceSpecV1.validate, unit_bind_ok,
    requireIds_ok] at valid
  exact ⟨valid.2.1 _ (by simp), valid.2.1 _ (by simp)⟩

theorem valid_candidate {value : PathCandidateV1}
    (document : resource.resource.pathCandidate? = some value) :
    isNil value.destinationAttachmentId = false ∧
      value.sourceAttachmentId ≠ value.destinationAttachmentId := by
  rw [ResourceSpecV1.pathCandidate?_eq_some] at document
  simp only [ControlResourceV1.validate, document, ResourceSpecV1.validate, unit_bind_ok,
    requireIds_ok, reject_ok, PathCandidateV1.malformed, Bool.or_eq_false_iff,
    beq_eq_false_iff_ne] at valid
  exact ⟨valid.2.1 _ (by simp), valid.2.2.1.1.1⟩

end Valid

theorem nodeDocument_mem (found : nodeDocument resources id = some node) :
    ∃ resource ∈ resources, resource.resource.node? = some node := by
  obtain ⟨resource, member, reads⟩ := List.exists_of_findSome?_eq_some found
  split at reads
  · exact ⟨resource, member, reads⟩
  · cases reads

theorem segmentView_node (found : (segmentView segmentId resources).nodes id = some node) :
    ∃ resource ∈ resources, resource.resource.node? = some node := by
  obtain ⟨resource, member, reads⟩ := List.exists_of_findSome?_eq_some found
  split at reads
  · exact ⟨resource, List.mem_reverse.mp member, reads⟩
  · cases reads

/-- The endpoints that an attachment reaches its peers over, for each of its candidates. -/
def SegmentControlSnapshot.endpointsFrom (snapshot : SegmentControlSnapshot)
    (participants : List Uuid) (source : Uuid) : List (Uuid × Uuid) :=
  ((segmentView snapshot.segmentId snapshot.resources).activePaths.filter fun entry =>
    entry.2.sourceAttachmentId == source && pathConnectsParticipants participants entry.2).flatMap
    fun entry => ((snapshot.transportBindings.lookup entry.1.id).getD []).map fun transport =>
      (entry.1.id, transport.endpointId)

/-- Some attachment takes part, no two of one node do, and none has paths over more
    endpoints than a projection may have. -/
structure SegmentControlSnapshot.WithinLimits (snapshot : SegmentControlSnapshot)
    (participants : List Uuid) : Prop where
  attended : ∃ entry ∈ (segmentView snapshot.segmentId snapshot.resources).activeAttachments,
    entry.1.id ∈ participants
  once : ∀ a ∈ (segmentView snapshot.segmentId snapshot.resources).activeAttachments,
    ∀ b ∈ (segmentView snapshot.segmentId snapshot.resources).activeAttachments,
      a.1.id ∈ participants → b.1.id ∈ participants → a.2.nodeId = b.2.nodeId → a.1.id = b.1.id
  paths : ∀ entry ∈ (segmentView snapshot.segmentId snapshot.resources).activeAttachments,
    entry.1.id ∈ participants →
      (snapshot.endpointsFrom participants entry.1.id).length ≤ maxRuntimePaths

def SegmentControlSnapshot.Writable (snapshot : SegmentControlSnapshot) : Prop :=
  let view := segmentView snapshot.segmentId snapshot.resources
  ∀ core, view.coreAttachments = .ok core → snapshot.WithinLimits (view.participants core)

/-- No two identifiers of a publication come from digests that begin alike, and none
    from one that begins with sixteen zero bytes. -/
structure IdentifiersApart (sha256 : Bytes → Hash) (snapshot : SegmentControlSnapshot) :
    Prop where
  present : IdentifiersPresent sha256 snapshot
  projections : ∀ a ∈ (segmentView snapshot.segmentId snapshot.resources).attachments,
    ∀ b ∈ (segmentView snapshot.segmentId snapshot.resources).attachments,
      stableUuid sha256 snapshot.segmentId a.1.id snapshot.desiredRevision =
        stableUuid sha256 snapshot.segmentId b.1.id snapshot.desiredRevision → a.1.id = b.1.id
  candidates : ∀ a ∈ snapshot.endpoints, ∀ b ∈ snapshot.endpoints,
    runtimePathCandidateId sha256 a.1 a.2 = runtimePathCandidateId sha256 b.1 b.2 → a = b
  candidatesPresent : ∀ a ∈ snapshot.endpoints,
    isNil (runtimePathCandidateId sha256 a.1 a.2) = false

/-- The core module hashes to something and assembles something. -/
structure CoreModule.Sound (core : CoreModule) : Prop where
  hashed : ∀ objectType payload contentHash,
    core.routeContentHash objectType payload = .ok contentHash → contentHash ≠ zeroHash
  assembled : ∀ objectType keyId payload signature raw,
    core.assemble objectType keyId payload signature = .ok raw → raw ≠ []

/-- No envelope of the publication is longer than the store takes. -/
structure BuiltRoutePublication.Sized (publication : BuiltRoutePublication) : Prop where
  segment : publication.segment.envelope.length ≤ maxSignedEnvelopeLen
  projections : ∀ built ∈ publication.projections,
    built.sealedProjection.envelope.length ≤ maxSignedEnvelopeLen

theorem moduleSeal_object {signer : RouteSigner} (sound : signer.core.Sound) {α : Type}
    {objectType : BitVec 32} {source : α} {request : Except String Bytes}
    {sealedObject : SealedRouteObject α}
    (done : signer.moduleSeal objectType source request = .ok sealedObject)
    (sized : sealedObject.envelope.length ≤ maxSignedEnvelopeLen) :
    sealedObject.object.validate = .ok () := by
  simp only [RouteSigner.moduleSeal, bind_ok, mapError_ok, pure_ok] at done
  obtain ⟨_, -, _, -, _, -, contentHash, hashed, raw, assembled, _, -, rfl⟩ := done
  have present := sound.hashed _ _ _ hashed
  have filled := sound.assembled _ _ _ _ _ assembled
  simp only [SignedObjectWrite.validate, SealedRouteObject.object, reject_ok, Bool.or_eq_false_iff,
    beq_eq_false_iff_ne, List.isEmpty_eq_false_iff]
  exact ⟨⟨present, filled⟩, decide_eq_false (Nat.not_lt.mpr sized)⟩

section Projections

variable {env : BuildEnvironment} {store : RouteStore} {snapshot : SegmentControlSnapshot}
  {core : List SegmentAttachmentV1} {frame : PublicationFrame} {input : RoutePublicationInput}

theorem Builds.expanded_ids (parts : Builds env store snapshot core frame input)
    {expanded : List QuotaBoundPeerPathCandidate}
    (found : frame.pathMap.lookup id = some expanded) :
    expanded.map (·.peerPath.candidateId) =
      ((snapshot.transportBindings.lookup id).getD []).map fun transport =>
        runtimePathCandidateId env.encoding.sha256 id transport.endpointId := by
  obtain ⟨entry, -, expansion⟩ := mem_mapM parts.expanded (mem_of_lookup found)
  obtain ⟨named, destination, transports, contentHash, -, bound, converted⟩ :=
    expandPath_ok expansion
  have named : id = entry.1.id := named
  rw [named, bound]
  exact map_mapM (fun transport bound made => (boundPath_ok made).1) converted

theorem Builds.path_candidates (parts : Builds env store snapshot core frame input)
    (made : buildProjection env store frame metadata attachment = .ok plan) :
    (plan.peerPaths.map (·.candidateId)).Perm
      ((snapshot.endpointsFrom frame.participants metadata.id).map fun pair =>
        runtimePathCandidateId env.encoding.sha256 pair.1 pair.2) := by
  obtain ⟨-, -, -, outbound, -, left, paths, -, -⟩ := buildProjection_ok made
  simp only [PublicationFrame.outbound, bind_ok, pure_ok] at left
  obtain ⟨candidates, read, rfl⟩ := left
  have columns : candidates.map (·.map (·.peerPath.candidateId)) =
      (frame.paths.filter fun entry => entry.2.sourceAttachmentId == metadata.id &&
        pathConnectsParticipants frame.participants entry.2).map fun entry =>
          ((snapshot.transportBindings.lookup entry.1.id).getD []).map fun transport =>
            runtimePathCandidateId env.encoding.sha256 entry.1.id transport.endpointId :=
    map_mapM (fun entry expanded found => parts.expanded_ids (orElse_ok.mp found)) read
  have chosen : (frame.paths.filter fun entry => entry.2.sourceAttachmentId == metadata.id &&
      pathConnectsParticipants frame.participants entry.2) =
        (segmentView snapshot.segmentId snapshot.resources).activePaths.filter fun entry =>
          entry.2.sourceAttachmentId == metadata.id &&
            pathConnectsParticipants frame.participants entry.2 := by
    rw [parts.paths, ← parts.view, List.filter_filter]
    apply List.filter_congr
    intro entry _
    rw [Bool.and_assoc, Bool.and_self]
  rw [paths]
  refine ((List.perm_insertionSort _ _).map _).trans ?_
  have same : (candidates.flatten.map (·.peerPath)).map (·.candidateId) =
      (snapshot.endpointsFrom frame.participants metadata.id).map fun pair =>
        runtimePathCandidateId env.encoding.sha256 pair.1 pair.2 := by
    rw [List.map_map, List.map_flatten, SegmentControlSnapshot.endpointsFrom, ← chosen,
      List.map_flatMap, List.flatMap_def]
    simp only [List.map_map]
    exact congrArg List.flatten columns
  rw [same]

theorem Builds.path_origin (parts : Builds env store snapshot core frame input)
    (keys : (snapshot.resources.map ControlResourceV1.key).Nodup)
    (made : buildProjection env store frame metadata attachment = .ok plan)
    (member : path ∈ plan.peerPaths) :
    ∃ entry ∈ frame.paths, entry.2.sourceAttachmentId = metadata.id ∧
      path.peerAttachmentId = entry.2.destinationAttachmentId ∧
      ∃ row ∈ snapshot.transportBindings, row.1 = entry.1.id ∧ ∃ transport ∈ row.2,
        path.candidateId =
          runtimePathCandidateId env.encoding.sha256 row.1 transport.endpointId ∧
        path.transportNode = ⟨transport.serviceNodeId, transport.serviceNodeKeyId⟩ := by
  obtain ⟨entry, listed, source, expanded, expansion, inside⟩ :=
    (parts.mem_peerPaths keys made).mp member
  obtain ⟨bound, present, rfl⟩ := List.mem_map.mp inside
  obtain ⟨-, destination, transports, contentHash, -, found, converted⟩ := expandPath_ok expansion
  obtain ⟨transport, used, conversion⟩ := mem_mapM converted present
  obtain ⟨candidate, -, peer, -, node⟩ := boundPath_ok conversion
  exact ⟨entry, listed, source, peer, (entry.1.id, transports), mem_of_lookup found, rfl, transport,
    used, candidate, node⟩

end Projections

theorem endpointsFrom_subset {snapshot : SegmentControlSnapshot} {participants : List Uuid}
    {source : Uuid} : snapshot.endpointsFrom participants source ⊆ snapshot.endpoints := by
  intro pair member
  obtain ⟨entry, -, inside⟩ := List.mem_flatMap.mp member
  obtain ⟨transport, used, rfl⟩ := List.mem_map.mp inside
  cases found : snapshot.transportBindings.lookup entry.1.id with
  | none =>
      rw [found] at used
      exact absurd used List.not_mem_nil
  | some transports =>
      rw [found] at used
      exact List.mem_flatMap.mpr ⟨(entry.1.id, transports), mem_of_lookup found,
        List.mem_map.mpr ⟨transport, used, rfl⟩⟩

theorem endpointsFrom_nodup {snapshot : SegmentControlSnapshot}
    (keys : (snapshot.resources.map ControlResourceV1.key).Nodup)
    (bound : ∀ row ∈ snapshot.transportBindings, (row.2.map (·.endpointId)).Nodup)
    (participants : List Uuid) (source : Uuid) :
    (snapshot.endpointsFrom participants source).Nodup := by
  have listed : (((segmentView snapshot.segmentId snapshot.resources).activePaths.filter
      fun entry => entry.2.sourceAttachmentId == source &&
        pathConnectsParticipants participants entry.2).map fun entry => entry.1.id).Nodup := by
    have paths : ((segmentView snapshot.segmentId snapshot.resources).paths.map
        fun entry => entry.1.id).Nodup := by
      rw [segmentView_paths]
      exact documentsIn_nodup reads_pathCandidate keys
    exact paths.sublist ((List.filter_sublist.trans List.filter_sublist).map _)
  rw [SegmentControlSnapshot.endpointsFrom, List.nodup_flatMap]
  constructor
  · intro entry _
    cases found : snapshot.transportBindings.lookup entry.1.id with
    | none => exact List.nodup_nil
    | some transports =>
        have once := bound (entry.1.id, transports) (mem_of_lookup found)
        have pairs := once.map (f := fun endpoint => (entry.1.id, endpoint))
          fun _ _ same => congrArg Prod.snd same
        rwa [List.map_map] at pairs
  · refine (List.pairwise_map.mp listed).imp ?_
    intro a b apart pair first second
    obtain ⟨_, -, rfl⟩ := List.mem_map.mp first
    obtain ⟨_, -, same⟩ := List.mem_map.mp second
    exact apart (congrArg Prod.fst same).symm

/-- What a snapshot that is read from the stores can be relied on for. -/
structure SegmentControlSnapshot.Loaded (snapshot : SegmentControlSnapshot) (topology : Topology) :
    Prop where
  named : isNil snapshot.tenantId = false ∧ isNil snapshot.segmentId = false
  keys : (snapshot.resources.map ControlResourceV1.key).Nodup
  valid : ∀ resource ∈ snapshot.resources, resource.validate = .ok ()
  bound : ∀ row ∈ snapshot.transportBindings, BoundTo topology snapshot.resources row.2
  devices : ∀ id id' node node', (segmentView snapshot.segmentId snapshot.resources).nodes id =
    some node → (segmentView snapshot.segmentId snapshot.resources).nodes id' = some node' →
      node.deviceId = node'.deviceId → id = id'

theorem segmentSnapshot_loaded {desiredRevision : Nat} {snapshot : SegmentControlSnapshot}
    (addressed : Addressed tenantId cloud.control)
    (read : segmentSnapshot cloud topology tenantId segmentId desiredRevision = .ok snapshot) :
    snapshot.Loaded topology := by
  have graph := addressed.graph
  have resources := segmentSnapshot_resources graph read
  have segment := segmentSnapshot_segment read
  simp only [segmentSnapshot, completeSnapshot, bind_ok, pure_ok] at read
  obtain ⟨reading, first, bindings, loaded, _, -, rfl⟩ := read
  simp only [readSegment, bind_ok, reject_ok, Bool.or_eq_false_iff] at first
  obtain ⟨_, named, -⟩ := first
  have resources : reading.resources = _ := resources
  refine ⟨named.1, ?_, ?_, loadTransportBindings_ok loaded, ?_⟩
  · rw [resources]
    exact graphDocuments_keys graph
  · rw [resources]
    exact graphDocuments_valid graph
  · intro id id' node node' found found' device
    rw [resources] at found found'
    exact node_of_device addressed (mem_view_nodes graph found) (mem_view_nodes graph found') device

section Written

variable {env : BuildEnvironment} {store : RouteStore} {snapshot : SegmentControlSnapshot}
  {core : List SegmentAttachmentV1} {frame : PublicationFrame} {input : RoutePublicationInput}
  {signer : RouteSigner} {publication : BuiltRoutePublication} {routes : List SegmentRouteV1}

/-- What is written for an attachment that takes part. -/
structure WrittenFor (env : BuildEnvironment) (store : RouteStore) (frame : PublicationFrame)
    (input : RoutePublicationInput) (publication : BuiltRoutePublication)
    (entry : ResourceMetadataV1 × AttachmentV1) (projection : SiteProjectionPublicationWrite) :
    Prop where
  listed : entry ∈ frame.view.attachments
  active : entry.1.state = .active
  participates : entry.1.id ∈ frame.participants
  publicationId : projection.publicationId = stableUuid env.encoding.sha256
    frame.snapshot.segmentId entry.1.id frame.snapshot.desiredRevision
  projectionId : projection.projectionId = entry.1.id
  attachmentId : projection.attachmentId = entry.1.id
  siteId : projection.siteId = entry.2.siteId
  device : ∃ node, frame.view.nodes entry.2.nodeId = some node ∧
    projection.deviceId = node.deviceId ∧ projection.deviceKeyId = node.deviceKeyId
  scope : projection.tenantId = input.tenantId ∧ projection.segmentId = input.segmentId ∧
    projection.segmentGeneration = input.generation ∧
    projection.segmentContentHash = publication.segment.contentHash
  object : projection.object.validate = .ok ()
  plan : ∃ plan, buildProjection env store frame entry.1 entry.2 = .ok plan ∧
    projection.projectionGeneration = plan.projectionGeneration ∧
    projection.previousHash = plan.previousHash ∧
    projection.transportNodes = sortedSet pairOrder (plan.peerPaths.map fun path =>
      (path.transportNode.nodeId, path.transportNode.nodeKeyId)) ∧
    projection.runtimePaths = plan.peerPaths.map PeerPathCandidateV1.catalog

theorem WrittenFor.activeAttachment
    (written : WrittenFor env store frame input publication entry projection) :
    entry ∈ frame.view.activeAttachments :=
  List.mem_filter.mpr ⟨written.listed, beq_iff_eq.mpr written.active⟩

section

variable (parts : Builds env store snapshot core frame input)
  (whole : Published signer input publication routes) (sound : signer.core.Sound)
  (sized : publication.Sized)

include parts whole sound sized

theorem Builds.writtenFor (listed : entry ∈ frame.view.attachments)
    (active : entry.1.state = .active) (participates : entry.1.id ∈ frame.participants)
    (made : buildProjection env store frame entry.1 entry.2 = .ok plan)
    (present : built ∈ publication.projections)
    (finished : buildDeviceProjection signer input routes
      ((sortedAttachments input).filter RouteAttachmentV1.isActiveDevice)
        publication.segment.contentHash plan = .ok built) :
    WrittenFor env store frame input publication entry built.write := by
  obtain ⟨named, publicationId, -⟩ := buildProjection_ok made
  obtain ⟨device, member, same, siteId, deviceId, deviceKeyId, remote, site, principal, -, id,
    signed⟩ := buildDeviceProjection_ok finished
  obtain ⟨origin, -, rfl, hands⟩ := parts.device_origin whole.once listed active participates member
    (same.trans named)
  obtain ⟨node, found, deviceOf, keyOf⟩ := hands.node
  cases site
  cases principal
  have object := moduleSeal_object sound signed (sized.projections built present)
  have source := moduleSeal_source signed
  constructor
  case listed => exact listed
  case active => exact active
  case participates => exact participates
  case publicationId => exact id.trans publicationId
  case projectionId =>
    rw [BuiltDeviceProjection.write, source]
    exact (buildProjection_head made).1
  case attachmentId =>
    rw [BuiltDeviceProjection.write, source]
    exact hands.id
  case siteId =>
    rw [BuiltDeviceProjection.write, source]
    exact hands.site
  case device =>
    rw [BuiltDeviceProjection.write, source]
    exact ⟨node, found, deviceOf, keyOf⟩
  case scope =>
    rw [BuiltDeviceProjection.write, source]
    exact ⟨rfl, rfl, rfl, rfl⟩
  case object => exact object
  case plan =>
    rw [BuiltDeviceProjection.write, source]
    exact ⟨plan, made, rfl, rfl, rfl, rfl⟩

theorem Builds.written_origin (present : built ∈ publication.projections) :
    ∃ entry, WrittenFor env store frame input publication entry built.write := by
  obtain ⟨plan, planned, finished⟩ := mem_mapM whole.projections present
  obtain ⟨entry, chosen, made⟩ := mem_mapM parts.projections (mem_sortedPlans.mp planned)
  obtain ⟨listed, taking⟩ := List.mem_filter.mp chosen
  rw [Bool.and_eq_true, beq_iff_eq, List.contains_iff_mem] at taking
  exact ⟨entry, parts.writtenFor whole sound sized listed taking.1 taking.2 made present finished⟩

end

theorem pairOrder_antisymm (a b : Uuid × Uuid) (before : pairOrder a b) (after : pairOrder b a) :
    a = b := by
  obtain ⟨first, second⟩ := a
  obtain ⟨third, fourth⟩ := b
  simp only [pairOrder, BitVec.lt_def, BitVec.le_def, ← BitVec.toNat_inj] at before after
  ext1
  · apply BitVec.eq_of_toNat_eq
    simp only
    omega
  · apply BitVec.eq_of_toNat_eq
    simp only
    omega

instance : Std.Total pairOrder where
  total a b := by
    simp only [pairOrder, BitVec.lt_def, BitVec.le_def, ← BitVec.toNat_inj]
    omega

instance : IsTrans (Uuid × Uuid) pairOrder where
  trans a b c := by
    simp only [pairOrder, BitVec.lt_def, BitVec.le_def, ← BitVec.toNat_inj]
    omega

theorem Builds.candidate_valid (parts : Builds env store snapshot core frame input)
    (loaded : snapshot.Loaded topology) {candidate : ResourceMetadataV1 × PathCandidateV1}
    (listed : candidate ∈ frame.paths) :
    isNil candidate.2.destinationAttachmentId = false ∧
      candidate.2.sourceAttachmentId ≠ candidate.2.destinationAttachmentId := by
  rw [parts.paths, parts.view] at listed
  have listed := List.mem_of_mem_filter (List.mem_of_mem_filter listed)
  rw [segmentView_paths, mem_documentsIn] at listed
  obtain ⟨resource, document, -, value, -⟩ := listed
  exact valid_candidate (loaded.valid resource document) value

/-- A path names a candidate, a peer other than its own attachment, and a transport node. -/
structure PeerPathCandidateV1.Named (path : PeerPathCandidateV1) (source : Uuid) : Prop where
  id : isNil path.candidateId = false
  peer : isNil path.peerAttachmentId = false
  foreign : path.peerAttachmentId ≠ source
  carrier : isNil path.transportNode.nodeId = false ∧ isNil path.transportNode.nodeKeyId = false

section

variable (parts : Builds env store snapshot core frame input) (loaded : snapshot.Loaded topology)
  (served : ∀ node ∈ topology.nodes, isNil node.id = false)
  (identifiers : IdentifiersApart env.encoding.sha256 snapshot)

include parts loaded served identifiers

theorem Builds.path_named (made : buildProjection env store frame metadata attachment = .ok plan)
    (member : path ∈ plan.peerPaths) : path.Named metadata.id := by
  obtain ⟨candidate, listed, source, peer, row, bound, -, transport, used, id, principal⟩ :=
    parts.path_origin loaded.keys made member
  obtain ⟨destination, foreign⟩ := parts.candidate_valid loaded listed
  obtain ⟨-, serving, keyed⟩ := loaded.bound row bound
  obtain ⟨service, registered, same⟩ := serving transport used
  obtain ⟨owner, node, owned, keyOf⟩ := keyed transport used
  obtain ⟨resource, document, reads⟩ := nodeDocument_mem owned
  have listed : (row.1, transport.endpointId) ∈ snapshot.endpoints :=
    List.mem_flatMap.mpr ⟨row, bound, List.mem_map.mpr ⟨transport, used, rfl⟩⟩
  constructor
  case id =>
    have named := identifiers.candidatesPresent _ listed
    dsimp only at named
    rw [id, named]
  case peer =>
    rw [peer]
    exact destination
  case foreign =>
    rw [peer, ← source]
    exact foreign.symm
  case carrier =>
    rw [principal, same, keyOf]
    exact ⟨served service registered, (valid_node (loaded.valid resource document) reads).2⟩

theorem WrittenFor.complete
    (written : WrittenFor env store frame input publication entry projection)
    (scope : write.tenantId = input.tenantId ∧
      write.segmentId = input.segmentId ∧ write.generation = input.generation ∧
      write.snapshot.contentHash = publication.segment.contentHash) :
    projection.Complete write := by
  obtain ⟨plan, made, generation, previous, nodes, runtime⟩ := written.plan
  obtain ⟨resource, document, metadata, value, -⟩ := mem_documentsIn.mp
    (show entry ∈ documentsIn snapshot.resources ResourceSpecV1.attachment? _ from
      segmentView_attachments _ _ ▸ parts.view ▸ written.listed)
  have own : isNil entry.1.id = false := metadata ▸ valid_id (loaded.valid resource document)
  have site := valid_attachment (loaded.valid resource document) value
  obtain ⟨node, found, device, key⟩ := written.device
  rw [parts.view] at found
  obtain ⟨carrier, carried, reads⟩ := segmentView_node found
  obtain ⟨deviceNamed, keyNamed⟩ := valid_node (loaded.valid carrier carried) reads
  have published := identifiers.present.projections entry (parts.view ▸ written.listed)
  obtain ⟨tenant, segment, at', content⟩ := written.scope
  obtain ⟨-, head, read, next⟩ := buildProjection_head made
  obtain ⟨positive, first⟩ := projectionHead_next read next
  obtain ⟨-, -, -, -, least, -, -, present, -⟩ := buildProjection_ok made
  have present : least ∈ plan.peerPaths := List.mem_of_mem_head? present
  constructor
  case named =>
    simp only [List.mem_cons, List.not_mem_nil, or_false, forall_eq_or_imp, forall_eq]
    rw [written.publicationId, written.projectionId, written.siteId, written.attachmentId, device,
      key, parts.read]
    exact ⟨published, own, site, own, deviceNamed, keyNamed⟩
  case scope => exact ⟨tenant.trans scope.1.symm, segment.trans scope.2.1.symm,
    at'.trans scope.2.2.1.symm, content.trans scope.2.2.2.symm⟩
  case positive => exact generation ▸ positive
  case first =>
    rw [generation, previous]
    exact first
  case object => exact written.object
  case nodes =>
    rw [nodes]
    exact List.ne_nil_of_mem (mem_sortedSet.mpr (List.mem_map_of_mem present))
  case nodesNamed =>
    intro carrier member
    rw [nodes, mem_sortedSet] at member
    obtain ⟨path, taken, rfl⟩ := List.mem_map.mp member
    exact (parts.path_named loaded served identifiers made taken).carrier
  case nodesOnce =>
    rw [nodes]
    exact sortedSet_nodup pairOrder_antisymm _
  case paths =>
    rw [runtime]
    exact List.ne_nil_of_mem (List.mem_map_of_mem present)
  case pathsNamed =>
    intro path member
    rw [runtime] at member
    obtain ⟨path, taken, rfl⟩ := List.mem_map.mp member
    have facts := parts.path_named loaded served identifiers made taken
    rw [written.attachmentId]
    exact ⟨facts.id, facts.peer, facts.foreign⟩
  case pathsOnce =>
    have bindings := fun row bound => (loaded.bound row bound).once
    have listed := endpointsFrom_nodup loaded.keys bindings frame.participants entry.1.id
    rw [runtime, List.map_map]
    refine (parts.path_candidates made).nodup_iff.mpr (listed.map_on ?_)
    intro a first b second same
    exact identifiers.candidates a (endpointsFrom_subset first) b (endpointsFrom_subset second) same

end

theorem Builds.written (parts : Builds env store snapshot core frame input)
    (whole : Published signer input publication routes) (sound : signer.core.Sound)
    (sized : publication.Sized) (active : entry ∈ frame.view.activeAttachments)
    (participates : entry.1.id ∈ frame.participants) :
    ∃ built ∈ publication.projections,
      WrittenFor env store frame input publication entry built.write := by
  obtain ⟨listed, state⟩ := List.mem_filter.mp active
  have state : entry.1.state = .active := beq_iff_eq.mp state
  have chosen : entry ∈ frame.view.attachments.filter fun entry => entry.1.state == .active &&
      frame.participants.contains entry.1.id :=
    List.mem_filter.mpr ⟨listed, by simp [state, participates]⟩
  obtain ⟨plan, planned, made⟩ := mapM_mem parts.projections chosen
  obtain ⟨built, present, finished⟩ := mapM_mem whole.projections (mem_sortedPlans.mpr planned)
  exact ⟨built, present,
    parts.writtenFor whole sound sized listed state participates made present finished⟩

theorem Published.attachments (whole : Published signer input publication routes) :
    (publication.projections.map fun built => built.write.attachmentId).Perm
      (input.projections.map (·.attachmentId)) := by
  have same : publication.projections.map (fun built => built.write.attachmentId) =
      (sortedPlans input).map (·.attachmentId) := by
    apply map_mapM _ whole.projections
    intro plan built finished
    obtain ⟨device, -, named, _, _, _, _, -, -, -, -, signed⟩ := buildDeviceProjection_ok finished
    rw [BuiltDeviceProjection.write, moduleSeal_source signed]
    exact named
  rw [same]
  exact (List.perm_insertionSort _ _).map _

section

variable (parts : Builds env store snapshot core frame input)

include parts

theorem Builds.count (whole : Published signer input publication routes) :
    publication.projections.length ≤ frame.view.attachments.length := by
  have same := whole.attachments.length_eq
  rw [parts.projected_ids, List.length_map, List.length_map] at same
  rw [same]
  exact List.length_filter_le _ _

theorem Builds.identifiers_apart (whole : Published signer input publication routes)
    (sound : signer.core.Sound) (sized : publication.Sized)
    (identifiers : IdentifiersApart env.encoding.sha256 snapshot) :
    (publication.projections.map BuiltDeviceProjection.write).Pairwise fun a b =>
      a.publicationId ≠ b.publicationId ∧ a.projectionId ≠ b.projectionId ∧
        a.attachmentId ≠ b.attachmentId := by
  have once := whole.attachments.nodup_iff.mpr whole.once
  rw [List.Nodup, List.pairwise_map] at once
  rw [List.pairwise_map]
  refine once.imp_of_mem ?_
  intro a b first second distinct
  obtain ⟨entry, written⟩ := parts.written_origin whole sound sized first
  obtain ⟨other, written'⟩ := parts.written_origin whole sound sized second
  have apart : entry.1.id ≠ other.1.id := by
    rwa [written.attachmentId, written'.attachmentId] at distinct
  refine ⟨?_, ?_, distinct⟩
  · intro same
    rw [written.publicationId, written'.publicationId, parts.read] at same
    exact apart (identifiers.projections entry (parts.view ▸ written.listed) other
      (parts.view ▸ written'.listed) same)
  · rwa [written.projectionId, written'.projectionId]

/-- Each projection has a device of its own when no two attachments that take part are
    of one node. -/
theorem Builds.devices_once (whole : Published signer input publication routes)
    (sound : signer.core.Sound) (sized : publication.Sized) (loaded : snapshot.Loaded topology) :
    ((publication.projections.map BuiltDeviceProjection.write).map fun projection =>
        (projection.deviceId, projection.deviceKeyId)).Nodup ↔
      ∀ a ∈ frame.view.activeAttachments, ∀ b ∈ frame.view.activeAttachments,
        a.1.id ∈ frame.participants → b.1.id ∈ frame.participants → a.2.nodeId = b.2.nodeId →
          a.1.id = b.1.id := by
  have once := whole.attachments.nodup_iff.mpr whole.once
  rw [List.map_map]
  constructor
  · intro distinct a active b active' taking taking' shared
    obtain ⟨built, present, written⟩ := parts.written whole sound sized active taking
    obtain ⟨built', present', written'⟩ := parts.written whole sound sized active' taking'
    obtain ⟨node, found, device, key⟩ := written.device
    obtain ⟨node', found', device', key'⟩ := written'.device
    rw [shared, found'] at found
    cases found
    have pair : (built.write.deviceId, built.write.deviceKeyId) =
        (built'.write.deviceId, built'.write.deviceKeyId) := by
      rw [device, key, device', key']
    have same := eq_of_key distinct present present' pair
    rw [← written.attachmentId, ← written'.attachmentId, same]
  · intro single
    rw [List.Nodup, List.pairwise_map] at once ⊢
    refine once.imp_of_mem ?_
    intro a b first second distinct pair
    obtain ⟨entry, written⟩ := parts.written_origin whole sound sized first
    obtain ⟨other, written'⟩ := parts.written_origin whole sound sized second
    obtain ⟨node, found, device, -⟩ := written.device
    obtain ⟨node', found', device', -⟩ := written'.device
    have shared : node.deviceId = node'.deviceId :=
      device.symm.trans ((congrArg Prod.fst pair).trans device')
    rw [parts.view] at found found'
    have of : entry.2.nodeId = other.2.nodeId := loaded.devices _ _ node node' found found' shared
    have same := single entry written.activeAttachment other written'.activeAttachment
      written.participates written'.participates of
    rw [written.attachmentId, written'.attachmentId] at distinct
    exact distinct same

theorem WrittenFor.paths_length
    (written : WrittenFor env store frame input publication entry projection) :
    projection.runtimePaths.length =
      (snapshot.endpointsFrom frame.participants entry.1.id).length := by
  obtain ⟨plan, made, -, -, -, runtime⟩ := written.plan
  have perm := (parts.path_candidates made).length_eq
  rw [List.length_map, List.length_map] at perm
  rw [runtime, List.length_map, perm]

theorem Builds.headed (whole : Published signer input publication routes)
    (sound : signer.core.Sound) (sized : publication.Sized) (loaded : snapshot.Loaded topology)
    (identifiers : IdentifiersApart env.encoding.sha256 snapshot)
    (written : publication.databaseWrite = .ok write) : write.Headed := by
  obtain ⟨current, read, next⟩ := parts.head
  have sum := checkedAdd_some next
  have object := moduleSeal_object sound whole.segment sized.segment
  simp only [BuiltRoutePublication.databaseWrite, bind_ok, pure_ok] at written
  obtain ⟨_, -, rfl⟩ := written
  rw [moduleSeal_source whole.segment]
  have before : input.generation - 1 = current := by omega
  constructor
  case named =>
    simp only [List.mem_cons, List.not_mem_nil, or_false, forall_eq_or_imp, forall_eq,
      RoutePublicationInput.segmentSnapshot]
    rw [whole.identity.1, whole.identity.2.1, parts.scope.1, parts.scope.2, parts.publicationId,
      parts.auditEventId]
    exact ⟨identifiers.present.publication, loaded.named.1, loaded.named.2,
      identifiers.present.audit⟩
  case actor =>
    simp only [whole.identity.2.2, parts.actorId]
    decide
  case generation =>
    simp only [RoutePublicationInput.segmentSnapshot, before]
    exact next
  case first =>
    simp only [RoutePublicationInput.segmentSnapshot, before]
    exact segmentHead_first read
  case times =>
    simp only [RoutePublicationInput.segmentSnapshot, parts.times.1, parts.times.2,
      routePublicationValiditySeconds, routePublicationStaleSeconds]
    omega
  case snapshot => exact object
  case expansions => rfl

end

theorem Published.writes (whole : Published signer input publication routes)
    (written : publication.databaseWrite = .ok write) :
    write.projections = publication.projections.map BuiltDeviceProjection.write ∧
      write.tenantId = input.tenantId ∧ write.segmentId = input.segmentId ∧
      write.generation = input.generation ∧
      write.snapshot.contentHash = publication.segment.contentHash := by
  simp only [BuiltRoutePublication.databaseWrite, bind_ok, pure_ok] at written
  obtain ⟨_, -, rfl⟩ := written
  rw [moduleSeal_source whole.segment]
  exact ⟨rfl, rfl, rfl, rfl, rfl⟩

theorem Builds.limits_iff (parts : Builds env store snapshot core frame input)
    (whole : Published signer input publication routes) (sound : signer.core.Sound)
    (sized : publication.Sized) (loaded : snapshot.Loaded topology) :
    (publication.projections.map BuiltDeviceProjection.write ≠ [] ∧
      ((publication.projections.map BuiltDeviceProjection.write).map fun projection =>
        (projection.deviceId, projection.deviceKeyId)).Nodup ∧
      ∀ projection ∈ publication.projections.map BuiltDeviceProjection.write,
        projection.runtimePaths.length ≤ maxRuntimePaths) ↔
      snapshot.WithinLimits frame.participants := by
  have once := parts.devices_once whole sound sized loaded
  rw [once, parts.view]
  constructor
  · rintro ⟨some, single, short⟩
    constructor
    case attended =>
      obtain ⟨projection, member⟩ := List.exists_mem_of_ne_nil _ some
      obtain ⟨built, present, rfl⟩ := List.mem_map.mp member
      obtain ⟨entry, written⟩ := parts.written_origin whole sound sized present
      exact ⟨entry, parts.view ▸ written.activeAttachment, written.participates⟩
    case once => exact single
    case paths =>
      intro entry active participates
      obtain ⟨built, present, written⟩ := parts.written whole sound sized
        (parts.view ▸ active) participates
      rw [← written.paths_length parts]
      exact short _ (List.mem_map_of_mem present)
  · intro limits
    refine ⟨?_, limits.once, ?_⟩
    · obtain ⟨entry, active, participates⟩ := limits.attended
      obtain ⟨built, present, -⟩ := parts.written whole sound sized (parts.view ▸ active)
        participates
      exact List.ne_nil_of_mem (List.mem_map_of_mem present)
    · intro projection member
      obtain ⟨built, present, rfl⟩ := List.mem_map.mp member
      obtain ⟨entry, written⟩ := parts.written_origin whole sound sized present
      rw [written.paths_length parts]
      exact limits.paths entry (parts.view ▸ written.activeAttachment) written.participates

end Written

theorem ReenrollmentInvariant.addressed {store : EnrollmentStore}
    (inv : ReenrollmentInvariant store) (tenantId : Uuid) : Addressed tenantId store.cloud.control :=
  ⟨(inv.control.referring tenantId).graph, inv.control.addressing tenantId⟩

/-- What is written of a graph that edits have reached passes the checks of the store
    exactly when the segment is within the limits. -/
theorem publication_writable_iff (codec : EnrollmentCodec) (start : EnrollmentStore)
    (resources : start.cloud.control.resources = [])
    (references : start.cloud.control.references = []) (devices : IdentityRows start)
    (calls : List ReenrollmentCall) (topology : Topology)
    (served : ∀ node ∈ topology.nodes, isNil node.id = false) {tenantId segmentId : Uuid}
    {desiredRevision : Nat} {snapshot : SegmentControlSnapshot}
    (read : segmentSnapshot (reenrollmentRun codec start calls).cloud topology tenantId segmentId
      desiredRevision = .ok snapshot)
    (few : (segmentView snapshot.segmentId snapshot.resources).attachments.length ≤ maxProjections)
    (env : BuildEnvironment) (store : RouteStore) (signer : RouteSigner)
    (identifiers : IdentifiersApart env.encoding.sha256 snapshot) (sound : signer.core.Sound)
    {input : RoutePublicationInput} (built : buildInput env store snapshot = .ok input)
    {publication : BuiltRoutePublication}
    (published : buildRoutePublication signer input = .ok publication) (sized : publication.Sized)
    {write : SegmentPublicationWrite} (written : publication.databaseWrite = .ok write) :
    write.validate = .ok () ↔ snapshot.Writable := by
  have initial : ReenrollmentInvariant start :=
    ⟨devices, initial_control_rows _ resources references⟩
  have reached : ReenrollmentInvariant (reenrollmentRun codec start calls) :=
    run_reenrollment_invariant initial calls
  have loaded := segmentSnapshot_loaded (reached.addressed tenantId) read
  obtain ⟨core, frame, parts⟩ := buildInput_builds built
  obtain ⟨routes, whole⟩ := buildRoutePublication_ok published
  have headed := parts.headed whole sound sized loaded identifiers written
  obtain ⟨projections, scope⟩ := whole.writes written
  have participants : frame.participants = frame.view.participants core := parts.participants
  have writable : snapshot.Writable ↔ snapshot.WithinLimits frame.participants := by
    rw [participants, SegmentControlSnapshot.Writable, ← parts.view]
    constructor
    · exact fun within => within core parts.converted
    · intro within core' converted
      cases parts.converted.symm.trans converted
      exact within
  rw [writable, ← parts.limits_iff whole sound sized loaded, ← projections]
  refine validate_headed headed ?_ ?_ ?_
  · rw [← parts.view] at few
    rw [projections, List.length_map]
    exact (parts.count whole).trans few
  · intro projection member
    rw [projections] at member
    obtain ⟨built, present, rfl⟩ := List.mem_map.mp member
    obtain ⟨entry, origin⟩ := parts.written_origin whole sound sized present
    exact origin.complete parts loaded served identifiers scope
  · rw [projections]
    exact parts.identifiers_apart whole sound sized identifiers

/-- Site 31 of the sample gets a second attachment of its node, with a path each way. -/
def twinGraph : List ControlCall :=
  egressGraph .localEgress ++
    [sampleCreate 43 (.attachment ⟨3, 31, 51, 0x64400003, 1⟩),
      sampleCreate 83 (.pathCandidate ⟨3, 75, 43, 42, .direct, none, 52, 10⟩),
      sampleCreate 84 (.pathCandidate ⟨3, 75, 42, 43, .direct, none, 52, 10⟩)]

def twinHashes : List (Bytes × Hash) :=
  [(utf8 (pathText 43 42), 0xf9b2654c3d606f72d9a01cd836b7671ed2db00784bdc80ce324dd3f2da87596d),
    (utf8 (pathText 42 43), 0x2b789bcf2692e6c2fd9cf881f858b51acc0643b5f5ccf0ed26dbe7c5cc34805f),
    (uuidBytes 3 ++ uuidBytes 43 ++ bigEndian 8 9,
      0xba35283131805178ac6ace81b8e19e18a69dfc6ccc4fdf10a2650d36ddacf2c2),
    (utf8 "candy/path-endpoint-candidate-v1" ++ [0] ++ uuidBytes 83 ++ uuidBytes 102,
      0x967d98ae8d62cc4fab94aff59bf725cbb72c330d48958e12e3a432c22e79c335),
    (utf8 "candy/path-endpoint-candidate-v1" ++ [0] ++ uuidBytes 84 ++ uuidBytes 102,
      0xb59c518cae16249b888c3c5d9aed6f3303a58c133bf1a8a81a6d46180d6021ca)]

def twinEnvironment : BuildEnvironment :=
  { egressEnvironment with
    encoding := ⟨fun bytes => ((buildHashes ++ twinHashes).lookup bytes).getD 0, sampleJson⟩ }

def twinStart : EnrollmentStore :=
  { enrollmentStart with cloud := sampleCloud }

def mutationCalls (calls : List ControlCall) : List ReenrollmentCall :=
  calls.filterMap fun call =>
    match call with
    | .mutate mutation now fresh clock => some (.mutate mutation now fresh clock)
    | .environment _ _ _ => none

def twinSnapshot (calls : List ControlCall) : Except ControlStoreError SegmentControlSnapshot :=
  segmentSnapshot (reenrollmentRun enrollmentCodec twinStart (mutationCalls calls)).cloud
    egressTopology 1 3 9

def attempted (snapshot : SegmentControlSnapshot) :
    Option (RoutePublicationInput × BuiltRoutePublication × SegmentPublicationWrite) := do
  let input ← (buildInput twinEnvironment egressStore snapshot).toOption
  let publication ← (buildRoutePublication sampleSigner input).toOption
  let write ← publication.databaseWrite.toOption
  return (input, publication, write)

def SegmentControlSnapshot.identifiersApart (snapshot : SegmentControlSnapshot)
    (sha256 : Bytes → Hash) : Bool :=
  let attachments := (segmentView snapshot.segmentId snapshot.resources).attachments
  !isNil (stableUuid sha256 snapshot.tenantId snapshot.segmentId snapshot.desiredRevision) &&
    !isNil (stableUuid sha256 snapshot.segmentId snapshot.tenantId
      (snapshot.desiredRevision ^^^ 0xa5a5)) &&
    (attachments.all fun entry =>
      !isNil (stableUuid sha256 snapshot.segmentId entry.1.id snapshot.desiredRevision)) &&
    (attachments.all fun a => attachments.all fun b => decide (
      stableUuid sha256 snapshot.segmentId a.1.id snapshot.desiredRevision =
        stableUuid sha256 snapshot.segmentId b.1.id snapshot.desiredRevision → a.1.id = b.1.id)) &&
    (snapshot.endpoints.all fun a => snapshot.endpoints.all fun b => decide (
      runtimePathCandidateId sha256 a.1 a.2 = runtimePathCandidateId sha256 b.1 b.2 → a = b)) &&
    snapshot.endpoints.all fun a => !isNil (runtimePathCandidateId sha256 a.1 a.2)

theorem SegmentControlSnapshot.identifiersApart_sound {snapshot : SegmentControlSnapshot}
    {sha256 : Bytes → Hash} (apart : snapshot.identifiersApart sha256 = true) :
    IdentifiersApart sha256 snapshot := by
  simp only [SegmentControlSnapshot.identifiersApart, Bool.and_eq_true, Bool.not_eq_true',
    List.all_eq_true, decide_eq_true_eq] at apart
  obtain ⟨⟨⟨⟨⟨publication, audit⟩, present⟩, projections⟩, candidates⟩, candidatesPresent⟩ := apart
  exact ⟨⟨publication, audit, present⟩, projections, candidates, candidatesPresent⟩

theorem attempted_some {snapshot : SegmentControlSnapshot} {input : RoutePublicationInput}
    {publication : BuiltRoutePublication}
    (made : attempted snapshot = some (input, publication, write)) :
    buildInput twinEnvironment egressStore snapshot = .ok input ∧
      buildRoutePublication sampleSigner input = .ok publication ∧
      publication.databaseWrite = .ok write := by
  simp only [attempted, Option.bind_eq_bind, Option.bind_eq_some_iff, Option.pure_def,
    Option.some.injEq, Prod.mk.injEq, toOption_some] at made
  obtain ⟨_, built, _, published, _, written, rfl, rfl, rfl⟩ := made
  exact ⟨built, published, written⟩

/-- What an attempt meets, and what the store answers. -/
structure AttemptFacts where
  identifiers : Bool
  attachments : Nat
  answer : Option (Bool × Except SdwanError Unit)
deriving DecidableEq

def attemptFacts (snapshot : SegmentControlSnapshot) : AttemptFacts where
  identifiers := snapshot.identifiersApart twinEnvironment.encoding.sha256
  attachments := (segmentView snapshot.segmentId snapshot.resources).attachments.length
  answer := (attempted snapshot).map fun made =>
    (decide (made.2.1.segment.envelope.length ≤ maxSignedEnvelopeLen) &&
      made.2.1.projections.all fun built =>
        decide (built.sealedProjection.envelope.length ≤ maxSignedEnvelopeLen),
      made.2.2.validate)

theorem sampleSigner_sound : sampleSigner.core.Sound := by
  constructor
  · intro objectType payload contentHash hashed
    cases hashed
    decide
  · intro objectType keyId payload signature raw assembled
    cases assembled
    exact List.cons_ne_nil _ _

theorem twinSnapshot_attempted {calls : List ControlCall} {count : Nat}
    {answer : Except SdwanError Unit}
    (facts : (twinSnapshot calls).map attemptFacts = .ok ⟨true, count, some (true, answer)⟩) :
    ∃ snapshot input publication write, twinSnapshot calls = .ok snapshot ∧
      (segmentView snapshot.segmentId snapshot.resources).attachments.length = count ∧
      IdentifiersApart twinEnvironment.encoding.sha256 snapshot ∧
      buildInput twinEnvironment egressStore snapshot = .ok input ∧
      buildRoutePublication sampleSigner input = .ok publication ∧ publication.Sized ∧
      publication.databaseWrite = .ok write ∧ write.validate = answer := by
  obtain ⟨snapshot, taken, same⟩ := map_ok.mp facts
  simp only [attemptFacts, AttemptFacts.mk.injEq, Option.map_eq_some_iff, Prod.mk.injEq,
    Bool.and_eq_true, List.all_eq_true, decide_eq_true_eq] at same
  obtain ⟨identifiers, few, ⟨input, publication, write⟩, made, sized, validated⟩ := same
  obtain ⟨built, published, written⟩ := attempted_some made
  exact ⟨snapshot, input, publication, write, taken, few,
    snapshot.identifiersApart_sound identifiers, built, published, ⟨sized.1, sized.2⟩, written,
    validated⟩

/-- The control store takes the second attachment, and the route store refuses what is
    published then. -/
theorem twice_attached_refused :
    ∃ snapshot input publication write, twinSnapshot twinGraph = .ok snapshot ∧
      (segmentView snapshot.segmentId snapshot.resources).attachments.length = 3 ∧
      IdentifiersApart twinEnvironment.encoding.sha256 snapshot ∧
      buildInput twinEnvironment egressStore snapshot = .ok input ∧
      buildRoutePublication sampleSigner input = .ok publication ∧ publication.Sized ∧
      publication.databaseWrite = .ok write ∧ write.validate = .error .duplicateProjection :=
  twinSnapshot_attempted (by decide +kernel)

theorem once_attached_writable :
    ∃ (snapshot : SegmentControlSnapshot) (write : SegmentPublicationWrite),
      twinSnapshot (egressGraph .localEgress) = .ok snapshot ∧ write.validate = .ok () ∧
        snapshot.Writable := by
  have facts : (twinSnapshot (egressGraph .localEgress)).map attemptFacts =
      .ok ⟨true, 2, some (true, .ok ())⟩ := by
    decide +kernel
  obtain ⟨snapshot, input, publication, write, taken, few, identifiers, built, published, sized,
    written, valid⟩ := twinSnapshot_attempted facts
  refine ⟨snapshot, write, taken, valid, ?_⟩
  have short : 2 ≤ maxProjections := by decide
  have served : ∀ node ∈ egressTopology.nodes, isNil node.id = false := by decide
  exact (publication_writable_iff enrollmentCodec twinStart rfl rfl (by decide) _ egressTopology
    served taken (few ▸ short) twinEnvironment egressStore sampleSigner identifiers
    sampleSigner_sound built published sized written).mp valid

end CandyCloud
