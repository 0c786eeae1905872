import CandyCloud.Route.Profile
import CandyCloud.Worker.Builds
import CandyCloud.Worker.Materialised

/-! # One attachment for a device

A device is told its configuration and its profile through its one attachment.
-/

namespace CandyCloud

open Foundation
open ResourceSpecV1 hiding node site segment attachment prefix_ peer relay pathCandidate egress
  servicePolicy dnsIntent

/-- The device key that a projection is signed for, that of its attachment. -/
def RoutePublicationInput.principal (input : RoutePublicationInput)
    (projection : DeviceProjectionInput) : Option (Uuid × Uuid) :=
  (input.attachments.find? fun attachment =>
    attachment.attachmentId == projection.attachmentId).map fun attachment =>
      (attachment.deviceId, attachment.deviceKeyId)

/-- No device key of the tenant has two active rows, and no reader and no build
    meets two. -/
structure Unambiguous (tenantId : Uuid) (cloud : Cloud) : Prop where
  rows : ∀ a ∈ cloud.route.topology.attachments, ∀ b ∈ cloud.route.topology.attachments,
    a.tenantId = tenantId → b.tenantId = tenantId → a.principalKind = .device →
    b.principalKind = .device → a.state = .active → b.state = .active →
    a.deviceId = b.deviceId → a.deviceKeyId = b.deviceKeyId → a = b
  configuration : ∀ now policyIsolation lookup, lookup.tenantId = tenantId →
    Avoids .ambiguousConfiguration
      (loadCurrentRuntimeConfiguration cloud.route now policyIsolation lookup)
  profile : ∀ lookup, lookup.tenantId = tenantId →
    Avoids .ambiguousConfiguration (runtimeDeviceProfile cloud.route lookup)
  built : ∀ segmentId desiredRevision snapshot env input,
    segmentSnapshot cloud cloud.route.topology tenantId segmentId desiredRevision = .ok snapshot →
    buildInput env cloud.route snapshot = .ok input →
    (input.projections.map input.principal).Nodup

/-- No two attachments of the tenant share a node. -/
def AttachedOnce (tenantId : Uuid) (store : ControlStore) : Prop :=
  ∀ a ∈ store.documents tenantId attachment?, ∀ b ∈ store.documents tenantId attachment?,
    a.2.nodeId = b.2.nodeId → a = b

instance (tenantId : Uuid) (store : ControlStore) : Decidable (AttachedOnce tenantId store) :=
  inferInstanceAs (Decidable (∀ a ∈ _, ∀ b ∈ _, _ → _))

def TopologyEvent.Edits : TopologyEvent → Prop
  | .bridge .. => False
  | .mutate .. | .environment .. => True

def TopologyEvent.Calls : TopologyEvent → Prop
  | .mutate .. => False
  | .bridge .. | .environment .. => True

/-- Among the events is a successful call for the segment. -/
def BridgedDuring (tenantId segmentId : Uuid) (cloud : Cloud) (events : List TopologyEvent) :
    Prop :=
  ∃ before revision fresh clock after,
    events = before ++ .bridge tenantId segmentId revision fresh clock :: after ∧
      (bridgeSnapshot (run topologyStep cloud before) tenantId segmentId revision fresh
        clock).isOk = true

/-- Tenants do not share the identifiers of attachments. -/
def ControlStore.OwnAttachments (store : ControlStore) : Prop :=
  ∀ tenantId other a b, a ∈ store.documents tenantId attachment? →
    b ∈ store.documents other attachment? → a.1 = b.1 → tenantId = other

/-- The row of an attachment of the graph, in whatever state. -/
def AttachmentRow.Documented (store : ControlStore) (row : AttachmentRow) : Prop :=
  ∃ tenantId id value node state, (id, value) ∈ store.documents tenantId attachment? ∧
    (value.nodeId, node) ∈ store.documents tenantId node? ∧
    row = { value.row tenantId id node with state }

/-- The table holds attachments of the graph, each once. -/
structure MadeOf (store : ControlStore) (rows : List AttachmentRow) : Prop where
  unique : (rows.map (·.id)).Nodup
  documented : ∀ row ∈ rows, row.Documented store

/-- The table holds the active row of the attachment. -/
def ShownIn (store : ControlStore) (tenantId : Uuid) (entry : Uuid × AttachmentV1)
    (rows : List AttachmentRow) : Prop :=
  ∃ node, (entry.2.nodeId, node) ∈ store.documents tenantId node? ∧
    entry.2.row tenantId entry.1 node ∈ rows

variable {rows rows' : List AttachmentRow} {id : Uuid} {value : AttachmentV1} {node : NodeV1}
  {topology : Topology} {event : TopologyEvent} {events : List TopologyEvent}
  {desiredRevision : Nat} {snapshot : SegmentControlSnapshot}

section Rows

variable {store : ControlStore} {tenantId segmentId : Uuid}

theorem node_of_device (addressed : Addressed tenantId store) {a b : Uuid × NodeV1}
    (first : a ∈ store.documents tenantId node?) (second : b ∈ store.documents tenantId node?)
    (device : a.2.deviceId = b.2.deviceId) : a.1 = b.1 := by
  obtain ⟨row, member, tenant, active, id, document⟩ := mem_documents.mp first
  obtain ⟨row', member', tenant', active', id', document'⟩ := mem_documents.mp second
  have same := addressed.addressing.devices row row' ⟨member, tenant, by simp [active]⟩
    ⟨member', tenant', by simp [active']⟩ a.2 b.2 (node?_eq_some.mp document)
    (node?_eq_some.mp document') device
  rw [← id, ← id', same]

theorem MadeOf.principal (made : MadeOf store rows) (addressed : Addressed tenantId store)
    (once : AttachedOnce tenantId store) {a b : AttachmentRow} (memberA : a ∈ rows)
    (memberB : b ∈ rows) (tenantA : a.tenantId = tenantId) (tenantB : b.tenantId = tenantId)
    (device : a.deviceId = b.deviceId) : a = b := by
  obtain ⟨u, id, value, node, state, document, held, rfl⟩ := made.documented a memberA
  obtain ⟨u', id', value', node', state', document', held', rfl⟩ := made.documented b memberB
  obtain rfl : u = tenantId := tenantA
  obtain rfl : u' = u := tenantB
  have nodes : value.nodeId = value'.nodeId :=
    node_of_device addressed held held' (Option.some.inj device)
  have same := once _ document _ document' nodes
  exact eq_of_key made.unique memberA memberB (congrArg Prod.fst same)

theorem MadeOf.replaced (made : MadeOf store rows) (own : store.OwnAttachments)
    (addressed : Addressed tenantId store)
    (document : (id, value) ∈ store.documents tenantId attachment?)
    (upserted : insertOrUpdate attachmentKeys (value.row tenantId id node) (value.rewrite node) rows
      = some rows') :
    Replaced (·.id) (value.row tenantId id node) rows rows' := by
  refine insertOrUpdate_replaced made.unique (fun a b => beq_iff_eq) ?_ ?_ upserted
  · intro old present same
    obtain ⟨u, id', also, node', state, document', -, rfl⟩ := made.documented old present
    obtain rfl : id' = id := same
    obtain rfl : u = tenantId := own _ _ _ _ document' document rfl
    obtain rfl : also = value := documents_unique addressed.graph reads_attachment document' document
    rfl
  · intro clash selected row present other
    rw [List.mem_singleton] at selected
    subst selected
    rw [Bool.eq_false_iff]
    intro met
    simp only [Bool.and_eq_true, beq_iff_eq] at met
    obtain ⟨⟨⟨-, tenant⟩, segment⟩, address⟩ := met
    obtain ⟨u, id', also, node', state, document', -, rfl⟩ := made.documented row present
    obtain rfl : tenantId = u := tenant
    have taken := router_unique addressed document' document segment.symm address.symm
    exact other taken

theorem MadeOf.upserted (made : MadeOf store rows)
    (document : (id, value) ∈ store.documents tenantId attachment?)
    (held : (value.nodeId, node) ∈ store.documents tenantId node?)
    (replaced : Replaced (·.id) (value.row tenantId id node) rows rows')
    (upserted : insertOrUpdate attachmentKeys (value.row tenantId id node) (value.rewrite node) rows
      = some rows') : MadeOf store rows' := by
  constructor
  · refine nodup_insertOrUpdate_key made.unique List.mem_cons_self
      (fun a b same => beq_iff_eq.mpr same) ?_ upserted
    intro row
    rfl
  · intro row member
    rcases (replaced row).mp member with rfl | ⟨before, -⟩
    · exact ⟨tenantId, id, value, node, .active, document, held, rfl⟩
    · exact made.documented row before

theorem ShownIn.upserted {other : Uuid} {entry : Uuid × AttachmentV1}
    (shown : ShownIn store other entry rows) (own : store.OwnAttachments)
    (graph : GraphInvariant tenantId store) (listed : entry ∈ store.documents other attachment?)
    (document : (id, value) ∈ store.documents tenantId attachment?)
    (held : (value.nodeId, node) ∈ store.documents tenantId node?)
    (replaced : Replaced (·.id) (value.row tenantId id node) rows rows') :
    ShownIn store other entry rows' := by
  obtain ⟨node', held', present⟩ := shown
  refine ⟨node', held', (replaced _).mpr ?_⟩
  by_cases same : entry.1 = id
  · obtain ⟨id', also⟩ := entry
    obtain rfl : id' = id := same
    obtain rfl : other = tenantId := own _ _ _ _ listed document rfl
    obtain rfl : also = value := documents_unique graph reads_attachment listed document
    obtain rfl : node' = node := documents_unique graph reads_node held' held
    exact .inl rfl
  · exact .inr ⟨present, same⟩

end Rows

section Call

variable {store : ControlStore} {tenantId segmentId : Uuid}

theorem revoked_madeOf (made : MadeOf store topology.attachments) :
    MadeOf store (topology.revokeAttachments tenantId segmentId).attachments := by
  constructor
  · have ids : (topology.revokeAttachments tenantId segmentId).attachments.map (·.id) =
        topology.attachments.map (·.id) := by
      apply map_updateWhere
      intro row
      rfl
    rw [ids]
    exact made.unique
  · intro row member
    obtain ⟨old, present, rfl⟩ := mem_updateWhere.mp member
    split
    · obtain ⟨u, id, value, node, state, document, held, rfl⟩ := made.documented old present
      exact ⟨u, id, value, node, .revoked, document, held, rfl⟩
    · exact made.documented old present

theorem ShownIn.revoked {topology : Topology} {other : Uuid} {entry : Uuid × AttachmentV1}
    (shown : ShownIn store other entry topology.attachments)
    (elsewhere : ¬ (other = tenantId ∧ entry.2.segmentId = segmentId)) :
    ShownIn store other entry (topology.revokeAttachments tenantId segmentId).attachments := by
  obtain ⟨node, held, present⟩ := shown
  refine ⟨node, held, mem_updateWhere.mpr ⟨_, present, if_neg ?_⟩⟩
  simp only [Bool.and_eq_true, beq_iff_eq]
  intro selected
  exact elsewhere selected.1

/-- What the loop over the documents of a snapshot has done so far. -/
structure Shows (store : ControlStore) (tenantId : Uuid) (before : List AttachmentRow)
    (seen : List ControlResourceV1) (rows : List AttachmentRow) : Prop where
  made : MadeOf store rows
  kept : ∀ other entry, entry ∈ store.documents other attachment? →
    ShownIn store other entry before → ShownIn store other entry rows
  shown : ∀ resource ∈ seen, ∀ value, resource.resource = .attachment value →
    ShownIn store tenantId (resource.metadata.id, value) rows

variable {cloud : Cloud}

theorem ensureAttachment_shows (own : cloud.control.OwnAttachments)
    (addressed : Addressed tenantId cloud.control) {before : List AttachmentRow}
    {seen : List ControlResourceV1}
    (known : seen ⊆ (cloud.control.graphRows tenantId segmentId).map (·.document))
    {resource : ControlResourceV1}
    (member : resource ∈ (cloud.control.graphRows tenantId segmentId).map (·.document))
    {topology' : Topology} {segments : List SegmentRow}
    (shows : Shows cloud.control tenantId before seen topology.attachments)
    (done : topology.ensureAttachment tenantId segments
      ((cloud.control.graphRows tenantId segmentId).map (·.document)) resource = .ok topology') :
    Shows cloud.control tenantId before (seen ++ [resource]) topology'.attachments := by
  have graph := addressed.graph
  rcases ensureAttachment_cases graph member done with
    ⟨value, node, rows, spec, listed, found, upserted, rfl⟩ | ⟨other, rfl⟩
  · have document := listed_documents listed
    have held := listed_documents (nodeDocument_listed graph found)
    have replaced := shows.made.replaced own addressed document upserted
    have keeps : ∀ u entry, entry ∈ cloud.control.documents u attachment? →
        ShownIn cloud.control u entry topology.attachments →
        ShownIn cloud.control u entry rows := by
      intro u entry entered shown
      exact shown.upserted own graph entered document held replaced
    constructor
    · exact shows.made.upserted document held replaced upserted
    · intro u entry entered shown
      exact keeps u entry entered (shows.kept u entry entered shown)
    · intro earlier processed also earlierSpec
      rcases mem_concat.mp processed with previous | last
      · have loaded := (attachment_listed graph (known previous) earlierSpec).1
        exact keeps tenantId _ (listed_documents loaded)
          (shows.shown earlier previous also earlierSpec)
      · obtain rfl := last
        rw [spec] at earlierSpec
        cases earlierSpec
        exact ⟨node, held, (replaced _).mpr (.inl rfl)⟩
  · refine ⟨shows.made, shows.kept, ?_⟩
    intro earlier processed also earlierSpec
    rcases mem_concat.mp processed with previous | last
    · exact shows.shown earlier previous also earlierSpec
    · rw [last] at earlierSpec
      exact absurd earlierSpec (other also)

/-- After a call the attachments of the segment are shown, and those shown in
    other segments before are still shown. -/
theorem bridged_shows (own : cloud.control.OwnAttachments)
    (addressed : Addressed tenantId cloud.control)
    (made : MadeOf cloud.control cloud.route.topology.attachments)
    (bridged : cloud.Bridged tenantId segmentId topology) :
    MadeOf cloud.control topology.attachments ∧
    (∀ other entry, entry ∈ cloud.control.documents other attachment? →
      ¬ (other = tenantId ∧ entry.2.segmentId = segmentId) →
      ShownIn cloud.control other entry cloud.route.topology.attachments →
      ShownIn cloud.control other entry topology.attachments) ∧
    ∀ entry ∈ cloud.control.documents tenantId attachment?, entry.2.segmentId = segmentId →
      ShownIn cloud.control tenantId entry topology.attachments := by
  obtain ⟨noded, segments, same, looped⟩ := bridged.attachments
  have started : MadeOf cloud.control noded.attachments := by
    rw [same]
    exact made
  have shows : Shows cloud.control tenantId
      (noded.revokeAttachments tenantId segmentId).attachments
      ((cloud.control.graphRows tenantId segmentId).map (·.document)) topology.attachments := by
    refine updateEach_processed (P := fun seen after => Shows cloud.control tenantId
      (noded.revokeAttachments tenantId segmentId).attachments seen after.attachments) ?_ ?_ looped
    · intro seen resource before after member known holds step
      exact ensureAttachment_shows own addressed known member holds step
    · refine ⟨revoked_madeOf started, fun _ _ _ shown => shown, ?_⟩
      intro resource processed
      cases processed
  refine ⟨shows.made, ?_, ?_⟩
  · intro other entry listed elsewhere shown
    refine shows.kept other entry listed (ShownIn.revoked ?_ elsewhere)
    rw [same]
    exact shown
  · intro entry document here
    have listed := attachment_in_snapshot addressed.graph document here
    obtain ⟨resource, loaded, id, reads⟩ := listed_resource addressed.graph listed
    have shown := shows.shown resource loaded entry.2 (attachment?_eq_some.mp reads)
    rw [id] at shown
    exact shown

end Call

/-- The graph is fixed, and the table holds attachments of it. -/
structure Phase (store : ControlStore) (cloud : Cloud) : Prop where
  control : cloud.control = store
  made : MadeOf store cloud.route.topology.attachments

def SegmentShown (store : ControlStore) (tenantId segmentId : Uuid) (cloud : Cloud) : Prop :=
  ∀ entry ∈ store.documents tenantId attachment?, entry.2.segmentId = segmentId →
    ShownIn store tenantId entry cloud.route.topology.attachments

section Runs

variable {store : ControlStore} {cloud : Cloud} {tenantId segmentId : Uuid}
  (own : store.OwnAttachments) (addressed : ∀ tenantId, Addressed tenantId store)

include own addressed

theorem Phase.step (phase : Phase store cloud) (calls : event.Calls) :
    Phase store (topologyStep cloud event) := by
  obtain ⟨rfl, made⟩ := phase
  cases event with
  | mutate mutation now fresh clock => exact calls.elim
  | environment queue topology => exact ⟨rfl, made⟩
  | bridge tenantId segmentId desiredRevision fresh clock =>
      simp only [topologyStep]
      cases done : bridgeSnapshot cloud tenantId segmentId desiredRevision fresh clock with
      | error error => exact ⟨rfl, made⟩
      | ok cloud' =>
          obtain ⟨route, rfl, bridged⟩ := bridgeSnapshot_ok (addressed tenantId).graph done
          exact ⟨rfl, (bridged_shows own (addressed tenantId) made bridged).1⟩

theorem SegmentShown.step (phase : Phase store cloud) (calls : event.Calls)
    (shown : SegmentShown store tenantId segmentId cloud) :
    SegmentShown store tenantId segmentId (topologyStep cloud event) := by
  obtain ⟨rfl, made⟩ := phase
  cases event with
  | mutate mutation now fresh clock => exact calls.elim
  | environment queue topology => exact shown
  | bridge other elsewhere desiredRevision fresh clock =>
      simp only [topologyStep]
      cases done : bridgeSnapshot cloud other elsewhere desiredRevision fresh clock with
      | error error => exact shown
      | ok cloud' =>
          obtain ⟨route, rfl, bridged⟩ := bridgeSnapshot_ok (addressed other).graph done
          obtain ⟨-, kept, here⟩ := bridged_shows own (addressed other) made bridged
          intro entry listed segment
          by_cases same : tenantId = other ∧ entry.2.segmentId = elsewhere
          · obtain ⟨rfl, place⟩ := same
            exact here entry listed place
          · exact kept tenantId entry listed same (shown entry listed segment)

theorem run_phase (phase : Phase store cloud) (calls : ∀ event ∈ events, event.Calls)
    : Phase store (run topologyStep cloud events) := by
  induction events generalizing cloud with
  | nil => exact phase
  | cons event rest ih =>
      have next := phase.step own addressed (calls event List.mem_cons_self)
      exact ih next fun later member => calls later (List.mem_cons_of_mem event member)

theorem run_segmentShown (phase : Phase store cloud) (calls : ∀ event ∈ events, event.Calls)
    (shown : SegmentShown store tenantId segmentId cloud) :
    SegmentShown store tenantId segmentId (run topologyStep cloud events) := by
  induction events generalizing cloud with
  | nil => exact shown
  | cons event rest ih =>
      have called := calls event List.mem_cons_self
      exact ih (phase.step own addressed called)
        (fun later member => calls later (List.mem_cons_of_mem event member))
        (shown.step own addressed phase called)

theorem bridged_segmentShown (phase : Phase store cloud) (calls : ∀ event ∈ events, event.Calls)
    (bridged : BridgedDuring tenantId segmentId cloud events) :
    SegmentShown store tenantId segmentId (run topologyStep cloud events) := by
  obtain ⟨before, revision, fresh, clock, after, rfl, succeeded⟩ := bridged
  have reached : Phase store (run topologyStep cloud before) :=
    run_phase own addressed phase fun event member =>
      calls event (List.mem_append_left _ member)
  have called := calls (.bridge tenantId segmentId revision fresh clock) (by simp)
  have shown : SegmentShown store tenantId segmentId (topologyStep (run topologyStep cloud before)
      (.bridge tenantId segmentId revision fresh clock)) := by
    obtain ⟨cloud', done⟩ := isOk_iff.mp succeeded
    obtain ⟨rfl, made⟩ := reached
    simp only [topologyStep, done]
    obtain ⟨route, rfl, bridged⟩ := bridgeSnapshot_ok (addressed tenantId).graph done
    exact (bridged_shows own (addressed tenantId) made bridged).2.2
  rw [run_append, run_cons]
  refine run_segmentShown own addressed (reached.step own addressed called) ?_ shown
  intro event member
  exact calls event (by simp [member])

end Runs

theorem edits_attachments {cloud : Cloud} {edits : List TopologyEvent}
    (editing : ∀ event ∈ edits, event.Edits) :
    (run topologyStep cloud edits).route.topology.attachments =
      cloud.route.topology.attachments := by
  induction edits generalizing cloud with
  | nil => rfl
  | cons event rest ih =>
      rw [run_cons, ih fun later member => editing later (List.mem_cons_of_mem event member)]
      have edit := editing event List.mem_cons_self
      cases event with
      | bridge tenantId segmentId desiredRevision fresh clock => exact edit.elim
      | environment queue topology => rfl
      | mutate mutation now fresh clock =>
          simp only [topologyStep]
          cases done : mutate cloud mutation now fresh clock with
          | error error => rfl
          | ok result => exact congrArg Topology.attachments (mutate_topology done)

theorem topologyStep_projections (cloud : Cloud) (event : TopologyEvent) :
    (topologyStep cloud event).route.projections = cloud.route.projections := by
  cases event with
  | environment queue topology => rfl
  | mutate mutation now fresh clock =>
      simp only [topologyStep]
      cases done : mutate cloud mutation now fresh clock with
      | error error => rfl
      | ok result =>
          rcases mutate_ok done with ⟨-, same⟩ | ⟨-, previous, resources, queue, applied⟩
          · exact congrArg (fun after : Cloud => after.route.projections) same
          · show result.2.route.projections = _
            rw [applied.result]
            unfold ResourceMutation.retire
            split
            · rfl
            · rfl
  | bridge tenantId segmentId desiredRevision fresh clock =>
      simp only [topologyStep]
      cases done : bridgeSnapshot cloud tenantId segmentId desiredRevision fresh clock with
      | error error => rfl
      | ok cloud' =>
          simp only [bridgeSnapshot, bind_ok, mapError_ok, pure_ok] at done
          obtain ⟨reading, -, route, bridged, rfl⟩ := done
          obtain ⟨topology, segments, rfl⟩ := ensureControlTopology_frame bridged
          rfl

section Builds

variable {cloud : Cloud} {tenantId segmentId : Uuid}

theorem graphDocuments_keys (graph : GraphInvariant tenantId cloud.control) :
    (((cloud.control.graphRows tenantId segmentId).map (·.document)).map
      ControlResourceV1.key).Nodup := by
  have keys : ((cloud.control.graphRows tenantId segmentId).map
      fun row => (row.kind, row.id)).Nodup := by
    have selected : ((cloud.control.resources.filter fun row => row.tenantId == tenantId &&
        row.state == .active && (reachable (cloud.control.referenceEdges tenantId)
          (cloud.control.graphRoots tenantId segmentId)).contains (row.kind, row.id)).map
        fun row => (row.kind, row.id)).Nodup := by
      refine graph.keys.sublist (List.Sublist.map _ (List.monotone_filter_right _ ?_))
      intro row kept
      simp only [Bool.and_eq_true] at kept
      exact kept.1.1
    exact ((List.perm_insertionSort graphOrder _).map _).nodup_iff.mpr selected
  have same : ((cloud.control.graphRows tenantId segmentId).map (·.document)).map
      ControlResourceV1.key =
        (cloud.control.graphRows tenantId segmentId).map fun row => (row.kind, row.id) := by
    rw [List.map_map]
    apply List.map_congr_left
    intro row loaded
    obtain ⟨member, tenant, -⟩ := mem_graphRows.mp loaded
    have faithful := graph.rows row member tenant
    exact Prod.ext faithful.kind faithful.id
  rw [same]
  exact keys

theorem mem_view_nodes (graph : GraphInvariant tenantId cloud.control)
    (found : (segmentDocuments cloud.control tenantId segmentId).nodes id = some node) :
    (id, node) ∈ cloud.control.documents tenantId node? := by
  obtain ⟨resource, member, reads⟩ := List.exists_of_findSome?_eq_some found
  split at reads
  · rename_i place
    have listed := (resource_listed graph (List.mem_reverse.mp member) reads).1
    rw [place.1] at listed
    exact listed_documents listed
  · cases reads

theorem coreAttachment_node (graph : GraphInvariant tenantId cloud.control)
    {core : List SegmentAttachmentV1}
    (built : (segmentDocuments cloud.control tenantId segmentId).coreAttachments = .ok core)
    {attachment : SegmentAttachmentV1} (member : attachment ∈ core) :
    ∃ value node, (attachment.attachmentId, value) ∈ cloud.control.documents tenantId attachment? ∧
      (value.nodeId, node) ∈ cloud.control.documents tenantId node? ∧
      attachment.deviceId = node.deviceId ∧ attachment.deviceKeyId = node.deviceKeyId := by
  obtain ⟨metadata, value, listed, hands⟩ := coreAttachments_origin built member
  obtain ⟨node, found, device⟩ := hands.node
  have document := listed_documents (mem_view_attachments graph listed).1
  exact ⟨value, node, hands.id ▸ document, mem_view_nodes graph found, device⟩

theorem segmentSnapshot_segment
    (read : segmentSnapshot cloud topology tenantId segmentId desiredRevision = .ok snapshot) :
    snapshot.segmentId = segmentId := by
  simp only [segmentSnapshot, completeSnapshot, bind_ok, pure_ok] at read
  obtain ⟨reading, -, bindings, -, _, -, rfl⟩ := read
  rfl

theorem built_principals (addressed : Addressed tenantId cloud.control)
    (once : AttachedOnce tenantId cloud.control)
    (read : segmentSnapshot cloud topology tenantId segmentId desiredRevision = .ok snapshot)
    {env : BuildEnvironment} {store : RouteStore} {input : RoutePublicationInput}
    (built : buildInput env store snapshot = .ok input) :
    (input.projections.map input.principal).Nodup := by
  have graph := addressed.graph
  obtain ⟨core, frame, parts⟩ := buildInput_builds built
  have view : frame.view = segmentDocuments cloud.control tenantId segmentId := by
    rw [parts.view, segmentSnapshot_resources graph read, segmentSnapshot_segment read]
    rfl
  have converted := parts.converted
  rw [view] at converted
  have keys : (snapshot.resources.map ControlResourceV1.key).Nodup := by
    rw [segmentSnapshot_resources graph read]
    exact graphDocuments_keys graph
  have unique := parts.projected_nodup keys
  -- Every projection finds the attachment that it was made of.
  have found : ∀ projection ∈ input.projections, ∃ attachment ∈ core,
      attachment.attachmentId = projection.attachmentId ∧
      input.principal projection = some (attachment.deviceId, attachment.deviceKeyId) := by
    intro projection member
    obtain ⟨⟨metadata, value⟩, selected, made⟩ := mem_mapM parts.projections member
    obtain ⟨listed, chosen⟩ := List.mem_filter.mp selected
    simp only [Bool.and_eq_true, beq_iff_eq] at chosen
    obtain ⟨attachment, present, -, hands⟩ :=
      coreAttachment_present parts.converted listed chosen.1
    have same := hands.id.trans (buildProjection_ok made).1.symm
    unfold RoutePublicationInput.principal
    rw [parts.attachments]
    cases located : (core.map (withdrawOutsiders frame.participants)).find? fun candidate =>
        candidate.attachmentId == projection.attachmentId with
    | none =>
        have absent := List.find?_eq_none.mp located _ (List.mem_map_of_mem present)
        simp [withdrawOutsiders_id, same] at absent
    | some held =>
        obtain ⟨origin, original, rfl⟩ := List.mem_map.mp (List.mem_of_find?_eq_some located)
        have selects := List.find?_some located
        simp only [beq_iff_eq, withdrawOutsiders_id] at selects
        exact ⟨origin, original, selects, congrArg some (withdrawOutsiders_device origin)⟩
  refine List.Nodup.map_on ?_ (List.Nodup.of_map _ unique)
  intro a memberA b memberB same
  obtain ⟨attachmentA, presentA, idA, principalA⟩ := found a memberA
  obtain ⟨attachmentB, presentB, idB, principalB⟩ := found b memberB
  rw [principalA, principalB] at same
  obtain ⟨device, -⟩ := Prod.mk.inj (Option.some.inj same)
  obtain ⟨valueA, nodeA, documentA, heldA, deviceA, -⟩ := coreAttachment_node graph converted presentA
  obtain ⟨valueB, nodeB, documentB, heldB, deviceB, -⟩ := coreAttachment_node graph converted presentB
  have nodes : valueA.nodeId = valueB.nodeId :=
    node_of_device addressed heldA heldB (deviceA.symm.trans (device.trans deviceB))
  have attached := congrArg Prod.fst (once _ documentA _ documentB nodes)
  exact eq_of_key unique memberA memberB (idA.symm.trans (attached.trans idB))

end Builds

section Result

variable {start : Cloud} {edits bridging : List TopologyEvent}

theorem edited_addressed (empty : ∀ tenantId, start.control.EmptyTenant tenantId)
    (unattached : start.route.topology.attachments = [])
    (unrouted : start.route.topology.sitePrefixes = []) (events : List TopologyEvent)
    (tenantId : Uuid) : Addressed tenantId (run topologyStep start events).control := by
  have initial : Materialising start := by
    refine ⟨fun tenantId => (empty tenantId).addressed, ?_, ?_, ?_⟩
    · rw [unattached]
      exact List.nodup_nil
    · rw [unrouted]
      exact List.nodup_nil
    · intro row member
      rw [unattached] at member
      cases member
  have holds : Materialising (run topologyStep start events) :=
    run_invariant (fun _ event before => topologyStep_materialising event before) initial events
  exact holds.addressed tenantId

variable {cloud : Cloud} {tenantId : Uuid}

theorem MadeOf.unambiguous (made : MadeOf cloud.control cloud.route.topology.attachments)
    (addressed : Addressed tenantId cloud.control) (once : AttachedOnce tenantId cloud.control)
    (keys : cloud.route.PrimaryKeys) (unpublished : cloud.route.projections = []) :
    Unambiguous tenantId cloud := by
  have single : ∀ lookup : RuntimeConfigurationLookup, lookup.tenantId = tenantId →
      (cloud.route.deviceAttachments lookup).length ≤ 1 := by
    intro lookup tenant
    refine length_filter_le_one (List.Nodup.of_map _ made.unique) ?_
    intro a memberA b memberB selectedA selectedB
    simp only [Bool.and_eq_true, beq_iff_eq] at selectedA selectedB
    obtain ⟨⟨⟨tenantA, deviceA⟩, -⟩, -⟩ := selectedA
    obtain ⟨⟨⟨tenantB, deviceB⟩, -⟩, -⟩ := selectedB
    exact made.principal addressed once memberA memberB (tenantA.trans tenant)
      (tenantB.trans tenant) (deviceA.trans deviceB.symm)
  constructor
  · intro a memberA b memberB tenantA tenantB _ _ _ _ device _
    exact made.principal addressed once memberA memberB tenantA tenantB device
  · intro now policyIsolation lookup tenant
    exact configuration_unambiguous now policyIsolation
      (currentAttachments_le_one keys (single lookup tenant)) unpublished
  · intro lookup tenant
    exact profile_unambiguous keys (single lookup tenant)
  · intro segmentId desiredRevision snapshot env input read built
    exact built_principals addressed once read built

theorem SegmentShown.once (graph : GraphInvariant tenantId cloud.control)
    (shown : ∀ entry ∈ cloud.control.documents tenantId attachment?,
      SegmentShown cloud.control tenantId entry.2.segmentId cloud)
    (unambiguous : Unambiguous tenantId cloud) : AttachedOnce tenantId cloud.control := by
  intro a first b second node
  obtain ⟨nodeA, heldA, presentA⟩ := shown a first a first rfl
  obtain ⟨nodeB, heldB, presentB⟩ := shown b second b second rfl
  rw [node] at heldA
  obtain rfl : nodeA = nodeB := documents_unique graph reads_node heldA heldB
  have same := unambiguous.rows _ presentA _ presentB rfl rfl rfl rfl rfl rfl rfl rfl
  have ids : a.1 = b.1 := congrArg AttachmentRow.id same
  obtain ⟨id, value⟩ := a
  obtain ⟨id', value'⟩ := b
  obtain rfl : id = id' := ids
  rw [documents_unique graph reads_attachment first second]

end Result

/-- After any edits and any calls for the graph that they left, the readers meet
    one attachment for a device key when every node is attached once; with a
    successful call for every segment that has an attachment, only then. -/
theorem unambiguous_iff_attached_once (start : Cloud)
    (empty : ∀ tenantId, start.control.EmptyTenant tenantId)
    (unattached : start.route.topology.attachments = [])
    (unrouted : start.route.topology.sitePrefixes = [])
    (unpublished : start.route.projections = []) (edits bridging : List TopologyEvent)
    (editing : ∀ event ∈ edits, event.Edits) (calling : ∀ event ∈ bridging, event.Calls)
    (own : (run topologyStep start edits).control.OwnAttachments)
    (keys : (run topologyStep start (edits ++ bridging)).route.PrimaryKeys) (tenantId : Uuid) :
    (AttachedOnce tenantId (run topologyStep start edits).control →
      Unambiguous tenantId (run topologyStep start (edits ++ bridging))) ∧
    ((∀ entry ∈ (run topologyStep start edits).control.documents tenantId attachment?,
        BridgedDuring tenantId entry.2.segmentId (run topologyStep start edits) bridging) →
      Unambiguous tenantId (run topologyStep start (edits ++ bridging)) →
      AttachedOnce tenantId (run topologyStep start edits).control) := by
  have addressed := edited_addressed empty unattached unrouted edits
  have published : (run topologyStep start (edits ++ bridging)).route.projections = [] := by
    refine run_invariant (P := fun cloud : Cloud => cloud.route.projections = []) ?_ unpublished _
    intro cloud event before
    rw [topologyStep_projections, before]
  rw [run_append] at keys published ⊢
  generalize atEdits : run topologyStep start edits = cloud at own keys addressed published ⊢
  have opened : Phase cloud.control cloud := by
    refine ⟨rfl, ?_, ?_⟩
    · rw [← atEdits, edits_attachments editing, unattached]
      exact List.nodup_nil
    · intro row member
      rw [← atEdits, edits_attachments editing, unattached] at member
      cases member
  have reached := run_phase own addressed opened calling
  constructor
  · intro once
    obtain ⟨control, made⟩ := reached
    rw [← control] at made once addressed
    exact made.unambiguous (addressed tenantId) once keys published
  · intro bridged unambiguous
    have shown : ∀ entry ∈ cloud.control.documents tenantId attachment?, SegmentShown cloud.control
        tenantId entry.2.segmentId (run topologyStep cloud bridging) := by
      intro entry listed
      exact bridged_segmentShown own addressed opened calling (bridged entry listed)
    rw [← reached.control] at shown addressed ⊢
    exact SegmentShown.once (addressed tenantId).graph shown unambiguous

theorem ownAttachments_of_one {store : ControlStore} (tenantId : Uuid)
    (one : ∀ row ∈ store.resources, row.tenantId = tenantId) : store.OwnAttachments := by
  intro tenant other a b first second _
  obtain ⟨row, member, tenantA, -⟩ := mem_documents.mp first
  obtain ⟨row', member', tenantB, -⟩ := mem_documents.mp second
  rw [← tenantA, ← tenantB, one row member, one row' member']

def sampleTwice : List TopologyEvent :=
  sampleMaterial ++
    [.mutate (sampleMutation 4 (.segment ⟨"segment-2", ⟨0x64500000, 24⟩⟩)) 0 (sampleFresh 4) 0,
      .mutate (sampleMutation 42 (.attachment ⟨4, 31, 51, 0x64500001, 1⟩)) 0 (sampleFresh 42) 0]

/-- Both attachments are accepted, and the device is told nothing any more. -/
theorem node_attached_twice :
    ¬ ∀ (start : Cloud), (∀ tenantId, start.control.EmptyTenant tenantId) →
      start.route.topology.attachments = [] → start.route.topology.sitePrefixes = [] →
      start.route.projections = [] → ∀ edits bridging : List TopologyEvent,
      (∀ event ∈ edits, event.Edits) → (∀ event ∈ bridging, event.Calls) →
      (run topologyStep start edits).control.OwnAttachments →
      (run topologyStep start (edits ++ bridging)).route.PrimaryKeys → ∀ tenantId,
      (∀ entry ∈ (run topologyStep start edits).control.documents tenantId attachment?,
        BridgedDuring tenantId entry.2.segmentId (run topologyStep start edits) bridging) →
      Unambiguous tenantId (run topologyStep start (edits ++ bridging)) := by
  intro claim
  have attached : (run topologyStep sampleCloud sampleTwice).control.documents 1 attachment? =
      [(41, ⟨3, 31, 51, 0x64400001, 1⟩), (42, ⟨4, 31, 51, 0x64500001, 1⟩)] := by decide +kernel
  have unambiguous := claim sampleCloud sampleCloud_empty rfl rfl rfl sampleTwice
    [.bridge 1 3 1 0 0, .bridge 1 4 1 0 0]
    (by simp [sampleTwice, sampleMaterial, TopologyEvent.Edits]) (by simp [TopologyEvent.Calls])
    (ownAttachments_of_one 1 (by decide +kernel))
    ⟨by decide +kernel, by decide +kernel, by decide +kernel, by decide +kernel, by decide +kernel,
      by decide +kernel⟩ 1 (by
      intro entry listed
      rw [attached] at listed
      simp only [List.mem_cons, List.not_mem_nil, or_false] at listed
      rcases listed with rfl | rfl
      · exact ⟨[], 1, 0, 0, [.bridge 1 4 1 0 0], rfl, by decide +kernel⟩
      · exact ⟨[.bridge 1 3 1 0 0], 1, 0, 0, [], rfl, by decide +kernel⟩)
  exact unambiguous.configuration 0 false ⟨1, 11, 21⟩ rfl (by decide +kernel)

/-- One attachment of the node, as it is after the call. -/
theorem unambiguous_iff_attached_once_sample :
    (run topologyStep sampleCloud (sampleMaterial ++ [.bridge 1 3 1 0 0])).route.topology.attachments
      = [(⟨3, 31, 51, 0x64400001, 1⟩ : AttachmentV1).row 1 41
          ⟨11, 21, 31, "node-1", .linux, "x86_64"⟩] ∧
    Unambiguous 1 (run topologyStep sampleCloud (sampleMaterial ++ [.bridge 1 3 1 0 0])) :=
  ⟨by decide +kernel, (unambiguous_iff_attached_once sampleCloud sampleCloud_empty rfl rfl rfl
    sampleMaterial [.bridge 1 3 1 0 0]
    (by simp [sampleMaterial, TopologyEvent.Edits]) (by simp [TopologyEvent.Calls])
    (ownAttachments_of_one 1 (by decide +kernel))
    ⟨by decide +kernel, by decide +kernel, by decide +kernel, by decide +kernel, by decide +kernel,
      by decide +kernel⟩ 1).1 (by decide +kernel)⟩

end CandyCloud
