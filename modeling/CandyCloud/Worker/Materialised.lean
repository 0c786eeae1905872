import CandyCloud.Control.Integrity
import CandyCloud.Control.Documents
import CandyCloud.Worker.Coverage

/-! # The materialised route tables

`ensure_control_topology` retires the attachments of its segment before it writes those of the
snapshot, and only writes prefixes: the rows of prefixes that left the graph, and of prefixes
that the snapshot of another segment lists, stay as they are.
-/

namespace CandyCloud

open Foundation
open ResourceSpecV1 hiding node site segment attachment prefix_ peer relay pathCandidate egress
  servicePolicy dnsIntent

section Graph

variable (store : ControlStore) (tenantId segmentId : Uuid)

/-- The documents of the snapshot that a reader reads. -/
def ControlStore.listed {α : Type} (read : ResourceSpecV1 → Option α) : List (Uuid × α) :=
  (store.graphRows tenantId segmentId).filterMap fun row =>
    (read row.document.resource).map fun value => (row.id, value)

/-- A site with an active attachment in the segment. -/
def ControlStore.Attached (siteId : Uuid) : Prop :=
  ∃ entry ∈ store.documents tenantId attachment?,
    entry.2.segmentId = segmentId ∧ entry.2.siteId = siteId

instance (siteId : Uuid) : Decidable (store.Attached tenantId segmentId siteId) :=
  inferInstanceAs (Decidable (∃ entry ∈ store.documents tenantId attachment?, _))

end Graph

/-- Identity, site, device, key and address. -/
abbrev AttachmentColumns := Uuid × Option Uuid × Option Uuid × Option Uuid × BitVec 32

def AttachmentRow.columns (row : AttachmentRow) : AttachmentColumns :=
  (row.id, row.siteId, row.deviceId, row.deviceKeyId, row.overlayRouterIpv4)

def AttachmentV1.columns (value : AttachmentV1) (id : Uuid) (node : NodeV1) : AttachmentColumns :=
  (id, some value.siteId, some node.deviceId, some node.deviceKeyId, value.overlayRouterIpv4)

/-- The row that the bridge writes for an active attachment. -/
def AttachmentV1.row (value : AttachmentV1) (tenantId id : Uuid) (node : NodeV1) :
    AttachmentRow where
  id
  tenantId
  segmentId := value.segmentId
  siteId := some value.siteId
  principalKind := .device
  deviceId := some node.deviceId
  deviceKeyId := some node.deviceKeyId
  overlayRouterIpv4 := value.overlayRouterIpv4
  state := .active
  epochFloor := value.epochFloor

/-- The row that the bridge writes for an active prefix. -/
def PrefixV1.row (value : PrefixV1) (tenantId id : Uuid) : SitePrefixRow :=
  ⟨id, tenantId, value.siteId, value.prefix_.network, value.prefix_.prefixLen, true⟩

def AttachmentRow.ActiveIn (row : AttachmentRow) (tenantId segmentId : Uuid) : Prop :=
  row.tenantId = tenantId ∧ row.segmentId = segmentId ∧ row.principalKind = .device ∧
    row.state = .active

/-- The tables hold the control graph of the segment: its attachments, the
    prefixes of its sites, and so the owners that a publication needs. -/
structure FollowsGraph (tenantId segmentId : Uuid) (cloud : Cloud) : Prop where
  attachments : ∀ columns,
    (∃ row ∈ cloud.route.topology.attachments, row.ActiveIn tenantId segmentId ∧
      row.columns = columns) ↔
    ∃ id value node, (id, value) ∈ cloud.control.documents tenantId attachment? ∧
      value.segmentId = segmentId ∧ (value.nodeId, node) ∈ cloud.control.documents tenantId node? ∧
      value.columns id node = columns
  nodes : ∀ entry ∈ cloud.control.documents tenantId attachment?, entry.2.segmentId = segmentId →
    ∃ node, (entry.2.nodeId, node) ∈ cloud.control.documents tenantId node?
  prefixes : ∀ row : SitePrefixRow, row.tenantId = tenantId → row.active = true →
    cloud.control.Attached tenantId segmentId row.siteId →
    (row ∈ cloud.route.topology.sitePrefixes ↔
      ∃ id value, (id, value) ∈ cloud.control.documents tenantId prefix? ∧
        value.row tenantId id = row)
  owners : ∀ write : SegmentPublicationWrite, write.tenantId = tenantId →
    write.segmentId = segmentId → ∃ attachments,
      (segmentView segmentId ((cloud.control.graphRows tenantId segmentId).map
        (·.document))).coreAttachments = .ok attachments ∧
      ∀ id, id ∈ requiredRouteOwners cloud.route write ↔ id ∈ routeOwners attachments

/-- Nothing the bridge leaves alone is out of step, before a call for the
    segment: no attachment of the snapshot has its row under another segment, no
    prefix of it meets the network of another prefix that the call has not moved
    before, the prefixes that it does not list have their rows, and every site
    with a prefix has one in the segment. -/
structure InStep (tenantId segmentId : Uuid) (cloud : Cloud) : Prop where
  placed : ∀ entry ∈ cloud.control.listed tenantId segmentId attachment?,
    ∀ row ∈ cloud.route.topology.attachments, row.id = entry.1 →
      ((row.tenantId = tenantId ∧ row.segmentId = segmentId) ↔ entry.2.segmentId = segmentId)
  owned : ∀ entry ∈ cloud.control.listed tenantId segmentId prefix?,
    ∀ row ∈ cloud.route.topology.sitePrefixes, row.id = entry.1 → row.tenantId = tenantId
  unshared : ∀ earlier entry later,
    cloud.control.listed tenantId segmentId prefix? = earlier ++ entry :: later →
    ∀ row ∈ cloud.route.topology.sitePrefixes, row.tenantId = tenantId →
      row.network = entry.2.prefix_.network → row.prefixLen = entry.2.prefix_.prefixLen →
      row.id = entry.1 ∨ ∃ freed ∈ earlier, row.id = freed.1
  apart : ∀ entry ∈ cloud.control.listed tenantId segmentId prefix?,
    ∀ other ∈ cloud.control.listed tenantId segmentId prefix?,
      entry.2.prefix_ = other.2.prefix_ → entry.1 = other.1
  leftover : ∀ row ∈ cloud.route.topology.sitePrefixes, row.tenantId = tenantId →
    row.active = true → cloud.control.Attached tenantId segmentId row.siteId →
    (∃ entry ∈ cloud.control.listed tenantId segmentId prefix?, entry.1 = row.id) ∨
      ∃ entry ∈ cloud.control.documents tenantId prefix?, entry.2.row tenantId entry.1 = row
  elsewhere : ∀ entry ∈ cloud.control.documents tenantId prefix?,
    cloud.control.Attached tenantId segmentId entry.2.siteId →
    entry ∈ cloud.control.listed tenantId segmentId prefix? ∨
      entry.2.row tenantId entry.1 ∈ cloud.route.topology.sitePrefixes
  served : ∀ entry ∈ cloud.control.documents tenantId prefix?,
    cloud.control.Attached tenantId segmentId entry.2.siteId →
    ∃ own ∈ cloud.control.documents tenantId prefix?,
      own.2.segmentId = segmentId ∧ own.2.siteId = entry.2.siteId

/-- A mutation, a snapshot's call of the bridge, or any change made elsewhere to
    the queue and to the tables that the bridge does not own. -/
inductive TopologyEvent where
  | mutate (mutation : ResourceMutation) (now : Instant) (fresh : Uuid → Uuid) (clock : Instant)
  | bridge (tenantId segmentId : Uuid) (desiredRevision : Nat) (fresh : Uuid) (clock : Instant)
  | environment (queue : GenerationQueue) (topology : Topology)

/-- `segment_snapshot` up to the bridge. -/
def bridgeSnapshot (cloud : Cloud) (tenantId segmentId : Uuid) (desiredRevision : Nat)
    (fresh : Uuid) (clock : Instant) : Except ControlStoreError Cloud := do
  let reading ← readSegment cloud tenantId segmentId desiredRevision
  let route ← (ensureControlTopology cloud.route fresh clock tenantId segmentId
    reading.resources).mapError bridgeError
  return { cloud with route }

/-- One event: an edit, or a worker that carries a snapshot into the tables. -/
def topologyStep (cloud : Cloud) : TopologyEvent → Cloud
  | .mutate mutation now fresh clock =>
      commit cloud ((mutate cloud mutation now fresh clock).map Prod.snd)
  | .bridge tenantId segmentId desiredRevision fresh clock =>
      commit cloud (bridgeSnapshot cloud tenantId segmentId desiredRevision fresh clock)
  | .environment queue topology =>
      { cloud with
        queue
        route := { cloud.route with
          topology := { topology with
            attachments := cloud.route.topology.attachments
            sitePrefixes := cloud.route.topology.sitePrefixes } } }

/-- What every run keeps of the two tables: their primary keys, and devices are
    the only principals. -/
structure TablesSound (topology : Topology) : Prop where
  attachments : (topology.attachments.map (·.id)).Nodup
  prefixes : (topology.sitePrefixes.map (·.id)).Nodup
  devices : ∀ row ∈ topology.attachments, row.principalKind = .device

section Listed

variable {store : ControlStore} {tenantId segmentId : Uuid} {α : Type}
  {read : ResourceSpecV1 → Option α} {kind : ResourceKind} {id : Uuid} {value : α}

theorem mem_listed : (id, value) ∈ store.listed tenantId segmentId read ↔
    ∃ row ∈ store.graphRows tenantId segmentId, row.id = id ∧
      read row.document.resource = some value := by
  simp only [ControlStore.listed, List.mem_filterMap, Option.map_eq_some_iff, Prod.mk.injEq]
  constructor
  · rintro ⟨row, loaded, _, document, same, rfl⟩
    exact ⟨row, loaded, same, document⟩
  · rintro ⟨row, loaded, same, document⟩
    exact ⟨row, loaded, value, document, same, rfl⟩

theorem listed_documents (listed : (id, value) ∈ store.listed tenantId segmentId read) :
    (id, value) ∈ store.documents tenantId read := by
  obtain ⟨row, loaded, same, document⟩ := mem_listed.mp listed
  obtain ⟨member, tenant, active, -⟩ := mem_graphRows.mp loaded
  exact mem_documents.mpr ⟨row, member, tenant, active, same, document⟩

variable (graph : GraphInvariant tenantId store)

include graph

theorem listed_of_segment (document : (id, value) ∈ store.documents tenantId read)
    (place : ∀ spec, read spec = some value → spec.segmentId = some segmentId ∧
      spec.kind ≠ .segment) :
    (id, value) ∈ store.listed tenantId segmentId read := by
  obtain ⟨row, member, tenant, active, same, spec⟩ := mem_documents.mp document
  refine mem_listed.mpr ⟨row, mem_graphRows.mpr ⟨member, tenant, active, (row.kind, row.id), ?_,
    .refl⟩, same, spec⟩
  have faithful := graph.rows row member tenant
  have recorded : row.segmentId = some segmentId := by
    rw [← faithful.segmentId, affectedSegmentId]
    obtain ⟨named, other⟩ := place _ spec
    cases shape : row.document.resource with
    | segment segment =>
        rw [shape] at other
        exact absurd rfl other
    | node | site | attachment | prefix_ | peer | relay | pathCandidate | egress | servicePolicy
    | dnsIntent =>
        rw [shape] at named
        exact named
  simp only [ControlStore.graphRoots, List.mem_map, List.mem_filter, Bool.and_eq_true,
    Bool.or_eq_true, beq_iff_eq]
  exact ⟨row, ⟨member, ⟨tenant, active⟩, .inr recorded⟩, rfl⟩

theorem attachment_in_snapshot {value : AttachmentV1}
    (document : (id, value) ∈ store.documents tenantId attachment?)
    (here : value.segmentId = segmentId) :
    (id, value) ∈ store.listed tenantId segmentId attachment? := by
  refine listed_of_segment graph document ?_
  intro spec reads
  rw [attachment?_eq_some.mp reads]
  exact ⟨congrArg some here, nofun⟩

theorem resource_listed {resource : ControlResourceV1}
    (member : resource ∈ (store.graphRows tenantId segmentId).map (·.document))
    (document : read resource.resource = some value) :
    (resource.metadata.id, value) ∈ store.listed tenantId segmentId read ∧
      resource.metadata.state = .active := by
  obtain ⟨row, loaded, rfl⟩ := List.mem_map.mp member
  obtain ⟨present, tenant, active, -⟩ := mem_graphRows.mp loaded
  have faithful := graph.rows row present tenant
  exact ⟨mem_listed.mpr ⟨row, loaded, faithful.id.symm, document⟩, faithful.state.trans active⟩

theorem listed_resource (listed : (id, value) ∈ store.listed tenantId segmentId read) :
    ∃ resource ∈ (store.graphRows tenantId segmentId).map (·.document),
      resource.metadata.id = id ∧ read resource.resource = some value := by
  obtain ⟨row, loaded, same, document⟩ := mem_listed.mp listed
  obtain ⟨present, tenant, -⟩ := mem_graphRows.mp loaded
  exact ⟨row.document, List.mem_map_of_mem loaded, (graph.rows row present tenant).id.trans same,
    document⟩

theorem listed_order {seen rest : List ControlResourceV1} {resource : ControlResourceV1}
    (order : seen ++ resource :: rest = (store.graphRows tenantId segmentId).map (·.document))
    (document : read resource.resource = some value) :
    ∃ earlier later, store.listed tenantId segmentId read =
        earlier ++ (resource.metadata.id, value) :: later ∧
      ∀ entry ∈ earlier, ∃ other ∈ seen, other.metadata.id = entry.1 ∧
        read other.resource = some entry.2 := by
  obtain ⟨before, after, whole, rfl, split⟩ := List.map_eq_append_iff.mp order.symm
  obtain ⟨row, behind, rfl, rfl, rfl⟩ := List.map_eq_cons_iff.mp split
  have identified : ∀ other ∈ before ++ row :: behind, other.document.metadata.id = other.id := by
    intro other loaded
    rw [← whole] at loaded
    obtain ⟨present, tenant, -⟩ := mem_graphRows.mp loaded
    exact (graph.rows other present tenant).id
  rw [identified row (by simp)]
  refine ⟨before.filterMap fun row => (read row.document.resource).map fun value =>
    (row.id, value), behind.filterMap fun row => (read row.document.resource).map fun value =>
    (row.id, value), ?_, ?_⟩
  · rw [ControlStore.listed, whole, List.filterMap_append, List.filterMap_cons, document]
    rfl
  · intro entry listed
    obtain ⟨other, loaded, found⟩ := List.mem_filterMap.mp listed
    obtain ⟨_, reads, rfl⟩ := Option.map_eq_some_iff.mp found
    exact ⟨other.document, List.mem_map_of_mem loaded,
      identified other (List.mem_append_left _ loaded), reads⟩

theorem nodeDocument_listed {node : NodeV1}
    (found : nodeDocument ((store.graphRows tenantId segmentId).map (·.document)) id = some node) :
    (id, node) ∈ store.listed tenantId segmentId node? := by
  obtain ⟨resource, member, reads⟩ := List.exists_of_findSome?_eq_some found
  split at reads
  · rename_i same
    rw [← same]
    exact (resource_listed graph member reads).1
  · cases reads

end Listed

section Stages

variable {tenantId segmentId : Uuid} {topology topology' : Topology}
  {resource : ControlResourceV1}

def SameTables (topology topology' : Topology) : Prop :=
  topology'.attachments = topology.attachments ∧ topology'.sitePrefixes = topology.sitePrefixes

theorem ensureSite_tables (done : topology.ensureSite tenantId resource = .ok topology') :
    SameTables topology topology' := by
  unfold Topology.ensureSite at done
  split at done
  · simp only [bind_ok, pure_ok] at done
    obtain ⟨sites, -, rfl⟩ := done
    exact ⟨rfl, rfl⟩
  · cases done
    exact ⟨rfl, rfl⟩

theorem ensureHubPool_tables {fresh hubPoolId : Uuid} {clock : Instant}
    (done : topology.ensureHubPool fresh clock tenantId = .ok (hubPoolId, topology')) :
    SameTables topology topology' := by
  unfold Topology.ensureHubPool at done
  split at done
  · cases done
    exact ⟨rfl, rfl⟩
  · simp only [bind_ok, pure_ok, Prod.mk.injEq] at done
    obtain ⟨nodePools, -, -, rfl⟩ := done
    exact ⟨rfl, rfl⟩

theorem ensureNode_tables {hubPoolId : Uuid}
    (done : topology.ensureNode tenantId hubPoolId resource = .ok topology') :
    SameTables topology topology' := by
  unfold Topology.ensureNode at done
  split at done
  · simp only [unit_bind_ok, bind_ok (α := List NodeRow), pure_ok] at done
    obtain ⟨-, nodes, -, rfl⟩ := done
    exact ⟨rfl, rfl⟩
  · cases done
    exact ⟨rfl, rfl⟩

theorem updateEach_tables {update : Topology → ControlResourceV1 → Except SdwanError Topology}
    (each : ∀ topology topology' resource, update topology resource = .ok topology' →
      SameTables topology topology') {resources : List ControlResourceV1}
    (done : updateEach update topology resources = .ok topology') :
    SameTables topology topology' := by
  refine updateEach_invariant (P := SameTables topology) ?_ ⟨rfl, rfl⟩ done
  intro s s' resource _ same step
  have next := each s s' resource step
  exact ⟨next.1.trans same.1, next.2.trans same.2⟩

/-- The two loops of the bridge that write the tables. -/
structure Bridged (tenantId segmentId : Uuid) (resources : List ControlResourceV1)
    (topology topology' : Topology) : Prop where
  prefixes : ∃ sited prefixed, SameTables topology sited ∧
    updateEach (Topology.ensurePrefix tenantId) sited resources = .ok prefixed ∧
    topology'.sitePrefixes = prefixed.sitePrefixes
  attachments : ∃ (noded : Topology) (segments : List SegmentRow),
    noded.attachments = topology.attachments ∧
    updateEach (Topology.ensureAttachment tenantId segments resources)
      (noded.revokeAttachments tenantId segmentId) resources = .ok topology'

/-- The bridge of one Segment's documents into the tables of the same Cloud. -/
abbrev Cloud.Bridged (cloud : Cloud) (tenantId segmentId : Uuid) (topology : Topology) : Prop :=
  CandyCloud.Bridged tenantId segmentId
    ((cloud.control.graphRows tenantId segmentId).map (·.document)) cloud.route.topology topology

theorem ensurePrefix_attachments
    (done : topology.ensurePrefix tenantId resource = .ok topology') :
    topology'.attachments = topology.attachments := by
  unfold Topology.ensurePrefix at done
  split at done
  · simp only [unit_bind_ok, bind_ok (α := List SitePrefixRow), pure_ok] at done
    obtain ⟨-, sitePrefixes, -, rfl⟩ := done
    rfl
  · cases done
    rfl

theorem ensureAttachment_prefixes {segments : List SegmentRow} {resources : List ControlResourceV1}
    (done : topology.ensureAttachment tenantId segments resources resource = .ok topology') :
    topology'.sitePrefixes = topology.sitePrefixes := by
  unfold Topology.ensureAttachment at done
  split at done
  · simp only [orElse_bind_ok, unit_bind_ok, bind_ok (α := List AttachmentRow), pure_ok] at done
    obtain ⟨node, -, -, attachments, -, rfl⟩ := done
    rfl
  · cases done
    rfl

theorem ensureControlTopology_bridged {store store' : RouteStore} {fresh : Uuid} {clock : Instant}
    {resources : List ControlResourceV1}
    (done : ensureControlTopology store fresh clock tenantId segmentId resources = .ok store') :
    Bridged tenantId segmentId resources store.topology store'.topology := by
  simp only [ensureControlTopology, orElse_bind_ok, bind_ok (α := Topology),
    bind_ok (α := Uuid × Topology), bind_ok (α := List SegmentRow), pure_ok] at done
  obtain ⟨segment, -, sited, siting, prefixed, prefixing, ⟨hubPoolId, pooled⟩, pooling, noded,
    noding, segments, -, topology, attaching, rfl⟩ := done
  have sitedSame := updateEach_tables (fun _ _ _ => ensureSite_tables) siting
  have pooledSame := ensureHubPool_tables pooling
  have nodedSame := updateEach_tables (fun _ _ _ => ensureNode_tables) noding
  have prefixedSame : prefixed.attachments = sited.attachments :=
    updateEach_invariant (P := fun after : Topology => after.attachments = sited.attachments)
      (fun _ _ _ _ same step => (ensurePrefix_attachments step).trans same) rfl prefixing
  have revoked : (noded.revokeAttachments tenantId segmentId).sitePrefixes = noded.sitePrefixes :=
    rfl
  have attachedSame : topology.sitePrefixes = noded.sitePrefixes :=
    updateEach_invariant (P := fun after : Topology => after.sitePrefixes = noded.sitePrefixes)
      (fun _ _ _ _ same step => (ensureAttachment_prefixes step).trans same) revoked attaching
  constructor
  · refine ⟨sited, prefixed, sitedSame, prefixing, ?_⟩
    exact attachedSame.trans (nodedSame.2.trans pooledSame.2)
  · refine ⟨noded, segments, ?_, attaching⟩
    exact nodedSame.1.trans (pooledSame.1.trans (prefixedSame.trans sitedSame.1))

end Stages

section Prefixes

variable {cloud : Cloud} {tenantId segmentId : Uuid}

/-- The rows of the documents seen so far, and the others as they were. -/
structure PrefixesWritten (tenantId : Uuid) (before : List SitePrefixRow)
    (seen : List ControlResourceV1) (rows : List SitePrefixRow) : Prop where
  unique : (rows.map (·.id)).Nodup
  members : ∀ row, row ∈ rows ↔
    (∃ resource ∈ seen, ∃ value, resource.resource = .prefix_ value ∧
      row = value.row tenantId resource.metadata.id) ∨
    row ∈ before ∧ ∀ resource ∈ seen, ∀ value, resource.resource = .prefix_ value →
      row.id ≠ resource.metadata.id

theorem prefix_eq {a b : Ipv4PrefixV1} (network : a.network = b.network)
    (prefixLen : a.prefixLen = b.prefixLen) : a = b := by
  cases a with
  | mk network prefixLen =>
      cases b with
      | mk network' prefixLen' =>
          cases network
          cases prefixLen
          rfl

theorem prefix_listed (graph : GraphInvariant tenantId cloud.control)
    {resource : ControlResourceV1}
    (member : resource ∈ (cloud.control.graphRows tenantId segmentId).map (·.document))
    {value : PrefixV1} (spec : resource.resource = .prefix_ value) :
    (resource.metadata.id, value) ∈ cloud.control.listed tenantId segmentId prefix? ∧
      resource.metadata.state = .active :=
  resource_listed graph member (by rw [spec]; rfl)

theorem ensurePrefix_written (graph : GraphInvariant tenantId cloud.control)
    (inStep : InStep tenantId segmentId cloud) {seen rest : List ControlResourceV1}
    {resource : ControlResourceV1}
    (order : seen ++ resource :: rest =
      (cloud.control.graphRows tenantId segmentId).map (·.document))
    {topology topology' : Topology}
    (written : PrefixesWritten tenantId cloud.route.topology.sitePrefixes seen
      topology.sitePrefixes)
    (done : topology.ensurePrefix tenantId resource = .ok topology') :
    PrefixesWritten tenantId cloud.route.topology.sitePrefixes (seen ++ [resource])
      topology'.sitePrefixes := by
  have known : seen ⊆ (cloud.control.graphRows tenantId segmentId).map (·.document) :=
    order ▸ List.subset_append_left seen (resource :: rest)
  have member : resource ∈ (cloud.control.graphRows tenantId segmentId).map (·.document) :=
    order ▸ List.mem_append_right seen List.mem_cons_self
  unfold Topology.ensurePrefix at done
  split at done
  · rename_i value spec
    obtain ⟨listed, active⟩ := prefix_listed graph member spec
    simp only [unit_bind_ok, bind_ok (α := List SitePrefixRow), pure_ok, upsertInto, orElse_ok,
      active, beq_self_eq_true] at done
    obtain ⟨-, rows, upserted, rfl⟩ := done
    have replaced : Replaced (·.id) (value.row tenantId resource.metadata.id)
        topology.sitePrefixes rows := by
      refine insertOrUpdate_replaced written.unique (fun a b => beq_iff_eq) ?_ ?_ upserted
      · intro old present same
        have tenant : old.tenantId = tenantId := by
          rcases (written.members old).mp present with ⟨_, _, _, _, rfl⟩ | ⟨before, -⟩
          · rfl
          · exact inStep.owned _ listed old before same
        have id : old.id = resource.metadata.id := same
        simp only [tenant, id]
        rfl
      · intro clash selected row present other
        rw [List.mem_singleton] at selected
        subst selected
        rw [Bool.eq_false_iff]
        intro met
        simp only [PrefixV1.row, Bool.and_eq_true, beq_iff_eq] at met
        obtain ⟨⟨tenant, network⟩, prefixLen⟩ := met
        rcases (written.members row).mp present with ⟨earlier, processed, also, earlierSpec, rfl⟩ |
          ⟨before, kept⟩
        · have same : value.prefix_ = also.prefix_ := prefix_eq network prefixLen
          exact other (inStep.apart _ (prefix_listed graph (known processed) earlierSpec).1 _ listed
            same.symm)
        · obtain ⟨earlier, later, split, shown⟩ := listed_order graph order
            (prefix?_eq_some.mpr spec)
          rcases inStep.unshared earlier _ later split row before tenant.symm network.symm
            prefixLen.symm with own | ⟨freed, inside, moved⟩
          · exact other own
          · -- the row has left the network by now
            obtain ⟨mover, processed, id, reads⟩ := shown freed inside
            exact kept mover processed freed.2 (prefix?_eq_some.mp reads) (moved.trans id.symm)
    constructor
    · show (rows.map (·.id)).Nodup
      refine nodup_insertOrUpdate_key written.unique List.mem_cons_self
        (fun a b same => beq_iff_eq.mpr same) ?_ upserted
      intro row
      rfl
    · intro row
      show row ∈ rows ↔ _
      rw [replaced row, written.members row]
      have once : ∀ earlier ∈ seen, ∀ also, earlier.resource = .prefix_ also →
          earlier.metadata.id = resource.metadata.id → also = value := by
        intro earlier processed also earlierSpec same
        have listedAlso := (prefix_listed graph (known processed) earlierSpec).1
        rw [same] at listedAlso
        exact documents_unique graph reads_prefix (listed_documents listedAlso)
          (listed_documents listed)
      simp only [List.mem_append, List.mem_singleton]
      constructor
      · rintro (rfl | ⟨⟨earlier, processed, also, earlierSpec, rfl⟩ | ⟨before, kept⟩, other⟩)
        · exact .inl ⟨resource, .inr rfl, value, spec, rfl⟩
        · exact .inl ⟨earlier, .inl processed, also, earlierSpec, rfl⟩
        · refine .inr ⟨before, ?_⟩
          rintro later (processed | rfl) also laterSpec
          · exact kept later processed also laterSpec
          · exact other
      · rintro (⟨earlier, processed | rfl, also, earlierSpec, rfl⟩ | ⟨before, kept⟩)
        · by_cases same : earlier.metadata.id = resource.metadata.id
          · left
            rw [once earlier processed also earlierSpec same, same]
          · exact .inr ⟨.inl ⟨earlier, processed, also, earlierSpec, rfl⟩, same⟩
        · left
          rw [spec] at earlierSpec
          cases earlierSpec
          rfl
        · refine .inr ⟨.inr ⟨before, fun earlier processed => kept earlier (.inl processed)⟩, ?_⟩
          exact kept resource (.inr rfl) value spec
  · rename_i other
    cases done
    refine ⟨written.unique, ?_⟩
    intro row
    rw [written.members row]
    have skipped : ∀ value, resource.resource ≠ .prefix_ value := fun value => other value
    simp only [List.mem_append, List.mem_singleton]
    grind

/-- After the loop the table has the rows of the snapshot's prefixes, and every
    row of another prefix as it was. -/
theorem mem_sitePrefixes (graph : GraphInvariant tenantId cloud.control)
    (sound : TablesSound cloud.route.topology) (inStep : InStep tenantId segmentId cloud)
    {topology : Topology} (bridged : cloud.Bridged tenantId segmentId topology)
    (row : SitePrefixRow) :
    row ∈ topology.sitePrefixes ↔
      (∃ entry ∈ cloud.control.listed tenantId segmentId prefix?,
        row = entry.2.row tenantId entry.1) ∨
      row ∈ cloud.route.topology.sitePrefixes ∧
        ∀ entry ∈ cloud.control.listed tenantId segmentId prefix?, row.id ≠ entry.1 := by
  obtain ⟨sited, prefixed, same, looped, final⟩ := bridged.prefixes
  have written : PrefixesWritten tenantId cloud.route.topology.sitePrefixes
      ((cloud.control.graphRows tenantId segmentId).map (·.document)) prefixed.sitePrefixes := by
    refine updateEach_in_order (P := fun seen after => PrefixesWritten tenantId
      cloud.route.topology.sitePrefixes seen after.sitePrefixes) ?_ ?_ looped
    · intro seen resource rest before after order holds step
      exact ensurePrefix_written graph inStep order holds step
    · rw [same.2]
      exact ⟨sound.prefixes, fun row => by simp⟩
  rw [final, written.members row]
  constructor
  · rintro (⟨resource, member, value, spec, rfl⟩ | ⟨before, kept⟩)
    · exact .inl ⟨(resource.metadata.id, value), (prefix_listed graph member spec).1, rfl⟩
    · refine .inr ⟨before, ?_⟩
      intro entry listed
      obtain ⟨resource, member, same, document⟩ := listed_resource graph listed
      rw [← same]
      exact kept resource member entry.2 (prefix?_eq_some.mp document)
  · rintro (⟨entry, listed, rfl⟩ | ⟨before, kept⟩)
    · obtain ⟨resource, member, same, document⟩ := listed_resource graph listed
      exact .inl ⟨resource, member, entry.2, prefix?_eq_some.mp document, by rw [same]⟩
    · refine .inr ⟨before, ?_⟩
      intro resource member value spec
      exact kept _ (prefix_listed graph member spec).1

end Prefixes

section Attachments

variable {cloud : Cloud} {tenantId segmentId : Uuid}

/-- The rows of the segment's attachments seen so far, and its other rows as
    they were when the loop began. -/
structure AttachmentsWritten (cloud : Cloud) (tenantId segmentId : Uuid)
    (base : List AttachmentRow) (seen : List ControlResourceV1) (rows : List AttachmentRow) :
    Prop where
  unique : (rows.map (·.id)).Nodup
  devices : ∀ row ∈ rows, row.principalKind = .device
  placed : ∀ entry ∈ cloud.control.listed tenantId segmentId attachment?,
    ∀ row ∈ rows, row.id = entry.1 →
      ((row.tenantId = tenantId ∧ row.segmentId = segmentId) ↔ entry.2.segmentId = segmentId)
  nodes : ∀ resource ∈ seen, ∀ value, resource.resource = .attachment value →
    ∃ node, nodeDocument ((cloud.control.graphRows tenantId segmentId).map (·.document))
      value.nodeId = some node
  members : ∀ row, row.tenantId = tenantId → row.segmentId = segmentId → (row ∈ rows ↔
    (∃ resource ∈ seen, ∃ value node, resource.resource = .attachment value ∧
      value.segmentId = segmentId ∧
      nodeDocument ((cloud.control.graphRows tenantId segmentId).map (·.document)) value.nodeId
        = some node ∧ row = value.row tenantId resource.metadata.id node) ∨
    row ∈ base ∧ ∀ resource ∈ seen, ∀ value, resource.resource = .attachment value →
      value.segmentId = segmentId → row.id ≠ resource.metadata.id)

theorem attachment_listed (graph : GraphInvariant tenantId cloud.control)
    {resource : ControlResourceV1}
    (member : resource ∈ (cloud.control.graphRows tenantId segmentId).map (·.document))
    {value : AttachmentV1} (spec : resource.resource = .attachment value) :
    (resource.metadata.id, value) ∈ cloud.control.listed tenantId segmentId attachment? ∧
      resource.metadata.state = .active :=
  resource_listed graph member (attachment?_eq_some.mpr spec)

theorem router_unique {store : ControlStore} (addressed : Addressed tenantId store)
    {a b : Uuid × AttachmentV1} (first : a ∈ store.documents tenantId attachment?)
    (second : b ∈ store.documents tenantId attachment?)
    (segment : a.2.segmentId = b.2.segmentId)
    (address : a.2.overlayRouterIpv4 = b.2.overlayRouterIpv4) : a.1 = b.1 := by
  obtain ⟨row, member, tenant, active, id, document⟩ := mem_documents.mp first
  obtain ⟨row', member', tenant', active', id', document'⟩ := mem_documents.mp second
  have same := addressed.addressing.routers row row' ⟨member, tenant, by rw [active]; decide⟩
    ⟨member', tenant', by rw [active']; decide⟩ a.2 b.2 (attachment?_eq_some.mp document)
    (attachment?_eq_some.mp document') segment address
  rw [← id, ← id', same]

/-- The columns an upsert sets on a row that is there. -/
def AttachmentV1.rewrite (value : AttachmentV1) (node : NodeV1) (old : AttachmentRow) :
    AttachmentRow :=
  { old with
    siteId := some value.siteId
    deviceId := some node.deviceId
    deviceKeyId := some node.deviceKeyId
    overlayRouterIpv4 := value.overlayRouterIpv4
    state := .active
    epochFloor := value.epochFloor }

/-- The primary key, and the address among the rows that own theirs. -/
def attachmentKeys : List (AttachmentRow → AttachmentRow → Bool) :=
  [fun a b => a.id == b.id, fun a b =>
    Topology.ownsAddress a && Topology.ownsAddress b && a.tenantId == b.tenantId &&
      a.segmentId == b.segmentId && a.overlayRouterIpv4 == b.overlayRouterIpv4]

theorem ensureAttachment_cases (graph : GraphInvariant tenantId cloud.control)
    {resource : ControlResourceV1}
    (member : resource ∈ (cloud.control.graphRows tenantId segmentId).map (·.document))
    {topology topology' : Topology} {segments : List SegmentRow}
    (done : topology.ensureAttachment tenantId segments
      ((cloud.control.graphRows tenantId segmentId).map (·.document)) resource = .ok topology') :
    (∃ value node rows, resource.resource = .attachment value ∧
      (resource.metadata.id, value) ∈ cloud.control.listed tenantId segmentId attachment? ∧
      nodeDocument ((cloud.control.graphRows tenantId segmentId).map (·.document)) value.nodeId
        = some node ∧
      insertOrUpdate attachmentKeys (value.row tenantId resource.metadata.id node)
        (value.rewrite node) topology.attachments = some rows ∧
      topology' = { topology with attachments := rows }) ∨
    (∀ value, resource.resource ≠ .attachment value) ∧ topology' = topology := by
  unfold Topology.ensureAttachment at done
  split at done
  · rename_i value spec
    obtain ⟨listed, active⟩ := attachment_listed graph member spec
    simp only [orElse_bind_ok, unit_bind_ok, bind_ok (α := List AttachmentRow), pure_ok, upsertInto,
      orElse_ok, active] at done
    obtain ⟨node, found, -, rows, upserted, rfl⟩ := done
    exact .inl ⟨value, node, rows, spec, listed, found, upserted, rfl⟩
  · rename_i other
    cases done
    exact .inr ⟨fun value => other value, rfl⟩

section Upsert

variable {base rows rows' : List AttachmentRow} {seen : List ControlResourceV1} {id : Uuid}
  {value : AttachmentV1} {node : NodeV1}

theorem upserted_place
    (upserted : insertOrUpdate attachmentKeys (value.row tenantId id node) (value.rewrite node) rows
      = some rows') {row : AttachmentRow} (member : row ∈ rows') :
    row = value.row tenantId id node ∨ ∃ old ∈ rows, old.id = row.id ∧
      old.tenantId = row.tenantId ∧ old.segmentId = row.segmentId ∧
      old.principalKind = row.principalKind := by
  rcases mem_insertOrUpdate upserted member with kept | new | ⟨old, present, rfl⟩
  · exact .inr ⟨row, kept, rfl, rfl, rfl, rfl⟩
  · exact .inl new
  · exact .inr ⟨old, present, rfl, rfl, rfl, rfl⟩

theorem upserted_own (addressed : Addressed tenantId cloud.control)
    (retired : ∀ row ∈ base, row.tenantId = tenantId → row.segmentId = segmentId →
      Topology.ownsAddress row = false)
    (known : seen ⊆ (cloud.control.graphRows tenantId segmentId).map (·.document))
    (written : AttachmentsWritten cloud tenantId segmentId base seen rows)
    (listed : (id, value) ∈ cloud.control.listed tenantId segmentId attachment?)
    (here : value.segmentId = segmentId)
    (upserted : insertOrUpdate attachmentKeys (value.row tenantId id node) (value.rewrite node) rows
      = some rows') :
    Replaced (·.id) (value.row tenantId id node) rows rows' := by
  refine insertOrUpdate_replaced written.unique (fun a b => beq_iff_eq) ?_ ?_ upserted
  · intro old present same
    obtain ⟨tenant, segment⟩ := (written.placed _ listed old present same).mpr here
    have device := written.devices old present
    have oldId : old.id = id := same
    simp only [AttachmentV1.rewrite, AttachmentV1.row, tenant, segment, device, oldId, here]
  · intro clash selected row present other
    rw [List.mem_singleton] at selected
    subst selected
    rw [Bool.eq_false_iff]
    intro met
    simp only [Bool.and_eq_true, beq_iff_eq] at met
    obtain ⟨⟨⟨⟨-, owns⟩, tenant⟩, segment⟩, address⟩ := met
    have rowSegment : row.segmentId = segmentId := segment.symm.trans here
    rcases (written.members row tenant.symm rowSegment).mp present with
      ⟨earlier, processed, also, _, spec, there, -, rfl⟩ | ⟨before, -⟩
    · have listedAlso := (attachment_listed addressed.graph (known processed) spec).1
      exact other (router_unique addressed (listed_documents listedAlso) (listed_documents listed)
        (there.trans here.symm) address.symm)
    · rw [retired row before tenant.symm rowSegment] at owns
      cases owns

theorem upserted_elsewhere (written : AttachmentsWritten cloud tenantId segmentId base seen rows)
    (listed : (id, value) ∈ cloud.control.listed tenantId segmentId attachment?)
    (there : value.segmentId ≠ segmentId)
    (upserted : insertOrUpdate attachmentKeys (value.row tenantId id node) (value.rewrite node) rows
      = some rows') {row : AttachmentRow} (tenant : row.tenantId = tenantId)
    (segment : row.segmentId = segmentId) : row ∈ rows' ↔ row ∈ rows := by
  refine insertOrUpdate_elsewhere
    (fun row : AttachmentRow => row.tenantId = tenantId ∧ row.segmentId = segmentId)
    ?_ ?_ upserted ⟨tenant, segment⟩
  · exact fun placed => there placed.2
  · rintro old present ⟨clash, selected, met⟩
    have unplaced : ¬ (old.tenantId = tenantId ∧ old.segmentId = segmentId) := by
      simp only [attachmentKeys, List.mem_cons, List.not_mem_nil, or_false] at selected
      rcases selected with rfl | rfl
      · intro placed
        exact there ((written.placed _ listed old present (beq_iff_eq.mp met).symm).mp placed)
      · simp only [Bool.and_eq_true, beq_iff_eq] at met
        intro placed
        exact there (met.1.2.trans placed.2)
    exact ⟨unplaced, unplaced⟩

end Upsert

theorem ensureAttachment_written (addressed : Addressed tenantId cloud.control)
    {base : List AttachmentRow}
    (retired : ∀ row ∈ base, row.tenantId = tenantId → row.segmentId = segmentId →
      Topology.ownsAddress row = false)
    {seen : List ControlResourceV1}
    (known : seen ⊆ (cloud.control.graphRows tenantId segmentId).map (·.document))
    {resource : ControlResourceV1}
    (member : resource ∈ (cloud.control.graphRows tenantId segmentId).map (·.document))
    {topology topology' : Topology} {segments : List SegmentRow}
    (written : AttachmentsWritten cloud tenantId segmentId base seen topology.attachments)
    (done : topology.ensureAttachment tenantId segments
      ((cloud.control.graphRows tenantId segmentId).map (·.document)) resource = .ok topology') :
    AttachmentsWritten cloud tenantId segmentId base (seen ++ [resource])
      topology'.attachments := by
  have graph := addressed.graph
  rcases ensureAttachment_cases graph member done with
    ⟨value, node, rows, spec, listed, found, upserted, rfl⟩ | ⟨skipped, rfl⟩
  · have unique : (rows.map (·.id)).Nodup := by
      refine nodup_insertOrUpdate_key written.unique List.mem_cons_self
        (fun a b same => beq_iff_eq.mpr same) ?_ upserted
      intro row
      rfl
    refine ⟨unique, ?_, ?_, ?_, ?_⟩
    · intro row member
      rcases upserted_place upserted member with rfl | ⟨old, present, -, -, -, kind⟩
      · rfl
      · rw [← kind]
        exact written.devices old present
    · intro entry listedEntry row member same
      rcases upserted_place upserted member with rfl | ⟨old, present, oldId, tenant, segment, -⟩
      · have listedHere :
            (entry.1, value) ∈ cloud.control.listed tenantId segmentId attachment? := by
          rw [← same]
          exact listed
        rw [documents_unique graph reads_attachment (listed_documents listedEntry)
          (listed_documents listedHere)]
        exact ⟨fun placed => placed.2, fun here => ⟨rfl, here⟩⟩
      · rw [← tenant, ← segment]
        exact written.placed entry listedEntry old present (oldId.trans same)
    · intro earlier processed also earlierSpec
      rcases mem_concat.mp processed with before | last
      · exact written.nodes earlier before also earlierSpec
      · rw [last, spec] at earlierSpec
        cases earlierSpec
        exact ⟨node, found⟩
    · intro row tenant segment
      by_cases here : value.segmentId = segmentId
      · have replaced := upserted_own addressed retired known written listed here upserted
        show row ∈ rows ↔ _
        rw [replaced row, written.members row tenant segment]
        have once : ∀ earlier ∈ seen, ∀ also, earlier.resource = .attachment also →
            earlier.metadata.id = resource.metadata.id → also = value := by
          intro earlier processed also earlierSpec same
          have listedAlso := (attachment_listed graph (known processed) earlierSpec).1
          rw [same] at listedAlso
          exact documents_unique graph reads_attachment (listed_documents listedAlso)
            (listed_documents listed)
        simp only [List.mem_append, List.mem_singleton]
        constructor
        · rintro (rfl | ⟨⟨earlier, processed, rest⟩ | ⟨before, kept⟩, other⟩)
          · exact .inl ⟨resource, .inr rfl, value, node, spec, here, found, rfl⟩
          · exact .inl ⟨earlier, .inl processed, rest⟩
          · refine .inr ⟨before, ?_⟩
            rintro later (processed | rfl) also laterSpec there
            · exact kept later processed also laterSpec there
            · exact other
        · rintro (⟨earlier, processed | rfl, also, held, earlierSpec, there, located, rfl⟩ |
            ⟨before, kept⟩)
          · by_cases same : earlier.metadata.id = resource.metadata.id
            · left
              obtain rfl := once earlier processed also earlierSpec same
              rw [found] at located
              rw [same, Option.some.inj located]
            · exact .inr ⟨.inl ⟨earlier, processed, also, held, earlierSpec, there, located, rfl⟩,
                same⟩
          · left
            rw [spec] at earlierSpec
            cases earlierSpec
            rw [found] at located
            rw [Option.some.inj located]
          · refine .inr ⟨.inr ⟨before, fun earlier processed => kept earlier (.inl processed)⟩, ?_⟩
            exact kept resource (.inr rfl) value spec here
      · show row ∈ rows ↔ _
        rw [upserted_elsewhere written listed here upserted tenant segment,
          written.members row tenant segment]
        simp only [List.mem_append, List.mem_singleton]
        grind
  · refine ⟨written.unique, written.devices, written.placed, ?_, ?_⟩
    · intro earlier processed value spec
      rcases mem_concat.mp processed with before | last
      · exact written.nodes earlier before value spec
      · rw [last] at spec
        exact absurd spec (skipped value)
    · intro row tenant segment
      rw [written.members row tenant segment]
      simp only [List.mem_append, List.mem_singleton]
      grind

theorem revoked_retired (tenantId segmentId : Uuid) {topology : Topology}
    (devices : ∀ row ∈ topology.attachments, row.principalKind = .device) :
    ∀ row ∈ (topology.revokeAttachments tenantId segmentId).attachments,
      row.tenantId = tenantId → row.segmentId = segmentId → Topology.ownsAddress row = false := by
  intro row member tenant segment
  obtain ⟨old, present, rfl⟩ := mem_updateWhere.mp member
  split at tenant
  · rename_i selected
    rw [if_pos selected]
    rfl
  · rename_i kept
    rw [if_neg kept] at segment ⊢
    have device := devices old present
    simp only [AttachmentRow.routed, tenant, segment, device, beq_self_eq_true,
      Bool.true_and] at kept
    exact Bool.eq_false_iff.mpr kept

variable {topology : Topology} (addressed : Addressed tenantId cloud.control)
  (sound : TablesSound cloud.route.topology) (inStep : InStep tenantId segmentId cloud)
  (bridged : cloud.Bridged tenantId segmentId topology)

include addressed sound inStep bridged

theorem bridged_attachments :
    ∃ base, (∀ row ∈ base, row.tenantId = tenantId → row.segmentId = segmentId →
        Topology.ownsAddress row = false) ∧
      AttachmentsWritten cloud tenantId segmentId base
        ((cloud.control.graphRows tenantId segmentId).map (·.document)) topology.attachments := by
  obtain ⟨noded, segments, same, looped⟩ := bridged.attachments
  have devices : ∀ row ∈ noded.attachments, row.principalKind = .device := by
    rw [same]
    exact sound.devices
  have retired := revoked_retired tenantId segmentId devices
  refine ⟨(noded.revokeAttachments tenantId segmentId).attachments, retired, ?_⟩
  refine updateEach_processed (P := fun seen after => AttachmentsWritten cloud tenantId segmentId
    (noded.revokeAttachments tenantId segmentId).attachments seen after.attachments) ?_ ?_ looped
  · intro seen resource before after member known holds step
    exact ensureAttachment_written addressed retired known member holds step
  · have kept : ∀ row ∈ (noded.revokeAttachments tenantId segmentId).attachments,
        ∃ old ∈ cloud.route.topology.attachments, old.id = row.id ∧
          old.tenantId = row.tenantId ∧ old.segmentId = row.segmentId ∧
          old.principalKind = row.principalKind := by
      intro row member
      obtain ⟨old, present, rfl⟩ := mem_updateWhere.mp member
      rw [same] at present
      refine ⟨old, present, ?_⟩
      split
      · exact ⟨rfl, rfl, rfl, rfl⟩
      · exact ⟨rfl, rfl, rfl, rfl⟩
    constructor
    · have ids : (noded.revokeAttachments tenantId segmentId).attachments.map (·.id) =
          noded.attachments.map (·.id) := by
        apply map_updateWhere
        intro row
        rfl
      rw [ids, same]
      exact sound.attachments
    · intro row member
      obtain ⟨old, present, -, -, -, kind⟩ := kept row member
      rw [← kind]
      exact sound.devices old present
    · intro entry listed row member own
      obtain ⟨old, present, id, tenant, segment, -⟩ := kept row member
      rw [← tenant, ← segment]
      exact inStep.placed entry listed old present (id.trans own)
    · intro resource processed
      cases processed
    · intro row _ _
      simp

theorem routed_iff {row : AttachmentRow} (tenant : row.tenantId = tenantId)
    (segment : row.segmentId = segmentId) :
    (row ∈ topology.attachments ∧ row.routed = true) ↔
      ∃ entry ∈ cloud.control.documents tenantId attachment?, entry.2.segmentId = segmentId ∧
        ∃ node, (entry.2.nodeId, node) ∈ cloud.control.documents tenantId node? ∧
          row = entry.2.row tenantId entry.1 node := by
  have graph := addressed.graph
  obtain ⟨base, retired, written⟩ := bridged_attachments addressed sound inStep bridged
  constructor
  · rintro ⟨member, routed⟩
    rcases (written.members row tenant segment).mp member with
      ⟨resource, loaded, value, node, spec, here, found, rfl⟩ | ⟨before, -⟩
    · have listed := (attachment_listed graph loaded spec).1
      exact ⟨(resource.metadata.id, value), listed_documents listed, here, node,
        listed_documents (nodeDocument_listed graph found), rfl⟩
    · have owns := retired row before tenant segment
      rw [AttachmentRow.routed, Bool.and_eq_true] at routed
      rw [Topology.ownsAddress, routed.2] at owns
      cases owns
  · rintro ⟨⟨id, value⟩, document, here, node, nodeListed, rfl⟩
    have listed := attachment_in_snapshot graph document here
    obtain ⟨resource, loaded, same, reads⟩ := listed_resource graph listed
    have spec := attachment?_eq_some.mp reads
    obtain ⟨held, found⟩ := written.nodes resource loaded value spec
    have sameNode : held = node := documents_unique graph reads_node
      (listed_documents (nodeDocument_listed graph found)) nodeListed
    refine ⟨(written.members _ rfl here).mpr
      (.inl ⟨resource, loaded, value, node, spec, here, ?_, ?_⟩), rfl⟩
    · rw [← sameNode]
      exact found
    · rw [same]

end Attachments

section After

variable {cloud : Cloud} {tenantId segmentId : Uuid} {topology : Topology}

section

variable (addressed : Addressed tenantId cloud.control) (sound : TablesSound cloud.route.topology)
  (inStep : InStep tenantId segmentId cloud) (bridged : cloud.Bridged tenantId segmentId topology)

include addressed sound inStep bridged

theorem bridged_active (columns : AttachmentColumns) :
    (∃ row ∈ topology.attachments, row.ActiveIn tenantId segmentId ∧ row.columns = columns) ↔
    ∃ id value node, (id, value) ∈ cloud.control.documents tenantId attachment? ∧
      value.segmentId = segmentId ∧ (value.nodeId, node) ∈ cloud.control.documents tenantId node? ∧
      value.columns id node = columns := by
  constructor
  · rintro ⟨row, member, ⟨tenant, segment, device, active⟩, rfl⟩
    have routed : row.routed = true := by simp [AttachmentRow.routed, device, active]
    obtain ⟨⟨id, value⟩, document, here, node, nodeListed, rfl⟩ :=
      (routed_iff addressed sound inStep bridged tenant segment).mp ⟨member, routed⟩
    exact ⟨id, value, node, document, here, nodeListed, rfl⟩
  · rintro ⟨id, value, node, document, here, nodeListed, rfl⟩
    have written : value.row tenantId id node ∈ topology.attachments ∧ _ :=
      (routed_iff addressed sound inStep bridged rfl here).mpr
        ⟨(id, value), document, here, node, nodeListed, rfl⟩
    exact ⟨value.row tenantId id node, written.1, ⟨rfl, here, rfl, rfl⟩, rfl⟩

theorem bridged_nodes {id : Uuid} {value : AttachmentV1}
    (listed : (id, value) ∈ cloud.control.listed tenantId segmentId attachment?) :
    ∃ node, (value.nodeId, node) ∈ cloud.control.listed tenantId segmentId node? := by
  obtain ⟨_, -, written⟩ := bridged_attachments addressed sound inStep bridged
  obtain ⟨resource, loaded, -, reads⟩ := listed_resource addressed.graph listed
  obtain ⟨node, found⟩ := written.nodes resource loaded value (attachment?_eq_some.mp reads)
  exact ⟨node, nodeDocument_listed addressed.graph found⟩

end

theorem bridged_prefixes (graph : GraphInvariant tenantId cloud.control)
    (sound : TablesSound cloud.route.topology) (inStep : InStep tenantId segmentId cloud)
    (bridged : cloud.Bridged tenantId segmentId topology)
    (row : SitePrefixRow) (tenant : row.tenantId = tenantId) (active : row.active = true)
    (attached : cloud.control.Attached tenantId segmentId row.siteId) :
    row ∈ topology.sitePrefixes ↔
      ∃ id value, (id, value) ∈ cloud.control.documents tenantId prefix? ∧
        value.row tenantId id = row := by
  rw [mem_sitePrefixes graph sound inStep bridged row]
  constructor
  · rintro (⟨entry, listed, rfl⟩ | ⟨before, unlisted⟩)
    · exact ⟨entry.1, entry.2, listed_documents listed, rfl⟩
    · rcases inStep.leftover row before tenant active attached with
        ⟨entry, listed, same⟩ | ⟨entry, document, same⟩
      · exact absurd same.symm (unlisted entry listed)
      · exact ⟨entry.1, entry.2, document, same⟩
  · rintro ⟨id, value, document, rfl⟩
    by_cases listed : (id, value) ∈ cloud.control.listed tenantId segmentId prefix?
    · exact .inl ⟨(id, value), listed, rfl⟩
    · rcases inStep.elsewhere (id, value) document attached with also | before
      · exact absurd also listed
      · refine .inr ⟨before, ?_⟩
        rintro ⟨other, value'⟩ listedOther same
        have otherId : id = other := same
        subst otherId
        have equal := documents_unique graph reads_prefix (listed_documents listedOther) document
        rw [equal] at listedOther
        exact listed listedOther

/-- The view of the segment that the publication builder takes. -/
def segmentDocuments (store : ControlStore) (tenantId segmentId : Uuid) : SegmentView :=
  segmentView segmentId ((store.graphRows tenantId segmentId).map (·.document))

section

variable (graph : GraphInvariant tenantId cloud.control)

include graph

theorem mem_view_attachments {metadata : ResourceMetadataV1} {value : AttachmentV1}
    (listed : (metadata, value) ∈ (segmentDocuments cloud.control tenantId segmentId).attachments) :
    (metadata.id, value) ∈ cloud.control.listed tenantId segmentId attachment? ∧
      value.segmentId = segmentId ∧ metadata.state = .active := by
  simp only [segmentDocuments, segmentView, documentsIn, List.mem_filterMap,
    Option.bind_eq_some_iff, Option.ite_none_right_eq_some, Option.some.injEq, Prod.mk.injEq,
    beq_iff_eq] at listed
  obtain ⟨resource, member, _, reads, here, rfl, rfl⟩ := listed
  obtain ⟨document, active⟩ := resource_listed graph member reads
  exact ⟨document, here, active⟩

theorem view_attachment {id : Uuid} {value : AttachmentV1}
    (document : (id, value) ∈ cloud.control.documents tenantId attachment?)
    (here : value.segmentId = segmentId) :
    ∃ metadata : ResourceMetadataV1, metadata.id = id ∧ metadata.state = .active ∧
      (metadata, value) ∈ (segmentDocuments cloud.control tenantId segmentId).attachments := by
  have listed := attachment_in_snapshot graph document here
  obtain ⟨resource, member, same, reads⟩ := listed_resource graph listed
  refine ⟨resource.metadata, same, (resource_listed graph member reads).2, ?_⟩
  simp only [segmentDocuments, segmentView, documentsIn, List.mem_filterMap,
    Option.bind_eq_some_iff, Option.ite_none_right_eq_some, Option.some.injEq, Prod.mk.injEq,
    beq_iff_eq]
  exact ⟨resource, member, value, reads, here, rfl, rfl⟩

theorem mem_view_prefixes {value : PrefixV1} :
    value ∈ (segmentDocuments cloud.control tenantId segmentId).prefixes ↔
      ∃ id, (id, value) ∈ cloud.control.documents tenantId prefix? ∧
        value.segmentId = segmentId := by
  simp only [segmentDocuments, segmentView, documentsIn, List.mem_map, List.mem_filterMap,
    Option.bind_eq_some_iff, Option.ite_none_right_eq_some, Option.some.injEq, Bool.and_eq_true,
    beq_iff_eq]
  constructor
  · intro present
    obtain ⟨pair, shown, same⟩ := present
    obtain ⟨resource, loaded, spec, reads, here, paired⟩ := shown
    have pairOf := congrArg Prod.snd paired
    rw [← same, ← pairOf]
    have stored := listed_documents (resource_listed graph (List.mem_map.mpr loaded) reads).1
    exact ⟨_, stored, here.1⟩
  · intro present
    obtain ⟨id, document, here⟩ := present
    have listed : (id, value) ∈ cloud.control.listed tenantId segmentId prefix? := by
      refine listed_of_segment graph document ?_
      intro spec reads
      rw [prefix?_eq_some.mp reads]
      refine ⟨congrArg some here, ?_⟩
      intro kind
      cases kind
    obtain ⟨resource, member, same, reads⟩ := listed_resource graph listed
    have active := (resource_listed graph member reads).2
    exact ⟨(resource.metadata, value), ⟨resource, List.mem_map.mp member, value, reads,
      ⟨here, active⟩, rfl⟩, rfl⟩

theorem localPrefixes_ok (siteId : Uuid) :
    (segmentDocuments cloud.control tenantId segmentId).localPrefixes siteId =
      .ok (((segmentDocuments cloud.control tenantId segmentId).prefixes.filter fun value =>
        value.siteId == siteId).map (·.prefix_)) := by
  apply mapM_ok
  intro value selected
  obtain ⟨id, document, -⟩ := (mem_view_prefixes graph).mp (List.mem_of_mem_filter selected)
  obtain ⟨row, member, tenant, -, -, reads⟩ := mem_documents.mp document
  have valid := (graph.rows row member tenant).valid
  rw [ControlResourceV1.validate, prefix?_eq_some.mp reads] at valid
  simp only [ResourceSpecV1.validate, unit_bind_ok] at valid
  rw [valid.2.2]

theorem view_node {id : Uuid} {node : NodeV1}
    (listed : (id, node) ∈ cloud.control.listed tenantId segmentId node?) :
    (segmentDocuments cloud.control tenantId segmentId).nodes id = some node := by
  obtain ⟨resource, member, same, reads⟩ := listed_resource graph listed
  have active := (resource_listed graph member reads).2
  cases located : (segmentDocuments cloud.control tenantId segmentId).nodes id with
  | none =>
      have absent := List.findSome?_eq_none_iff.mp located resource (List.mem_reverse.mpr member)
      rw [if_pos ⟨same, active⟩, reads] at absent
      cases absent
  | some found =>
      obtain ⟨other, present, read⟩ := List.exists_of_findSome?_eq_some located
      split at read
      · rename_i own
        have listedOther := (resource_listed graph (List.mem_reverse.mp present) read).1
        rw [own.1] at listedOther
        rw [documents_unique graph reads_node (listed_documents listedOther)
          (listed_documents listed)]
      · cases read

end

/-- The attachment that the builder makes of a document. -/
def coreOf (view : SegmentView) (metadata : ResourceMetadataV1) (value : AttachmentV1) :
    Option SegmentAttachmentV1 :=
  (view.nodes value.nodeId).map fun node =>
    { attachmentId := metadata.id
      siteId := value.siteId
      deviceId := node.deviceId
      deviceKeyId := node.deviceKeyId
      overlayRouterIpv4 := value.overlayRouterIpv4
      localPrefixes := (view.prefixes.filter fun prefix_ => prefix_.siteId == value.siteId).map
        (·.prefix_)
      state := if metadata.state = .active then .active else .revoked
      epochFloor := value.epochFloor }

section

variable (graph : GraphInvariant tenantId cloud.control)
  (nodes : ∀ metadata value,
    (metadata, value) ∈ (segmentDocuments cloud.control tenantId segmentId).attachments →
      ∃ node, (value.nodeId, node) ∈ cloud.control.listed tenantId segmentId node?)

include graph nodes

theorem coreAttachments_ok :
    (segmentDocuments cloud.control tenantId segmentId).coreAttachments =
      .ok ((segmentDocuments cloud.control tenantId segmentId).attachments.filterMap
        fun (metadata, value) =>
          coreOf (segmentDocuments cloud.control tenantId segmentId) metadata value) := by
  have each : ∀ entry ∈ (segmentDocuments cloud.control tenantId segmentId).attachments,
      (segmentDocuments cloud.control tenantId segmentId).coreAttachment entry.1 entry.2 =
        .ok (coreOf (segmentDocuments cloud.control tenantId segmentId) entry.1 entry.2) := by
    rintro ⟨metadata, value⟩ listed
    obtain ⟨node, present⟩ := nodes metadata value listed
    simp only [SegmentView.coreAttachment, coreOf, view_node graph present,
      localPrefixes_ok graph]
    rfl
  have converted := mapM_ok each
  rw [SegmentView.coreAttachments]
  simp only [converted]
  show Except.ok (List.filterMap id (List.map _ _)) = _
  rw [List.filterMap_map]
  rfl

theorem mem_routeOwners (id : Uuid) :
    id ∈ routeOwners ((segmentDocuments cloud.control tenantId segmentId).attachments.filterMap
        fun (metadata, value) =>
          coreOf (segmentDocuments cloud.control tenantId segmentId) metadata value) ↔
      ∃ value, (id, value) ∈ cloud.control.documents tenantId attachment? ∧
        value.segmentId = segmentId ∧ ∃ own ∈ cloud.control.documents tenantId prefix?,
          own.2.segmentId = segmentId ∧ own.2.siteId = value.siteId := by
  simp only [routeOwners, List.mem_map, List.mem_filter, List.mem_filterMap, Bool.and_eq_true,
    beq_iff_eq, Bool.not_eq_true', Prod.exists]
  constructor
  · rintro ⟨core, ⟨⟨metadata, value, listed, made⟩, -, owning⟩, rfl⟩
    obtain ⟨node, -, rfl⟩ := Option.map_eq_some_iff.mp made
    obtain ⟨document, here, -⟩ := mem_view_attachments graph listed
    refine ⟨value, listed_documents document, here, ?_⟩
    obtain ⟨own, selected⟩ := List.exists_mem_of_ne_nil _ (List.isEmpty_eq_false_iff.mp owning)
    obtain ⟨prefixValue, chosen, rfl⟩ := List.mem_map.mp selected
    obtain ⟨present, site⟩ := List.mem_filter.mp chosen
    obtain ⟨prefixId, prefixDocument, prefixHere⟩ := (mem_view_prefixes graph).mp present
    exact ⟨prefixId, prefixValue, prefixDocument, prefixHere, beq_iff_eq.mp site⟩
  · rintro ⟨value, document, here, prefixId, prefixValue, prefixDocument, prefixHere, site⟩
    obtain ⟨metadata, same, active, listed⟩ := view_attachment graph document here
    obtain ⟨node, present⟩ := nodes metadata value listed
    refine ⟨_, ⟨⟨metadata, value, listed,
      congrArg (Option.map _) (view_node graph present)⟩, ?_, ?_⟩, same⟩
    · exact if_pos active
    · rw [List.isEmpty_eq_false_iff, ne_eq, List.map_eq_nil_iff]
      have chosen : prefixValue ∈
          (segmentDocuments cloud.control tenantId segmentId).prefixes.filter
            fun prefix_ => prefix_.siteId == value.siteId :=
        List.mem_filter.mpr ⟨(mem_view_prefixes graph).mpr ⟨prefixId, prefixDocument, prefixHere⟩,
          beq_iff_eq.mpr site⟩
      exact List.ne_nil_of_mem chosen

end

theorem mem_requiredRouteOwners {route : RouteStore} {write : SegmentPublicationWrite} {id : Uuid} :
    id ∈ requiredRouteOwners route write ↔
      ∃ row ∈ route.topology.attachments, row.tenantId = write.tenantId ∧
        row.segmentId = write.segmentId ∧ row.routed = true ∧ row.id = id ∧
        ∃ own ∈ route.topology.sitePrefixes, own.tenantId = row.tenantId ∧
          some own.siteId = row.siteId ∧ own.active = true := by
  simp only [requiredRouteOwners, List.mem_map, List.mem_filter, Bool.and_eq_true, beq_iff_eq,
    List.any_eq_true, and_assoc]
  grind

theorem bridged_owners (addressed : Addressed tenantId cloud.control)
    (sound : TablesSound cloud.route.topology) (inStep : InStep tenantId segmentId cloud)
    {route : RouteStore} (bridged : cloud.Bridged tenantId segmentId route.topology)
    {write : SegmentPublicationWrite} (tenant : write.tenantId = tenantId)
    (segment : write.segmentId = segmentId) :
    ∃ attachments,
      (segmentDocuments cloud.control tenantId segmentId).coreAttachments = .ok attachments ∧
      ∀ id, id ∈ requiredRouteOwners route write ↔ id ∈ routeOwners attachments := by
  have graph := addressed.graph
  have nodes : ∀ metadata value,
      (metadata, value) ∈ (segmentDocuments cloud.control tenantId segmentId).attachments →
        ∃ node, (value.nodeId, node) ∈ cloud.control.listed tenantId segmentId node? := by
    intro metadata value member
    exact bridged_nodes addressed sound inStep bridged (mem_view_attachments graph member).1
  refine ⟨_, coreAttachments_ok graph nodes, ?_⟩
  intro id
  rw [mem_routeOwners graph nodes, mem_requiredRouteOwners, tenant, segment]
  constructor
  · rintro ⟨row, member, rowTenant, rowSegment, routed, rfl, own, owned, ownTenant, site, active⟩
    obtain ⟨⟨id, value⟩, document, here, node, -, rfl⟩ :=
      (routed_iff addressed sound inStep bridged rowTenant rowSegment).mp ⟨member, routed⟩
    have place : own.siteId = value.siteId := Option.some.inj site
    have attached : cloud.control.Attached tenantId segmentId own.siteId :=
      ⟨(id, value), document, here, place.symm⟩
    obtain ⟨prefixId, prefixValue, prefixDocument, rfl⟩ :=
      (bridged_prefixes graph sound inStep bridged own ownTenant active attached).mp owned
    obtain ⟨serving, served, servedHere, servedSite⟩ :=
      inStep.served (prefixId, prefixValue) prefixDocument attached
    exact ⟨value, document, here, serving, served, servedHere, servedSite.trans place⟩
  · rintro ⟨value, document, here, ⟨prefixId, prefixValue⟩, prefixDocument, -, site⟩
    obtain ⟨metadata, same, -, listed⟩ := view_attachment graph document here
    obtain ⟨node, present⟩ := nodes metadata value listed
    have written : value.row tenantId id node ∈ route.topology.attachments ∧ _ :=
      (routed_iff addressed sound inStep bridged rfl here).mpr
        ⟨(id, value), document, here, node, listed_documents present, rfl⟩
    have attached : cloud.control.Attached tenantId segmentId prefixValue.siteId :=
      ⟨(id, value), document, here, site.symm⟩
    have owned := (bridged_prefixes graph sound inStep bridged (prefixValue.row tenantId prefixId)
      rfl rfl attached).mpr ⟨prefixId, prefixValue, prefixDocument, rfl⟩
    exact ⟨_, written.1, rfl, here, rfl, rfl, _, owned, rfl, congrArg some site, rfl⟩

end After

section Runs

variable {cloud : Cloud} {tenantId segmentId : Uuid}

theorem ensurePrefix_unique {topology topology' : Topology} {resource : ControlResourceV1}
    (unique : (topology.sitePrefixes.map (·.id)).Nodup)
    (done : topology.ensurePrefix tenantId resource = .ok topology') :
    (topology'.sitePrefixes.map (·.id)).Nodup := by
  unfold Topology.ensurePrefix at done
  split at done
  · simp only [unit_bind_ok, bind_ok (α := List SitePrefixRow), pure_ok, upsertInto,
      orElse_ok] at done
    obtain ⟨-, rows, upserted, rfl⟩ := done
    refine nodup_insertOrUpdate_key unique List.mem_cons_self
      (fun a b same => beq_iff_eq.mpr same) ?_ upserted
    intro row
    rfl
  · cases done
    exact unique

/-- The primary key and the principals of the attachments. -/
def DeviceRows (rows : List AttachmentRow) : Prop :=
  (rows.map (·.id)).Nodup ∧ ∀ row ∈ rows, row.principalKind = .device

theorem ensureAttachment_rows {topology topology' : Topology} {resource : ControlResourceV1}
    {segments : List SegmentRow} {resources : List ControlResourceV1}
    (rows : DeviceRows topology.attachments)
    (done : topology.ensureAttachment tenantId segments resources resource = .ok topology') :
    DeviceRows topology'.attachments := by
  unfold Topology.ensureAttachment at done
  split at done
  · simp only [orElse_bind_ok, unit_bind_ok, bind_ok (α := List AttachmentRow), pure_ok, upsertInto,
      orElse_ok] at done
    obtain ⟨node, -, -, written, upserted, rfl⟩ := done
    constructor
    · refine nodup_insertOrUpdate_key rows.1 List.mem_cons_self
        (fun a b same => beq_iff_eq.mpr same) ?_ upserted
      intro row
      rfl
    · intro row member
      rcases mem_insertOrUpdate upserted member with kept | rfl | ⟨old, present, rfl⟩
      · exact rows.2 row kept
      · rfl
      · exact rows.2 old present
  · cases done
    exact rows

theorem revokeAttachments_rows {topology : Topology} (tenantId segmentId : Uuid)
    (rows : DeviceRows topology.attachments) :
    DeviceRows (topology.revokeAttachments tenantId segmentId).attachments := by
  constructor
  · have ids : (topology.revokeAttachments tenantId segmentId).attachments.map (·.id) =
        topology.attachments.map (·.id) := by
      apply map_updateWhere
      intro row
      rfl
    rw [ids]
    exact rows.1
  · intro row member
    obtain ⟨old, present, rfl⟩ := mem_updateWhere.mp member
    split
    · exact rows.2 old present
    · exact rows.2 old present

theorem bridged_sound {resources : List ControlResourceV1} {topology topology' : Topology}
    (bridged : Bridged tenantId segmentId resources topology topology')
    (sound : TablesSound topology) : TablesSound topology' := by
  obtain ⟨sited, prefixed, same, looped, final⟩ := bridged.prefixes
  obtain ⟨noded, segments, sameRows, attaching⟩ := bridged.attachments
  have prefixes : (prefixed.sitePrefixes.map (·.id)).Nodup := by
    refine updateEach_invariant (P := fun after : Topology => (after.sitePrefixes.map (·.id)).Nodup)
      (fun _ _ _ _ unique step => ensurePrefix_unique unique step) ?_ looped
    rw [same.2]
    exact sound.prefixes
  have rows : DeviceRows topology'.attachments := by
    refine updateEach_invariant (P := fun after : Topology => DeviceRows after.attachments)
      (fun _ _ _ _ rows step => ensureAttachment_rows rows step) ?_ attaching
    refine revokeAttachments_rows tenantId segmentId ?_
    rw [sameRows]
    exact ⟨sound.attachments, sound.devices⟩
  exact ⟨rows.1, final ▸ prefixes, rows.2⟩

/-- What every run keeps. -/
structure Materialising (cloud : Cloud) : Prop where
  addressed : ∀ tenantId, Addressed tenantId cloud.control
  sound : TablesSound cloud.route.topology

theorem bridgeSnapshot_ok {cloud' : Cloud} {desiredRevision : Nat} {fresh : Uuid} {clock : Instant}
    (graph : GraphInvariant tenantId cloud.control)
    (done : bridgeSnapshot cloud tenantId segmentId desiredRevision fresh clock = .ok cloud') :
    ∃ route, cloud' = { cloud with route } ∧ cloud.Bridged tenantId segmentId route.topology := by
  simp only [bridgeSnapshot, readSegment, graphRows_decode graph, bind_ok (α := SegmentReading),
    bind_ok (α := RouteStore), mapError_ok, unit_bind_ok, orElse_bind_ok, pure_bind,
    pure_ok] at done
  obtain ⟨reading, ⟨-, head, -, job, -, -, rfl⟩, route, bridged, rfl⟩ := done
  exact ⟨route, rfl, ensureControlTopology_bridged bridged⟩

theorem mutate_topology {mutation : ResourceMutation} {now : Instant} {fresh : Uuid → Uuid}
    {clock : Instant} {outcome : MutationOutcome} {cloud' : Cloud}
    (done : mutate cloud mutation now fresh clock = .ok (outcome, cloud')) :
    cloud'.route.topology = cloud.route.topology := by
  rcases mutate_ok done with ⟨-, rfl⟩ | ⟨-, previous, resources, queue, applied⟩
  · rfl
  · rw [applied.result]
    unfold ResourceMutation.retire
    split
    · rfl
    · rfl

theorem topologyStep_materialising (event : TopologyEvent) (holds : Materialising cloud) :
    Materialising (topologyStep cloud event) := by
  cases event with
  | mutate mutation now fresh clock =>
      refine ⟨fun tenantId => mutate_addressed (holds.addressed tenantId) mutation now fresh clock,
        ?_⟩
      simp only [topologyStep]
      cases done : mutate cloud mutation now fresh clock with
      | error error => exact holds.sound
      | ok result =>
          show TablesSound result.2.route.topology
          rw [mutate_topology done]
          exact holds.sound
  | bridge tenantId segmentId desiredRevision fresh clock =>
      simp only [topologyStep]
      cases done : bridgeSnapshot cloud tenantId segmentId desiredRevision fresh clock with
      | error error => exact holds
      | ok cloud' =>
          obtain ⟨route, rfl, bridged⟩ := bridgeSnapshot_ok (holds.addressed tenantId).graph done
          exact ⟨holds.addressed, bridged_sound bridged holds.sound⟩
  | environment queue topology =>
      exact ⟨holds.addressed, holds.sound.attachments, holds.sound.prefixes, holds.sound.devices⟩

end Runs

/-- Wherever a run has come to, a successful call for a segment whose tables are
    in step outside the snapshot makes them the control graph of the segment. -/
theorem tables_follow_graph (start : Cloud) (empty : ∀ tenantId, start.control.EmptyTenant tenantId)
    (unattached : start.route.topology.attachments = [])
    (unrouted : start.route.topology.sitePrefixes = []) (events : List TopologyEvent)
    (tenantId segmentId : Uuid) (desiredRevision : Nat) (fresh : Uuid) (clock : Instant)
    (cloud' : Cloud)
    (called : bridgeSnapshot (run topologyStep start events) tenantId segmentId desiredRevision
      fresh clock = .ok cloud')
    (inStep : InStep tenantId segmentId (run topologyStep start events)) :
    FollowsGraph tenantId segmentId cloud' := by
  have initial : Materialising start := by
    refine ⟨fun tenantId => (empty tenantId).addressed, ?_, ?_, ?_⟩
    · rw [unattached]
      exact List.nodup_nil
    · rw [unrouted]
      exact List.nodup_nil
    · rw [unattached]
      exact fun row member => absurd member List.not_mem_nil
  have holds : Materialising (run topologyStep start events) :=
    run_invariant (fun _ event before => topologyStep_materialising event before) initial events
  have addressed := holds.addressed tenantId
  obtain ⟨route, rfl, bridged⟩ := bridgeSnapshot_ok addressed.graph called
  have active := bridged_active addressed holds.sound inStep bridged
  have prefixes := bridged_prefixes addressed.graph holds.sound inStep bridged
  have nodes : ∀ entry ∈ (run topologyStep start events).control.documents tenantId attachment?,
      entry.2.segmentId = segmentId → ∃ node, (entry.2.nodeId, node) ∈
        (run topologyStep start events).control.documents tenantId node? := by
    intro entry document here
    obtain ⟨node, listed⟩ := bridged_nodes addressed holds.sound inStep bridged
      (attachment_in_snapshot addressed.graph document here)
    exact ⟨node, listed_documents listed⟩
  exact {
    attachments := active
    nodes := nodes
    prefixes := prefixes
    owners := fun _ tenant segment =>
      bridged_owners addressed holds.sound inStep bridged tenant segment }

def sampleMaterial : List TopologyEvent :=
  [.mutate (sampleMutation 31 (.site ⟨"site-1", .edge⟩)) 0 (sampleFresh 31) 0,
    .mutate (sampleMutation 3 (.segment ⟨"segment", ⟨0x64400000, 24⟩⟩)) 0 (sampleFresh 3) 0,
    .mutate (sampleMutation 51 (.node ⟨11, 21, 31, "node-1", .linux, "x86_64"⟩)) 0
      (sampleFresh 51) 0,
    .mutate (sampleMutation 41 (.attachment ⟨3, 31, 51, 0x64400001, 1⟩)) 0 (sampleFresh 41) 0,
    .mutate (sampleMutation 61 (.prefix_ ⟨31, 3, ⟨0x0a010000, 16⟩, .configured⟩)) 0
      (sampleFresh 61) 0]

def sampleLeftover : List TopologyEvent :=
  sampleMaterial ++ [.bridge 1 3 1 0 0,
    .mutate (sampleRewrite 61 1 .deleted (.prefix_ ⟨31, 3, ⟨0x0a010000, 16⟩, .configured⟩)) 0
      (sampleFresh 612) 0]

/-- The call after the deletion leaves the row of the prefix active. -/
theorem deleted_prefix_leftover :
    ¬ ∀ (start : Cloud), (∀ tenantId, start.control.EmptyTenant tenantId) →
      start.route.topology.attachments = [] → start.route.topology.sitePrefixes = [] →
      ∀ (events : List TopologyEvent) (tenantId segmentId : Uuid) (desiredRevision : Nat)
        (fresh : Uuid) (clock : Instant) (cloud' : Cloud),
      bridgeSnapshot (run topologyStep start events) tenantId segmentId desiredRevision fresh clock
        = .ok cloud' →
      FollowsGraph tenantId segmentId cloud' := by
  intro claim
  have follows := claim sampleCloud sampleCloud_empty rfl rfl sampleLeftover 1 3 1 0 0
    (run topologyStep sampleCloud (sampleLeftover ++ [.bridge 1 3 1 0 0])) (by decide +kernel)
  have row : (⟨61, 1, 31, 0x0a010000, 16, true⟩ : SitePrefixRow) ∈
      (run topologyStep sampleCloud
        (sampleLeftover ++ [.bridge 1 3 1 0 0])).route.topology.sitePrefixes := by decide +kernel
  obtain ⟨id, value, document, -⟩ :=
    (follows.prefixes ⟨61, 1, 31, 0x0a010000, 16, true⟩ rfl rfl (by decide +kernel)).mp row
  have none : (run topologyStep sampleCloud
      (sampleLeftover ++ [.bridge 1 3 1 0 0])).control.documents 1 prefix? = [] := by decide +kernel
  rw [none] at document
  cases document

/-- The second prefix takes the network that the first one has left since the first call. -/
def renumberedMaterial : List TopologyEvent :=
  sampleMaterial ++ [
    .mutate (sampleMutation 62 (.prefix_ ⟨31, 3, ⟨0x0a020000, 16⟩, .configured⟩)) 0
      (sampleFresh 62) 0,
    .bridge 1 3 1 0 0,
    .mutate (sampleRewrite 61 1 .active (.prefix_ ⟨31, 3, ⟨0x0a030000, 16⟩, .configured⟩)) 0
      (sampleFresh 612) 0,
    .mutate (sampleRewrite 62 1 .active (.prefix_ ⟨31, 3, ⟨0x0a010000, 16⟩, .configured⟩)) 0
      (sampleFresh 622) 0]

theorem renumberedMaterial_inStep : InStep 1 3 (run topologyStep sampleCloud renumberedMaterial) where
  placed := by decide +kernel
  owned := by decide +kernel
  unshared := by
    intro earlier entry later split row present tenant network prefixLen
    have listed : (run topologyStep sampleCloud renumberedMaterial).control.listed 1 3 prefix? =
        [(61, ⟨31, 3, ⟨0x0a030000, 16⟩, .configured⟩),
          (62, ⟨31, 3, ⟨0x0a010000, 16⟩, .configured⟩)] := by decide +kernel
    have rows : (run topologyStep sampleCloud renumberedMaterial).route.topology.sitePrefixes =
        [⟨61, 1, 31, 0x0a010000, 16, true⟩, ⟨62, 1, 31, 0x0a020000, 16, true⟩] := by decide +kernel
    rw [listed] at split
    rw [rows, List.mem_cons, List.mem_singleton] at present
    simp only [List.cons_eq_append_iff, List.cons.injEq, List.nil_eq, List.append_eq_nil_iff,
      reduceCtorEq, and_false, exists_false, or_false] at split
    cases split with
    | inl first =>
        obtain ⟨-, rfl, -⟩ := first
        rcases present with rfl | rfl <;> exact absurd network (by decide)
    | inr second =>
        obtain ⟨_, rfl, -, rfl, -⟩ := second
        rcases present with rfl | rfl
        · exact .inr ⟨_, List.mem_cons_self, rfl⟩
        · exact .inl rfl
  apart := by decide +kernel
  leftover := by decide +kernel
  elsewhere := by decide +kernel
  served := by decide +kernel

/-- A later call finds the prefixes of the site renumbered. -/
theorem tables_follow_graph_renumbered :
    (run topologyStep sampleCloud (renumberedMaterial ++
      [.bridge 1 3 1 0 0])).route.topology.sitePrefixes
        = [⟨61, 1, 31, 0x0a030000, 16, true⟩, ⟨62, 1, 31, 0x0a010000, 16, true⟩] ∧
    FollowsGraph 1 3 (run topologyStep sampleCloud (renumberedMaterial ++ [.bridge 1 3 1 0 0])) :=
  ⟨by decide +kernel, tables_follow_graph sampleCloud sampleCloud_empty rfl rfl renumberedMaterial 1
    3 1 0 0 _ (by decide +kernel) renumberedMaterial_inStep⟩

end CandyCloud
