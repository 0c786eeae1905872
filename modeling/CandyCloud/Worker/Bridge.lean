import CandyCloud.Worker.Snapshot

/-! # The control bridge

`ensure_control_topology` writes a snapshot's documents into the tables the route contract
reads.
-/

namespace CandyCloud

open Foundation

def upsertInto {α : Type} [DecidableEq α] (keys : List (α → α → Bool)) (fresh : α) (set : α → α)
    (rows : List α) : Except SdwanError (List α) :=
  orElse .database (insertOrUpdate keys fresh set rows)

namespace Topology

def ensureSite (tenantId : Uuid) (topology : Topology) (resource : ControlResourceV1) :
    Except SdwanError Topology :=
  match resource.resource with
  | .site site => do
      let state := resource.metadata.state
      let sites ← upsertInto
        [fun a b => a.id == b.id, fun a b => a.tenantId == b.tenantId && a.name == b.name]
        ⟨resource.metadata.id, tenantId, site.name, site.kind, state⟩
        (fun old => { old with name := site.name, kind := site.kind, state }) topology.sites
      return { topology with sites }
  | _ => .ok topology

def ensurePrefix (tenantId : Uuid) (topology : Topology) (resource : ControlResourceV1) :
    Except SdwanError Topology :=
  match resource.resource with
  | .prefix_ value => do
      reject (!topology.sites.any fun site => site.id == value.siteId) .database
      let active := resource.metadata.state == .active
      let sitePrefixes ← upsertInto
        [fun a b => a.id == b.id, fun a b =>
          a.tenantId == b.tenantId && a.network == b.network && a.prefixLen == b.prefixLen]
        ⟨resource.metadata.id, tenantId, value.siteId, value.prefix_.network,
          value.prefix_.prefixLen, active⟩
        (fun old => { old with
          siteId := value.siteId
          network := value.prefix_.network
          prefixLen := value.prefix_.prefixLen
          active }) topology.sitePrefixes
      return { topology with sitePrefixes }
  | _ => .ok topology

/-- `ORDER BY created_at, id`. -/
def poolOrder (a b : NodePoolRow) : Prop :=
  a.createdAt < b.createdAt ∨ a.createdAt = b.createdAt ∧ a.id ≤ b.id

instance : DecidableRel poolOrder := fun a b =>
  inferInstanceAs (Decidable (a.createdAt < b.createdAt ∨
    a.createdAt = b.createdAt ∧ a.id ≤ b.id))

/-- The oldest active pool of the tenant, created when there is none. -/
def ensureHubPool (fresh : Uuid) (clock : Instant) (tenantId : Uuid) (topology : Topology) :
    Except SdwanError (Uuid × Topology) :=
  match ((topology.nodePools.filter fun pool =>
    pool.tenantId == some tenantId && pool.active).insertionSort poolOrder).head? with
  | some pool => .ok (pool.id, topology)
  | none => do
      let nodePools ← insertInto (fun a b => a.id == b.id) topology.nodePools
        ⟨fresh, some tenantId, true, "cloud-private-" ++ uuidText tenantId, true, clock⟩
      return (fresh, { topology with nodePools })

def nodeStatus : ResourceState → NodeStatus
  | .active => .active
  | .disabled => .draining
  | .deleted => .revoked

def namesDeviceKey (topology : Topology) (deviceId deviceKeyId : Uuid) : Bool :=
  topology.devices.any (fun device => device.id == deviceId) &&
    topology.deviceKeys.any fun key => key.id == deviceKeyId

def ensureNode (tenantId hubPoolId : Uuid) (topology : Topology) (resource : ControlResourceV1) :
    Except SdwanError Topology :=
  match resource.resource with
  | .node node => do
      reject (!topology.namesDeviceKey node.deviceId node.deviceKeyId) .database
      let row : NodeRow :=
        { id := resource.metadata.id
          tenantId := some tenantId
          nodePoolId := hubPoolId
          nodeId := uuidText resource.metadata.id
          deviceId := some node.deviceId
          deviceKeyId := some node.deviceKeyId
          status := nodeStatus resource.metadata.state }
      let nodes ← upsertInto
        [fun a b => a.id == b.id, fun a b => a.nodeId == b.nodeId, fun a b =>
          a.tenantId.isSome && a.deviceId.isSome && a.deviceKeyId.isSome &&
            a.tenantId == b.tenantId && a.deviceId == b.deviceId && a.deviceKeyId == b.deviceKeyId]
        row (fun old => { row with id := old.id }) topology.nodes
      return { topology with nodes }
  | _ => .ok topology

/-- `UPDATE segment_attachments SET state = 'REVOKED'`. -/
def revokeAttachments (tenantId segmentId : Uuid) (topology : Topology) : Topology :=
  { topology with
    attachments := updateWhere (fun row =>
        row.tenantId == tenantId && row.segmentId == segmentId && row.routed)
      (fun row => { row with state := .revoked }) topology.attachments }

def attachmentState : ResourceState → AttachmentState
  | .active => .active
  | .disabled => .disabled
  | .deleted => .revoked

def ownsAddress (row : AttachmentRow) : Bool :=
  row.state == .active || row.state == .standby

def ensureAttachment (tenantId : Uuid) (segments : List SegmentRow)
    (resources : List ControlResourceV1) (topology : Topology) (resource : ControlResourceV1) :
    Except SdwanError Topology :=
  match resource.resource with
  | .attachment value => do
      let node ← orElse .invalidScope (nodeDocument resources value.nodeId)
      reject (!(segments.any (fun segment => segment.id == value.segmentId) &&
        topology.sites.any (fun site => site.id == value.siteId) &&
        topology.namesDeviceKey node.deviceId node.deviceKeyId)) .database
      let state := attachmentState resource.metadata.state
      let attachments ← upsertInto
        [fun a b => a.id == b.id, fun a b =>
          ownsAddress a && ownsAddress b && a.tenantId == b.tenantId &&
            a.segmentId == b.segmentId && a.overlayRouterIpv4 == b.overlayRouterIpv4]
        { id := resource.metadata.id
          tenantId
          segmentId := value.segmentId
          siteId := some value.siteId
          principalKind := .device
          deviceId := some node.deviceId
          deviceKeyId := some node.deviceKeyId
          overlayRouterIpv4 := value.overlayRouterIpv4
          state
          epochFloor := value.epochFloor }
        (fun old => { old with
          siteId := some value.siteId
          deviceId := some node.deviceId
          deviceKeyId := some node.deviceKeyId
          overlayRouterIpv4 := value.overlayRouterIpv4
          state
          epochFloor := value.epochFloor }) topology.attachments
      return { topology with attachments }
  | _ => .ok topology

end Topology

/-- The segment row; a new one has the default head. -/
def ensureSegment (tenantId segmentId hubNodePoolId : Uuid) (state : ResourceState)
    (segment : SegmentV1) (segments : List SegmentRow) : Except SdwanError (List SegmentRow) :=
  upsertInto [fun a b => a.id == b.id, fun a b => a.tenantId == b.tenantId && a.name == b.name]
    { id := segmentId
      tenantId
      name := segment.name
      hubNodePoolId
      overlayNetwork := segment.overlayPrefix.network
      overlayPrefixLen := segment.overlayPrefix.prefixLen
      state
      currentGeneration := 0
      currentContentHash := zeroHash }
    (fun old => { old with
      name := segment.name
      hubNodePoolId
      overlayNetwork := segment.overlayPrefix.network
      overlayPrefixLen := segment.overlayPrefix.prefixLen
      state }) segments

def ensureControlTopology (store : RouteStore) (fresh : Uuid) (clock : Instant)
    (tenantId segmentId : Uuid) (resources : List ControlResourceV1) :
    Except SdwanError RouteStore := do
  let segment ← orElse .segmentNotFound (segmentDocument resources segmentId)
  let topology ← updateEach (Topology.ensureSite tenantId) store.topology resources
  let topology ← updateEach (Topology.ensurePrefix tenantId) topology resources
  let (hubPoolId, topology) ← topology.ensureHubPool fresh clock tenantId
  let topology ← updateEach (Topology.ensureNode tenantId hubPoolId) topology resources
  let segments ← ensureSegment tenantId segmentId hubPoolId segment.1 segment.2 store.segments
  let topology ← updateEach (Topology.ensureAttachment tenantId segments resources)
    (topology.revokeAttachments tenantId segmentId) resources
  return { store with topology, segments }

theorem ensureControlTopology_frame {store store' : RouteStore} {fresh : Uuid} {clock : Instant}
    {tenantId segmentId : Uuid} {resources : List ControlResourceV1}
    (done : ensureControlTopology store fresh clock tenantId segmentId resources = .ok store') :
    ∃ topology segments, store' = { store with topology, segments } := by
  simp only [ensureControlTopology, orElse_bind_ok, bind_ok (α := Topology),
    bind_ok (α := Uuid × Topology), bind_ok (α := List SegmentRow), pure_ok] at done
  obtain ⟨segment, -, sited, -, prefixed, -, ⟨hubPoolId, pooled⟩, -, noded, -, segments, -,
    topology, -, rfl⟩ := done
  exact ⟨topology, segments, rfl⟩

end CandyCloud
