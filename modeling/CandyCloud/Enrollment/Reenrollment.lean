import CandyCloud.Enrollment.Replacement
import CandyCloud.Enrollment.CertificateChain
import CandyCloud.Worker.Coverage

/-! # Re-enrollment and the control graph

A completion is a second writer of the control documents beside the mutations.
-/

namespace CandyCloud

open Foundation

variable {codec : EnrollmentCodec}

def Topology.deviceTenants (topology : Topology) : List (Uuid × Uuid) :=
  topology.devices.map fun device => (device.id, device.tenantId)

theorem activeDevice_tenant {topology : Topology} {tenantId deviceId : Uuid}
    (active : topology.activeDevice tenantId (some deviceId) = true) :
    (deviceId, tenantId) ∈ topology.deviceTenants := by
  obtain ⟨device, member, tests⟩ := List.any_eq_true.mp active
  simp only [Bool.and_eq_true, beq_iff_eq, Option.some.injEq] at tests
  obtain ⟨⟨rfl, rfl⟩, -⟩ := tests
  exact List.mem_map.mpr ⟨device, member, rfl⟩

/-- The graph and its addresses are in order, a row's revision is that of its
    document, and an undeleted node has a device of its tenant. -/
structure ControlRows (devices : List (Uuid × Uuid)) (control : ControlStore) : Prop where
  referring : ∀ tenantId, Referring tenantId control
  addressing : ∀ tenantId, AddressingInvariant tenantId control
  revisions : ∀ row ∈ control.resources, row.revision = row.document.metadata.revision
  bound : ∀ row ∈ control.resources, row.state ≠ .deleted →
    ∀ node, row.document.resource = .node node → (node.deviceId, row.tenantId) ∈ devices

theorem ControlRows.congr {devices devices' : List (Uuid × Uuid)} {control control' : ControlStore}
    (rows : ControlRows devices control) (resources : control'.resources = control.resources)
    (references : control'.references = control.references) (more : devices ⊆ devices') :
    ControlRows devices' control' := by
  constructor
  · intro tenantId
    have referring := rows.referring tenantId
    exact referring.congr (referring.graph.congr resources references) resources
  · intro tenantId
    have addressed : Addressed tenantId control :=
      ⟨(rows.referring tenantId).graph, rows.addressing tenantId⟩
    exact (addressed.congr resources references).addressing
  · rw [resources]
    exact rows.revisions
  · rw [resources]
    intro row member live node isNode
    exact more (rows.bound row member live node isNode)

theorem initial_control_rows {control : ControlStore} (devices : List (Uuid × Uuid))
    (resources : control.resources = []) (references : control.references = []) :
    ControlRows devices control := by
  have empty : ∀ tenantId, control.EmptyTenant tenantId := by
    intro tenantId
    constructor
    · intro row member
      rw [resources] at member
      cases member
    · intro reference member
      rw [references] at member
      cases member
  constructor
  · exact fun tenantId => (empty tenantId).referring
  · exact fun tenantId => (empty tenantId).addressed.addressing
  · intro row member
    rw [resources] at member
    cases member
  · intro row member
    rw [resources] at member
    cases member

section Mutations

variable {cloud cloud' : Cloud} {mutation : ResourceMutation} {fresh : Uuid → Uuid}
  {clock : Instant} {previous : Option ControlResourceV1} {resources : List ResourceRow}
  {queue : GenerationQueue}

theorem validateCrossResource_node {resource : ControlResourceV1} {node : NodeV1}
    (checked : cloud.validateCrossResource resource = .ok ())
    (live : resource.metadata.state ≠ .deleted) (isNode : resource.resource = .node node) :
    (node.deviceId, resource.metadata.tenantId) ∈ cloud.route.topology.deviceTenants := by
  simp only [Cloud.validateCrossResource, live, if_false, unit_bind_ok, isNode,
    Cloud.validateSpec, Cloud.validateNode, reject_ok, Bool.not_eq_false', Bool.and_eq_true]
    at checked
  exact activeDevice_tenant checked.2.1.1

theorem Applied.controlRows (rows : ControlRows cloud.route.topology.deviceTenants cloud.control)
    (applied : Applied cloud mutation fresh clock previous resources queue cloud') :
    ControlRows cloud'.route.topology.deviceTenants cloud'.control := by
  have table := writeResource_written (rows.referring mutation.tenantId).graph applied.written
  have written : cloud'.control.resources = resources := by rw [applied.result]
  rw [applied.topology]
  constructor
  · exact fun tenantId => applied.referring (rows.referring tenantId)
  · intro tenantId
    have addressed : Addressed tenantId cloud.control :=
      ⟨(rows.referring tenantId).graph, rows.addressing tenantId⟩
    exact (applied_addressed addressed applied).addressing
  · rw [written]
    intro row member
    rcases table.only row member with rfl | ⟨old, -⟩
    · rfl
    · exact rows.revisions row old
  · rw [written]
    intro row member live node isNode
    rcases table.only row member with rfl | ⟨old, -⟩
    · exact validateCrossResource_node applied.cross live isNode
    · exact rows.bound row old live node isNode

theorem mutate_controlRows (rows : ControlRows cloud.route.topology.deviceTenants cloud.control)
    {now : Instant} {outcome : MutationOutcome}
    (done : mutate cloud mutation now fresh clock = .ok (outcome, cloud')) :
    ControlRows cloud'.route.topology.deviceTenants cloud'.control ∧
      cloud'.route.topology = cloud.route.topology := by
  rcases mutate_ok done with ⟨-, rfl⟩ | ⟨-, previous, resources, queue, applied⟩
  · exact ⟨rows, rfl⟩
  · exact ⟨applied.controlRows rows, applied.topology⟩

end Mutations

section Replacing

variable {devices : List (Uuid × Uuid)} {control : ControlStore} {target : ResourceRow}
  {node : NodeV1} {deviceId deviceKeyId : Uuid}

theorem ControlRows.reenroll (rows : ControlRows devices control)
    (isNode : target.document.resource = .node node) (device : isNil deviceId = false)
    (key : isNil deviceKeyId = false) (unbound : ∀ tenantId, (deviceId, tenantId) ∉ devices)
    (member : target ∈ control.resources) :
    ControlRows (devices ++ [(deviceId, target.tenantId)])
      (control.rewrite (reenrollRow target node deviceId deviceKeyId)) := by
  have inPlace : ∀ row ∈ control.resources,
      RewrittenInPlace (reenrollRow target node deviceId deviceKeyId) row :=
    fun row _ => reenroll_inPlace isNode device key row
  constructor
  · intro tenantId
    have referring := rows.referring tenantId
    exact ⟨referring.graph.rewrite inPlace, referring.targets.rewrite inPlace⟩
  · intro tenantId
    refine (rows.addressing tenantId).reenroll ?_
    intro row live other isOther same
    have listed := rows.bound row live.1 live.2.2 other isOther
    rw [same] at listed
    exact unbound row.tenantId listed
  · intro row written
    obtain ⟨old, stored, rfl⟩ := mem_rewrite written
    unfold reenrollRow
    by_cases same : old = target
    · rw [if_pos same]
      exact congrArg (· + 1) (rows.revisions target member)
    · rw [if_neg same]
      exact rows.revisions old stored
  · intro row written live other isOther
    obtain ⟨old, stored, rfl⟩ := mem_rewrite written
    unfold reenrollRow at live isOther ⊢
    by_cases same : old = target
    · rw [if_pos same] at isOther ⊢
      cases isOther
      exact List.mem_concat_self
    · rw [if_neg same] at live isOther ⊢
      exact List.mem_append_left _ (rows.bound old stored live other isOther)

end Replacing

namespace IdentityReplaced

variable {store store' : EnrollmentStore}
  {tenantId controlNodeId newDeviceId newDeviceKeyId : Uuid} {now : Instant} {row : ResourceRow}
  {old : NodeV1}

theorem row_mem (replaced : IdentityReplaced codec store tenantId controlNodeId newDeviceId
    newDeviceKeyId now row old store') : row ∈ store.cloud.control.resources ∧
      row.at tenantId .node controlNodeId = true ∧ row.state = .active := by
  have selects := List.find?_some replaced.found
  simp only [Bool.and_eq_true, beq_iff_eq] at selects
  exact ⟨List.mem_of_find?_eq_some replaced.found, selects⟩

theorem rewritten (replaced : IdentityReplaced codec store tenantId controlNodeId newDeviceId
    newDeviceKeyId now row old store') (graph : GraphInvariant tenantId store.cloud.control)
    (revision : row.revision = row.document.metadata.revision) :
    store'.cloud.control =
      store.cloud.control.rewrite (reenrollRow row old newDeviceId newDeviceKeyId) := by
  obtain ⟨member, located, active⟩ := replaced.row_mem
  obtain ⟨tenant, kind, id⟩ := ResourceRow.at_iff.mp located
  rw [replaced.control]
  refine congrArg (fun resources => { store.cloud.control with resources })
    (List.map_congr_left ?_)
  intro other stored
  unfold reenrollRow
  by_cases same : other = row
  · subst same
    simp only [located, active, beq_self_eq_true, Bool.and_self, if_true, ResourceRow.reenrolled,
      ← revision]
  · rw [if_neg same, if_neg]
    intro selected
    simp only [Bool.and_eq_true] at selected
    obtain ⟨otherTenant, otherKind, otherId⟩ := ResourceRow.at_iff.mp selected.1.1
    exact same (graph.row_eq stored member otherTenant tenant (otherKind.trans kind.symm)
      (otherId.trans id.symm))

end IdentityReplaced

/-- Devices and keys have one row each, and a certificate is of a stored device
    of its tenant. -/
structure IdentityRows (store : EnrollmentStore) : Prop where
  deviceIds : store.topology.deviceIds.Nodup
  keyIds : (store.topology.keyOwners.map (·.1)).Nodup
  certified : ∀ row ∈ store.certificates,
    (row.deviceId, row.tenantId) ∈ store.topology.deviceTenants

instance (store : EnrollmentStore) : Decidable (IdentityRows store) :=
  decidable_of_iff (store.topology.deviceIds.Nodup ∧ (store.topology.keyOwners.map (·.1)).Nodup ∧
      ∀ row ∈ store.certificates, (row.deviceId, row.tenantId) ∈ store.topology.deviceTenants)
    ⟨fun rows => ⟨rows.1, rows.2.1, rows.2.2⟩, fun rows => ⟨rows.1, rows.2, rows.3⟩⟩

theorem deviceTenants_states (topology : Topology) :
    topology.deviceTenants = topology.deviceStates.map fun state => (state.1, state.2.1) := by
  rw [Topology.deviceTenants, Topology.deviceStates, List.map_map]
  rfl

theorem deviceIds_tenants (topology : Topology) :
    topology.deviceIds = topology.deviceTenants.map (·.1) := by
  rw [Topology.deviceIds, Topology.deviceTenants, List.map_map]
  rfl

theorem IdentityRows.tenant_eq {store : EnrollmentStore} (rows : IdentityRows store)
    {deviceId tenantId tenantId' : Uuid}
    (listed : (deviceId, tenantId) ∈ store.topology.deviceTenants)
    (listed' : (deviceId, tenantId') ∈ store.topology.deviceTenants) : tenantId = tenantId' := by
  have distinct := rows.deviceIds
  rw [deviceIds_tenants] at distinct
  exact congrArg Prod.snd (eq_of_key distinct listed listed' rfl)

namespace IdentityIssued

variable {before after : EnrollmentStore} {write : EnrollmentCompletionWrite}
  {challenge : EnrollmentChallengeRow} {gone : ReplacedIdentity}

theorem deviceTenants (issued : IdentityIssued before write challenge gone after) :
    after.topology.deviceTenants =
      before.topology.deviceTenants ++ [(write.deviceRecordId, challenge.tenantId)] := by
  have kept : (fun state : Uuid × Uuid × DeviceStatus => (state.1, state.2.1)) ∘ retire gone =
      fun state => (state.1, state.2.1) := by
    funext state
    exact Prod.ext (retire_id gone state).1 (retire_id gone state).2
  rw [deviceTenants_states, issued.states, List.map_map, kept, List.map_append,
    ← deviceTenants_states]
  rfl

theorem deviceRows (issued : IdentityIssued before write challenge gone after)
    (rows : IdentityRows before) (tenant : challenge.tenantId = write.tenantId) :
    IdentityRows after := by
  constructor
  · rw [deviceIds_tenants, issued.deviceTenants]
    have distinct := rows.deviceIds
    rw [deviceIds_tenants] at distinct
    refine nodup_concat_key distinct ?_
    intro old member same
    have named : write.deviceRecordId = old.1 := same
    refine issued.freshDevice ?_
    rw [deviceIds_tenants, named]
    exact List.mem_map_of_mem member
  · rw [issued.keys]
    refine nodup_concat_key rows.keyIds ?_
    intro old member same
    exact issued.freshKey old member same.symm
  · rw [issued.deviceTenants, issued.certificates]
    intro row member
    obtain ⟨old, stored, rfl⟩ := mem_updateWhere.mp member
    have scope := (retired_supersedes gone write.issuedAt).scope old
    have place : (old.deviceId, old.tenantId) ∈ before.topology.deviceTenants ++
        [(write.deviceRecordId, challenge.tenantId)] := by
      rcases mem_concat.mp stored with earlier | here
      · exact List.mem_append_left _ (rows.certified old earlier)
      · obtain rfl := here
        rw [tenant]
        exact List.mem_concat_self
    have same : ((retiredCertificate gone write.issuedAt old).deviceId,
        (retiredCertificate gone write.issuedAt old).tenantId) = (old.deviceId, old.tenantId) :=
      Prod.ext (congrArg (·.deviceId) scope) (congrArg (·.tenantId) scope)
    exact same.symm ▸ place

end IdentityIssued

/-- What a re-enrollment leaves behind: the node on its new device, the old
    identity out of use, and a tunnel job for every segment that has the node. -/
structure Reenrolled (codec : EnrollmentCodec) (before : EnrollmentStore)
    (write : EnrollmentCompletionWrite) (nodeId : Uuid) (row : ResourceRow) (old : NodeV1)
    (after : EnrollmentStore) : Prop where
  found : before.cloud.control.resource write.tenantId .node nodeId = some row
  active : row.state = .active
  document : row.document.resource = .node old
  /-- The revision rises by one and device and key change; no other row does. -/
  node : after.cloud.control.resource write.tenantId .node nodeId =
    some (row.reenrolled old write.deviceRecordId write.keyRecordId)
  rewritten : after.cloud.control =
    before.cloud.control.rewrite (reenrollRow row old write.deviceRecordId write.keyRecordId)
  wasActive : before.topology.activeDevice write.tenantId (some old.deviceId) = true ∧
    before.topology.activeDeviceKey write.tenantId (some old.deviceId) (some old.deviceKeyId) = true
  oldDevice : ∀ device ∈ after.topology.devices, device.id = old.deviceId → device.status ≠ .active
  oldKey : ∀ key ∈ after.topology.deviceKeys, key.id = old.deviceKeyId → key.status ≠ .active
  oldCertificates : ∀ certificate ∈ after.certificates, certificate.deviceId = old.deviceId →
    certificate.status ≠ .active
  newDevice : after.topology.activeDevice write.tenantId (some write.deviceRecordId) = true
  newKey : after.topology.activeDeviceKey write.tenantId (some write.deviceRecordId)
    (some write.keyRecordId) = true
  newCertificate : ∃ certificate ∈ after.certificates, certificate.id = write.certificateId ∧
    certificate.deviceId = write.deviceRecordId ∧ certificate.deviceKeyId = write.keyRecordId ∧
    certificate.status = .active
  endpoints : ∀ serviceNode ∈ before.topology.nodes,
    serviceNode.identity write.tenantId old.deviceId old.deviceKeyId = true →
    ∀ endpoint ∈ after.topology.nodeEndpoints, endpoint.nodeId = serviceNode.id →
      endpoint.active = false
  jobs : ∀ segmentId, before.cloud.control.InGraph write.tenantId segmentId .node nodeId ∨
      after.cloud.control.InGraph write.tenantId segmentId .node nodeId →
    TunnelJob before.cloud.queue after.cloud.queue write.tenantId
      (reenrollmentHash codec nodeId write.deviceRecordId) segmentId

structure ReenrollmentInvariant (store : EnrollmentStore) : Prop where
  devices : IdentityRows store
  control : ControlRows store.topology.deviceTenants store.cloud.control

section Completing

variable {store added replaced : EnrollmentStore} {write : EnrollmentCompletionWrite}
  {challenge : EnrollmentChallengeRow} {nodeId : Uuid} {row : ResourceRow} {old : NodeV1}

theorem isNil_of_version {id : Uuid} (version : uuidVersion id = 7) : isNil id = false := by
  unfold isNil
  rw [beq_eq_false_iff_ne]
  intro zero
  rw [zero] at version
  exact absurd version (by decide)

theorem EnrollmentCompletionWrite.named (valid : write.validate = .ok ()) :
    isNil write.deviceRecordId = false ∧ isNil write.keyRecordId = false := by
  simp only [EnrollmentCompletionWrite.validate, reject_ok, Bool.or_eq_false_iff,
    bne_eq_false_iff_eq] at valid
  have device : uuidVersion write.deviceRecordId = 7 := by simp only [valid]
  have key : uuidVersion write.keyRecordId = 7 := by simp only [valid]
  exact ⟨isNil_of_version device, isNil_of_version key⟩

variable (inv : ReenrollmentInvariant store) (device : DeviceAdded store write challenge added)
  (identity : IdentityReplaced codec added challenge.tenantId nodeId write.deviceRecordId
    write.keyRecordId write.issuedAt row old replaced)
include inv device identity

theorem old_device :
    (old.deviceId, challenge.tenantId) ∈ store.topology.deviceTenants ∧
      old.deviceId ≠ write.deviceRecordId := by
  obtain ⟨member, located, active⟩ := identity.row_mem
  rw [device.control] at member
  have live : row.state ≠ .deleted := by
    rw [active]
    decide
  have listed := inv.control.bound row member live old identity.document
  rw [(ResourceRow.at_iff.mp located).1] at listed
  refine ⟨listed, ?_⟩
  intro same
  refine device.freshDevice ?_
  rw [deviceIds_tenants, ← same]
  exact List.mem_map_of_mem (f := fun device : Uuid × Uuid => device.1) listed

theorem was_active :
    store.topology.activeDevice challenge.tenantId (some old.deviceId) = true ∧
      store.topology.activeDeviceKey challenge.tenantId (some old.deviceId)
        (some old.deviceKeyId) = true := by
  obtain ⟨-, other⟩ := old_device inv device identity
  have fresh : (some write.deviceRecordId == some old.deviceId) = false := by
    rw [beq_eq_false_iff_ne, ne_eq, Option.some.injEq]
    exact other.symm
  have activeDevice := identity.device
  have activeKey := identity.key
  rw [device.topology] at activeDevice activeKey
  simp only [Topology.activeDevice, List.any_append, List.any_cons, List.any_nil, fresh,
    Bool.false_and, Bool.or_false] at activeDevice
  simp only [Topology.activeDeviceKey, List.any_append, List.any_cons, List.any_nil, fresh,
    Bool.and_false, Bool.false_and, Bool.or_false] at activeKey
  exact ⟨activeDevice, activeKey⟩

theorem old_key :
    (∃ key ∈ store.topology.deviceKeys, key.id = old.deviceKeyId ∧
      key.tenantId = challenge.tenantId) ∧ old.deviceKeyId ≠ write.keyRecordId := by
  obtain ⟨key, member, tests⟩ := List.any_eq_true.mp (was_active inv device identity).2
  simp only [Bool.and_eq_true, beq_iff_eq, Option.some.injEq] at tests
  obtain ⟨⟨⟨named, tenant⟩, -⟩, -⟩ := tests
  refine ⟨⟨key, member, named, tenant⟩, ?_⟩
  rw [← named]
  exact device.freshKey (key.id, key.deviceId) (List.mem_map.mpr ⟨key, member, rfl⟩)

theorem revoked_identity :
    (∀ device ∈ replaced.topology.devices, device.id = old.deviceId → device.status ≠ .active) ∧
      ∀ key ∈ replaced.topology.deviceKeys, key.id = old.deviceKeyId → key.status ≠ .active := by
  obtain ⟨listed, otherDevice⟩ := old_device inv device identity
  obtain ⟨⟨oldKey, oldMember, oldNamed, oldTenant⟩, otherKey⟩ := old_key inv device identity
  constructor
  · rw [identity.devices, device.topology]
    refine updateWhere_clears (fun _ => DeviceStatus.noConfusion) ?_
    intro before stored named active
    have tenant : before.tenantId = challenge.tenantId := by
      rcases mem_concat.mp stored with earlier | here
      · have place : (old.deviceId, before.tenantId) ∈ store.topology.deviceTenants :=
          List.mem_map.mpr ⟨before, earlier, Prod.ext named rfl⟩
        exact inv.devices.tenant_eq place listed
      · obtain rfl := here
        rfl
    simp only [tenant, named, active, beq_self_eq_true, Bool.and_self]
  · rw [identity.deviceKeys, device.topology]
    refine updateWhere_clears (fun _ => DeviceKeyStatus.noConfusion) ?_
    intro before stored named active
    have tenant : before.tenantId = challenge.tenantId := by
      rcases mem_concat.mp stored with earlier | here
      · have distinct := inv.devices.keyIds
        rw [Topology.keyOwners, List.map_map] at distinct
        have same : before = oldKey := eq_of_key distinct earlier oldMember
          (named.trans oldNamed.symm)
        rw [same]
        exact oldTenant
      · obtain rfl := here
        rfl
    simp only [tenant, named, active, beq_self_eq_true, Bool.and_self]

theorem issued_identity :
    replaced.topology.activeDevice challenge.tenantId (some write.deviceRecordId) = true ∧
      replaced.topology.activeDeviceKey challenge.tenantId (some write.deviceRecordId)
        (some write.keyRecordId) = true ∧
      write.certificate challenge.assuranceLevel ∈ replaced.certificates := by
  obtain ⟨-, otherDevice⟩ := old_device inv device identity
  obtain ⟨-, otherKey⟩ := old_key inv device identity
  refine ⟨?_, ?_, ?_⟩
  · rw [Topology.activeDevice, identity.devices, device.topology, List.any_eq_true]
    refine ⟨_, mem_updateWhere.mpr ⟨_, List.mem_concat_self, rfl⟩, ?_⟩
    simp [otherDevice.symm]
  · rw [Topology.activeDeviceKey, identity.deviceKeys, device.topology, List.any_eq_true]
    refine ⟨_, mem_updateWhere.mpr ⟨_, List.mem_concat_self, rfl⟩, ?_⟩
    simp [otherKey.symm]
  · rw [identity.certificates, device.certificates]
    refine mem_updateWhere.mpr ⟨_, List.mem_concat_self, ?_⟩
    simp [EnrollmentCompletionWrite.certificate, otherDevice.symm]

theorem superseded_certificates :
    ∀ certificate ∈ replaced.certificates, certificate.deviceId = old.deviceId →
      certificate.status ≠ .active := by
  obtain ⟨listed, other⟩ := old_device inv device identity
  rw [identity.certificates, device.certificates]
  refine updateWhere_clears (fun _ => CertificateStatus.noConfusion) ?_
  intro before stored named active
  have tenant : before.tenantId = challenge.tenantId := by
    rcases mem_concat.mp stored with earlier | here
    · have place := inv.devices.certified before earlier
      rw [named] at place
      exact inv.devices.tenant_eq place listed
    · obtain rfl := here
      exact absurd named.symm other
  simp only [tenant, named, active, beq_self_eq_true, Bool.and_self]

theorem replaced_control :
    row ∈ store.cloud.control.resources ∧ replaced.cloud.control =
      store.cloud.control.rewrite (reenrollRow row old write.deviceRecordId write.keyRecordId) := by
  obtain ⟨member, -, -⟩ := identity.row_mem
  have graph := (inv.control.referring challenge.tenantId).graph
  rw [← device.control] at graph ⊢
  refine ⟨member, identity.rewritten graph (inv.control.revisions row ?_)⟩
  rw [← device.control]
  exact member

theorem replaced_rows (valid : write.validate = .ok ()) :
    ControlRows (store.topology.deviceTenants ++ [(write.deviceRecordId, challenge.tenantId)])
      replaced.cloud.control := by
  obtain ⟨deviceNamed, keyNamed⟩ := EnrollmentCompletionWrite.named valid
  obtain ⟨member, rewritten⟩ := replaced_control inv device identity
  obtain ⟨-, located, -⟩ := identity.row_mem
  rw [rewritten, ← (ResourceRow.at_iff.mp located).1]
  refine inv.control.reenroll identity.document deviceNamed keyNamed ?_ member
  intro tenantId listed
  refine device.freshDevice ?_
  rw [deviceIds_tenants]
  exact List.mem_map_of_mem (f := fun device : Uuid × Uuid => device.1) listed

theorem reenrolled_of_replaced (valid : write.validate = .ok ())
    (tenant : challenge.tenantId = write.tenantId) :
    Reenrolled codec store write nodeId row old replaced := by
  obtain ⟨deviceNamed, keyNamed⟩ := EnrollmentCompletionWrite.named valid
  obtain ⟨-, located, active⟩ := identity.row_mem
  obtain ⟨member, rewritten⟩ := replaced_control inv device identity
  have graph := (inv.control.referring challenge.tenantId).graph
  have later := ((replaced_rows inv device identity valid).referring challenge.tenantId).graph
  have found := graph.resource_iff.mpr ⟨member, located⟩
  have inPlace : ∀ other ∈ store.cloud.control.resources,
      RewrittenInPlace (reenrollRow row old write.deviceRecordId write.keyRecordId) other :=
    fun other _ => reenroll_inPlace identity.document deviceNamed keyNamed other
  obtain ⟨newDevice, newKey, newCertificate⟩ := issued_identity inv device identity
  obtain ⟨oldDevice, oldKey⟩ := revoked_identity inv device identity
  rw [tenant] at newDevice newKey found
  refine ⟨found, active, identity.document, ?_, rewritten, ?_, oldDevice, oldKey,
    superseded_certificates inv device identity, newDevice, newKey,
    ⟨_, newCertificate, rfl, rfl, rfl, rfl⟩, ?_, ?_⟩
  · rw [rewritten, resource_rewrite inPlace, found, Option.map_some, reenrollRow, if_pos rfl]
  · rw [← tenant]
    exact was_active inv device identity
  · intro serviceNode stored bound
    refine identity.endpoints serviceNode ?_ (by rw [tenant]; exact bound)
    rw [device.topology]
    exact stored
  · intro segmentId loaded
    have jobs := identity.jobs.enqueued segmentId
    rw [device.queue] at jobs
    rw [← tenant] at loaded ⊢
    refine jobs ?_
    rcases loaded with ⟨other, present, kind, id⟩ | ⟨other, present, kind, id⟩
    · have dependent := graph_dependent graph present
      rw [kind, id] at dependent
      rw [rewritten, dependentSegments_rewrite inPlace]
      exact dependent
    · have dependent := graph_dependent later present
      rw [kind, id] at dependent
      exact dependent

end Completing

section Completions

variable {store store' : EnrollmentStore} {write : EnrollmentCompletionWrite}
  {challenge : EnrollmentChallengeRow} {code : ActivationCodeRow} {fresh : Uuid → Uuid}
  {clock : Instant}

theorem Reenrolled.congr {after : EnrollmentStore} {nodeId : Uuid} {row : ResourceRow}
    {old : NodeV1} (reenrolled : Reenrolled codec store write nodeId row old after)
    (cloud : store'.cloud = after.cloud) (certificates : store'.certificates = after.certificates) :
    Reenrolled codec store write nodeId row old store' := by
  have topology : store'.topology = after.topology := congrArg (·.route.topology) cloud
  obtain ⟨found, active, document, node, rewritten, wasActive, oldDevice, oldKey, oldCertificates,
    newDevice, newKey, newCertificate, endpoints, jobs⟩ := reenrolled
  rw [← cloud] at node rewritten jobs
  rw [← topology] at oldDevice oldKey newDevice newKey endpoints
  rw [← certificates] at oldCertificates newCertificate
  exact ⟨found, active, document, node, rewritten, wasActive, oldDevice, oldKey, oldCertificates,
    newDevice, newKey, newCertificate, endpoints, jobs⟩

theorem issueDevice_reenrolls (inv : ReenrollmentInvariant store) (valid : write.validate = .ok ())
    (tenant : challenge.tenantId = write.tenantId)
    (done : store.issueDevice codec write challenge code fresh clock = .ok store') :
    ReenrollmentInvariant store' ∧ ∀ nodeId, code.replaceNodeId = some nodeId →
      ∃ row old, Reenrolled codec store write nodeId row old store' := by
  obtain ⟨gone, issued⟩ := issueDevice_rows done
  obtain ⟨added, replaced, device, replaces, cloud, certificates⟩ := issueDevice_added done
  have devices := issued.deviceRows inv.devices tenant
  have tenants := issued.deviceTenants
  unfold replaceNodeOf at replaces
  cases named : code.replaceNodeId with
  | none =>
      rw [named] at replaces
      cases replaces
      refine ⟨⟨devices, ?_⟩, ?_⟩
      · rw [tenants]
        refine inv.control.congr ?_ ?_ (List.subset_append_left _ _)
        · rw [cloud, device.control]
        · rw [cloud, device.control]
      · intro nodeId other
        cases other
  | some controlNodeId =>
      rw [named] at replaces
      obtain ⟨row, old, identity⟩ := replaceControlNodeIdentity_replaced replaces
      refine ⟨⟨devices, ?_⟩, ?_⟩
      · rw [tenants, cloud]
        exact replaced_rows inv device identity valid
      · intro nodeId same
        cases same
        exact ⟨row, old,
          (reenrolled_of_replaced inv device identity valid tenant).congr cloud certificates⟩

theorem completion_invariant (inv : ReenrollmentInvariant store)
    {outcome : EnrollmentCompletionOutcome}
    (done : completeEnrollment codec store write fresh clock = .ok (outcome, store')) :
    ReenrollmentInvariant store' := by
  rcases completeEnrollment_cases done with ⟨-, rfl⟩ | ⟨challenge, code, -, valid, -, -, -, tenant,
    -, -, -, issues⟩
  · exact inv
  · exact (issueDevice_reenrolls inv valid tenant issues).1

end Completions

end CandyCloud
