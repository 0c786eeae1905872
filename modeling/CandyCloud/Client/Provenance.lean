import CandyCloud.Client.Plane

/-! # Where projections come from

A projection is signed from the inputs its call gathered: the policy the device is bound to, the
current settings and the grant it holds.
-/

namespace CandyCloud

open Foundation

def ClientPlane.authorizedRows (plane : ClientPlane) (scope : ClientScope) (clientDeviceId : Uuid) :
    List (ClientDeviceRow × ClientDeviceKeyRow × ClientAccessPolicyRow) :=
  plane.clients.devices.flatMap fun device =>
    if decide (device.scope = scope) && decide (device.id = clientDeviceId) &&
        decide (device.status = .active) &&
        plane.accounts.activeTenant scope.tenantId scope.organizationId &&
        plane.accounts.activeUser scope.userId &&
        plane.accounts.activeMember scope.organizationId scope.userId then
      plane.clients.keys.flatMap fun key =>
        if decide (key.clientDeviceId = device.id) && decide (key.scope = device.scope) &&
            decide (key.status = .active) then
          plane.bindings.flatMap fun binding =>
            if decide (binding.clientDeviceId = device.id) &&
                decide (binding.scope = device.scope) then
              (plane.policies.filter fun policy =>
                decide (policy.id = binding.policyId) &&
                  decide (policy.organizationId = binding.scope.organizationId) &&
                  policy.activeOf binding.scope.tenantId).map fun policy => (device, key, policy)
            else []
        else []
    else []

/-- The conditions of the join on one row. -/
structure ClientPlane.Authorizes (plane : ClientPlane) (scope : ClientScope) (clientDeviceId : Uuid)
    (device : ClientDeviceRow) (key : ClientDeviceKeyRow) (policy : ClientAccessPolicyRow) :
    Prop where
  reached : device ∈ plane.clients.devices ∧ device.scope = scope ∧ device.id = clientDeviceId ∧
    device.status = .active
  served : plane.accounts.activeTenant scope.tenantId scope.organizationId = true ∧
    plane.accounts.activeUser scope.userId = true ∧
    plane.accounts.activeMember scope.organizationId scope.userId = true
  held : key ∈ plane.clients.keys ∧ key.clientDeviceId = device.id ∧ key.scope = device.scope ∧
    key.status = .active
  bound : ∃ binding ∈ plane.bindings, binding.clientDeviceId = device.id ∧
    binding.scope = device.scope ∧ policy.id = binding.policyId ∧
    policy.organizationId = binding.scope.organizationId ∧
    policy.tenantId = binding.scope.tenantId ∧ policy.status = .active
  stored : policy ∈ plane.policies

variable {scope : ClientScope} {clientDeviceId tenantId deviceKeyId : Uuid}
  {key : ClientDeviceKeyRow} {policy : ClientAccessPolicyRow} {store : ClientStore}
  {now : ClientTime} {record : ClientProjectionRecord} {request : ProjectionRequest}
  {codec : ProjectionCodec}

theorem mem_authorizedRows {plane : ClientPlane} {device : ClientDeviceRow} :
    (device, key, policy) ∈ plane.authorizedRows scope clientDeviceId ↔
      plane.Authorizes scope clientDeviceId device key policy := by
  constructor
  · intro member
    obtain ⟨row, present, member⟩ := List.mem_flatMap.mp member
    split at member
    · rename_i reached
      obtain ⟨held, presentKey, member⟩ := List.mem_flatMap.mp member
      split at member
      · rename_i owned
        obtain ⟨binding, presentBinding, member⟩ := List.mem_flatMap.mp member
        split at member
        · rename_i bound
          obtain ⟨version, presentPolicy, same⟩ := List.mem_map.mp member
          cases same
          simp only [Bool.and_eq_true, decide_eq_true_eq] at reached owned bound
          simp only [List.mem_filter, ClientAccessPolicyRow.activeOf, Bool.and_eq_true,
            decide_eq_true_eq] at presentPolicy
          obtain ⟨⟨⟨⟨⟨same, named⟩, active⟩, tenant⟩, user⟩, membership⟩ := reached
          obtain ⟨stored, ⟨named', organization⟩, tenant', status⟩ := presentPolicy
          exact ⟨⟨present, same, named, active⟩, ⟨tenant, user, membership⟩,
            ⟨presentKey, owned.1.1, owned.1.2, owned.2⟩,
            ⟨binding, presentBinding, bound.1, bound.2, named', organization, tenant', status⟩,
            stored⟩
        · cases member
      · cases member
    · cases member
  · intro authorizes
    obtain ⟨⟨present, same, named, active⟩, ⟨tenant, user, membership⟩, ⟨presentKey, owner, keyScope,
      live⟩, ⟨binding, presentBinding, bound, boundScope, policyId, organization, policyTenant,
      status⟩, stored⟩ := authorizes
    refine List.mem_flatMap.mpr ⟨device, present, ?_⟩
    rw [if_pos (by simp [same, named, active, tenant, user, membership])]
    refine List.mem_flatMap.mpr ⟨key, presentKey, ?_⟩
    rw [if_pos (by simp [owner, keyScope, live])]
    refine List.mem_flatMap.mpr ⟨binding, presentBinding, ?_⟩
    rw [if_pos (by simp [bound, boundScope])]
    refine List.mem_map.mpr ⟨policy, List.mem_filter.mpr ⟨stored, ?_⟩, rfl⟩
    simp [ClientAccessPolicyRow.activeOf, policyId, organization, policyTenant, status]

theorem authorized_authorizes {plane : ClientPlane} {device : ClientDeviceRow}
    (found : plane.authorized scope clientDeviceId = some (device, key, policy)) :
    plane.Authorizes scope clientDeviceId device key policy :=
  mem_authorizedRows.mp (List.mem_of_mem_head? (Option.mem_def.mpr found))

theorem authorized_mem {plane : ClientPlane} {device : ClientDeviceRow}
    (found : plane.authorized scope clientDeviceId = some (device, key, policy)) :
    (device ∈ plane.clients.devices ∧ device.scope = scope ∧ device.id = clientDeviceId) ∧
    (∃ binding ∈ plane.bindings, binding.clientDeviceId = device.id ∧
      binding.scope = device.scope ∧ policy.id = binding.policyId) ∧
    policy ∈ plane.policies ∧ policy.tenantId = scope.tenantId := by
  obtain ⟨⟨present, same, named, -⟩, -, -, ⟨binding, presentBinding, bound, boundScope, policyId, -,
    tenant, -⟩, stored⟩ := authorized_authorizes found
  refine ⟨⟨present, same, named⟩, ⟨binding, presentBinding, bound, boundScope, policyId⟩, stored, ?_⟩
  rw [tenant, boundScope, same]

theorem authorizationSnapshot_ok {codec : ClientCodec} {plane : ClientPlane}
    {snapshot : ClientAuthorizationSnapshot}
    (read : authorizationSnapshot codec plane scope clientDeviceId = .ok (some snapshot)) :
    ∃ device key policy, plane.authorized scope clientDeviceId = some (device, key, policy) ∧
      snapshot.policy = policy.policy ∧ snapshot.policyContentHash = policy.contentHash := by
  rw [authorizationSnapshot, unit_bind_ok] at read
  obtain ⟨-, read⟩ := read
  cases found : plane.authorized scope clientDeviceId with
  | none =>
      rw [found] at read
      cases read
  | some rows =>
      obtain ⟨device, key, policy⟩ := rows
      rw [found] at read
      simp only at read
      rw [orElse_bind_ok] at read
      obtain ⟨publicKey, -, read⟩ := read
      rw [unit_bind_ok, unit_bind_ok, pure_ok] at read
      obtain ⟨-, -, read⟩ := read
      refine ⟨device, key, policy, rfl, ?_⟩
      rw [← Option.some.inj read]
      exact ⟨rfl, rfl⟩

/-- What `gather_inputs` has read and checked. -/
structure ProjectionGathered (service : ClientProjectionService) (plane : ClientPlane)
    (device : ClientDeviceRecord) (issuedAt : Nat) (snapshot : ClientAuthorizationSnapshot)
    (inputs : ProjectionInputs) : Prop where
  authorized : authorizationSnapshot service.codec.toClientCodec plane device.scope
    device.recordId = .ok (some snapshot)
  key : snapshot.deviceKeyId = device.deviceKeyId
  settings : currentSettings plane device.scope.tenantId = .ok (some inputs.settings)
  settingsHash : inputs.settings.contentHash service.codec.toClientCodec =
    .ok inputs.settingsContentHash
  permitted : device.trafficMode ∈ snapshot.policy.modeCapabilities
  held : ∃ now, timestamp issuedAt = some now ∧ plane.clients.activeGrant device.scope.tenantId
    device.recordId device.deviceKeyId now = .ok (some inputs.grant)
  nodes : grantNodes service.codec.toEnvelopeCodec inputs.grant = .ok inputs.nodes
  binding : grantPolicyBinding service.codec.toEnvelopeCodec inputs.grant =
    .ok ⟨snapshot.policy.policyId, snapshot.policy.generation, snapshot.policyContentHash⟩
  policyGeneration : inputs.policyGeneration = snapshot.policy.generation
  policyContentHash : inputs.policyContentHash = snapshot.policyContentHash
  modeCapabilities : inputs.modeCapabilities = snapshot.policy.modeCapabilities
  trafficMode : inputs.trafficMode = device.trafficMode
  resources : inputs.resources = snapshot.policy.allowedResources

section Gathered

variable {service : ClientProjectionService} {plane : ClientPlane} {device : ClientDeviceRecord}
  {issuedAt : Nat} {inputs : ProjectionInputs}

theorem ClientProjectionService.gatherInputs_ok
    (done : service.gatherInputs plane device issuedAt = .ok inputs) :
    ∃ snapshot, ProjectionGathered service plane device issuedAt snapshot inputs := by
  rw [ClientProjectionService.gatherInputs, bind_ok] at done
  obtain ⟨found, authorized, done⟩ := done
  rw [orElse_bind_ok] at done
  obtain ⟨snapshot, bound, done⟩ := done
  rw [unit_bind_ok, bind_ok] at done
  obtain ⟨key, published, current, done⟩ := done
  rw [orElse_bind_ok] at done
  obtain ⟨settings, present, done⟩ := done
  rw [bind_ok] at done
  obtain ⟨settingsHash, hashed, done⟩ := done
  rw [unit_bind_ok, orElse_bind_ok] at done
  obtain ⟨permitted, now, stamped, done⟩ := done
  rw [bind_ok] at done
  obtain ⟨held, active, done⟩ := done
  rw [orElse_bind_ok] at done
  obtain ⟨grant, granted, done⟩ := done
  rw [bind_ok] at done
  obtain ⟨nodes, named, done⟩ := done
  rw [bind_ok] at done
  obtain ⟨binding, bindingRead, done⟩ := done
  rw [unit_bind_ok, pure_ok] at done
  obtain ⟨fresh, rfl⟩ := done
  rw [mapError_ok] at authorized current hashed active
  rw [reject_ok, decide_eq_false_iff_not, not_not] at key fresh
  rw [reject_ok, Bool.not_eq_false', List.contains_iff_mem] at permitted
  subst bound present granted fresh
  exact ⟨snapshot, authorized, key, current, hashed, permitted, ⟨now, stamped, active⟩, named,
    bindingRead, rfl, rfl, rfl, rfl, rfl⟩

theorem newestGrant_mem {grants : List ClientGrantRow} {grant : ClientGrantRow}
    (newest : ClientStore.newestGrant grants = some grant) : grant ∈ grants := by
  refine mem_of_foldl_pick ?_ newest
  intro best grant
  cases best with
  | none => exact .inl rfl
  | some best =>
      simp only
      split
      · exact .inl rfl
      · exact .inr rfl

theorem activeGrant_ok {record : ClientGrantRecord}
    (found : store.activeGrant tenantId clientDeviceId deviceKeyId now = .ok (some record)) :
    ∃ row ∈ store.grants, row.record = record := by
  rw [ClientStore.activeGrant, unit_bind_ok] at found
  cases active : store.activeGrantRow tenantId clientDeviceId deviceKeyId now with
  | none =>
      rw [active] at found
      cases found.2
  | some row =>
      rw [active, readGrant, unit_bind_ok, pure_ok] at found
      exact ⟨row, List.mem_of_mem_filter (newestGrant_mem active), Option.some.inj found.2.2⟩

end Gathered

/-- The lease of a node in a projection that ends at the given time. -/
def PolicyProjectionNodeAssignment.until (staleUntil : Nat)
    (node : PolicyProjectionNodeAssignment) : PolicyProjectionNodeAssignment :=
  { node with assignmentLeaseUntil := min node.assignmentLeaseUntil staleUntil }

/-- What `assemble` has checked. -/
structure ProjectionAssembled (inputs : ProjectionInputs) (device : ClientDeviceRecord)
    (stamp : ProjectionStamp) (projection : PolicyProjectionV1) : Prop where
  stale : inputs.staleUntil stamp.issuedAt = some projection.staleUntil
  later : stamp.issuedAt < projection.staleUntil
  nodes : projection.nodes = inputs.nodes.map (·.until projection.staleUntil)
  live : ∀ node ∈ projection.nodes, stamp.issuedAt < node.assignmentLeaseUntil
  document : projection = inputs.document device stamp projection.staleUntil
    projection.selectedNode projection.standbyNodes

theorem clampLease_ok {issuedAt staleUntil : Nat} {nodes clamped : List PolicyProjectionNodeAssignment}
    (done : nodes.mapM (clampLease issuedAt staleUntil) = .ok clamped) :
    clamped = nodes.map (·.until staleUntil) ∧
      ∀ node ∈ clamped, issuedAt < node.assignmentLeaseUntil := by
  induction nodes generalizing clamped with
  | nil =>
      rw [List.mapM_nil, pure_ok] at done
      subst done
      exact ⟨rfl, fun _ member => absurd member List.not_mem_nil⟩
  | cons node rest ih =>
      rw [List.mapM_cons, bind_ok] at done
      obtain ⟨first, cut, done⟩ := done
      rw [bind_ok] at done
      obtain ⟨others, remaining, done⟩ := done
      rw [pure_ok] at done
      rw [clampLease, unit_bind_ok, pure_ok, reject_ok, decide_eq_false_iff_not, not_le] at cut
      obtain ⟨live, rfl⟩ := cut
      obtain ⟨rfl, alive⟩ := ih remaining
      subst done
      exact ⟨rfl, List.forall_mem_cons.mpr ⟨live, alive⟩⟩

theorem ProjectionInputs.assemble_ok {inputs : ProjectionInputs} {device : ClientDeviceRecord}
    {stamp : ProjectionStamp} {projection : PolicyProjectionV1}
    (done : inputs.assemble device stamp = .ok projection) :
    ProjectionAssembled inputs device stamp projection := by
  rw [ProjectionInputs.assemble, orElse_bind_ok] at done
  obtain ⟨staleUntil, stale, done⟩ := done
  rw [unit_bind_ok, bind_ok, reject_ok, decide_eq_false_iff_not, not_le] at done
  obtain ⟨later, nodes, clamped, done⟩ := done
  obtain ⟨cut, live⟩ := clampLease_ok clamped
  cases nodes with
  | nil => cases done
  | cons selected standby =>
      rw [pure_ok] at done
      subst done
      exact ⟨stale, later, cut, live, rfl⟩

theorem newestProjection_mem {projections : List ClientProjectionRow}
    {projection : ClientProjectionRow}
    (newest : ClientStore.newestProjection projections = some projection) :
    projection ∈ projections := by
  refine mem_of_foldl_pick ?_ newest
  intro best projection
  cases best with
  | none => exact .inl rfl
  | some best =>
      simp only
      split
      · exact .inl rfl
      · exact .inr rfl

theorem currentProjection_ok {signingKeyColumn : String}
    (current : store.currentProjection signingKeyColumn tenantId clientDeviceId deviceKeyId now =
      .ok (some record)) :
    ∃ row ∈ store.projections, row.status = .published ∧ row.record signingKeyColumn = record := by
  rw [ClientStore.currentProjection, unit_bind_ok] at current
  cases found : store.currentProjectionRow tenantId clientDeviceId deviceKeyId now with
  | none =>
      rw [found] at current
      cases current.2
  | some row =>
      rw [found, readProjection, unit_bind_ok, pure_ok, Option.some.injEq] at current
      have member := newestProjection_mem found
      simp only [List.mem_filter, Bool.and_eq_true, decide_eq_true_eq] at member
      exact ⟨row, member.1, member.2.1.2, current.2.2⟩

/-- A projection that is answered again, with the row it was read from. -/
structure Reused (service : ClientProjectionService) (plane : ClientPlane)
    (request : ProjectionRequest) (inputsHash : Hash) (row : ClientProjectionRow) : Prop where
  stored : row ∈ plane.clients.projections
  published : row.status = .published
  unchanged : row.inputsHash = inputsHash
  margin : clientProjectionRefreshMarginSecs ≤ seconds row.staleUntil - seconds request.now

theorem ClientProjectionService.reusable_ok {service : ClientProjectionService}
    {plane : ClientPlane} {inputsHash : Hash}
    (done : service.reusable plane request inputsHash = .ok (some record)) :
    ∃ row, Reused service plane request inputsHash row ∧
      row.record service.codec.signingKeyColumn = record := by
  rw [ClientProjectionService.reusable, bind_ok] at done
  obtain ⟨found, read, done⟩ := done
  rw [mapError_ok] at read
  rw [pure_ok, Option.filter_eq_some_iff] at done
  obtain ⟨rfl, kept⟩ := done
  simp only [Bool.and_eq_true, decide_eq_true_eq] at kept
  obtain ⟨row, stored, published, rfl⟩ := currentProjection_ok read
  exact ⟨row, ⟨stored, published, kept.1, kept.2⟩, rfl⟩

/-- The row stores this document, signed from the nodes of the grant. -/
structure Documents (codec : ProjectionCodec) (grant : ClientGrantRecord)
    (record : ClientProjectionRecord) (document : SignedPolicyProjection) : Prop where
  envelope : codec.projectionEnvelopeBytes document = some record.projectionEnvelope
  named : document.projection.projectionId = record.projectionId
  stale : timestamp document.projection.staleUntil = some record.staleUntil
  nodes : ∃ nodes, grantNodes codec.toEnvelopeCodec grant = .ok nodes ∧
    document.projection.nodes = nodes.map (·.until document.projection.staleUntil)

/-- What holds of the documents in every reachable plane. -/
structure DocumentsSound (codec : ProjectionCodec) (grants : List ClientGrantRecord)
    (projections : List ClientProjectionRecord) : Prop where
  grantIds : (grants.map (·.grantId)).Nodup
  projectionIds : (projections.map (·.projectionId)).Nodup
  described : ∀ record ∈ projections, ∃ grant ∈ grants, grant.grantId = record.grantId ∧
    ∃ document, Documents codec grant record document

def ClientStore.Sound (codec : ProjectionCodec) (store : ClientStore) : Prop :=
  DocumentsSound codec (store.grants.map (·.record)) (store.projections.map (·.record ""))

theorem ClientStore.Sound.grantsUnique (sound : store.Sound codec)
    : (store.grants.map (·.id)).Nodup := by
  have ids := sound.grantIds
  rw [List.map_map] at ids
  exact ids

theorem ClientStore.Sound.projectionsUnique (sound : store.Sound codec)
    : (store.projections.map (·.id)).Nodup := by
  have ids := sound.projectionIds
  rw [List.map_map] at ids
  exact ids

section Stored

variable {services : ClientServices} {plane : ClientPlane}

theorem ProjectionSigned.documents {inputs : ProjectionInputs} {document : SignedPolicyProjection}
    {write : ClientProjectionWrite}
    (signed : ProjectionSigned services.projections request inputs document write)
    (nodes : grantNodes services.codec.toEnvelopeCodec inputs.grant = .ok inputs.nodes) :
    Documents services.codec inputs.grant (write.row.record "") document := by
  obtain ⟨projection, assembled, done⟩ := signed.assembled
  have facts := ProjectionInputs.assemble_ok assembled
  obtain ⟨-, canonical, -, rfl⟩ := sign_ok.mp done
  have named := congrArg PolicyProjectionV1.projectionId facts.document
  exact ⟨signed.envelope, named, signed.staleUntil, inputs.nodes, nodes, facts.nodes⟩

theorem ClientStore.Sound.granted {request : GrantRequest} {write : ClientGrantWrite}
    (sound : plane.clients.Sound services.codec)
    (inserted : GrantInserted services.issuance plane request write) :
    (plane.insertGrant services.codec.sha256 write).clients.Sound services.codec := by
  obtain ⟨grantIds, projectionIds, described⟩ := sound
  have grants : (plane.insertGrant services.codec.sha256 write).clients.grants.map (·.record) =
      plane.clients.grants.map (·.record) ++ [(write.row services.codec.sha256).record] := by
    rw [ClientPlane.insertGrant, ClientStore.apply, List.map_append, List.map_singleton]
  rw [ClientStore.Sound, grants]
  refine ⟨nodup_concat_key grantIds ?_, projectionIds, ?_⟩
  · intro record member
    obtain ⟨old, present, rfl⟩ := List.mem_map.mp member
    have free := inserted.insertable.free old present
    rw [ClientGrantRow.clashes, Bool.or_eq_false_iff, decide_eq_false_iff_not] at free
    exact free.1
  · intro record member
    obtain ⟨grant, present, same, document⟩ := described record member
    exact ⟨grant, List.mem_append_left _ present, same, document⟩

theorem ClientStore.Sound.published {request : ProjectionRequest}
    {document : SignedPolicyProjection} {write : ClientProjectionWrite}
    (sound : plane.clients.Sound services.codec)
    (inserted : ProjectionInserted services.projections plane request document write) :
    (plane.publishProjection write).clients.Sound services.codec := by
  obtain ⟨grantIds, projectionIds, described⟩ := sound
  obtain ⟨⟨inputs, gathered, signed⟩, insertable⟩ := inserted
  have projections : (plane.publishProjection write).clients.projections.map (·.record "") =
      plane.clients.projections.map (·.record "") ++ [write.row.record ""] := by
    rw [ClientPlane.publishProjection, ClientStore.publish, ClientStore.apply, ClientStore.apply,
      List.map_append, map_updateWhere (by intro row; rfl), List.map_singleton]
  rw [ClientStore.Sound, projections]
  refine ⟨grantIds, nodup_concat_key projectionIds ?_, ?_⟩
  · intro record member
    obtain ⟨old, present, rfl⟩ := List.mem_map.mp member
    have free := insertable.free old present
    rw [ClientProjectionRow.clashes, Bool.or_eq_false_iff, decide_eq_false_iff_not] at free
    exact free.1
  · intro record member
    rcases mem_concat.mp member with old | rfl
    · exact described record old
    · obtain ⟨snapshot, read⟩ := ClientProjectionService.gatherInputs_ok gathered
      obtain ⟨now, -, held⟩ := read.held
      obtain ⟨row, present, same⟩ := activeGrant_ok held
      refine ⟨inputs.grant, List.mem_map.mpr ⟨row, present, same⟩, signed.grantId.symm, document, ?_⟩
      exact signed.documents read.nodes

theorem planeStep_sound (services : ClientServices) (plane : ClientPlane) (call : PlaneCall)
    (sound : plane.clients.Sound services.codec) :
    (planeStep services plane call).clients.Sound services.codec := by
  cases planeStep_documents services plane call with
  | kept kept =>
      rw [ClientStore.Sound, kept.grants, kept.projections]
      exact sound
  | granted inserted same =>
      rw [same]
      exact sound.granted inserted
  | published inserted same =>
      rw [same]
      exact sound.published inserted

theorem run_sound (services : ClientServices) (accounts : Accounts) (topology : Topology)
    (calls : List PlaneCall) :
    (run (planeStep services) (.empty accounts topology) calls).clients.Sound services.codec := by
  refine run_invariant (planeStep_sound services) ?_ calls
  exact ⟨List.nodup_nil, List.nodup_nil, fun _ member => absurd member List.not_mem_nil⟩

end Stored

end CandyCloud
