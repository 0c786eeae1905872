import CandyCloud.Client.Fingerprints
import CandyCloud.Client.Lifecycle

/-! # Device keys that can be issued to

Registration takes a key of thirty-two bytes and rotation one of up to sixty-four. The snapshot
a grant is signed from reads the active key of a device as exactly thirty-two bytes.
-/

namespace CandyCloud

open Foundation

def AcceptedKey (publicKey : Bytes) : Prop :=
  minDevicePublicKeyLen ≤ publicKey.length ∧ publicKey.length ≤ maxDevicePublicKeyLen ∧
    ∃ byte ∈ publicKey, byte ≠ 0

variable {bytes : Bytes} {hash : Hash} {store store' : ClientStore} {sha256 : Bytes → Hash}
  {write : ClientWrite} {request : ClientPolicyBinding}

theorem fixedHash_isSome : (∃ hash, fixedHash bytes = some hash) ↔
    bytes.length = 32 := by
  rw [fixedHash]
  by_cases wide : bytes.length = 32
  · simp [wide]
  · simp [wide]

theorem fixedHash_ne_zero (accepted : AcceptedKey bytes) (read : fixedHash bytes = some hash)
    : hash ≠ zeroHash := by
  have wide := fixedHash_isSome.mp ⟨hash, read⟩
  rw [fixedHash, if_pos wide, Option.some.injEq] at read
  rw [← read]
  intro zero
  have value := congrArg BitVec.toNat zero
  have bound := readBytes_lt 0 bytes
  rw [wide] at bound
  change (BitVec.ofNat 256 (readBytes 0 bytes)).toNat = 0 at value
  rw [BitVec.toNat_ofNat, Nat.mod_eq_of_lt (by simpa using bound)] at value
  obtain ⟨-, -, byte, member, set⟩ := accepted
  exact set ((readBytes_eq_zero value).2 byte member)

theorem hashBytes_accepted (set : hash ≠ zeroHash) : AcceptedKey (hashBytes hash) := by
  refine ⟨?_, ?_, ?_⟩
  · rw [hashBytes_length]
    decide
  · rw [hashBytes_length]
    decide
  · by_contra empty
    push Not at empty
    have zeros : hashBytes hash = List.replicate 32 0 :=
      List.eq_replicate_iff.mpr ⟨hashBytes_length hash, empty⟩
    exact set (hashBytes_inj (zeros.trans (by decide)))

theorem ClientDeviceKeyRotation.validate_key {rotation : ClientDeviceKeyRotation}
    (valid : rotation.validate = .ok ()) : AcceptedKey rotation.publicKey := by
  simp only [ClientDeviceKeyRotation.validate, unit_bind_ok, reject_ok, Bool.or_eq_false_iff,
    decide_eq_false_iff_not, List.all_eq_false, beq_iff_eq, not_lt, gt_iff_lt] at valid
  exact ⟨valid.2.1.1, valid.2.1.2, valid.2.2⟩

theorem ClientDeviceRegistration.validate_key {request : ClientDeviceRegistration}
    (valid : request.validate = .ok ()) : AcceptedKey (hashBytes request.publicKey) := by
  simp only [ClientDeviceRegistration.validate, unit_bind_ok, reject_ok,
    decide_eq_false_iff_not] at valid
  exact hashBytes_accepted valid.2.2.2.2.2

theorem ClientLifecycle.switch (life : ClientLifecycle store) (selected : ClientDeviceRow → Bool)
    (mode : ClientTrafficMode) :
    ClientLifecycle { store with
      devices := updateWhere selected (fun device => { device with trafficMode := mode })
        store.devices } := by
  have standing : ∀ {status audience}, store.deviceIs status audience = true →
      ClientStore.deviceIs { store with
        devices := updateWhere selected (fun device => { device with trafficMode := mode })
          store.devices } status audience = true := by
    intro status audience holds
    obtain ⟨device, member, named, scope, same⟩ := deviceIs_iff.mp holds
    refine deviceIs_iff.mpr ⟨_, mem_updateWhere.mpr ⟨device, member, rfl⟩, ?_⟩
    split
    · exact ⟨named, scope, same⟩
    · exact ⟨named, scope, same⟩
  refine ⟨life.records.transfer ⟨?_, rfl, rfl, rfl⟩, ⟨?_, ?_, ?_⟩, ?_, life.published⟩
  · exact map_updateWhere (by intro device; rfl) store.devices
  · rw [map_updateWhere (by intro device; rfl)]
    exact life.inForce.devices
  · intro grant member active
    obtain ⟨device, key⟩ := life.inForce.grants grant member active
    exact ⟨standing device, key⟩
  · intro projection member published
    cases life.inForce.projections projection member published with
    | inl live => exact .inl ⟨standing live.1, live.2⟩
    | inr revoked => exact .inr (standing revoked)
  · intro device member
    obtain ⟨old, present, rfl⟩ := mem_updateWhere.mp member
    have keyed := life.keys old present
    split
    · exact keyed
    · exact keyed

/-- What a step does to devices, keys and documents. -/
inductive ClientsChange (sha256 : Bytes → Hash) (store : ClientStore) : ClientStore → Prop where
  | same : ClientsChange sha256 store store
  | changed {operation : ClientOperation} {store' : ClientStore}
      (change : ClientChange sha256 store operation store') : ClientsChange sha256 store store'
  | switched (selected : ClientDeviceRow → Bool) (mode : ClientTrafficMode) :
      ClientsChange sha256 store { store with
        devices := updateWhere selected (fun device => { device with trafficMode := mode })
          store.devices }

theorem planeStep_clients (services : ClientServices) (plane : ClientPlane) (call : PlaneCall) :
    ClientsChange services.codec.sha256 plane.clients (planeStep services plane call).clients := by
  have change := planeStep_change services plane call
  generalize planeStep services plane call = plane' at change
  cases change with
  | same | accounts | topology | policy | bound | settings => exact .same
  | lifecycle call =>
      cases serve_cases services.codec.sha256 plane.clients (call.operation plane.accounts) with
      | inl same =>
          rw [lifecycleStep, same]
          exact .same
      | inr served => exact .changed served.2
  | switched => exact .switched _ _
  | granted inserted =>
      have checked := inserted.insertable
      exact .changed (.granted ⟨checked.device, checked.key⟩ checked.next)
  | published inserted =>
      have checked := inserted.insertable
      exact .changed (.published checked.grant checked.next)

theorem ClientLifecycle.clients (life : ClientLifecycle store)
    (change : ClientsChange sha256 store store') :
    ClientLifecycle store' := by
  cases change with
  | same => exact life
  | changed change => exact change.lifecycle life
  | switched selected mode => exact life.switch selected mode

/-- What registration and rotation have checked of a row. -/
structure KeysAccepted (store : ClientStore) : Prop where
  owners : ∀ device ∈ store.devices, device.scope.ids.any isNil = false
  keys : ∀ key ∈ store.keys, AcceptedKey key.publicKey

theorem KeysAccepted.apply (accepted : KeysAccepted store)
    (new : ∀ row, write = .insertKey row → AcceptedKey row.publicKey) :
    KeysAccepted (store.apply write) := by
  cases write with
  | insertGrant row | insertProjection row | revokeGrants reach
  | revokeProjections reach deviceKeyId | supersedeProjections tenantId clientDeviceId =>
      exact ⟨accepted.owners, accepted.keys⟩
  | insertKey row =>
      refine ⟨accepted.owners, ?_⟩
      intro key member
      cases List.mem_append.mp member with
      | inl old => exact accepted.keys key old
      | inr last =>
          rw [List.mem_singleton.mp last]
          exact new row rfl
  | setDeviceStatus reach status =>
      refine ⟨?_, accepted.keys⟩
      intro device member
      obtain ⟨old, present, rfl⟩ := mem_updateWhere.mp member
      have named := accepted.owners old present
      split
      · exact named
      · exact named
  | revokeKeys reach | retireKey reach deviceKeyId =>
      refine ⟨accepted.owners, ?_⟩
      intro key member
      obtain ⟨old, present, rfl⟩ := mem_updateWhere.mp member
      have wide := accepted.keys old present
      split
      · exact wide
      · exact wide

theorem KeysAccepted.keep (accepted : KeysAccepted store) (keeps : ∀ row, write ≠ .insertKey row) :
    KeysAccepted (store.apply write) :=
  accepted.apply fun row same => absurd same (keeps row)

theorem KeysAccepted.change {operation : ClientOperation} (accepted : KeysAccepted store)
    (change : ClientChange sha256 store operation store') : KeysAccepted store' := by
  cases change with
  | @registered accounts clock request valid device key =>
      have named : request.scope.ids.any isNil = false := by
        simp only [ClientDeviceRegistration.validate, unit_bind_ok, reject_ok,
          List.any_eq_false] at valid
        refine List.any_eq_false.mpr ?_
        intro id member
        exact valid.1 id (List.mem_append_left _ (List.mem_cons_of_mem _ member))
      constructor
      · intro device member
        cases List.mem_append.mp member with
        | inl old => exact accepted.owners device old
        | inr last =>
            rw [List.mem_singleton.mp last]
            exact named
      · intro key member
        cases List.mem_append.mp member with
        | inl old => exact accepted.keys key old
        | inr last =>
            rw [List.mem_singleton.mp last]
            exact ClientDeviceRegistration.validate_key valid
  | granted | activated | swept => exact accepted.keep (by simp)
  | published => exact (accepted.keep (by simp)).keep (by simp)
  | revoked | suspended => exact ((accepted.keep (by simp)).keep (by simp)).keep (by simp)
  | rotated valid =>
      refine (((accepted.keep (by simp)).apply ?_).keep (by simp)).keep (by simp)
      intro row same
      rw [← ClientWrite.insertKey.inj same]
      exact ClientDeviceKeyRotation.validate_key valid

theorem KeysAccepted.clients (accepted : KeysAccepted store)
    (change : ClientsChange sha256 store store') :
    KeysAccepted store' := by
  cases change with
  | same => exact accepted
  | changed change => exact accepted.change change
  | switched selected mode =>
      refine ⟨?_, accepted.keys⟩
      intro device member
      obtain ⟨old, present, rfl⟩ := mem_updateWhere.mp member
      have named := accepted.owners old present
      split
      · exact named
      · exact named

/-- A stored policy is the document that was published, under its own hash. -/
structure ClientAccessPolicyRow.Published (codec : ClientCodec) (row : ClientAccessPolicyRow) :
    Prop where
  valid : row.policy.validate = .ok ()
  columns : row.policy.policyId = row.id ∧ row.policy.generation = row.generation ∧
    row.policy.tenantId = row.tenantId
  hashed : row.contentHash = codec.sha256 (codec.policyJson row.policy)

def ClientPolicyBindingRow.names (binding : ClientPolicyBindingRow)
    (policy : ClientAccessPolicyRow) : Prop :=
  policy.id = binding.policyId ∧ policy.organizationId = binding.scope.organizationId ∧
    policy.tenantId = binding.scope.tenantId

structure PoliciesBound (codec : ClientCodec) (plane : ClientPlane) : Prop where
  ids : (plane.policies.map (·.id)).Nodup
  published : ∀ row ∈ plane.policies, row.Published codec
  bound : ∀ binding ∈ plane.bindings, ∃ policy ∈ plane.policies, binding.names policy
  devices : (plane.bindings.map fun binding =>
    (binding.scope.tenantId, binding.clientDeviceId)).Nodup

section Bound

variable {codec : ClientCodec} {plane : ClientPlane}

theorem PoliciesBound.publish (sound : PoliciesBound codec plane)
    {request : ClientPolicyPublication} (accepted : PolicyAccepted codec plane request) :
    PoliciesBound codec { plane with
      policies := policyVersions.publish plane.policies (request.newRow codec) } := by
  refine ⟨?_, ?_, ?_, sound.devices⟩
  · rw [Versioned.publish, List.map_append, map_updateWhere (by intro row; rfl), ← List.map_append]
    refine nodup_concat_key sound.ids ?_
    intro old member same
    have free := accepted.2.2.2.2 old member
    rw [ClientAccessPolicyRow.clashes, Bool.or_eq_false_iff, decide_eq_false_iff_not] at free
    exact free.1 same
  · intro row member
    cases List.mem_append.mp member with
    | inl updated =>
        obtain ⟨old, present, rfl⟩ := mem_updateWhere.mp updated
        obtain ⟨valid, columns, hashed⟩ := sound.published old present
        split
        · exact ⟨valid, columns, hashed⟩
        · exact ⟨valid, columns, hashed⟩
    | inr new =>
        rw [List.mem_singleton.mp new]
        exact ⟨accepted.1, ⟨rfl, rfl, rfl⟩, rfl⟩
  · intro binding member
    obtain ⟨policy, present, names⟩ := sound.bound binding member
    refine ⟨_, List.mem_append_left _ (mem_updateWhere.mpr ⟨policy, present, rfl⟩), ?_⟩
    split
    · exact names
    · exact names

theorem ClientPolicyBinding.policyActive_names (active : request.policyActive plane = true)
    (bindingId : Uuid) :
    ∃ policy ∈ plane.policies, (request.row codec bindingId).names policy := by
  obtain ⟨policy, present, selected⟩ := List.any_eq_true.mp active
  simp only [ClientAccessPolicyRow.activeOf, Bool.and_eq_true, decide_eq_true_eq] at selected
  exact ⟨policy, present, selected.1.1, selected.1.2, selected.2.1⟩

theorem PoliciesBound.bind (sound : PoliciesBound codec plane) {bindingId : Uuid}
    {bindings : List ClientPolicyBindingRow} {bindingRequests : List ClientBindingRequestRow}
    (active : request.policyActive plane = true)
    (written : writeBinding codec plane.bindings request = some (bindingId, bindings)) :
    PoliciesBound codec { plane with bindings, bindingRequests } := by
  have names : ∀ bindingId, ∃ policy ∈ plane.policies, (request.row codec bindingId).names policy :=
    ClientPolicyBinding.policyActive_names active
  rw [writeBinding] at written
  split at written
  · rename_i current found
    have member := List.mem_of_find?_eq_some found
    have own := List.find?_some found
    simp only [ClientPolicyBinding.ofDevice, Bool.and_eq_true, decide_eq_true_eq] at own
    simp only [Option.ite_none_left_eq_some, Option.some.injEq, Prod.mk.injEq] at written
    obtain ⟨-, -, rfl⟩ := written
    refine ⟨sound.ids, sound.published, ?_, ?_⟩
    · intro binding present
      obtain ⟨old, before, rfl⟩ := mem_updateWhere.mp present
      split
      · exact names current.id
      · exact sound.bound old before
    · have same : (updateWhere (fun row => row == current)
          (fun _ => request.row codec current.id) plane.bindings).map
            (fun binding => (binding.scope.tenantId, binding.clientDeviceId)) =
          plane.bindings.map fun binding => (binding.scope.tenantId, binding.clientDeviceId) := by
        rw [updateWhere, List.map_map]
        refine List.map_congr_left ?_
        intro row _
        simp only [Function.comp_apply]
        split
        · rename_i rewritten
          rw [eq_of_beq rewritten, own.1.2, own.2]
          rfl
        · rfl
      change (List.map _ (updateWhere _ _ plane.bindings)).Nodup
      rw [same]
      exact sound.devices
  · simp only [Option.map_eq_some_iff, Prod.mk.injEq] at written
    obtain ⟨rows, inserted, -, rfl⟩ := written
    obtain ⟨free, rfl⟩ := insertRow_some.mp inserted
    refine ⟨sound.ids, sound.published, ?_, ?_⟩
    · intro binding present
      cases List.mem_append.mp present with
      | inl old => exact sound.bound binding old
      | inr new =>
          rw [List.mem_singleton.mp new]
          exact names request.bindingId
    · refine nodup_concat_key sound.devices ?_
      intro old before same
      obtain ⟨tenant, device⟩ := Prod.mk.inj same
      have apart := free old before
      simp [ClientPolicyBindingRow.clashes, tenant, device] at apart

theorem planeStep_bound (services : ClientServices) (plane : ClientPlane) (call : PlaneCall)
    (sound : PoliciesBound services.codec.toClientCodec plane) :
    PoliciesBound services.codec.toClientCodec (planeStep services plane call) := by
  have change := planeStep_change services plane call
  generalize planeStep services plane call = plane' at change
  cases change with
  | same | accounts | topology | lifecycle | settings | switched | granted | published =>
      exact ⟨sound.ids, sound.published, sound.bound, sound.devices⟩
  | policy accepted => exact sound.publish accepted
  | bound active written => exact sound.bind active written

end Bound

/-- What holds along a run of the rows a snapshot is read from. -/
structure SnapshotRows (codec : ClientCodec) (plane : ClientPlane) : Prop where
  life : ClientLifecycle plane.clients
  accepted : KeysAccepted plane.clients
  bound : PoliciesBound codec plane

theorem run_snapshotRows (services : ClientServices) (accounts : Accounts) (topology : Topology)
    (calls : List PlaneCall) :
    SnapshotRows services.codec.toClientCodec (services.reached accounts topology calls) := by
  refine run_invariant (P := SnapshotRows services.codec.toClientCodec) ?_ ?_ calls
  · intro plane call rows
    have change := planeStep_clients services plane call
    exact ⟨rows.life.clients change, rows.accepted.clients change,
      planeStep_bound services plane call rows.bound⟩
  · exact ⟨empty_lifecycle, ⟨nofun, nofun⟩, ⟨List.nodup_nil, nofun, nofun, List.nodup_nil⟩⟩

/-- The device, its key, the policy it is bound to and the accounts around them are
    active. -/
structure ClientPlane.InUse (plane : ClientPlane) (device : ClientDeviceRow)
    (key : ClientDeviceKeyRow) (policy : ClientAccessPolicyRow) : Prop where
  standing : device ∈ plane.clients.devices ∧ device.status = .active
  held : key ∈ plane.clients.keys ∧ key.clientDeviceId = device.id ∧ key.status = .active
  stored : policy ∈ plane.policies ∧ policy.status = .active
  bound : ∃ binding ∈ plane.bindings, binding.clientDeviceId = device.id ∧
    binding.scope = device.scope ∧ policy.id = binding.policyId
  tenancy : ∃ tenant ∈ plane.accounts.tenants, tenant.id = device.scope.tenantId ∧
    tenant.organizationId = device.scope.organizationId ∧ tenant.status = .active
  user : plane.accounts.activeUser device.scope.userId = true
  member : plane.accounts.activeMember device.scope.organizationId device.scope.userId = true

section Snapshot

variable {codec : ClientCodec} {plane : ClientPlane} {device : ClientDeviceRow}
  {key : ClientDeviceKeyRow} {policy : ClientAccessPolicyRow}
  (rows : SnapshotRows codec plane) (inUse : plane.InUse device key policy)

include rows inUse

theorem SnapshotRows.unique {device' : ClientDeviceRow} {key' : ClientDeviceKeyRow}
    {policy' : ClientAccessPolicyRow}
    (authorizes : plane.Authorizes device.scope device.id device' key' policy') :
    (device', key', policy') = (device, key, policy) := by
  obtain ⟨⟨present, -, named, -⟩, -, ⟨held, owner, -, live⟩, ⟨binding, member, bound, scope, policyId,
    -⟩, stored⟩ := authorizes
  have sameDevice : device' = device :=
    eq_of_key rows.life.records.ids present inUse.standing.1 named
  subst sameDevice
  have sameKey : key' = key := by
    have keyed := rows.life.keys device' present
    have standing : ¬ device'.status = .revoked := by simp [inUse.standing.2]
    rw [ClientDeviceRow.KeyedBy, if_neg standing] at keyed
    obtain ⟨only, single⟩ := List.length_eq_one_iff.mp keyed
    have first : key' ∈ plane.clients.activeKeys device'.id := mem_activeKeys.mpr ⟨held, owner, live⟩
    have second : key ∈ plane.clients.activeKeys device'.id := mem_activeKeys.mpr inUse.held
    rw [single, List.mem_singleton] at first second
    exact first.trans second.symm
  obtain ⟨binding', member', bound', scope', policyId'⟩ := inUse.bound
  have sameBinding : binding = binding' := by
    refine eq_of_key rows.bound.devices member member' ?_
    simp only [scope, bound, scope', bound']
  have samePolicy : policy' = policy := by
    refine eq_of_key rows.bound.ids stored inUse.stored.1 ?_
    rw [policyId, policyId', sameBinding]
  rw [sameKey, samePolicy]

theorem SnapshotRows.authorizes
    (organization : plane.accounts.activeOrganization device.scope.organizationId = true) :
    plane.Authorizes device.scope device.id device key policy := by
  obtain ⟨held, owner, live⟩ := inUse.held
  obtain ⟨binding, member, bound, scope, policyId⟩ := inUse.bound
  obtain ⟨tenant, listed, tenantId, owned, active⟩ := inUse.tenancy
  refine ⟨⟨inUse.standing.1, rfl, rfl, inUse.standing.2⟩, ⟨?_, inUse.user, inUse.member⟩,
    ⟨held, owner, ?_, live⟩, ⟨binding, member, bound, scope, policyId, ?_⟩, inUse.stored.1⟩
  · refine List.any_eq_true.mpr ⟨tenant, listed, ?_⟩
    simp only [tenantId, owned, active, organization, decide_true, Bool.and_true]
  · have keyed := rows.life.records.keyed key held
    rw [owner] at keyed
    exact rows.life.records.owner_unique keyed ⟨device, inUse.standing.1, rfl, rfl⟩
  · obtain ⟨named, stored, same, organizationId, tenant⟩ := rows.bound.bound binding member
    have one : named = policy := by
      refine eq_of_key rows.bound.ids stored inUse.stored.1 ?_
      rw [same, policyId]
    rw [← one]
    exact ⟨organizationId, tenant, one ▸ inUse.stored.2⟩

theorem SnapshotRows.authorized
    (organization : plane.accounts.activeOrganization device.scope.organizationId = true) :
    plane.authorized device.scope device.id = some (device, key, policy) := by
  have member := mem_authorizedRows.mpr (rows.authorizes inUse organization)
  change (plane.authorizedRows device.scope device.id).head? = _
  cases found : plane.authorizedRows device.scope device.id with
  | nil =>
      rw [found] at member
      cases member
  | cons first others =>
      obtain ⟨device', key', policy'⟩ := first
      have authorizes := mem_authorizedRows.mp (found ▸ List.mem_cons_self)
      rw [List.head?_cons, rows.unique inUse authorizes]

theorem SnapshotRows.read {snapshot : ClientAuthorizationSnapshot}
    (read : authorizationSnapshot codec plane device.scope device.id = .ok (some snapshot)) :
    key.publicKey.length = 32 ∧
      plane.accounts.activeOrganization device.scope.organizationId = true ∧
      policy.contentHash ≠ zeroHash := by
  rw [authorizationSnapshot, unit_bind_ok] at read
  obtain ⟨-, read⟩ := read
  cases found : plane.authorized device.scope device.id with
  | none =>
      rw [found] at read
      cases read
  | some row =>
      obtain ⟨device', key', policy'⟩ := row
      have authorizes := authorized_authorizes found
      obtain ⟨rfl, rfl, rfl⟩ : device' = device ∧ key' = key ∧ policy' = policy := by
        simpa using rows.unique inUse authorizes
      rw [found] at read
      simp only at read
      rw [orElse_bind_ok] at read
      obtain ⟨publicKey, fixed, read⟩ := read
      rw [unit_bind_ok, unit_bind_ok] at read
      obtain ⟨-, valid, -⟩ := read
      rw [ClientAuthorizationSnapshot.validate, unit_bind_ok, reject_ok] at valid
      simp only [Bool.or_eq_false_iff, beq_eq_false_iff_ne] at valid
      refine ⟨fixedHash_isSome.mp ⟨publicKey, fixed⟩, ?_, valid.1.2⟩
      obtain ⟨tenant, -, active⟩ := List.any_eq_true.mp authorizes.served.1
      simp only [Bool.and_eq_true, decide_eq_true_eq] at active
      rw [← active.1.1.2]
      exact active.2

theorem SnapshotRows.answers {publicKey : Hash} (fixed : fixedHash key.publicKey = some publicKey)
    (organization : plane.accounts.activeOrganization device.scope.organizationId = true)
    (hashed : policy.contentHash ≠ zeroHash) :
    authorizationSnapshot codec plane device.scope device.id = .ok (some
      { scope := device.scope
        clientDeviceId := device.id
        deviceKeyId := key.deviceKeyId
        platform := device.platform
        deviceGeneration := device.generation
        publicKey
        policy := policy.policy
        policyContentHash := policy.contentHash }) := by
  have authorizes := rows.authorizes inUse organization
  have named := rows.life.records.named device inUse.standing.1
  have keyNamed := rows.life.records.keyNamed key inUse.held.1
  have owners := rows.accepted.owners device inUse.standing.1
  have published := rows.bound.published policy inUse.stored.1
  have set := fixedHash_ne_zero (rows.accepted.keys key inUse.held.1) fixed
  have tenant : policy.policy.tenantId = device.scope.tenantId := by
    obtain ⟨binding, -, -, scope, -, -, tenantId, -⟩ := authorizes.bound
    rw [published.columns.2.2, tenantId, scope]
  have generation : policy.policy.generation ≠ 0 := by
    have valid := published.valid
    simp only [ClientAccessPolicy.validate, unit_bind_ok, reject_ok, Bool.or_eq_false_iff,
      beq_eq_false_iff_ne] at valid
    exact valid.1.1.1.1.1.2
  have computed : policy.policy.contentHash codec = .ok policy.contentHash := by
    rw [ClientAccessPolicy.contentHash, published.valid, published.hashed]
    rfl
  rw [authorizationSnapshot, unit_bind_ok, reject_ok, List.any_append, owners]
  refine ⟨by simp [named.1], ?_⟩
  rw [rows.authorized inUse organization]
  simp only
  rw [orElse_bind_ok]
  refine ⟨publicKey, fixed, ?_⟩
  rw [unit_bind_ok, unit_bind_ok, reject_ok, pure_ok]
  refine ⟨by simp [published.columns.1, published.columns.2.1], ?_, rfl⟩
  rw [ClientAuthorizationSnapshot.validate, unit_bind_ok, bind_ok, reject_ok, List.any_append,
    owners]
  refine ⟨by simp [named, keyNamed, set, tenant, generation, hashed], policy.contentHash, ?_, ?_⟩
  · rw [mapError_ok, computed]
  · rw [reject_ok, decide_eq_false_iff_not, not_not]

end Snapshot

/-- After any sequence of calls, the key of an active device is read into a snapshot
    exactly when it has thirty-two bytes, its organization is active and the bound
    policy does not hash to zero. -/
theorem stored_key_usable_iff (services : ClientServices) (accounts : Accounts)
    (topology : Topology) (calls : List PlaneCall) (device : ClientDeviceRow)
    (key : ClientDeviceKeyRow) (policy : ClientAccessPolicyRow)
    (inUse : (services.reached accounts topology calls).InUse device key policy) :
    (∃ snapshot, authorizationSnapshot services.codec.toClientCodec
        (services.reached accounts topology calls) device.scope device.id = .ok (some snapshot) ∧
      snapshot.deviceKeyId = key.deviceKeyId ∧
      fixedHash key.publicKey = some snapshot.publicKey) ↔
    key.publicKey.length = 32 ∧
      (services.reached accounts topology calls).accounts.activeOrganization
        device.scope.organizationId = true ∧
      policy.contentHash ≠ zeroHash := by
  have rows := run_snapshotRows services accounts topology calls
  constructor
  · rintro ⟨snapshot, read, -⟩
    exact rows.read inUse read
  · rintro ⟨wide, organization, hashed⟩
    obtain ⟨publicKey, fixed⟩ := fixedHash_isSome.mpr wide
    exact ⟨_, rows.answers inUse fixed organization hashed, rfl, fixed⟩

def terminalDeviceRow : ClientDeviceRow where
  id := 7
  scope := ⟨1, 2, 3⟩
  deviceId := 4
  platform := .macos
  displayName := "laptop"
  installId := "install-1"
  requestId := 41
  requestHash := 0x7a3a966d33c5e254bb6940dc50cafe80865f950c4421b591c5610aff14563789
  clientVersion := none
  status := .active
  trafficMode := .policy
  generation := 1

def terminalKeyRow (deviceKeyId : Uuid) (publicKey : Bytes) (createdAt : Instant) :
    ClientDeviceKeyRow :=
  ⟨⟨1, 2, 3⟩, 7, deviceKeyId, publicKey, .active, createdAt⟩

def terminalRegisteredKey : ClientDeviceKeyRow :=
  terminalKeyRow 5
    (hashBytes 0xd75a980182b10ab7d54bfed3c964073a0ee172f3daa62325af021a68f707511a) 0

def terminalPolicyRow : ClientAccessPolicyRow :=
  ClientPolicyPublication.newRow terminalServices.codec.toClientCodec
    ⟨terminalPolicy 31 1 true, 1, 3, 42⟩

def longRotation : List PlaneCall :=
  terminalCalls.take 3 ++ [.lifecycle (.rotateDeviceKey ⟨1, 2, 4, 6, List.replicate 33 7⟩ 1)]

theorem terminal_inUse :
    (terminalAfter (terminalCalls.take 3)).InUse terminalDeviceRow terminalRegisteredKey
      terminalPolicyRow := by
  constructor <;> decide +kernel

theorem registered_key_usable :
    ∃ snapshot, authorizationSnapshot terminalServices.codec.toClientCodec
        (terminalAfter (terminalCalls.take 3)) ⟨1, 2, 3⟩ 7 = .ok (some snapshot) ∧
      snapshot.deviceKeyId = 5 ∧
      fixedHash terminalRegisteredKey.publicKey = some snapshot.publicKey := by
  refine (stored_key_usable_iff terminalServices terminalAccounts terminalTopology
    (terminalCalls.take 3) _ _ _ terminal_inUse).mpr ?_
  decide +kernel

/-- A key of 33 bytes is in use and cannot be read. -/
theorem long_key_unusable :
    (terminalAfter longRotation).InUse terminalDeviceRow
      (terminalKeyRow 6 (List.replicate 33 7) 1) terminalPolicyRow ∧
    authorizationSnapshot terminalServices.codec.toClientCodec (terminalAfter longRotation)
      ⟨1, 2, 3⟩ 7 = .error .invalidRecord := by
  constructor
  · constructor <;> decide +kernel
  · decide +kernel

end CandyCloud
