import CandyCloud.Client.Lifecycle

/-! # Acknowledged revocations

`revoke_client_device` looks the device up, revokes it and sweeps its projections in three
separate calls, and answers `revoked` whatever the middle one found.
-/

namespace CandyCloud

open Foundation

structure RevokeEnvelope where
  apiVersion : Nat
  messageType : String
  requestId : Uuid
  deviceId : Uuid
  deviceKeyId : Uuid
deriving DecidableEq, Repr

/-- A request with the scope of its session and the device of its path. -/
structure RevokeRequest where
  scope : ClientScope
  deviceId : Uuid
  envelope : RevokeEnvelope
deriving DecidableEq, Repr

structure RevokeResponse where
  requestId : Uuid
  deviceId : Uuid
  deviceKeyId : Uuid
  revoked : Bool
deriving DecidableEq, Repr

inductive RevokeError where
  | invalidApiVersion
  | invalidMessageType
  | invalidRequestId
  | deviceBindingMismatch
  | deviceNotFound
  | forbidden
  | clientControl (error : ClientControlError)
  | storage
deriving DecidableEq, Repr

def clientApiVersion : Nat := 1

def checkEnvelope (envelope : RevokeEnvelope) (expected : String) : Except RevokeError Unit := do
  reject (decide (envelope.apiVersion ≠ clientApiVersion)) .invalidApiVersion
  reject (decide (envelope.messageType ≠ expected)) .invalidMessageType
  reject (isNil envelope.requestId) .invalidRequestId

def resolveDevice (store : ClientStore) (scope : ClientScope) (deviceId : Uuid) :
    Except RevokeError ClientDeviceLookup := do
  let lookup ← (deviceByWireId store scope deviceId).mapError .clientControl
  orElse .deviceNotFound lookup

/-- What the handler goes on with after the lookup. -/
structure PendingRevocation where
  recordId : Uuid
  deviceKeyId : Uuid
deriving DecidableEq, Repr

def openRevocation (store : ClientStore) (request : RevokeRequest) :
    Except RevokeError PendingRevocation := do
  checkEnvelope request.envelope "revoke_request"
  reject (decide (request.envelope.deviceId ≠ request.deviceId)) .deviceBindingMismatch
  match ← resolveDevice store request.scope request.deviceId with
  | .revoked recordId _ => return ⟨recordId, request.envelope.deviceKeyId⟩
  | .suspended recordId _ => return ⟨recordId, request.envelope.deviceKeyId⟩
  | .active device => do
      reject (decide (device.deviceKeyId ≠ request.envelope.deviceKeyId)) .forbidden
      return ⟨device.recordId, device.deviceKeyId⟩

def RevokeRequest.revocation (request : RevokeRequest) (pending : PendingRevocation) :
    ClientOperation :=
  .call (.revokeDevice ⟨request.scope, request.deviceId, pending.deviceKeyId⟩)

def RevokeRequest.sweep (request : RevokeRequest) (pending : PendingRevocation) : ClientOperation :=
  .call (.revokeProjections ⟨request.scope, pending.recordId, pending.deviceKeyId⟩)

/-- The handler with the calls of others before and after its `revoke_device`. -/
def revokeClientDevice (sha256 : Bytes → Hash) (store : ClientStore) (request : RevokeRequest)
    (before after : List ClientOperation) : Except RevokeError (RevokeResponse × ClientStore) := do
  let pending ← openRevocation store request
  let revoked := serveClient sha256 (run (lifecycleStep sha256) store before)
    (request.revocation pending)
  reject revoked.1.failed .storage
  let swept := serveClient sha256 (run (lifecycleStep sha256) revoked.2 after)
    (request.sweep pending)
  reject swept.1.failed .storage
  return (⟨request.envelope.requestId, request.deviceId, pending.deviceKeyId, true⟩, swept.2)

/-- The device is not handed out as active and nothing of it is in force. -/
def Gone (store : ClientStore) (scope : ClientScope) (deviceId : Uuid) : Prop :=
  (∀ record, deviceByWireId store scope deviceId ≠ .ok (some (.active record))) ∧
  ∀ device ∈ store.devices, device.scope = scope → device.deviceId = deviceId →
    (∀ grant ∈ store.grants, grant.audience.clientDeviceId = device.id →
      grant.status ≠ .active) ∧
    ∀ projection ∈ store.projections, projection.audience.clientDeviceId = device.id →
      projection.status ≠ .published

/-- In this state a revocation under the key ends the device: it is active with
    that key, or revoked with no projection published under another one. -/
def Terminates (store : ClientStore) (scope : ClientScope) (deviceId deviceKeyId : Uuid) : Prop :=
  ∃ device ∈ store.devices, device.scope = scope ∧ device.deviceId = deviceId ∧
    ((device.status = .active ∧ store.keyActive ⟨scope, device.id, deviceKeyId⟩ = true) ∨
      (device.status = .revoked ∧ ∀ projection ∈ store.publishedOf device.id,
        projection.audience.deviceKeyId = deviceKeyId))

instance (store : ClientStore) (scope : ClientScope) (deviceId deviceKeyId : Uuid) :
    Decidable (Terminates store scope deviceId deviceKeyId) :=
  inferInstanceAs (Decidable (∃ device ∈ store.devices, _))

/-- A revoked device whose published projections are all under the given keys. -/
structure Sealed (store : ClientStore) (device : ClientDeviceRow) (allowed : Uuid → Prop) :
    Prop where
  member : device ∈ store.devices
  revoked : device.status = .revoked
  published : ∀ projection ∈ store.publishedOf device.id, allowed projection.audience.deviceKeyId

variable {projection : ClientProjectionRow} {audience : ClientAudience}
  {operation : ClientOperation} {deviceKeyId : Uuid}

section Sealed

variable {sha256 : Bytes → Hash} {store store' : ClientStore} {device : ClientDeviceRow}
  {allowed : Uuid → Prop}

theorem mem_publishedOf {recordId : Uuid} :
    projection ∈ store.publishedOf recordId ↔ projection ∈ store.projections ∧
      projection.audience.clientDeviceId = recordId ∧ projection.status = .published := by
  simp only [ClientStore.publishedOf, List.mem_filter, Bool.and_eq_true, decide_eq_true_eq]

theorem ClientLifecycle.revoked_not_live (life : ClientLifecycle store)
    (member : device ∈ store.devices) (revoked : device.status = .revoked)
    (named : audience.clientDeviceId = device.id) :
    ¬ store.Live audience := by
  intro live
  obtain ⟨other, present, same, -, active⟩ := deviceIs_iff.mp live.1
  have equal := eq_of_key life.records.ids present member (same.trans named)
  subst equal
  rw [revoked] at active
  cases active

theorem ClientChange.published_cases (change : ClientChange sha256 store operation store')
    (life : ClientLifecycle store) (member : projection ∈ store'.projections)
    (published : projection.status = .published) :
    projection ∈ store.projections ∨ store.Live projection.audience := by
  cases change with
  | registered | granted | revoked | activated => exact .inl member
  | @published write grant next =>
      rcases mem_concat.mp member with old | new
      · rcases published_apply old published with kept | inserted
        · exact .inl kept
        · cases inserted
      · rw [new]
        obtain ⟨row, present, -, audience, active⟩ := grantActive_iff.mp grant
        have live := life.inForce.grants row present active
        rw [audience] at live
        exact .inr live
  | suspended | rotated | swept => exact .inl (published_of_sweep member published).1

theorem Sealed.change (change : ClientChange sha256 store operation store')
    (life : ClientLifecycle store) (sealed : Sealed store device allowed)
    : Sealed store' device allowed := by
  refine ⟨change.keeps_revoked life sealed.member sealed.revoked, sealed.revoked, ?_⟩
  intro projection member
  obtain ⟨present, named, published⟩ := mem_publishedOf.mp member
  rcases change.published_cases life present published with old | live
  · exact sealed.published projection (mem_publishedOf.mpr ⟨old, named, published⟩)
  · exact absurd live (life.revoked_not_live sealed.member sealed.revoked named)

theorem Sealed.step (operation : ClientOperation) (life : ClientLifecycle store)
    (sealed : Sealed store device allowed) :
    Sealed (lifecycleStep sha256 store operation) device allowed := by
  unfold lifecycleStep
  rcases serve_cases sha256 store operation with same | ⟨-, change⟩
  · rw [same]
    exact sealed
  · exact sealed.change change life

theorem Sealed.run (sha256 : Bytes → Hash) (operations : List ClientOperation)
    (life : ClientLifecycle store) (sealed : Sealed store device allowed) :
    Sealed (Foundation.run (lifecycleStep sha256) store operations) device allowed := by
  induction operations generalizing store with
  | nil => exact sealed
  | cons operation rest ih =>
      exact ih (lifecycleStep_lifecycle sha256 store operation life) (sealed.step operation life)

end Sealed

section Lookup

variable {store : ClientStore} {device : ClientDeviceRow}

section

variable (life : ClientLifecycle store) (member : device ∈ store.devices)

include life member

theorem ClientLifecycle.device_unique {other : ClientDeviceRow} (present : other ∈ store.devices)
    (scope : other.scope = device.scope) (named : other.deviceId = device.deviceId) :
    other = device := by
  refine eq_of_key life.records.wireIds present member ?_
  rw [scope, named]

theorem ClientLifecycle.find_device {wanted : ClientDeviceRow → Bool} (own : wanted device = true)
    (selects : ∀ other, wanted other = true →
      other.scope.tenantId = device.scope.tenantId ∧ other.deviceId = device.deviceId) :
    store.devices.find? wanted = some device := by
  obtain ⟨found, located⟩ := Option.isSome_iff_exists.mp
    (List.find?_isSome.mpr ⟨device, member, own⟩)
  obtain ⟨tenant, named⟩ := selects found (List.find?_some located)
  rw [located]
  congr 1
  refine eq_of_key life.records.wireIds (List.mem_of_find?_eq_some located) member ?_
  rw [tenant, named]

theorem ClientLifecycle.find_wire :
    (store.devices.find? fun other =>
      decide (other.scope = device.scope) && decide (other.deviceId = device.deviceId))
        = some device := by
  refine life.find_device member (by simp) ?_
  intro other selected
  simp only [Bool.and_eq_true, decide_eq_true_eq] at selected
  exact ⟨by rw [selected.1], selected.2⟩

theorem ClientLifecycle.lookup_revoked (revoked : device.status = .revoked)
    (record : ClientDeviceRecord) :
    deviceByWireId store device.scope device.deviceId ≠ .ok (some (.active record)) := by
  intro found
  simp only [deviceByWireId, unit_bind_ok, life.find_wire member, revoked, if_true,
    pure_ok] at found
  cases found.2

theorem ClientLifecycle.lookup_active (active : device.status = .active)
    (valid : (device.scope.ids ++ [device.deviceId]).any isNil = false) :
    ∃ record, deviceByWireId store device.scope device.deviceId = .ok (some (.active record)) := by
  have keyed := life.keys device member
  have standing : ¬ device.status = .revoked := by simp [active]
  rw [ClientDeviceRow.KeyedBy, if_neg standing] at keyed
  obtain ⟨only, single⟩ := List.length_eq_one_iff.mp keyed
  have current : only ∈ store.activeKeys device.id := by
    rw [single]
    exact List.mem_singleton_self only
  obtain ⟨present, owner, status⟩ := mem_activeKeys.mp current
  have owned := life.records.keyed only present
  rw [owner] at owned
  have scope := life.records.owner_unique owned ⟨device, member, rfl, rfl⟩
  obtain ⟨key, found⟩ := Option.isSome_iff_exists.mp
    (List.find?_isSome (p := fun key : ClientDeviceKeyRow =>
      decide (key.clientDeviceId = device.id) && decide (key.scope = device.scope) &&
        decide (key.status = .active)) |>.mpr ⟨only, present, by simp [owner, scope, status]⟩)
  have record : ((device.record key.deviceKeyId).validate) = .ok () := by
    have named := life.records.named device member
    have keyNamed := life.records.keyNamed key (List.mem_of_find?_eq_some found)
    simp only [List.any_append, List.any_cons, List.any_nil, Bool.or_false,
      Bool.or_eq_false_iff] at valid
    simp [ClientDeviceRecord.validate, ClientDeviceRow.record, named, keyNamed, valid]
  refine ⟨device.record key.deviceKeyId, ?_⟩
  simp only [deviceByWireId, unit_bind_ok, reject_ok, valid, life.find_wire member, active,
    reduceCtorEq, if_false, ClientStore.activeKeyOf, found, record, if_true, true_and]
  rfl

end

theorem Sealed.gone (life : ClientLifecycle store) (sealed : Sealed store device fun _ => False) :
    Gone store device.scope device.deviceId := by
  refine ⟨life.lookup_revoked sealed.member sealed.revoked, ?_⟩
  intro other present scope named
  have same := life.device_unique sealed.member present scope named
  subst same
  constructor
  · intro grant member owner active
    exact life.revoked_not_live sealed.member sealed.revoked owner
      (life.inForce.grants grant member active)
  · intro projection member owner published
    exact sealed.published projection (mem_publishedOf.mpr ⟨member, owner, published⟩)

end Lookup

section Calls

variable {sha256 : Bytes → Hash} {store : ClientStore} {device : ClientDeviceRow}

theorem serve_revocation (life : ClientLifecycle store) (member : device ∈ store.devices)
    (active : device.status = .active)
    (key : store.keyActive ⟨device.scope, device.id, deviceKeyId⟩ = true)
    (answered : (serveClient sha256 store
      (.call (.revokeDevice ⟨device.scope, device.deviceId, deviceKeyId⟩))).1.failed = false) :
    (serveClient sha256 store
      (.call (.revokeDevice ⟨device.scope, device.deviceId, deviceKeyId⟩))).2 =
    ((store.apply (.setDeviceStatus (ClientDeviceRevocation.reach
      ⟨device.scope, device.deviceId, deviceKeyId⟩ device.id) .revoked)).apply
        (.revokeKeys (ClientDeviceRevocation.reach
          ⟨device.scope, device.deviceId, deviceKeyId⟩ device.id))).apply
        (.revokeGrants (ClientDeviceRevocation.reach
          ⟨device.scope, device.deviceId, deviceKeyId⟩ device.id)) := by
  have locked : (lockRevokedDevice store ⟨device.scope, device.deviceId, deviceKeyId⟩).outcome
      = .next (.revokeDeviceLocked ⟨device.scope, device.deviceId, deviceKeyId⟩ device.id) [] := by
    simp only [lockRevokedDevice, life.find_wire member, locking, active, if_true]
    rfl
  have checked : (checkRevokedKey store ⟨device.scope, device.deviceId, deviceKeyId⟩
      device.id).outcome
      = .next (.revokeKeyChecked ⟨device.scope, device.deviceId, deviceKeyId⟩ device.id) [] := by
    simp only [checkRevokedKey, key, if_true]
    rfl
  simp only [serveClient, Transactions.serial, clientTransactions, clientOpening] at answered ⊢
  cases valid : (ClientDeviceRevocation.validate ⟨device.scope, device.deviceId, deviceKeyId⟩) with
  | error error =>
      rw [valid] at answered
      cases answered
  | ok _ =>
      refine Eq.trans (congrArg Prod.snd (Transactions.alone_next locked)) ?_
      refine Eq.trans (congrArg Prod.snd (Transactions.alone_next checked)) ?_
      refine Eq.trans (congrArg Prod.snd (Transactions.alone_next rfl)) ?_
      refine Eq.trans (congrArg Prod.snd (Transactions.alone_next rfl)) ?_
      refine Eq.trans (congrArg Prod.snd (Transactions.alone_next rfl)) ?_
      exact congrArg Prod.snd (Transactions.alone_commit rfl)

theorem serve_revocation_unchanged (life : ClientLifecycle store) (member : device ∈ store.devices)
    (stands : ¬ (device.status = .active ∧
      store.keyActive ⟨device.scope, device.id, deviceKeyId⟩ = true)) :
    (serveClient sha256 store
      (.call (.revokeDevice ⟨device.scope, device.deviceId, deviceKeyId⟩))).2 = store := by
  rcases serve_cases sha256 store
    (.call (.revokeDevice ⟨device.scope, device.deviceId, deviceKeyId⟩)) with same | ⟨-, change⟩
  · exact same
  · generalize (serveClient sha256 store _).2 = store' at change
    cases change with
    | @revoked _ other present scope named status key =>
        have equal := life.device_unique member present scope named
        subst equal
        exact absurd ⟨status, key⟩ stands

/-- The operator's call that brings a suspended device back. -/
def ClientDeviceRow.activation (device : ClientDeviceRow) : ClientOperation :=
  .call (.setDeviceStatus ⟨device.scope.organizationId, device.scope.tenantId, device.deviceId,
    .active⟩)

theorem serve_activation (sha256 : Bytes → Hash) (life : ClientLifecycle store)
    (member : device ∈ store.devices)
    (suspended : device.status = .suspended)
    (valid : (device.scope.ids ++ [device.deviceId]).any isNil = false) :
    { device with status := .active } ∈ (serveClient sha256 store device.activation).2.devices := by
  have found : store.managedDevice device.scope.organizationId device.scope.tenantId
      device.deviceId = some device := by
    refine life.find_device member (by simp) ?_
    intro other selected
    simp only [Bool.and_eq_true, decide_eq_true_eq] at selected
    exact ⟨selected.1.2, selected.2⟩
  have scopeValid : SetDeviceStatus.validate ⟨device.scope.organizationId, device.scope.tenantId,
      device.deviceId, .active⟩ = .ok () := by
    simp only [ClientScope.ids, List.cons_append, List.nil_append, List.any_cons, List.any_nil,
      Bool.or_false, Bool.or_eq_false_iff] at valid
    simp [SetDeviceStatus.validate, valid]
  have locked : (lockManagedDevice store ⟨device.scope.organizationId, device.scope.tenantId,
      device.deviceId, .active⟩).outcome = .next (.statusPlanned ⟨device.scope.organizationId,
        device.scope.tenantId, device.deviceId, .active⟩ device.id .active) [] := by
    simp only [lockManagedDevice, found, locking, suspended]
    rfl
  have served : (serveClient sha256 store device.activation).2 =
      store.apply (.setDeviceStatus ⟨device.id, device.scope.organizationId,
        device.scope.tenantId, none⟩ .active) := by
    simp only [serveClient, ClientDeviceRow.activation, Transactions.serial, clientTransactions,
      clientOpening, scopeValid]
    refine Eq.trans (congrArg Prod.snd (Transactions.alone_next locked)) ?_
    refine Eq.trans (congrArg Prod.snd (Transactions.alone_next rfl)) ?_
    exact congrArg Prod.snd (Transactions.alone_commit rfl)
  rw [served]
  refine mem_updateWhere.mpr ⟨device, member, if_pos ?_⟩
  exact covers_iff.mpr ⟨rfl, rfl, rfl, fun _ none => by cases none⟩

theorem serve_sweep
    (answered : (serveClient sha256 store (.call (.revokeProjections audience))).1.failed = false) :
    (serveClient sha256 store (.call (.revokeProjections audience))).2 =
      store.apply (.revokeProjections audience.reach (some audience.deviceKeyId)) := by
  simp only [serveClient, Transactions.serial, clientTransactions, clientOpening] at answered ⊢
  by_cases nil : audience.ids.any isNil = true
  · rw [if_pos nil] at answered
    cases answered
  · rw [if_neg nil]
    refine Eq.trans (congrArg Prod.snd (Transactions.alone_next rfl)) ?_
    exact congrArg Prod.snd (Transactions.alone_commit rfl)

theorem ClientChange.keeps_identity {store' : ClientStore}
    (change : ClientChange sha256 store operation store') (member : device ∈ store.devices) :
    ∃ row ∈ store'.devices, row.identity = device.identity := by
  have kept : ∀ reach status, ∃ row ∈ (store.apply (.setDeviceStatus reach status)).devices,
      row.identity = device.identity := by
    intro reach status
    refine ⟨_, List.mem_map_of_mem member, ?_⟩
    split
    · rfl
    · rfl
  cases change with
  | registered => exact ⟨device, List.mem_append_left _ member, rfl⟩
  | granted | published | rotated | swept => exact ⟨device, member, rfl⟩
  | revoked => exact kept _ _
  | suspended => exact kept _ _
  | activated => exact kept _ _

theorem run_keeps_identity (sha256 : Bytes → Hash) (operations : List ClientOperation)
    (member : device ∈ store.devices) :
    ∃ row ∈ (run (lifecycleStep sha256) store operations).devices,
      row.identity = device.identity := by
  induction operations generalizing store device with
  | nil => exact ⟨device, member, rfl⟩
  | cons operation rest ih =>
      rw [run_cons, lifecycleStep]
      rcases serve_cases sha256 store operation with same | ⟨-, change⟩
      · rw [same]
        exact ih member
      · obtain ⟨row, present, identity⟩ := change.keeps_identity member
        obtain ⟨last, reached, kept⟩ := ih present
        exact ⟨last, reached, kept.trans identity⟩

end Calls

section Handler

variable {sha256 : Bytes → Hash} {store : ClientStore} {request : RevokeRequest}

theorem openRevocation_ok {pending : PendingRevocation}
    (opened : openRevocation store request = .ok pending) :
    (request.scope.ids ++ [request.deviceId]).any isNil = false ∧
      pending.deviceKeyId = request.envelope.deviceKeyId ∧
      ∃ device ∈ store.devices, device.scope = request.scope ∧
        device.deviceId = request.deviceId ∧ device.id = pending.recordId := by
  simp only [openRevocation, unit_bind_ok, bind_ok (α := ClientDeviceLookup), resolveDevice,
    bind_ok (α := Option ClientDeviceLookup), mapError_ok, orElse_ok] at opened
  obtain ⟨-, -, lookup, ⟨_, found, rfl⟩, opened⟩ := opened
  simp only [deviceByWireId, unit_bind_ok, reject_ok] at found
  obtain ⟨valid, found⟩ := found
  refine ⟨valid, ?_⟩
  split at found
  · cases found
  · rename_i device located
    have matched := List.find?_some located
    simp only [Bool.and_eq_true, decide_eq_true_eq] at matched
    have named : ∀ {recordId deviceKeyId}, device.id = recordId →
        deviceKeyId = request.envelope.deviceKeyId →
        pending = ⟨recordId, deviceKeyId⟩ → pending.deviceKeyId = request.envelope.deviceKeyId ∧
          ∃ device ∈ store.devices, device.scope = request.scope ∧
            device.deviceId = request.deviceId ∧ device.id = pending.recordId := by
      rintro recordId deviceKeyId rfl rfl rfl
      exact ⟨rfl, device, List.mem_of_find?_eq_some located, matched.1, matched.2, rfl⟩
    split at found
    · cases found
      simp only [pure_ok] at opened
      exact named rfl rfl opened.symm
    · split at found
      · cases found
        simp only [pure_ok] at opened
        exact named rfl rfl opened.symm
      · rename_i key _
        simp only [unit_bind_ok] at found
        obtain ⟨-, found⟩ := found
        split at found
        · cases found
          simp only [unit_bind_ok, reject_ok, decide_eq_false_iff_not, not_not, pure_ok] at opened
          exact named rfl opened.1 opened.2.symm
        · cases found
          simp only [pure_ok] at opened
          exact named rfl rfl opened.symm

theorem revokeClientDevice_ok {before after : List ClientOperation} {response : RevokeResponse}
    {store' : ClientStore}
    (answered : revokeClientDevice sha256 store request before after = .ok (response, store')) :
    response.revoked = true ∧ ∃ pending, openRevocation store request = .ok pending ∧
      (serveClient sha256 (run (lifecycleStep sha256) store before)
        (request.revocation pending)).1.failed = false ∧
      (serveClient sha256 (run (lifecycleStep sha256)
        (serveClient sha256 (run (lifecycleStep sha256) store before)
          (request.revocation pending)).2 after) (request.sweep pending)).1.failed = false ∧
      store' = (serveClient sha256 (run (lifecycleStep sha256)
        (serveClient sha256 (run (lifecycleStep sha256) store before)
          (request.revocation pending)).2 after) (request.sweep pending)).2 := by
  simp only [revokeClientDevice, bind_ok (α := PendingRevocation), unit_bind_ok, reject_ok, pure_ok,
    Prod.mk.injEq] at answered
  obtain ⟨pending, opened, revoked, swept, rfl, rfl⟩ := answered
  exact ⟨rfl, pending, opened, revoked, swept, rfl⟩

variable {device : ClientDeviceRow}

theorem ClientLifecycle.key_unique (life : ClientLifecycle store)
    (key : store.keyActive ⟨device.scope, device.id, deviceKeyId⟩ = true)
    (named : audience.clientDeviceId = device.id) (live : store.Live audience)
    : audience.deviceKeyId = deviceKeyId := by
  obtain ⟨owner, -, same, -, -, only, single, keyId⟩ := life.active_key live
  obtain ⟨current, present, held, -, currentId, status⟩ := keyActive_iff.mp key
  have listed : current ∈ store.activeKeys owner.id :=
    mem_activeKeys.mpr ⟨present, held.trans (named.symm.trans same.symm), status⟩
  rw [single] at listed
  rw [← keyId, ← List.mem_singleton.mp listed]
  exact currentId

/-- A terminating revocation leaves a revoked device whose projections are all
    under the key of the request. -/
theorem sealed_of_terminates (life : ClientLifecycle store) (member : device ∈ store.devices)
    (terminates : (device.status = .active ∧
        store.keyActive ⟨device.scope, device.id, deviceKeyId⟩ = true) ∨
      (device.status = .revoked ∧ ∀ projection ∈ store.publishedOf device.id,
        projection.audience.deviceKeyId = deviceKeyId)) (answered : (serveClient sha256 store
      (.call (.revokeDevice ⟨device.scope, device.deviceId, deviceKeyId⟩))).1.failed = false) :
    Sealed (serveClient sha256 store
      (.call (.revokeDevice ⟨device.scope, device.deviceId, deviceKeyId⟩))).2
      { device with status := .revoked } (· = deviceKeyId) := by
  rcases terminates with ⟨active, key⟩ | ⟨revoked, published⟩
  · rw [serve_revocation life member active key answered]
    refine ⟨?_, rfl, ?_⟩
    · refine mem_updateWhere.mpr ⟨device, member, if_pos ?_⟩
      exact covers_iff.mpr ⟨rfl, rfl, rfl, fun userId same => Option.some.inj same⟩
    · intro projection listed
      obtain ⟨present, named, status⟩ := mem_publishedOf.mp listed
      rcases life.inForce.projections projection present status with live | gone
      · exact life.key_unique key named live
      · obtain ⟨other, otherMember, same, -, otherStatus⟩ := deviceIs_iff.mp gone
        have equal := eq_of_key life.records.ids otherMember member (same.trans named)
        subst equal
        rw [active] at otherStatus
        cases otherStatus
  · have same : { device with status := .revoked } = device := by rw [← revoked]
    rw [same]
    exact Sealed.step (.call (.revokeDevice ⟨device.scope, device.deviceId, deviceKeyId⟩)) life
      ⟨member, revoked, published⟩

theorem Sealed.sweep (life : ClientLifecycle store)
    (sealed : Sealed store device (· = deviceKeyId)) :
    Sealed (store.apply (.revokeProjections
      (ClientAudience.reach ⟨device.scope, device.id, deviceKeyId⟩) (some deviceKeyId))) device
      fun _ => False := by
  refine ⟨sealed.member, sealed.revoked, ?_⟩
  intro projection listed
  obtain ⟨present, named, status⟩ := mem_publishedOf.mp listed
  obtain ⟨old, spared⟩ := published_of_sweep present status
  have key := sealed.published projection (mem_publishedOf.mpr ⟨old, named, status⟩)
  have owner := life.records.projected projection old
  rw [named] at owner
  have scope := life.records.owner_unique owner ⟨device, sealed.member, rfl, rfl⟩
  have covered : (ClientAudience.reach ⟨device.scope, device.id, deviceKeyId⟩).covers
      projection.audience.clientDeviceId projection.audience.scope = true := by
    rw [named, scope]
    exact covers_iff.mpr ⟨rfl, rfl, rfl, fun userId same => Option.some.inj same⟩
  simp [ClientReach.liveProjection, covered, key, status] at spared

theorem final_of_terminates (life : ClientLifecycle store) (member : device ∈ store.devices)
    (terminates : (device.status = .active ∧
        store.keyActive ⟨device.scope, device.id, deviceKeyId⟩ = true) ∨
      (device.status = .revoked ∧ ∀ projection ∈ store.publishedOf device.id,
        projection.audience.deviceKeyId = deviceKeyId)) (after later : List ClientOperation)
    {revoked : ClientStore} (revocation : (serveClient sha256 store
      (.call (.revokeDevice ⟨device.scope, device.deviceId, deviceKeyId⟩))).1.failed = false)
    (result : revoked = (serveClient sha256 store
      (.call (.revokeDevice ⟨device.scope, device.deviceId, deviceKeyId⟩))).2)
    (sweep : (serveClient sha256 (run (lifecycleStep sha256) revoked after)
      (.call (.revokeProjections ⟨device.scope, device.id, deviceKeyId⟩))).1.failed = false) :
    Gone (run (lifecycleStep sha256) (serveClient sha256 (run (lifecycleStep sha256) revoked after)
      (.call (.revokeProjections ⟨device.scope, device.id, deviceKeyId⟩))).2 later)
      device.scope device.deviceId := by
  have sealed := sealed_of_terminates life member terminates revocation
  rw [← result] at sealed
  have lifeRevoked : ClientLifecycle revoked := by
    rw [result]
    exact lifecycleStep_lifecycle sha256 store _ life
  have lifeSweep := run_invariant (lifecycleStep_lifecycle sha256) lifeRevoked after
  have swept := (sealed.run sha256 after lifeRevoked).sweep lifeSweep
  have lifeSwept := lifecycleStep_lifecycle sha256 _
    (.call (.revokeProjections ⟨device.scope, device.id, deviceKeyId⟩)) lifeSweep
  rw [lifecycleStep, serve_sweep sweep] at lifeSwept
  rw [serve_sweep sweep]
  have lasting : Sealed _ { device with status := .revoked } fun _ => False :=
    Sealed.run sha256 later lifeSwept swept
  have gone := lasting.gone (run_invariant (lifecycleStep_lifecycle sha256) lifeSwept later)
  exact gone

/-- The condition is needed: otherwise the device is still there after the sweep,
    can be brought back by an operator, or keeps a published projection. -/
theorem terminates_of_final (life : ClientLifecycle store) (member : device ∈ store.devices)
    (valid : (device.scope.ids ++ [device.deviceId]).any isNil = false) {swept : ClientStore}
    (result : swept = (serveClient sha256 store
      (.call (.revokeDevice ⟨device.scope, device.deviceId, deviceKeyId⟩))).2.apply
        (.revokeProjections (ClientAudience.reach ⟨device.scope, device.id, deviceKeyId⟩)
          (some deviceKeyId))) (life' : ClientLifecycle swept)
    (final : ∀ later, Gone (run (lifecycleStep sha256) swept later) device.scope device.deviceId) :
    (device.status = .active ∧
        store.keyActive ⟨device.scope, device.id, deviceKeyId⟩ = true) ∨
      (device.status = .revoked ∧ ∀ projection ∈ store.publishedOf device.id,
        projection.audience.deviceKeyId = deviceKeyId) := by
  by_cases terminal : device.status = .active ∧
      store.keyActive ⟨device.scope, device.id, deviceKeyId⟩ = true
  · exact .inl terminal
  · rw [serve_revocation_unchanged life member terminal] at result
    have stays : device ∈ swept.devices := by
      rw [result]
      exact member
    cases status : device.status with
    | active =>
        obtain ⟨record, found⟩ := life'.lookup_active stays status valid
        exact absurd found ((final []).1 record)
    | suspended =>
        have back := serve_activation sha256 life' stays status valid
        have lifeBack := lifecycleStep_lifecycle sha256 swept device.activation life'
        obtain ⟨record, found⟩ := lifeBack.lookup_active back rfl valid
        exact absurd found ((final [device.activation]).1 record)
    | revoked =>
        refine .inr ⟨rfl, ?_⟩
        intro projection listed
        obtain ⟨present, named, published⟩ := mem_publishedOf.mp listed
        by_contra other
        have spared : projection ∈ swept.projections := by
          rw [result]
          refine mem_updateWhere.mpr ⟨projection, present, if_neg ?_⟩
          simp [ClientReach.liveProjection, other]
        exact ((final []).2 device stays rfl rfl).2 projection spared named published

end Handler

/-- Whatever other calls run before, during and after the handler, its answer is
    final exactly when its `revoke_device` met the device active under the key
    of the request, or revoked with nothing published under another key. -/
theorem acknowledged_revocation_final_iff (sha256 : Bytes → Hash)
    (operations before : List ClientOperation) (request : RevokeRequest) (response : RevokeResponse)
    (store' : ClientStore)
    (answered : revokeClientDevice sha256
      (run (lifecycleStep sha256) ClientStore.empty operations) request before []
        = .ok (response, store')) :
    (∀ after reply swept, revokeClientDevice sha256
        (run (lifecycleStep sha256) ClientStore.empty operations) request before after
          = .ok (reply, swept) →
      reply.revoked = true → ∀ later,
        Gone (run (lifecycleStep sha256) swept later) request.scope request.deviceId) ↔
    Terminates (run (lifecycleStep sha256) ClientStore.empty (operations ++ before)) request.scope
      request.deviceId request.envelope.deviceKeyId := by
  have life := run_lifecycle sha256 (operations ++ before)
  obtain ⟨revoked, pending, opened, -, swept, result⟩ := revokeClientDevice_ok answered
  obtain ⟨valid, key, owner, ownerMember, ownerScope, ownerNamed, recordId⟩ :=
    openRevocation_ok opened
  obtain ⟨device, member, identity⟩ := run_keeps_identity sha256 before ownerMember
  rw [← run_append] at member
  simp only [ClientDeviceRow.identity, Prod.mk.injEq] at identity
  obtain ⟨id, scope, named, -⟩ := identity
  rw [ownerScope] at scope
  rw [ownerNamed] at named
  rw [recordId] at id
  have revocation : request.revocation pending
      = .call (.revokeDevice ⟨device.scope, device.deviceId, request.envelope.deviceKeyId⟩) := by
    rw [RevokeRequest.revocation, scope, named, key]
  have sweep : request.sweep pending
      = .call (.revokeProjections ⟨device.scope, device.id, request.envelope.deviceKeyId⟩) := by
    rw [RevokeRequest.sweep, scope, id, key]
  rw [← scope, ← named] at valid ⊢
  constructor
  · intro final
    have lasting := final [] response store' answered revoked
    rw [run_nil, revocation, sweep, ← run_append] at result
    rw [run_nil, revocation, sweep, ← run_append] at swept
    have life' := lifecycleStep_lifecycle sha256 _
      (.call (.revokeProjections ⟨device.scope, device.id, request.envelope.deviceKeyId⟩))
      (lifecycleStep_lifecycle sha256 _
        (.call (.revokeDevice ⟨device.scope, device.deviceId, request.envelope.deviceKeyId⟩)) life)
    rw [lifecycleStep, lifecycleStep, ← result] at life'
    rw [serve_sweep swept] at result
    exact ⟨device, member, rfl, rfl, terminates_of_final life member valid result life' lasting⟩
  · intro terminates after reply swept answered' _ later
    obtain ⟨same, present, sameScope, sameNamed, terminates⟩ := terminates
    have equal := life.device_unique member present sameScope sameNamed
    subst equal
    obtain ⟨-, pending', opened', revoked', swept', result'⟩ := revokeClientDevice_ok answered'
    have agree : pending' = pending := Except.ok.inj (opened'.symm.trans opened)
    subst agree
    rw [revocation, ← run_append] at revoked'
    rw [revocation, sweep, ← run_append] at swept' result'
    rw [result']
    exact final_of_terminates life member terminates after later revoked' rfl swept'

def sampleAccounts : Accounts :=
  ⟨[⟨1, .active⟩], [⟨2, 1, .active⟩], [⟨3, true⟩], [⟨1, 3, true⟩]⟩

def sampleRegistration : ClientOperation :=
  .register sampleAccounts 0 ⟨7, ⟨1, 2, 3⟩, 4, 5, .macos, "notebook", "install-1", none, 1, 8, 3⟩

def sampleSuspension : ClientOperation := .call (.setDeviceStatus ⟨1, 2, 4, .suspended⟩)

def sampleActivation : ClientOperation := .call (.setDeviceStatus ⟨1, 2, 4, .active⟩)

def sampleRevokeRequest : RevokeRequest := ⟨⟨1, 2, 3⟩, 4, ⟨1, "revoke_request", 9, 4, 5⟩⟩

/-- A suspended device answers `revoked` and is back after the operator's call. -/
theorem acknowledged_revocation_undone :
    ¬ ∀ (sha256 : Bytes → Hash) (operations before after later : List ClientOperation)
      (request : RevokeRequest) (response : RevokeResponse) (store' : ClientStore),
      revokeClientDevice sha256 (run (lifecycleStep sha256) ClientStore.empty operations) request
        before after = .ok (response, store') →
      response.revoked = true →
      Gone (run (lifecycleStep sha256) store' later) request.scope request.deviceId := by
  intro claim
  have gone := claim sampleDigest [sampleRegistration, sampleSuspension] [] [] [sampleActivation]
    sampleRevokeRequest ⟨9, 4, 5, true⟩
    (run (lifecycleStep sampleDigest) ClientStore.empty [sampleRegistration, sampleSuspension])
    (by decide +kernel) rfl
  exact gone.1 ⟨7, ⟨1, 2, 3⟩, 4, 5, .macos, 1, .policy⟩ (by decide +kernel)

theorem acknowledged_revocation_final_iff_active :
    Terminates (run (lifecycleStep sampleDigest) ClientStore.empty [sampleRegistration])
      ⟨1, 2, 3⟩ 4 5 ∧
    ∀ after reply swept, revokeClientDevice sampleDigest
        (run (lifecycleStep sampleDigest) ClientStore.empty [sampleRegistration])
        sampleRevokeRequest [] after = .ok (reply, swept) →
      reply.revoked = true → ∀ later,
        Gone (run (lifecycleStep sampleDigest) swept later) ⟨1, 2, 3⟩ 4 :=
  ⟨by decide +kernel,
    (acknowledged_revocation_final_iff sampleDigest [sampleRegistration] [] sampleRevokeRequest
      ⟨9, 4, 5, true⟩
      (run (lifecycleStep sampleDigest) ClientStore.empty
        [sampleRegistration, sampleRevokeRequest.revocation ⟨7, 5⟩])
      (by decide +kernel)).mpr (by decide +kernel)⟩

end CandyCloud
