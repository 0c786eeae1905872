import CandyCloud.Client.Calls
import Mathlib.Data.List.Induction

/-! # Revocation against concurrent writes

Every device row is changed under its exclusive lock, and every insert of a grant or a
projection holds a lock on the row of its device.
-/

namespace CandyCloud

open Foundation

/-- The device and the key are both active. -/
def ClientStore.Live (store : ClientStore) (audience : ClientAudience) : Prop :=
  store.deviceIs .active audience = true ∧ store.keyActive audience = true

instance (store : ClientStore) (audience : ClientAudience) : Decidable (store.Live audience) :=
  inferInstanceAs (Decidable (_ ∧ _))

/-- What a write learnt from a plain read still holds when the write relies on
    it: a grant at its insert, a projection when it locks the device. -/
def checksCurrent (store : ClientStore) (session : ClientSession) : Bool :=
  match session.stage with
  | .grantNumbered grant view =>
      store.deviceIs .active grant.audience == view.deviceIs .active grant.audience &&
        store.keyActive grant.audience == view.keyActive grant.audience
  | .projectionGrantChecked projection view =>
      store.grantActive projection.grantId projection.audience ==
        view.grantActive projection.grantId projection.audience
  | _ => true

/-- Nothing is in force for a device or a key that is not active. -/
structure ClientConsistent (store : ClientStore) : Prop where
  devices : (store.devices.map ClientDeviceRow.id).Nodup
  grants : ∀ grant ∈ store.grants, grant.status = .active → store.Live grant.audience
  projections : ∀ projection ∈ store.projections, projection.status = .published →
    store.Live projection.audience

/-- As `ClientConsistent`, but a revoked device may still have projections. -/
structure ClientInvariant (store : ClientStore) : Prop where
  devices : (store.devices.map ClientDeviceRow.id).Nodup
  grants : ∀ grant ∈ store.grants, grant.status = .active → store.Live grant.audience
  projections : ∀ projection ∈ store.projections, projection.status = .published →
    store.Live projection.audience ∨ store.deviceIs .revoked projection.audience = true

theorem ClientConsistent.invariant {store : ClientStore} (consistent : ClientConsistent store) :
    ClientInvariant store where
  devices := consistent.devices
  grants := consistent.grants
  projections projection member published :=
    .inl (consistent.projections projection member published)

section Queries

variable {store store' : ClientStore} {audience : ClientAudience}

theorem deviceIs_iff {status : ClientDeviceStatus} :
    store.deviceIs status audience = true ↔ ∃ device ∈ store.devices,
      device.id = audience.clientDeviceId ∧ device.scope = audience.scope ∧
        device.status = status := by
  simp only [ClientStore.deviceIs, List.any_eq_true, Bool.and_eq_true, decide_eq_true_eq, and_assoc]

theorem keyActive_iff :
    store.keyActive audience = true ↔ ∃ key ∈ store.keys,
      key.clientDeviceId = audience.clientDeviceId ∧ key.scope = audience.scope ∧
        key.deviceKeyId = audience.deviceKeyId ∧ key.status = .active := by
  simp only [ClientStore.keyActive, List.any_eq_true, Bool.and_eq_true, decide_eq_true_eq, and_assoc]

theorem grantActive_iff {grantId : Uuid} :
    store.grantActive grantId audience = true ↔ ∃ grant ∈ store.grants,
      grant.id = grantId ∧ grant.audience = audience ∧ grant.status = .active := by
  simp only [ClientStore.grantActive, List.any_eq_true, Bool.and_eq_true, decide_eq_true_eq,
    and_assoc]

theorem covers_iff {reach : ClientReach} {clientDeviceId : Uuid} {scope : ClientScope} :
    reach.covers clientDeviceId scope = true ↔
      clientDeviceId = reach.recordId ∧ scope.organizationId = reach.organizationId ∧
        scope.tenantId = reach.tenantId ∧ ∀ userId, reach.userId = some userId →
          scope.userId = userId := by
  cases user : reach.userId with
  | none =>
      simp only [ClientReach.covers, user, Option.all_none, Bool.and_true, Bool.and_eq_true,
        decide_eq_true_eq, and_assoc, reduceCtorEq, false_implies, implies_true, and_true]
  | some userId =>
      simp only [ClientReach.covers, user, Option.all_some, Bool.and_eq_true, decide_eq_true_eq,
        and_assoc, Option.some.injEq, forall_eq']

end Queries

/-- Two stores hold the same device and key rows for one device. -/
structure SameDevice (row : Uuid) (store store' : ClientStore) : Prop where
  devices : ∀ device : ClientDeviceRow, device.id = row →
    (device ∈ store.devices ↔ device ∈ store'.devices)
  keys : ∀ key : ClientDeviceKeyRow, key.clientDeviceId = row →
    (key ∈ store.keys ↔ key ∈ store'.keys)

namespace SameDevice

variable {row : Uuid} {a b c : ClientStore} {audience : ClientAudience}

theorem refl (row : Uuid) (store : ClientStore) : SameDevice row store store :=
  ⟨fun _ _ => Iff.rfl, fun _ _ => Iff.rfl⟩

theorem trans (first : SameDevice row a b) (second : SameDevice row b c) : SameDevice row a c where
  devices device named := (first.devices device named).trans (second.devices device named)
  keys key named := (first.keys key named).trans (second.keys key named)

theorem deviceIs {status : ClientDeviceStatus} (same : SameDevice audience.clientDeviceId a b)
    (holds : a.deviceIs status audience = true) : b.deviceIs status audience = true := by
  obtain ⟨device, member, named, rest⟩ := deviceIs_iff.mp holds
  exact deviceIs_iff.mpr ⟨device, (same.devices device named).mp member, named, rest⟩

theorem live (same : SameDevice audience.clientDeviceId a b) (live : a.Live audience) :
    b.Live audience := by
  obtain ⟨key, member, named, rest⟩ := keyActive_iff.mp live.2
  refine ⟨same.deviceIs live.1, ?_⟩
  exact keyActive_iff.mpr ⟨key, (same.keys key named).mp member, named, rest⟩

end SameDevice

def ClientWrite.target : ClientWrite → Option Uuid
  | .setDeviceStatus reach _ | .revokeKeys reach | .retireKey reach _ => some reach.recordId
  | .insertKey row => some row.clientDeviceId
  | .revokeGrants _ | .insertGrant _ | .revokeProjections _ _ | .supersedeProjections _ _
  | .insertProjection _ => none

theorem sameDevice_apply {row : Uuid} (store : ClientStore) {write : ClientWrite}
    (elsewhere : write.target ≠ some row) : SameDevice row store (store.apply write) := by
  cases write with
  | setDeviceStatus reach status =>
      refine ⟨fun device named => ?_, fun _ _ => Iff.rfl⟩
      simp only [ClientStore.apply]
      refine mem_updateWhere_other ClientDeviceRow.id ?_ ?_ named
      · exact fun _ => rfl
      intro other covered same
      exact elsewhere (by rw [ClientWrite.target, ← (covers_iff.mp covered).1, same])
  | revokeKeys reach =>
      refine ⟨fun _ _ => Iff.rfl, fun key named => ?_⟩
      simp only [ClientStore.apply]
      refine mem_updateWhere_other ClientDeviceKeyRow.clientDeviceId ?_ ?_ named
      · exact fun _ => rfl
      intro other selected same
      have covered := (Bool.and_eq_true_iff.mp selected).1
      exact elsewhere (by rw [ClientWrite.target, ← (covers_iff.mp covered).1, same])
  | retireKey reach deviceKeyId =>
      refine ⟨fun _ _ => Iff.rfl, fun key named => ?_⟩
      simp only [ClientStore.apply]
      refine mem_updateWhere_other ClientDeviceKeyRow.clientDeviceId ?_ ?_ named
      · exact fun _ => rfl
      intro other selected same
      have covered := (Bool.and_eq_true_iff.mp (Bool.and_eq_true_iff.mp selected).1).1
      exact elsewhere (by rw [ClientWrite.target, ← (covers_iff.mp covered).1, same])
  | insertKey new =>
      refine ⟨fun _ _ => Iff.rfl, fun key named => ?_⟩
      have other : key ≠ new := fun same => elsewhere (by rw [ClientWrite.target, ← same, named])
      simp only [ClientStore.apply, List.mem_append, List.mem_singleton, other, or_false]
  | revokeGrants _ | insertGrant _ | revokeProjections _ _ | supersedeProjections _ _
  | insertProjection _ => exact ⟨fun _ _ => Iff.rfl, fun _ _ => Iff.rfl⟩

theorem sameDevice_writes {row : Uuid} {store : ClientStore} (writes : List ClientWrite)
    (elsewhere : ∀ write ∈ writes, write.target ≠ some row) :
    SameDevice row store (writes.foldl ClientStore.apply store) := by
  induction writes generalizing store with
  | nil => exact SameDevice.refl row store
  | cons write rest ih =>
      have first := sameDevice_apply store (elsewhere write List.mem_cons_self)
      have later : ∀ other ∈ rest, other.target ≠ some row := fun other member =>
        elsewhere other (List.mem_cons_of_mem write member)
      exact first.trans (ih later)

/-- The reach of a lifecycle transaction is the scope of an existing device
    that has not been revoked. -/
def ClientStore.Reached (store : ClientStore) (reach : ClientReach) : Prop :=
  ∃ device ∈ store.devices, reach.covers device.id device.scope = true ∧ device.status ≠ .revoked

def ClientStage.writes (sha256 : Bytes → Hash) : ClientStage → List ClientWrite
  | .grantInserted grant => [.insertGrant (grant.row sha256)]
  | .projectionSuperseded projection =>
      [.supersedeProjections projection.audience.scope.tenantId projection.audience.clientDeviceId]
  | .projectionInserted projection =>
      [.supersedeProjections projection.audience.scope.tenantId projection.audience.clientDeviceId,
        .insertProjection projection.row]
  | .revokeDeviceSet revocation recordId =>
      [.setDeviceStatus (revocation.reach recordId) .revoked]
  | .revokeKeysSet revocation recordId =>
      [.setDeviceStatus (revocation.reach recordId) .revoked,
        .revokeKeys (revocation.reach recordId)]
  | .revokeGrantsSet revocation recordId =>
      [.setDeviceStatus (revocation.reach recordId) .revoked,
        .revokeKeys (revocation.reach recordId), .revokeGrants (revocation.reach recordId)]
  | .statusSet scope recordId planned => [.setDeviceStatus (scope.reach recordId) planned]
  | .statusGrantsSet scope recordId =>
      [.setDeviceStatus (scope.reach recordId) .suspended, .revokeGrants (scope.reach recordId)]
  | .statusProjectionsSet scope recordId =>
      [.setDeviceStatus (scope.reach recordId) .suspended, .revokeGrants (scope.reach recordId),
        .revokeProjections (scope.reach recordId) none]
  | .rotateRetired rotation _ device previous => [.retireKey (rotation.reach device.id) previous]
  | .rotateInserted rotation clock device previous =>
      [.retireKey (rotation.reach device.id) previous, .insertKey (rotation.row clock device)]
  | .rotateGrantsSet rotation clock device previous _ =>
      [.retireKey (rotation.reach device.id) previous, .insertKey (rotation.row clock device),
        .revokeGrants (rotation.reach device.id)]
  | .rotateProjectionsSet rotation clock device previous _ _ =>
      [.retireKey (rotation.reach device.id) previous, .insertKey (rotation.row clock device),
        .revokeGrants (rotation.reach device.id),
        .revokeProjections (rotation.reach device.id) none]
  | .sweepSet audience _ => [.revokeProjections audience.reach (some audience.deviceKeyId)]
  | _ => []

def ClientStage.lock : ClientStage → Option (RowLock Uuid)
  | .grantInserted grant => some ⟨grant.audience.clientDeviceId, .shared⟩
  | .projectionDeviceLocked projection | .projectionReplayChecked projection
  | .projectionNumbered projection | .projectionSuperseded projection
  | .projectionInserted projection => some ⟨projection.audience.clientDeviceId, .exclusive⟩
  | .revokeDeviceLocked _ recordId | .revokeKeyChecked _ recordId | .revokeDeviceSet _ recordId
  | .revokeKeysSet _ recordId | .revokeGrantsSet _ recordId => some ⟨recordId, .exclusive⟩
  | .statusPlanned _ recordId _ | .statusSet _ recordId _ | .statusGrantsSet _ recordId
  | .statusProjectionsSet _ recordId => some ⟨recordId, .exclusive⟩
  | .rotateDeviceLocked _ _ device | .rotatePlanned _ _ device | .rotateKeyLocked _ _ device _
  | .rotateRetired _ _ device _ | .rotateInserted _ _ device _ | .rotateGrantsSet _ _ device _ _
  | .rotateProjectionsSet _ _ device _ _ _ => some ⟨device.id, .exclusive⟩
  | _ => none

/-- What the statements so far have established about the committed store. -/
def ClientStage.Facts (store : ClientStore) : ClientStage → Prop
  | .grantDeviceChecked grant view => view.deviceIs .active grant.audience = true
  | .grantKeyChecked grant view | .grantReplayChecked grant view | .grantNumbered grant view =>
      view.Live grant.audience
  | .grantInserted grant => store.Live grant.audience
  | .projectionGrantChecked projection view =>
      view.grantActive projection.grantId projection.audience = true
  | .projectionDeviceLocked projection | .projectionReplayChecked projection
  | .projectionNumbered projection | .projectionSuperseded projection
  | .projectionInserted projection => store.Live projection.audience
  | .revokeDeviceLocked revocation recordId | .revokeKeyChecked revocation recordId
  | .revokeDeviceSet revocation recordId | .revokeKeysSet revocation recordId
  | .revokeGrantsSet revocation recordId => store.Reached (revocation.reach recordId)
  | .statusPlanned scope recordId planned | .statusSet scope recordId planned =>
      store.Reached (scope.reach recordId) ∧ planned ≠ .revoked
  | .statusGrantsSet scope recordId | .statusProjectionsSet scope recordId =>
      store.Reached (scope.reach recordId)
  | .rotateDeviceLocked rotation _ device =>
      device ∈ store.devices ∧ (rotation.reach device.id).covers device.id device.scope = true
  | .rotatePlanned rotation _ device | .rotateKeyLocked rotation _ device _
  | .rotateRetired rotation _ device _ | .rotateInserted rotation _ device _
  | .rotateGrantsSet rotation _ device _ _ | .rotateProjectionsSet rotation _ device _ _ _ =>
      store.Reached (rotation.reach device.id)
  | _ => True

structure Standing (sha256 : Bytes → Hash) (store : ClientStore) (session : ClientSession) :
    Prop where
  writes : session.writes = session.stage.writes sha256
  lock : ∀ lock, session.stage.lock = some lock → lock ∈ session.locks
  facts : session.stage.Facts store

section Standing

variable {sha256 : Bytes → Hash} {store store' : ClientStore} {session other : ClientSession}

theorem covers_self {store : ClientStore} {organizationId tenantId deviceId : Uuid}
    {device : ClientDeviceRow}
    (found : store.managedDevice organizationId tenantId deviceId = some device) :
    device ∈ store.devices ∧
      (⟨device.id, organizationId, tenantId, none⟩ : ClientReach).covers device.id device.scope =
        true := by
  unfold ClientStore.managedDevice at found
  have located := List.find?_some found
  simp only [Bool.and_eq_true, decide_eq_true_eq] at located
  refine ⟨List.mem_of_find?_eq_some found, covers_iff.mpr ⟨rfl, located.1.1, located.1.2, ?_⟩⟩
  intro userId none
  cases none

theorem target_locked {stage : ClientStage} {write : ClientWrite} {row : Uuid}
    (member : write ∈ stage.writes sha256) (target : write.target = some row) :
    stage.lock = some ⟨row, .exclusive⟩ := by
  cases stage <;> simp only [ClientStage.writes, List.mem_cons, List.not_mem_nil, or_false] at member
  all_goals
    rcases member with rfl | rfl | rfl | rfl <;> cases target <;> rfl

theorem Standing.seen (standing : Standing sha256 store session) :
    (clientTransactions sha256).seen store session =
      (session.stage.writes sha256).foldl ClientStore.apply store := by
  rw [Transactions.seen, standing.writes]
  rfl

theorem sameDevice_locked (standing : Standing sha256 store session) (apart : Apart session other)
    {lock : RowLock Uuid} (held : lock ∈ other.locks) :
    SameDevice lock.row store ((clientTransactions sha256).seen store session) := by
  rw [standing.seen]
  refine sameDevice_writes _ ?_
  intro write member target
  exact apart.exclusive (standing.lock _ (target_locked member target)) held

theorem reached_same (reach : ClientReach) (same : SameDevice reach.recordId store store')
    (reached : store.Reached reach) : store'.Reached reach := by
  obtain ⟨device, member, covered, rest⟩ := reached
  exact ⟨device, (same.devices device (covers_iff.mp covered).1).mp member, covered, rest⟩

theorem facts_same {stage : ClientStage}
    (same : ∀ lock, stage.lock = some lock → SameDevice lock.row store store')
    (facts : stage.Facts store) : stage.Facts store' := by
  cases stage with
  | grantInserted grant => exact (same _ rfl).live facts
  | projectionDeviceLocked projection | projectionReplayChecked projection
  | projectionNumbered projection | projectionSuperseded projection
  | projectionInserted projection => exact (same _ rfl).live facts
  | revokeDeviceLocked revocation recordId | revokeKeyChecked revocation recordId
  | revokeDeviceSet revocation recordId | revokeKeysSet revocation recordId
  | revokeGrantsSet revocation recordId =>
      exact reached_same (revocation.reach recordId) (same _ rfl) facts
  | statusPlanned scope recordId planned | statusSet scope recordId planned =>
      exact ⟨reached_same (scope.reach recordId) (same _ rfl) facts.1, facts.2⟩
  | statusGrantsSet scope recordId | statusProjectionsSet scope recordId =>
      exact reached_same (scope.reach recordId) (same _ rfl) facts
  | rotateDeviceLocked rotation clock device =>
      exact ⟨((same _ rfl).devices device rfl).mp facts.1, facts.2⟩
  | rotatePlanned rotation clock device | rotateKeyLocked rotation clock device previous
  | rotateRetired rotation clock device previous | rotateInserted rotation clock device previous
  | rotateGrantsSet rotation clock device previous grants
  | rotateProjectionsSet rotation clock device previous grants projections =>
      exact reached_same (rotation.reach device.id) (same _ rfl) facts
  | _ => exact facts

theorem standing_stable (standing : Standing sha256 store session)
    (others : Standing sha256 store other) (apart : Apart session other) :
    Standing sha256 ((clientTransactions sha256).seen store session) other where
  writes := others.writes
  lock := others.lock
  facts := facts_same (fun lock held => sameDevice_locked standing apart (others.lock lock held))
    others.facts

end Standing

/-- The statements after which a transaction goes on: what each has found in
    the rows it read, the lock it took and the write it made. -/
inductive ClientMove (sha256 : Bytes → Hash) (store : ClientStore) :
    ClientStage → List (RowLock Uuid) → ClientStage → List ClientWrite → Prop where
  | grantDevice {grant} (active : store.deviceIs .active grant.audience = true) :
      ClientMove sha256 store (.grantOpened grant) [] (.grantDeviceChecked grant store) []
  | grantKey {grant view} (active : view.keyActive grant.audience = true) :
      ClientMove sha256 store (.grantDeviceChecked grant view) [] (.grantKeyChecked grant view) []
  | grantReplay {grant view} :
      ClientMove sha256 store (.grantKeyChecked grant view) [] (.grantReplayChecked grant view) []
  | grantNumber {grant view} :
      ClientMove sha256 store (.grantReplayChecked grant view) [] (.grantNumbered grant view) []
  | grantInsert {grant view} :
      ClientMove sha256 store (.grantNumbered grant view) [⟨grant.audience.clientDeviceId, .shared⟩]
        (.grantInserted grant) [.insertGrant (grant.row sha256)]
  | projectionGrant {projection}
      (active : store.grantActive projection.grantId projection.audience = true) :
      ClientMove sha256 store (.projectionOpened projection) []
        (.projectionGrantChecked projection store) []
  | projectionLock {projection view} (active : store.deviceIs .active projection.audience = true) :
      ClientMove sha256 store (.projectionGrantChecked projection view)
        [⟨projection.audience.clientDeviceId, .exclusive⟩] (.projectionDeviceLocked projection) []
  | projectionReplay {projection} :
      ClientMove sha256 store (.projectionDeviceLocked projection) []
        (.projectionReplayChecked projection) []
  | projectionNumber {projection} :
      ClientMove sha256 store (.projectionReplayChecked projection) []
        (.projectionNumbered projection) []
  | projectionSupersede {projection} :
      ClientMove sha256 store (.projectionNumbered projection) [] (.projectionSuperseded projection)
        [.supersedeProjections projection.audience.scope.tenantId
          projection.audience.clientDeviceId]
  | projectionInsert {projection} :
      ClientMove sha256 store (.projectionSuperseded projection) [] (.projectionInserted projection)
        [.insertProjection projection.row]
  | revokeLock {revocation recordId} (reached : store.Reached (revocation.reach recordId)) :
      ClientMove sha256 store (.revokeOpened revocation) [⟨recordId, .exclusive⟩]
        (.revokeDeviceLocked revocation recordId) []
  | revokeKey {revocation recordId} :
      ClientMove sha256 store (.revokeDeviceLocked revocation recordId) []
        (.revokeKeyChecked revocation recordId) []
  | revokeDevice {revocation recordId} :
      ClientMove sha256 store (.revokeKeyChecked revocation recordId) []
        (.revokeDeviceSet revocation recordId)
        [.setDeviceStatus (revocation.reach recordId) .revoked]
  | revokeKeys {revocation recordId} :
      ClientMove sha256 store (.revokeDeviceSet revocation recordId) []
        (.revokeKeysSet revocation recordId) [.revokeKeys (revocation.reach recordId)]
  | revokeGrants {revocation recordId} :
      ClientMove sha256 store (.revokeKeysSet revocation recordId) []
        (.revokeGrantsSet revocation recordId) [.revokeGrants (revocation.reach recordId)]
  | statusLock {scope recordId planned} (reached : store.Reached (scope.reach recordId))
      (kept : planned ≠ .revoked) :
      ClientMove sha256 store (.statusOpened scope) [⟨recordId, .exclusive⟩]
        (.statusPlanned scope recordId planned) []
  | statusDevice {scope recordId planned} :
      ClientMove sha256 store (.statusPlanned scope recordId planned) []
        (.statusSet scope recordId planned) [.setDeviceStatus (scope.reach recordId) planned]
  | statusGrants {scope recordId} :
      ClientMove sha256 store (.statusSet scope recordId .suspended) []
        (.statusGrantsSet scope recordId) [.revokeGrants (scope.reach recordId)]
  | statusProjections {scope recordId} :
      ClientMove sha256 store (.statusGrantsSet scope recordId) []
        (.statusProjectionsSet scope recordId) [.revokeProjections (scope.reach recordId) none]
  | rotateLock {rotation clock device} (member : device ∈ store.devices)
      (covered : (rotation.reach device.id).covers device.id device.scope = true) :
      ClientMove sha256 store (.rotateOpened rotation clock) [⟨device.id, .exclusive⟩]
        (.rotateDeviceLocked rotation clock device) []
  | rotatePlan {rotation clock device} (active : device.status = .active) :
      ClientMove sha256 store (.rotateDeviceLocked rotation clock device) []
        (.rotatePlanned rotation clock device) []
  | rotateKey {rotation clock device previous} :
      ClientMove sha256 store (.rotatePlanned rotation clock device) []
        (.rotateKeyLocked rotation clock device previous) []
  | rotateRetire {rotation clock device previous} :
      ClientMove sha256 store (.rotateKeyLocked rotation clock device previous) []
        (.rotateRetired rotation clock device previous)
        [.retireKey (rotation.reach device.id) previous]
  | rotateInsert {rotation clock device previous} :
      ClientMove sha256 store (.rotateRetired rotation clock device previous) []
        (.rotateInserted rotation clock device previous) [.insertKey (rotation.row clock device)]
  | rotateGrants {rotation clock device previous revoked} :
      ClientMove sha256 store (.rotateInserted rotation clock device previous) []
        (.rotateGrantsSet rotation clock device previous revoked)
        [.revokeGrants (rotation.reach device.id)]
  | rotateProjections {rotation clock device previous grants revoked} :
      ClientMove sha256 store (.rotateGrantsSet rotation clock device previous grants) []
        (.rotateProjectionsSet rotation clock device previous grants revoked)
        [.revokeProjections (rotation.reach device.id) none]
  | sweep {audience revoked} :
      ClientMove sha256 store (.sweepOpened audience) [] (.sweepSet audience revoked)
        [.revokeProjections audience.reach (some audience.deviceKeyId)]

section Transitions

variable {sha256 : Bytes → Hash} {store : ClientStore} {stage stage' : ClientStage}
  {writes : List ClientWrite}

theorem plan_kept {current requested planned : ClientDeviceStatus}
    (plan : planDeviceStatusChange current requested = .ok (some planned)) :
    current ≠ .revoked ∧ planned ≠ .revoked := by
  cases current <;> cases requested <;> cases plan <;> decide

theorem lockProjectionDevice_next {projection : ClientProjectionWrite} (view : ClientStore)
    (outcome : (lockProjectionDevice store projection).outcome = .next stage' writes) :
    ClientMove sha256 store (.projectionGrantChecked projection view)
      (lockProjectionDevice store projection).locks stage' writes := by
  unfold lockProjectionDevice at outcome ⊢
  split at outcome
  · cases outcome
  · rename_i device found
    have named : device.id = projection.audience.clientDeviceId := by
      simpa using List.find?_some found
    simp only [locking] at outcome ⊢
    split at outcome
    · rename_i matching
      cases outcome
      rw [Option.toList_some, List.map_singleton, named]
      refine .projectionLock (deviceIs_iff.mpr ⟨device, ?_, named, matching.1, matching.2.1⟩)
      exact List.mem_of_find?_eq_some found
    · cases outcome

theorem lockRevokedDevice_next {revocation : ClientDeviceRevocation}
    (outcome : (lockRevokedDevice store revocation).outcome = .next stage' writes) :
    ClientMove sha256 store (.revokeOpened revocation) (lockRevokedDevice store revocation).locks
      stage' writes := by
  unfold lockRevokedDevice at outcome ⊢
  split at outcome
  · cases outcome
  · rename_i device found
    have located := List.find?_some found
    simp only [Bool.and_eq_true, decide_eq_true_eq] at located
    simp only [locking] at outcome ⊢
    split at outcome
    · rename_i active
      cases outcome
      refine .revokeLock ⟨device, List.mem_of_find?_eq_some found, ?_, by simp [active]⟩
      refine covers_iff.mpr ⟨rfl, ?_⟩
      rw [located.1]
      exact ⟨rfl, rfl, fun userId same => Option.some.inj same⟩
    · cases outcome

theorem lockManagedDevice_next {scope : SetDeviceStatus}
    (outcome : (lockManagedDevice store scope).outcome = .next stage' writes) :
    ClientMove sha256 store (.statusOpened scope) (lockManagedDevice store scope).locks stage'
      writes := by
  unfold lockManagedDevice at outcome ⊢
  split at outcome
  · cases outcome
  · rename_i device found
    obtain ⟨member, covered⟩ := covers_self found
    simp only [locking] at outcome ⊢
    split at outcome
    · cases outcome
    · cases outcome
    · rename_i planned plan
      cases outcome
      exact .statusLock ⟨device, member, covered, (plan_kept plan).1⟩ (plan_kept plan).2

theorem checkRotation_next {rotation : ClientDeviceKeyRotation} {clock : Instant}
    {device : ClientDeviceRow}
    (outcome : (checkRotation store rotation clock device).outcome = .next stage' writes) :
    ClientMove sha256 store (.rotateDeviceLocked rotation clock device)
      (checkRotation store rotation clock device).locks stage' writes := by
  unfold checkRotation at outcome ⊢
  split at outcome
  · cases outcome
  · rename_i plan
    cases outcome
    simp only [planDeviceKeyRotation, unit_bind_ok, reject_ok, decide_eq_false_iff_not,
      not_not] at plan
    exact .rotatePlan plan.1

theorem client_move (outcome : (clientStatement sha256 store stage).outcome = .next stage' writes) :
    ClientMove sha256 store stage (clientStatement sha256 store stage).locks stage' writes := by
  cases stage with
  | grantOpened grant =>
      simp only [clientStatement, checkGrantDevice] at outcome ⊢
      revert outcome
      split
      · rename_i active
        rintro ⟨⟩
        exact .grantDevice active
      · exact nofun
  | grantDeviceChecked grant view =>
      simp only [clientStatement, checkGrantKey] at outcome ⊢
      revert outcome
      split
      · rename_i active
        rintro ⟨⟩
        exact .grantKey active
      · exact nofun
  | grantKeyChecked grant view =>
      simp only [clientStatement, checkGrantReplay] at outcome ⊢
      revert outcome
      split
      · split <;> exact nofun
      · rintro ⟨⟩
        exact .grantReplay
  | grantReplayChecked grant view =>
      simp only [clientStatement, checkGrantGeneration] at outcome ⊢
      revert outcome
      split
      · exact nofun
      · rintro ⟨⟩
        exact .grantNumber
  | grantNumbered grant view =>
      simp only [clientStatement, insertGrant, locking] at outcome ⊢
      revert outcome
      split
      · exact nofun
      · rintro ⟨⟩
        exact .grantInsert
  | projectionOpened projection =>
      simp only [clientStatement, checkProjectionGrant] at outcome ⊢
      revert outcome
      split
      · rename_i active
        rintro ⟨⟩
        exact .projectionGrant active
      · exact nofun
  | projectionGrantChecked projection view => exact lockProjectionDevice_next view outcome
  | projectionDeviceLocked projection =>
      simp only [clientStatement, checkProjectionReplay] at outcome ⊢
      revert outcome
      split
      · split <;> exact nofun
      · rintro ⟨⟩
        exact .projectionReplay
  | projectionReplayChecked projection =>
      simp only [clientStatement, checkProjectionGeneration] at outcome ⊢
      revert outcome
      split
      · exact nofun
      · rintro ⟨⟩
        exact .projectionNumber
  | projectionNumbered projection =>
      cases outcome
      exact .projectionSupersede
  | projectionSuperseded projection =>
      simp only [clientStatement, insertClientProjection] at outcome ⊢
      revert outcome
      split
      · exact nofun
      · rintro ⟨⟩
        exact .projectionInsert
  | revokeOpened revocation => exact lockRevokedDevice_next outcome
  | revokeDeviceLocked revocation recordId =>
      simp only [clientStatement, checkRevokedKey] at outcome ⊢
      revert outcome
      split
      · rintro ⟨⟩
        exact .revokeKey
      · exact nofun
  | revokeKeyChecked revocation recordId =>
      cases outcome
      exact .revokeDevice
  | revokeDeviceSet revocation recordId =>
      cases outcome
      exact .revokeKeys
  | revokeKeysSet revocation recordId =>
      cases outcome
      exact .revokeGrants
  | statusOpened scope => exact lockManagedDevice_next outcome
  | statusPlanned scope recordId planned =>
      cases outcome
      exact .statusDevice
  | statusSet scope recordId planned =>
      simp only [clientStatement] at outcome ⊢
      revert outcome
      split
      · rename_i suspended
        rintro ⟨⟩
        subst suspended
        exact .statusGrants
      · exact nofun
  | statusGrantsSet scope recordId =>
      cases outcome
      exact .statusProjections
  | rotateOpened rotation clock =>
      simp only [clientStatement, lockRotatedDevice] at outcome ⊢
      revert outcome
      split
      · exact nofun
      · rename_i device found
        rintro ⟨⟩
        exact .rotateLock (covers_self found).1 (covers_self found).2
  | rotateDeviceLocked rotation clock device => exact checkRotation_next outcome
  | rotatePlanned rotation clock device =>
      simp only [clientStatement, lockPreviousKey] at outcome ⊢
      revert outcome
      split
      · exact nofun
      · rintro ⟨⟩
        exact .rotateKey
  | rotateKeyLocked rotation clock device previous =>
      cases outcome
      exact .rotateRetire
  | rotateRetired rotation clock device previous =>
      simp only [clientStatement, insertRotatedKey] at outcome ⊢
      revert outcome
      split
      · exact nofun
      · rintro ⟨⟩
        exact .rotateInsert
  | rotateInserted rotation clock device previous =>
      cases outcome
      exact .rotateGrants
  | rotateGrantsSet rotation clock device previous revokedGrants =>
      cases outcome
      exact .rotateProjections
  | sweepOpened audience =>
      cases outcome
      exact .sweep
  | grantInserted | projectionInserted | revokeGrantsSet | statusProjectionsSet
  | rotateProjectionsSet | sweepSet => cases outcome

variable {locks : List (RowLock Uuid)}

theorem ClientMove.writes_eq (move : ClientMove sha256 store stage locks stage' writes) :
    stage'.writes sha256 = stage.writes sha256 ++ writes := by
  cases move <;> rfl

theorem ClientMove.lock_held (move : ClientMove sha256 store stage locks stage' writes)
    {lock : RowLock Uuid} (held : stage'.lock = some lock) :
    stage.lock = some lock ∨ lock ∈ locks := by
  cases move <;>
    first
    | exact .inl held
    | exact .inr (List.mem_singleton.mpr (Option.some.inj held).symm)

theorem ClientMove.facts_kept (inv : ClientInvariant store) (facts : stage.Facts store)
    {store' : ClientStore} (seen : store' = (stage.writes sha256).foldl ClientStore.apply store)
    (current : checksCurrent store ⟨stage, locks, writes⟩ = true) {taken : List (RowLock Uuid)}
    {writes' : List ClientWrite} (move : ClientMove sha256 store' stage taken stage' writes') :
    stage'.Facts store := by
  cases move with
  | grantDevice active =>
      subst seen
      exact active
  | grantKey active => exact ⟨facts, active⟩
  | grantInsert =>
      simp only [checksCurrent, Bool.and_eq_true, beq_iff_eq] at current
      exact ⟨current.1.trans facts.1, current.2.trans facts.2⟩
  | projectionGrant active =>
      subst seen
      exact active
  | projectionLock active =>
      subst seen
      simp only [checksCurrent, beq_iff_eq] at current
      obtain ⟨grant, member, _, addressed, inForce⟩ := grantActive_iff.mp (current.trans facts)
      have live := inv.grants grant member inForce
      rw [addressed] at live
      exact live
  | revokeLock reached =>
      subst seen
      exact reached
  | statusLock reached kept =>
      subst seen
      exact ⟨reached, kept⟩
  | statusGrants => exact facts.1
  | rotateLock member covered =>
      subst seen
      exact ⟨member, covered⟩
  | rotatePlan active => exact ⟨_, facts.1, facts.2, by simp [active]⟩
  | _ => exact facts

theorem standing_next {session : ClientSession} (inv : ClientInvariant store)
    (standing : Standing sha256 store session) (current : checksCurrent store session = true)
    (outcome : ((clientTransactions sha256).pending store session).outcome = .next stage' writes) :
    Standing sha256 store ⟨stage', session.locks ++
      ((clientTransactions sha256).pending store session).locks, session.writes ++ writes⟩ := by
  have move := client_move outcome
  refine ⟨?_, ?_, move.facts_kept inv standing.facts standing.seen current⟩
  · rw [standing.writes]
    exact move.writes_eq.symm
  · intro lock held
    rcases move.lock_held held with before | taken
    · exact List.mem_append_left _ (standing.lock lock before)
    · exact List.mem_append_right _ taken

end Transitions

section Commits

variable {sha256 : Bytes → Hash} {store : ClientStore} {reach : ClientReach}

theorem ClientInvariant.covered (inv : ClientInvariant store) (reached : store.Reached reach)
    {status : ClientDeviceStatus} {audience : ClientAudience}
    (owned : store.deviceIs status audience = true)
    (named : audience.clientDeviceId = reach.recordId) :
    reach.covers audience.clientDeviceId audience.scope = true ∧ status ≠ .revoked := by
  obtain ⟨device, member, covered, kept⟩ := reached
  obtain ⟨row, present, same, scope, rfl⟩ := deviceIs_iff.mp owned
  have equal : row = device := by
    refine eq_of_key inv.devices present member ?_
    rw [same, named, (covers_iff.mp covered).1]
  subst equal
  exact ⟨by rw [← same, ← scope]; exact covered, kept⟩

theorem live_grant_of_sweep {grants : List ClientGrantRow} {grant : ClientGrantRow}
    (member : grant ∈ updateWhere reach.liveGrant
      (fun grant => { grant with status := .revoked }) grants) (active : grant.status = .active) :
    grant ∈ grants ∧
      reach.covers grant.audience.clientDeviceId grant.audience.scope = false := by
  obtain ⟨old, present, rfl⟩ := mem_updateWhere.mp member
  by_cases chosen : reach.liveGrant old = true
  · rw [if_pos chosen] at active
    cases active
  · rw [if_neg chosen] at active ⊢
    refine ⟨present, Bool.eq_false_iff.mpr fun covered => chosen ?_⟩
    simp only [ClientReach.liveGrant, covered, active, decide_true, Bool.and_self]

theorem published_of_sweep {projections : List ClientProjectionRow} {deviceKeyId : Option Uuid}
    {projection : ClientProjectionRow}
    (member : projection ∈ updateWhere (reach.liveProjection deviceKeyId)
      (fun projection => { projection with status := .revoked }) projections)
    (published : projection.status = .published) :
    projection ∈ projections ∧ reach.liveProjection deviceKeyId projection = false := by
  obtain ⟨old, present, rfl⟩ := mem_updateWhere.mp member
  by_cases chosen : reach.liveProjection deviceKeyId old = true
  · rw [if_pos chosen] at published
    cases published
  · rw [if_neg chosen] at published ⊢
    exact ⟨present, Bool.eq_false_iff.mpr chosen⟩

theorem swept_grant (inv : ClientInvariant store) (reached : store.Reached reach)
    {grant : ClientGrantRow}
    (member : grant ∈ updateWhere reach.liveGrant
      (fun grant => { grant with status := .revoked }) store.grants)
    (active : grant.status = .active) :
    store.Live grant.audience ∧ grant.audience.clientDeviceId ≠ reach.recordId := by
  obtain ⟨present, uncovered⟩ := live_grant_of_sweep member active
  have live := inv.grants grant present active
  refine ⟨live, fun named => ?_⟩
  rw [(inv.covered reached live.1 named).1] at uncovered
  cases uncovered

theorem swept_projection (inv : ClientInvariant store) (reached : store.Reached reach)
    {projection : ClientProjectionRow}
    (member : projection ∈ updateWhere (reach.liveProjection none)
      (fun projection => { projection with status := .revoked }) store.projections)
    (published : projection.status = .published) :
    (store.Live projection.audience ∨ store.deviceIs .revoked projection.audience = true) ∧
      projection.audience.clientDeviceId ≠ reach.recordId := by
  obtain ⟨present, unswept⟩ := published_of_sweep member published
  have standing := inv.projections projection present published
  refine ⟨standing, fun named => ?_⟩
  have covered : reach.covers projection.audience.clientDeviceId projection.audience.scope = true := by
    rcases standing with live | revoked
    · exact (inv.covered reached live.1 named).1
    · exact (inv.covered reached revoked named).1
  simp [ClientReach.liveProjection, covered, published] at unswept

theorem swept_invariant (inv : ClientInvariant store) (reached : store.Reached reach)
    {after : ClientStore} (ids : (after.devices.map ClientDeviceRow.id).Nodup)
    (elsewhere : ∀ row, row ≠ reach.recordId → SameDevice row store after)
    (grants : after.grants = updateWhere reach.liveGrant
      (fun grant => { grant with status := .revoked }) store.grants)
    (projections : after.projections = updateWhere (reach.liveProjection none)
      (fun projection => { projection with status := .revoked }) store.projections) :
    ClientInvariant after := by
  refine ⟨ids, ?_, ?_⟩
  · intro grant member active
    rw [grants] at member
    obtain ⟨live, other⟩ := swept_grant inv reached member active
    exact (elsewhere _ other).live live
  · intro projection member published
    rw [projections] at member
    obtain ⟨standing, other⟩ := swept_projection inv reached member published
    exact standing.imp (elsewhere _ other).live (elsewhere _ other).deviceIs

theorem commit_grant {grant : ClientGrantWrite} (inv : ClientInvariant store)
    (live : store.Live grant.audience) :
    ClientInvariant (store.apply (.insertGrant (grant.row sha256))) := by
  refine ⟨inv.devices, ?_, inv.projections⟩
  intro row member active
  rcases mem_concat.mp member with old | new
  · exact inv.grants row old active
  · rw [new]
    exact live

theorem commit_projection {projection : ClientProjectionWrite} (inv : ClientInvariant store)
    (live : store.Live projection.audience) :
    ClientInvariant ((store.apply (.supersedeProjections projection.audience.scope.tenantId
      projection.audience.clientDeviceId)).apply (.insertProjection projection.row)) := by
  refine ⟨inv.devices, inv.grants, ?_⟩
  intro row member published
  rcases mem_concat.mp member with old | new
  · obtain ⟨before, present, rfl⟩ := mem_updateWhere.mp old
    split at published
    · cases published
    · rename_i kept
      rw [if_neg kept]
      exact inv.projections before present published
  · rw [new]
    exact .inl live

theorem setDeviceStatus_ids (status : ClientDeviceStatus) (inv : ClientInvariant store) :
    ((store.apply (.setDeviceStatus reach status)).devices.map ClientDeviceRow.id).Nodup := by
  simp only [ClientStore.apply]
  rw [map_updateWhere]
  · exact inv.devices
  · exact fun _ => rfl

section

variable (inv : ClientInvariant store) (reached : store.Reached reach)

include inv reached

theorem deviceIs_set {status old : ClientDeviceStatus} {audience : ClientAudience}
    (owned : store.deviceIs old audience = true)
    (named : audience.clientDeviceId = reach.recordId) :
    (store.apply (.setDeviceStatus reach status)).deviceIs status audience = true := by
  have covered := (inv.covered reached owned named).1
  obtain ⟨device, member, same, scope, -⟩ := deviceIs_iff.mp owned
  refine deviceIs_iff.mpr ⟨{ device with status := status }, ?_, same, scope, rfl⟩
  refine mem_updateWhere.mpr ⟨device, member, if_pos ?_⟩
  rw [same, scope]
  exact covered

theorem commit_revocation :
    ClientInvariant (((store.apply (.setDeviceStatus reach .revoked)).apply
      (.revokeKeys reach)).apply (.revokeGrants reach)) := by
  have elsewhere : ∀ row, row ≠ reach.recordId → SameDevice row store
      (((store.apply (.setDeviceStatus reach .revoked)).apply (.revokeKeys reach)).apply
        (.revokeGrants reach)) := by
    intro row other
    refine sameDevice_writes
      [.setDeviceStatus reach .revoked, .revokeKeys reach, .revokeGrants reach] ?_
    simpa [ClientWrite.target] using other.symm
  refine ⟨setDeviceStatus_ids .revoked inv, ?_, ?_⟩
  · intro grant member active
    obtain ⟨live, other⟩ := swept_grant inv reached member active
    exact (elsewhere _ other).live live
  · intro projection member published
    have standing := inv.projections projection member published
    by_cases named : projection.audience.clientDeviceId = reach.recordId
    · right
      rcases standing with live | revoked
      · exact deviceIs_set inv reached live.1 named
      · exact deviceIs_set inv reached revoked named
    · exact standing.imp (elsewhere _ named).live (elsewhere _ named).deviceIs

theorem commit_suspension :
    ClientInvariant (((store.apply (.setDeviceStatus reach .suspended)).apply
      (.revokeGrants reach)).apply (.revokeProjections reach none)) := by
  refine swept_invariant inv reached (setDeviceStatus_ids .suspended inv) ?_ rfl rfl
  intro row other
  refine sameDevice_writes
    [.setDeviceStatus reach .suspended, .revokeGrants reach,
      .revokeProjections reach none] ?_
  simpa [ClientWrite.target] using other.symm

theorem commit_activation : ClientInvariant (store.apply (.setDeviceStatus reach .active)) := by
  have elsewhere : ∀ row, row ≠ reach.recordId → SameDevice row store
      (store.apply (.setDeviceStatus reach .active)) := by
    intro row other
    exact sameDevice_apply store (by simpa [ClientWrite.target] using other.symm)
  have live : ∀ audience, store.Live audience →
      (store.apply (.setDeviceStatus reach .active)).Live audience := by
    intro audience live
    by_cases named : audience.clientDeviceId = reach.recordId
    · exact ⟨deviceIs_set inv reached live.1 named, live.2⟩
    · exact (elsewhere _ named).live live
  refine ⟨setDeviceStatus_ids .active inv, ?_, ?_⟩
  · intro grant member active
    exact live _ (inv.grants grant member active)
  · intro projection member published
    rcases inv.projections projection member published with standing | revoked
    · exact .inl (live _ standing)
    · right
      refine (elsewhere _ fun named => ?_).deviceIs revoked
      exact (inv.covered reached revoked named).2 rfl

theorem commit_rotation {key : ClientDeviceKeyRow} {previous : Uuid}
    (own : key.clientDeviceId = reach.recordId) :
    ClientInvariant ((((store.apply (.retireKey reach previous)).apply (.insertKey key)).apply
      (.revokeGrants reach)).apply (.revokeProjections reach none)) := by
  refine swept_invariant inv reached inv.devices ?_ rfl rfl
  intro row other
  refine sameDevice_writes
    [.retireKey reach previous, .insertKey key, .revokeGrants reach,
      .revokeProjections reach none] ?_
  simpa [ClientWrite.target, own] using other.symm

end

theorem commit_sweep {deviceKeyId : Option Uuid} (inv : ClientInvariant store) :
    ClientInvariant (store.apply (.revokeProjections reach deviceKeyId)) := by
  refine ⟨inv.devices, inv.grants, ?_⟩
  intro projection member published
  exact inv.projections projection (published_of_sweep member published).1 published

theorem standing_commit {session : ClientSession} {answer : ClientAnswer}
    (inv : ClientInvariant store) (standing : Standing sha256 store session)
    (outcome : ((clientTransactions sha256).pending store session).outcome = .commit answer) :
    ClientInvariant ((clientTransactions sha256).seen store session) := by
  rw [standing.seen]
  have facts := standing.facts
  unfold Transactions.pending at outcome
  generalize session.stage = stage at facts outcome
  cases stage with
  | grantInserted grant => exact commit_grant inv facts
  | projectionInserted projection => exact commit_projection inv facts
  | revokeGrantsSet revocation recordId => exact commit_revocation inv facts
  | statusSet scope recordId planned =>
      cases planned with
      | active => exact commit_activation inv facts.1
      | suspended => cases outcome
      | revoked => exact absurd rfl facts.2
  | statusProjectionsSet scope recordId => exact commit_suspension inv facts
  | rotateProjectionsSet rotation clock device previous grants projections =>
      exact commit_rotation inv facts rfl
  | sweepSet audience revoked => exact commit_sweep inv
  | projectionSuperseded projection =>
      revert outcome
      simp only [clientTransactions, clientStatement, insertClientProjection]
      split <;> exact nofun
  | rotateRetired rotation clock device previous =>
      revert outcome
      simp only [clientTransactions, clientStatement, insertRotatedKey]
      split <;> exact nofun
  | revokeDeviceSet | revokeKeysSet | statusGrantsSet | rotateInserted | rotateGrantsSet =>
      cases outcome
  | _ => exact inv

theorem clientOpening_standing {call : ClientCall} {stage : ClientStage}
    (opened : clientOpening call = .ok stage) : Standing sha256 store ⟨stage, [], []⟩ := by
  cases call with
  | writeGrant grant =>
      simp only [clientOpening, mapError_ok, openGrant, unit_bind_ok, pure_ok] at opened
      obtain ⟨-, -, rfl⟩ := opened
      refine ⟨rfl, ?_, trivial⟩
      intro lock held
      cases held
  | revokeProjections audience =>
      simp only [clientOpening] at opened
      split at opened
      · cases opened
      · cases opened
        refine ⟨rfl, ?_, trivial⟩
        intro lock held
        cases held
  | writeProjection | revokeDevice | setDeviceStatus | rotateDeviceKey =>
      simp only [clientOpening, mapError_ok, map_ok] at opened
      obtain ⟨_, -, rfl⟩ := opened
      refine ⟨rfl, ?_, trivial⟩
      intro lock held
      cases held

theorem published_apply {write : ClientWrite} {projection : ClientProjectionRow}
    (member : projection ∈ (store.apply write).projections)
    (published : projection.status = .published) :
    projection ∈ store.projections ∨ write = .insertProjection projection := by
  cases write with
  | revokeProjections reach deviceKeyId => exact .inl (published_of_sweep member published).1
  | supersedeProjections tenantId clientDeviceId =>
      obtain ⟨old, present, rfl⟩ := mem_updateWhere.mp member
      split at published
      · cases published
      · rename_i kept
        rw [if_neg kept]
        exact .inl present
  | insertProjection row =>
      rcases mem_concat.mp member with old | new
      · exact .inl old
      · exact .inr (by rw [new])
  | _ => exact .inl member

theorem published_writes {writes : List ClientWrite} {projection : ClientProjectionRow}
    (member : projection ∈ (writes.foldl ClientStore.apply store).projections)
    (published : projection.status = .published) :
    projection ∈ store.projections ∨ .insertProjection projection ∈ writes := by
  induction writes generalizing store with
  | nil => exact .inl member
  | cons write rest ih =>
      rcases ih member with present | later
      · rcases published_apply present published with old | rfl
        · exact .inl old
        · exact .inr List.mem_cons_self
      · exact .inr (List.mem_cons_of_mem write later)

theorem published_commit {session : ClientSession} (standing : Standing sha256 store session)
    {projection : ClientProjectionRow}
    (member : projection ∈ ((clientTransactions sha256).seen store session).projections)
    (published : projection.status = .published) :
    projection ∈ store.projections ∨
      ((clientTransactions sha256).seen store session).Live projection.audience := by
  have facts := standing.facts
  rw [standing.seen] at member ⊢
  generalize session.stage = stage at facts member
  rcases published_writes member published with old | inserted
  · exact .inl old
  · right
    cases stage with
    | projectionInserted write =>
        have same : projection = write.row := by simpa [ClientStage.writes] using inserted
        subst same
        refine SameDevice.live (sameDevice_writes _ ?_) facts
        simp [ClientStage.writes, ClientWrite.target]
    | _ => simp [ClientStage.writes] at inserted

end Commits

section Runs

variable {sha256 : Bytes → Hash} {store : ClientStore}

abbrev ClientGuarded (sha256 : Bytes → Hash) : ClientSystem → Prop :=
  Transactions.Guarded ClientInvariant (Standing sha256)

theorem client_guarded {system : ClientSystem} (guarded : ClientGuarded sha256 system)
    (event : Event ClientCall) (current : Transactions.Permits checksCurrent system event) :
    ClientGuarded sha256 (clientStep sha256 system event) := by
  refine Transactions.guarded_step ?_ ?_ ?_ ?_ guarded event current
  · intro store call stage _ opened
    exact clientOpening_standing opened
  · intro store session stage writes inv standing checks outcome
    exact standing_next inv standing checks outcome
  · intro store session answer inv standing outcome
    exact standing_commit inv standing outcome
  · intro store session other answer _ standing others apart _
    exact standing_stable standing others apart

theorem published_step {system : ClientSystem} (guarded : ClientGuarded sha256 system)
    {event : Event ClientCall} {projection : ClientProjectionRow}
    (member : projection ∈ (clientStep sha256 system event).store.projections)
    (published : projection.status = .published) :
    projection ∈ system.store.projections ∨
      (clientStep sha256 system event).store.Live projection.audience := by
  unfold clientStep at member ⊢
  rcases (clientTransactions sha256).step_store system event with
    unchanged | ⟨session, present, answer, -, committed⟩
  · rw [unchanged] at member
    exact .inl member
  · rw [committed] at member ⊢
    exact published_commit (guarded.sessions session present) member published

def clientStoreAfter (sha256 : Bytes → Hash) (store : ClientStore)
    (events : List (Event ClientCall)) : ClientStore :=
  (run (clientStep sha256) ⟨store, [], []⟩ events).store

section

variable (consistent : ClientConsistent store) (events : List (Event ClientCall))
  (current : Along (clientStep sha256) (Transactions.Permits checksCurrent) ⟨store, [], []⟩ events)

include consistent events current

theorem run_guarded : ClientGuarded sha256 (run (clientStep sha256) ⟨store, [], []⟩ events) := by
  refine run_invariant_along (P := ClientGuarded sha256) ?_ ?_ events current
  · intro system event guarded checks
    exact client_guarded guarded event checks
  exact ⟨consistent.invariant, fun _ none => absurd none List.not_mem_nil, List.Pairwise.nil⟩

theorem published_live {projection : ClientProjectionRow}
    (member : projection ∈ (clientStoreAfter sha256 store events).projections)
    (published : projection.status = .published) :
    ∃ before after, events = before ++ after ∧
      projection ∈ (clientStoreAfter sha256 store before).projections ∧
      (clientStoreAfter sha256 store before).Live projection.audience := by
  induction events using List.reverseRecOn with
  | nil => exact ⟨[], [], rfl, member, consistent.projections projection member published⟩
  | append_singleton events event ih =>
      have earlier := (along_append.mp current).1
      unfold clientStoreAfter at member
      rw [run_concat] at member
      rcases published_step (run_guarded consistent events earlier) member published with
        old | live
      · obtain ⟨before, after, rfl, present, live⟩ := ih earlier old
        exact ⟨before, after ++ [event], by rw [List.append_assoc], present, live⟩
      · refine ⟨events ++ [event], [], by rw [List.append_nil], ?_⟩
        unfold clientStoreAfter
        rw [run_concat]
        exact ⟨member, live⟩

end

/-- In every interleaving in which no write relies on an outdated read, the
    active grants are those of active devices and keys; a published projection
    is one too, or revoking its device has left it to be revoked by the caller. -/
theorem revocation_prevails (consistent : ClientConsistent store)
    (events : List (Event ClientCall))
    (current : Along (clientStep sha256) (Transactions.Permits checksCurrent) ⟨store, [], []⟩
      events) :
    (∀ grant ∈ (clientStoreAfter sha256 store events).grants, grant.status = .active →
      (clientStoreAfter sha256 store events).Live grant.audience) ∧
    ∀ projection ∈ (clientStoreAfter sha256 store events).projections,
      projection.status = .published →
      (clientStoreAfter sha256 store events).Live projection.audience ∨
      ((clientStoreAfter sha256 store events).deviceIs .revoked projection.audience = true ∧
        ∃ before after, events = before ++ after ∧
          projection ∈ (clientStoreAfter sha256 store before).projections ∧
          (clientStoreAfter sha256 store before).Live projection.audience) := by
  have inv := (run_guarded consistent events current).store
  refine ⟨inv.grants, ?_⟩
  intro projection member published
  rcases inv.projections projection member published with live | revoked
  · exact .inl live
  · exact .inr ⟨revoked, published_live consistent events current member published⟩

end Runs

def sampleAudience : ClientAudience := ⟨⟨1, 2, 3⟩, 7, 5⟩

def sampleGrantWrite : ClientGrantWrite where
  grantId := 21
  audience := sampleAudience
  generation := 2
  requestId := 31
  requestHash := 1
  signingKeyId := "signer"
  grantEnvelope := [103]
  issuedAt := 1000000
  expiresAt := 3000000
  assignmentLeaseUntil := 2000000

def sampleDigest (_ : Bytes) : Hash :=
  0xcd0aa9856147b6c5b4ff2b7dfee5da20aa38253099ef1b4a64aced233c9afe29

def sampleProjectionWrite : ClientProjectionWrite where
  projectionId := 41
  audience := sampleAudience
  grantId := 20
  policyGeneration := 1
  settingsGeneration := 1
  deviceTrafficMode := .policy
  generation := 1
  requestId := 51
  requestHash := 1
  contentHash := 1
  inputsHash := 1
  signingKeyId := "signer"
  projectionEnvelope := [112]
  issuedAt := 1000000
  staleUntil := 3000000

def sampleClients : ClientStore where
  devices := [⟨7, sampleAudience.scope, 4, .macos, "notebook", "install-1", 8, 1, none, .active,
    .policy, 1⟩]
  keys := [⟨sampleAudience.scope, 7, 5, List.replicate 32 1, .active, 0⟩]
  grants := [⟨20, sampleAudience, 1, 30, 1, "signer",
    0x252f10c83610ebca1a059c0bae8255eba2f95be4d1d7bcfa89d7248a82d9f111, [102], 1000000, 3000000,
    some 2000000, .active⟩]
  projections := []

def sampleRevocation : ClientDeviceRevocation := ⟨sampleAudience.scope, 4, 5⟩

def sampleRotation : ClientDeviceKeyRotation := ⟨1, 2, 4, 6, List.replicate 32 2⟩

def statements (count : Nat) : List (Event ClientCall) := List.replicate count (.advance 0)

def grantAcrossRevocation : List (Event ClientCall) :=
  [.begin (.writeGrant sampleGrantWrite)] ++ statements 2 ++
    [.begin (.revokeDevice sampleRevocation)] ++ statements 6 ++ statements 4

def projectionAcrossRotation : List (Event ClientCall) :=
  [.begin (.writeProjection sampleProjectionWrite)] ++ statements 1 ++
    [.begin (.rotateDeviceKey sampleRotation 1)] ++ statements 8 ++ statements 6

def projectionThenRevocation : List (Event ClientCall) :=
  [.begin (.writeProjection sampleProjectionWrite)] ++ statements 7 ++
    [.begin (.revokeDevice sampleRevocation)] ++ statements 6

/-- The suspension begins before the grant is inserted, and has to wait for its commit. -/
def grantDuringSuspension : List (Event ClientCall) :=
  [.begin (.writeGrant sampleGrantWrite)] ++ statements 3 ++
    [.begin (.setDeviceStatus ⟨1, 2, 4, .suspended⟩), .advance 1, .advance 0, .advance 1] ++
    statements 6

theorem sampleClients_consistent : ClientConsistent sampleClients where
  devices := by decide
  grants := by decide +kernel
  projections := by decide +kernel

/-- With all sessions ended, something is in force for a device or a key that is
    not active. -/
def Overtaken (system : ClientSystem) : Prop :=
  system.sessions.length = 0 ∧
    ((∃ grant ∈ system.store.grants, grant.status = .active ∧ ¬ system.store.Live grant.audience) ∨
      ∃ projection ∈ system.store.projections,
        projection.status = .published ∧ ¬ system.store.Live projection.audience)

instance (system : ClientSystem) : Decidable (Overtaken system) :=
  inferInstanceAs (Decidable (_ ∧ (_ ∨ _)))

/-- Three writes that outlive the revocation or the rotation they overlap. -/
theorem revocation_overtaken :
    ClientConsistent sampleClients ∧
    Overtaken (run (clientStep sampleDigest) ⟨sampleClients, [], []⟩ projectionThenRevocation) ∧
    Overtaken (run (clientStep sampleDigest) ⟨sampleClients, [], []⟩ grantAcrossRevocation) ∧
    Overtaken (run (clientStep sampleDigest) ⟨sampleClients, [], []⟩ projectionAcrossRotation) :=
  ⟨sampleClients_consistent, by decide +kernel⟩

theorem revocation_prevails_suspension :
    Along (clientStep sampleDigest) (Transactions.Permits checksCurrent) ⟨sampleClients, [], []⟩
      grantDuringSuspension ∧
    (clientStoreAfter sampleDigest sampleClients grantDuringSuspension).grants.length = 2 ∧
    ∀ grant ∈ (clientStoreAfter sampleDigest sampleClients grantDuringSuspension).grants,
      grant.status = .active →
        (clientStoreAfter sampleDigest sampleClients grantDuringSuspension).Live grant.audience :=
  ⟨by decide +kernel, by decide +kernel,
    (revocation_prevails sampleClients_consistent grantDuringSuspension (by decide +kernel)).1⟩

end CandyCloud
