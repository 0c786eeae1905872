import CandyCloud.Client.Revocation
import CandyCloud.Client.Writes

/-! # Client calls one after the other

Every call of the client plane, run alone, either leaves the store as it was or makes one of
eight changes.
-/

namespace CandyCloud

open Foundation

def ClientAnswer.failed : ClientAnswer → Bool
  | .grant (.error _) | .projection (.error _) | .revoked (.error _) | .status (.error _)
  | .rotated (.error _) | .projectionsRevoked (.error _) => true
  | _ => false

def ClientReply.failed : ClientReply → Bool
  | .registration (.error _) => true
  | .registration (.ok _) => false
  | .served answer => answer.all ClientAnswer.failed

inductive ClientChange (sha256 : Bytes → Hash) (store : ClientStore) :
    ClientOperation → ClientStore → Prop where
  | registered {accounts : Accounts} {clock : Instant} {request : ClientDeviceRegistration}
      (valid : request.validate = .ok ())
      (device : ∀ old ∈ store.devices, (request.deviceRow sha256).clashes old = false)
      (key : ∀ old ∈ store.keys, (request.keyRow clock).clashes old = false) :
      ClientChange sha256 store (.register accounts clock request)
        { store with
          devices := store.devices ++ [request.deviceRow sha256]
          keys := store.keys ++ [request.keyRow clock] }
  | granted {grant : ClientGrantWrite} (live : store.Live grant.audience)
      (next : grant.generation =
        store.grantGeneration grant.audience.scope.tenantId grant.audience.clientDeviceId + 1) :
      ClientChange sha256 store (.call (.writeGrant grant))
        (store.apply (.insertGrant (grant.row sha256)))
  | published {projection : ClientProjectionWrite}
      (grant : store.grantActive projection.grantId projection.audience = true)
      (next : projection.generation = store.projectionGeneration
        projection.audience.scope.tenantId projection.audience.clientDeviceId + 1) :
      ClientChange sha256 store (.call (.writeProjection projection))
        ((store.apply (.supersedeProjections projection.audience.scope.tenantId
          projection.audience.clientDeviceId)).apply (.insertProjection projection.row))
  | revoked {revocation : ClientDeviceRevocation} {device : ClientDeviceRow}
      (member : device ∈ store.devices) (scope : device.scope = revocation.scope)
      (named : device.deviceId = revocation.deviceId) (status : device.status = .active)
      (key : store.keyActive ⟨revocation.scope, device.id, revocation.deviceKeyId⟩ = true) :
      ClientChange sha256 store (.call (.revokeDevice revocation))
        (((store.apply (.setDeviceStatus (revocation.reach device.id) .revoked)).apply
          (.revokeKeys (revocation.reach device.id))).apply
          (.revokeGrants (revocation.reach device.id)))
  | suspended {scope : SetDeviceStatus} {device : ClientDeviceRow}
      (found : store.managedDevice scope.organizationId scope.tenantId scope.deviceId = some device)
      (status : device.status = .active) :
      ClientChange sha256 store (.call (.setDeviceStatus scope))
        (((store.apply (.setDeviceStatus (scope.reach device.id) .suspended)).apply
          (.revokeGrants (scope.reach device.id))).apply
          (.revokeProjections (scope.reach device.id) none))
  | activated {scope : SetDeviceStatus} {device : ClientDeviceRow}
      (found : store.managedDevice scope.organizationId scope.tenantId scope.deviceId = some device)
      (status : device.status = .suspended) :
      ClientChange sha256 store (.call (.setDeviceStatus scope))
        (store.apply (.setDeviceStatus (scope.reach device.id) .active))
  | rotated {rotation : ClientDeviceKeyRotation} {clock : Instant} {device : ClientDeviceRow}
      {previous : ClientDeviceKeyRow} (valid : rotation.validate = .ok ())
      (found : store.managedDevice rotation.organizationId rotation.tenantId rotation.deviceId
        = some device)
      (status : device.status = .active)
      (key : store.previousKey device.id rotation.organizationId rotation.tenantId = some previous)
      (fresh : store.keyIdExists rotation.tenantId rotation.deviceKeyId = false) :
      ClientChange sha256 store (.call (.rotateDeviceKey rotation clock))
        ((((store.apply (.retireKey (rotation.reach device.id) previous.deviceKeyId)).apply
          (.insertKey (rotation.row clock device))).apply
          (.revokeGrants (rotation.reach device.id))).apply
          (.revokeProjections (rotation.reach device.id) none))
  | swept {audience : ClientAudience} :
      ClientChange sha256 store (.call (.revokeProjections audience))
        (store.apply (.revokeProjections audience.reach (some audience.deviceKeyId)))

/-- What one call did: nothing, or a change behind an answer that is no error. -/
def Served (sha256 : Bytes → Hash) (store : ClientStore) (call : ClientCall)
    (served : Option ClientAnswer × ClientStore) : Prop :=
  ∃ answer, served.1 = some answer ∧ (served.2 = store ∨
    (answer.failed = false ∧ ClientChange sha256 store (.call call) served.2))

section Serve

variable {sha256 : Bytes → Hash} {store : ClientStore}

theorem Served.unchanged {call : ClientCall} (answer : ClientAnswer) :
    Served sha256 store call (some answer, store) :=
  ⟨answer, rfl, .inl rfl⟩

section Statements

variable {call : ClientCall} {stage stage' : ClientStage} {writes more : List ClientWrite}
  {statements : Nat} {answer : ClientAnswer}

theorem Served.next
    (outcome : (clientStatement sha256 (writes.foldl ClientStore.apply store) stage).outcome
      = .next stage' more)
    (rest : Served sha256 store call
      ((clientTransactions sha256).alone store statements stage' (writes ++ more))) :
    Served sha256 store call
      ((clientTransactions sha256).alone store (statements + 1) stage writes) := by
  rw [Transactions.alone_next outcome]
  exact rest

theorem Served.refused
    (outcome : (clientStatement sha256 (writes.foldl ClientStore.apply store) stage).outcome
      = .rollback answer) :
    Served sha256 store call
      ((clientTransactions sha256).alone store (statements + 1) stage writes) := by
  rw [Transactions.alone_rollback outcome]
  exact .unchanged answer

theorem Served.done
    (outcome : (clientStatement sha256 (writes.foldl ClientStore.apply store) stage).outcome
      = .commit answer)
    (succeeded : answer.failed = false)
    (change : ClientChange sha256 store (.call call) (writes.foldl ClientStore.apply store)) :
    Served sha256 store call
      ((clientTransactions sha256).alone store (statements + 1) stage writes) := by
  rw [Transactions.alone_commit outcome]
  exact ⟨answer, rfl, .inr ⟨succeeded, change⟩⟩

end Statements

/-- The statement goes on to the stage with the writes when the condition holds,
    and rolls back otherwise. -/
def Passes (statement : ClientStatement) (condition : Prop) (stage : ClientStage)
    (writes : List ClientWrite) : Prop :=
  (condition ∧ statement.outcome = .next stage writes) ∨
    ∃ answer, statement.outcome = .rollback answer

theorem passes_if {condition : Prop} [Decidable condition] (stage : ClientStage)
    (answer : ClientAnswer) :
    Passes (if condition then proceed stage else answerRollback answer) condition stage [] := by
  by_cases holds : condition
  · exact .inl ⟨holds, by rw [if_pos holds]; rfl⟩
  · exact .inr ⟨answer, by rw [if_neg holds]; rfl⟩

theorem Served.check {call : ClientCall} {stage stage' : ClientStage}
    {writes more : List ClientWrite} {statements : Nat} {condition : Prop}
    (passes : Passes (clientStatement sha256 (writes.foldl ClientStore.apply store) stage) condition
      stage' more)
    (rest : condition → Served sha256 store call
      ((clientTransactions sha256).alone store statements stage' (writes ++ more))) :
    Served sha256 store call
      ((clientTransactions sha256).alone store (statements + 1) stage writes) := by
  rcases passes with ⟨holds, outcome⟩ | ⟨answer, outcome⟩
  · exact .next outcome (rest holds)
  · exact .refused outcome

theorem served_grant (grant : ClientGrantWrite) :
    Served sha256 store (.writeGrant grant)
      ((clientTransactions sha256).serial longestProgram store (.writeGrant grant)) := by
  rcases resolves_grant sha256 store grant with ⟨answer, -, served⟩ | ⟨insertable, served⟩
  · rw [served]
    exact Served.unchanged answer
  · rw [served]
    exact ⟨_, rfl, .inr ⟨rfl, .granted ⟨insertable.device, insertable.key⟩ insertable.next⟩⟩

theorem served_projection (projection : ClientProjectionWrite) :
    Served sha256 store (.writeProjection projection)
      ((clientTransactions sha256).serial longestProgram store (.writeProjection projection)) := by
  rcases resolves_projection sha256 store projection with ⟨answer, -, served⟩ | ⟨insertable, served⟩
  · rw [served]
    exact Served.unchanged answer
  · rw [served]
    exact ⟨_, rfl, .inr ⟨rfl, .published insertable.grant insertable.next⟩⟩

theorem lockRevokedDevice_cases (store : ClientStore) (revocation : ClientDeviceRevocation) :
    (∃ device ∈ store.devices, device.scope = revocation.scope ∧
      device.deviceId = revocation.deviceId ∧ device.status = .active ∧
      (lockRevokedDevice store revocation).outcome
        = .next (.revokeDeviceLocked revocation device.id) []) ∨
    ∃ answer, (lockRevokedDevice store revocation).outcome = .rollback answer := by
  unfold lockRevokedDevice
  split
  · exact .inr ⟨_, rfl⟩
  · rename_i device found
    have located := List.find?_some found
    simp only [Bool.and_eq_true, decide_eq_true_eq] at located
    simp only [locking]
    split
    · rename_i active
      exact .inl ⟨device, List.mem_of_find?_eq_some found, located.1, located.2, active, rfl⟩
    · exact .inr ⟨_, rfl⟩

theorem served_revocation (revocation : ClientDeviceRevocation) :
    Served sha256 store (.revokeDevice revocation)
      ((clientTransactions sha256).serial longestProgram store (.revokeDevice revocation)) := by
  simp only [Transactions.serial, clientTransactions, clientOpening]
  cases valid : revocation.validate with
  | error error => exact Served.unchanged _
  | ok _ =>
      rcases lockRevokedDevice_cases store revocation with
        ⟨device, member, scope, named, active, outcome⟩ | ⟨answer, outcome⟩
      · refine .next outcome ?_
        refine .check (passes_if _ _) fun key => ?_
        refine .next rfl (.next rfl (.next rfl ?_))
        exact .done rfl rfl (.revoked member scope named active key)
      · exact .refused outcome

theorem lockManagedDevice_cases (store : ClientStore) (scope : SetDeviceStatus) :
    (∃ device planned,
      store.managedDevice scope.organizationId scope.tenantId scope.deviceId = some device ∧
      planDeviceStatusChange device.status scope.newStatus = .ok (some planned) ∧
      (lockManagedDevice store scope).outcome = .next (.statusPlanned scope device.id planned) []) ∨
    ∃ answer, (lockManagedDevice store scope).outcome = .rollback answer := by
  unfold lockManagedDevice
  split
  · exact .inr ⟨_, rfl⟩
  · rename_i device found
    simp only [locking]
    split
    · exact .inr ⟨_, rfl⟩
    · exact .inr ⟨_, rfl⟩
    · rename_i planned plan
      exact .inl ⟨device, planned, found, plan, rfl⟩

theorem outcome_succeeded (scope : SetDeviceStatus) (replayed : Bool) :
    (scope.outcome replayed).failed = false := by
  unfold SetDeviceStatus.outcome
  split <;> rfl

theorem plan_cases {current requested planned : ClientDeviceStatus}
    (plan : planDeviceStatusChange current requested = .ok (some planned)) :
    (current = .active ∧ planned = .suspended) ∨ (current = .suspended ∧ planned = .active) := by
  cases current <;> cases requested <;> cases plan <;> decide

theorem served_status (scope : SetDeviceStatus) :
    Served sha256 store (.setDeviceStatus scope)
      ((clientTransactions sha256).serial longestProgram store (.setDeviceStatus scope)) := by
  simp only [Transactions.serial, clientTransactions, clientOpening]
  cases valid : scope.validate with
  | error error => exact Served.unchanged _
  | ok _ =>
      rcases lockManagedDevice_cases store scope with
        ⟨device, planned, found, plan, outcome⟩ | ⟨answer, outcome⟩
      · refine .next outcome (.next rfl ?_)
        rcases plan_cases plan with ⟨status, rfl⟩ | ⟨status, rfl⟩
        · refine .next rfl (.next rfl ?_)
          exact .done rfl (outcome_succeeded scope false) (.suspended found status)
        · exact .done rfl (outcome_succeeded scope false) (.activated found status)
      · exact .refused outcome

theorem lockRotatedDevice_cases (store : ClientStore) (rotation : ClientDeviceKeyRotation)
    (clock : Instant) :
    (∃ device,
      store.managedDevice rotation.organizationId rotation.tenantId rotation.deviceId
        = some device ∧
      (lockRotatedDevice store rotation clock).outcome
        = .next (.rotateDeviceLocked rotation clock device) []) ∨
    ∃ answer, (lockRotatedDevice store rotation clock).outcome = .rollback answer := by
  unfold lockRotatedDevice
  split
  · exact .inr ⟨_, rfl⟩
  · rename_i device found
    exact .inl ⟨device, found, rfl⟩

theorem checkRotation_passes (rotation : ClientDeviceKeyRotation) (clock : Instant)
    (device : ClientDeviceRow) :
    Passes (checkRotation store rotation clock device)
      (device.status = .active ∧
        store.keyIdExists rotation.tenantId rotation.deviceKeyId = false)
      (.rotatePlanned rotation clock device) [] := by
  unfold checkRotation
  split
  · exact .inr ⟨_, rfl⟩
  · rename_i plan
    simp only [planDeviceKeyRotation, unit_bind_ok, reject_ok, decide_eq_false_iff_not,
      not_not] at plan
    exact .inl ⟨plan, rfl⟩

theorem lockPreviousKey_cases (store : ClientStore) (rotation : ClientDeviceKeyRotation)
    (clock : Instant) (device : ClientDeviceRow) :
    (∃ key, store.previousKey device.id rotation.organizationId rotation.tenantId = some key ∧
      (lockPreviousKey store rotation clock device).outcome
        = .next (.rotateKeyLocked rotation clock device key.deviceKeyId) []) ∨
    ∃ answer, (lockPreviousKey store rotation clock device).outcome = .rollback answer := by
  unfold lockPreviousKey
  split
  · exact .inr ⟨_, rfl⟩
  · rename_i key found
    exact .inl ⟨key, found, rfl⟩

theorem insertRotatedKey_passes (rotation : ClientDeviceKeyRotation) (clock : Instant)
    (device : ClientDeviceRow) (previous : Uuid) :
    Passes (insertRotatedKey store rotation clock device previous) True
      (.rotateInserted rotation clock device previous) [.insertKey (rotation.row clock device)] := by
  unfold insertRotatedKey
  split
  · exact .inr ⟨_, rfl⟩
  · exact .inl ⟨trivial, rfl⟩

theorem served_rotation (rotation : ClientDeviceKeyRotation) (clock : Instant) :
    Served sha256 store (.rotateDeviceKey rotation clock)
      ((clientTransactions sha256).serial longestProgram store
        (.rotateDeviceKey rotation clock)) := by
  simp only [Transactions.serial, clientTransactions, clientOpening]
  cases valid : rotation.validate with
  | error error => exact Served.unchanged _
  | ok _ =>
      rcases lockRotatedDevice_cases store rotation clock with
        ⟨device, found, outcome⟩ | ⟨answer, outcome⟩
      · refine .next outcome ?_
        refine .check (checkRotation_passes rotation clock device) fun facts => ?_
        rcases lockPreviousKey_cases store rotation clock device with
          ⟨previous, key, located⟩ | ⟨answer, refusal⟩
        · refine .next located (.next rfl ?_)
          refine .check (insertRotatedKey_passes rotation clock device previous.deviceKeyId)
            fun _ => ?_
          refine .next rfl (.next rfl ?_)
          exact .done rfl rfl (.rotated valid found facts.1 key facts.2)
        · exact .refused refusal
      · exact .refused outcome

theorem served_sweep (audience : ClientAudience) :
    Served sha256 store (.revokeProjections audience)
      ((clientTransactions sha256).serial longestProgram store (.revokeProjections audience)) := by
  simp only [Transactions.serial, clientTransactions, clientOpening]
  by_cases nil : audience.ids.any isNil = true
  · rw [if_pos nil]
    exact Served.unchanged _
  · rw [if_neg nil]
    exact .next rfl (.done rfl rfl .swept)

theorem served_call (sha256 : Bytes → Hash) (store : ClientStore) (call : ClientCall) :
    Served sha256 store call ((clientTransactions sha256).serial longestProgram store call) := by
  cases call with
  | writeGrant grant => exact served_grant grant
  | writeProjection projection => exact served_projection projection
  | revokeDevice revocation => exact served_revocation revocation
  | setDeviceStatus scope => exact served_status scope
  | rotateDeviceKey rotation clock => exact served_rotation rotation clock
  | revokeProjections audience => exact served_sweep audience

theorem registerDevice_cases {accounts : Accounts} {clock : Instant}
    {request : ClientDeviceRegistration} {outcome : ClientDeviceRegistrationOutcome}
    {store' : ClientStore}
    (done : registerDevice sha256 accounts clock store request = .ok (outcome, store')) :
    store' = store ∨ ClientChange sha256 store (.register accounts clock request) store' := by
  simp only [registerDevice, unit_bind_ok, orElse_bind_ok] at done
  obtain ⟨valid, organization, -, -, done⟩ := done
  split at done
  · split at done
    · simp only [pure_ok, Prod.mk.injEq] at done
      exact .inl done.2.symm
    · cases done
  · split at done
    · split at done
      · simp only [pure_ok, Prod.mk.injEq] at done
        exact .inl done.2.symm
      · cases done
      · cases done
    · simp only [bind_ok, insertDevice, orElse_ok, pure_ok, Prod.mk.injEq] at done
      obtain ⟨_, -, _, ⟨devices, inserted, keys, keyed, rfl⟩, -, rfl⟩ := done
      obtain ⟨freshDevice, rfl⟩ := insertRow_some.mp inserted
      obtain ⟨freshKey, rfl⟩ := insertRow_some.mp keyed
      exact .inr (.registered valid freshDevice freshKey)

theorem serve_cases (sha256 : Bytes → Hash) (store : ClientStore) (operation : ClientOperation) :
    (serveClient sha256 store operation).2 = store ∨
      ((serveClient sha256 store operation).1.failed = false ∧
        ClientChange sha256 store operation (serveClient sha256 store operation).2) := by
  cases operation with
  | register accounts clock request =>
      simp only [serveClient]
      cases done : registerDevice sha256 accounts clock store request with
      | error error => exact .inl rfl
      | ok result =>
          rcases registerDevice_cases done with same | change
          · exact .inl same
          · exact .inr ⟨rfl, change⟩
  | call call =>
      obtain ⟨answer, answered, same | ⟨succeeded, change⟩⟩ := served_call sha256 store call
      · exact .inl same
      · refine .inr ⟨?_, change⟩
        simp only [serveClient, ClientReply.failed, answered, Option.all_some]
        exact succeeded

end Serve

end CandyCloud
