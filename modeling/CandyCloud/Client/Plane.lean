import CandyCloud.Client.Issued
import CandyCloud.Client.Generations
import CandyCloud.Client.Serial

/-! # Runs of the terminal client plane

Every call of the plane is one step: the lifecycle of devices, the publication and binding of
policies, the switch of the traffic mode and the two issuing services.
-/

namespace CandyCloud

open Foundation

/-- The services that issue grants and projections. -/
structure ClientServices where
  codec : ProjectionCodec
  grantSigner : ClientGrantSigner
  projectionSigner : PolicyProjectionSigner

namespace ClientServices

variable (services : ClientServices)

def issuance : ClientIssuance := ⟨services.codec.toIssuanceCodec, services.grantSigner⟩

def projections : ClientProjectionService := ⟨services.codec, services.projectionSigner⟩

end ClientServices

inductive LifecycleCall where
  | register (clock : Instant) (request : ClientDeviceRegistration)
  | revokeDevice (revocation : ClientDeviceRevocation)
  | setDeviceStatus (scope : SetDeviceStatus)
  | rotateDeviceKey (rotation : ClientDeviceKeyRotation) (clock : Instant)
  | revokeProjections (audience : ClientAudience)

def LifecycleCall.operation (accounts : Accounts) : LifecycleCall → ClientOperation
  | .register clock request => .register accounts clock request
  | .revokeDevice revocation => .call (.revokeDevice revocation)
  | .setDeviceStatus scope => .call (.setDeviceStatus scope)
  | .rotateDeviceKey rotation clock => .call (.rotateDeviceKey rotation clock)
  | .revokeProjections audience => .call (.revokeProjections audience)

/-- The body of `set_client_traffic_mode` once the device is resolved. -/
structure TrafficModeSwitch where
  device : ClientDeviceRecord
  requestId : Uuid
  requested : ClientTrafficMode
  recordId : Uuid
deriving DecidableEq, Repr

/-- Global is permitted by a bound policy that lists it and enables its egress. -/
def globalPermitted (policy : Option ClientAccessPolicy) : Bool :=
  policy.any fun policy =>
    policy.globalEgressEnabled && policy.modeCapabilities.contains .global

def setClientTrafficMode (codec : ClientCodec) (plane : ClientPlane) (switch : TrafficModeSwitch) :
    Except ClientProjectionSettingsError (ClientTrafficModeOutcome × ClientPlane) := do
  let snapshot ← (authorizationSnapshot codec plane switch.device.scope
    switch.device.recordId).mapError fun _ => .invalidRecord
  setTrafficMode codec plane
    { scope := switch.device.scope
      clientDeviceId := switch.device.recordId
      deviceKeyId := switch.device.deviceKeyId
      requestId := switch.requestId
      requested := switch.requested
      globalPermitted := globalPermitted (snapshot.map (·.policy))
      recordId := switch.recordId }

/-- A call of the client plane. -/
inductive PlaneCall where
  | accounts (accounts : Accounts)
  | topology (topology : Topology)
  | lifecycle (call : LifecycleCall)
  | publishPolicy (request : ClientPolicyPublication)
  | bindPolicy (request : ClientPolicyBinding)
  | publishSettings (request : ClientSettingsPublication)
  | switchMode (switch : TrafficModeSwitch)
  | grant (request : GrantRequest)
  | projection (request : ProjectionRequest)

def planeStep (services : ClientServices) (plane : ClientPlane) : PlaneCall → ClientPlane
  | .accounts accounts => { plane with accounts }
  | .topology topology => { plane with topology }
  | .lifecycle call =>
      { plane with
        clients := lifecycleStep services.codec.sha256 plane.clients (call.operation plane.accounts) }
  | .publishPolicy request =>
      commit plane ((publishPolicy services.codec.toClientCodec plane request).map Prod.snd)
  | .bindPolicy request =>
      commit plane ((bindToDevice services.codec.toClientCodec plane request).map Prod.snd)
  | .publishSettings request =>
      commit plane ((publishSettings services.codec.toClientCodec plane request).map Prod.snd)
  | .switchMode switch =>
      commit plane ((setClientTrafficMode services.codec.toClientCodec plane switch).map Prod.snd)
  | .grant request => (services.issuance.grantForDevice plane request).2
  | .projection request => (services.projections.projectionForDevice plane request).2

/-- A plane without devices, documents or policies. -/
def ClientPlane.empty (accounts : Accounts) (topology : Topology) : ClientPlane where
  accounts
  topology
  clients := ⟨[], [], [], []⟩
  policies := []
  bindings := []
  bindingRequests := []
  settings := []
  modeRequests := []

/-- What each call does to the plane, when it does anything, with what it has
    checked. -/
inductive PlaneChange (services : ClientServices) (plane : ClientPlane) :
    PlaneCall → ClientPlane → Prop where
  | same (call : PlaneCall) : PlaneChange services plane call plane
  | accounts (accounts : Accounts) :
      PlaneChange services plane (.accounts accounts) { plane with accounts }
  | topology (topology : Topology) :
      PlaneChange services plane (.topology topology) { plane with topology }
  | lifecycle (call : LifecycleCall) :
      PlaneChange services plane (.lifecycle call)
        { plane with
          clients :=
            lifecycleStep services.codec.sha256 plane.clients (call.operation plane.accounts) }
  | policy {request : ClientPolicyPublication}
      (accepted : PolicyAccepted services.codec.toClientCodec plane request) :
      PlaneChange services plane (.publishPolicy request)
        { plane with
          policies := policyVersions.publish plane.policies
            (request.newRow services.codec.toClientCodec) }
  | bound {request : ClientPolicyBinding} {bindingId : Uuid}
      {bindings : List ClientPolicyBindingRow} {bindingRequests : List ClientBindingRequestRow}
      (active : request.policyActive plane = true)
      (written : writeBinding services.codec.toClientCodec plane.bindings request =
        some (bindingId, bindings)) :
      PlaneChange services plane (.bindPolicy request) { plane with bindings, bindingRequests }
  | settings {request : ClientSettingsPublication}
      (accepted : SettingsAccepted services.codec.toClientCodec plane request) :
      PlaneChange services plane (.publishSettings request)
        { plane with
          settings := settingsVersions.publish plane.settings
            (request.newRow services.codec.toClientCodec) }
  | switched {switch : TrafficModeSwitch} {snapshot : Option ClientAuthorizationSnapshot}
      {request : ClientTrafficModeRequest} {modeRequests : List ClientModeRequestRow}
      (named : request.clientDeviceId = switch.device.recordId ∧
        request.scope = switch.device.scope)
      (read : authorizationSnapshot services.codec.toClientCodec plane switch.device.scope
        switch.device.recordId = .ok snapshot)
      (permitted : request.requested = .global →
        globalPermitted (snapshot.map (·.policy)) = true) :
      PlaneChange services plane (.switchMode switch)
        { plane with
          clients := { plane.clients with
            devices := updateWhere request.names
              (fun device => { device with trafficMode := request.requested })
              plane.clients.devices }
          modeRequests }
  | granted {request : GrantRequest} {write : ClientGrantWrite}
      (inserted : GrantInserted services.issuance plane request write) :
      PlaneChange services plane (.grant request) (plane.insertGrant services.codec.sha256 write)
  | published {request : ProjectionRequest} {document : SignedPolicyProjection}
      {write : ClientProjectionWrite}
      (inserted : ProjectionInserted services.projections plane request document write) :
      PlaneChange services plane (.projection request) (plane.publishProjection write)

section Changes

variable {services : ClientServices} {plane plane' : ClientPlane} {outcome : ClientPublished}

theorem publishPolicy_change {request : ClientPolicyPublication}
    (done : publishPolicy services.codec.toClientCodec plane request = .ok (outcome, plane')) :
    PlaneChange services plane (.publishPolicy request) plane' := by
  rcases publishPolicy_ok done with rfl | accepted
  · exact .same _
  · rw [publishPolicy_accepted accepted] at done
    rw [← (Prod.mk.inj (Except.ok.inj done)).2]
    exact .policy accepted

theorem publishSettings_change {request : ClientSettingsPublication}
    (done : publishSettings services.codec.toClientCodec plane request = .ok (outcome, plane')) :
    PlaneChange services plane (.publishSettings request) plane' := by
  rcases publishSettings_ok done with rfl | accepted
  · exact .same _
  · rw [publishSettings_accepted accepted] at done
    rw [← (Prod.mk.inj (Except.ok.inj done)).2]
    exact .settings accepted

theorem bindToDevice_ok {codec : ClientCodec} {request : ClientPolicyBinding}
    (done : bindToDevice codec plane request = .ok (outcome, plane')) :
    outcome.replayed = true ∧ plane' = plane ∨
    outcome.replayed = false ∧ request.policyActive plane = true ∧ ∃ bindings bindingRequests,
      writeBinding codec plane.bindings request = some (outcome.id, bindings) ∧
      plane' = { plane with bindings, bindingRequests } := by
  rw [bindToDevice, unit_bind_ok, unit_bind_ok, unit_bind_ok] at done
  obtain ⟨-, -, active, done⟩ := done
  rw [reject_ok, Bool.not_eq_false'] at active
  split at done
  · split at done
    · rw [pure_ok, Prod.mk.injEq] at done
      rw [← done.1, ← done.2]
      exact .inl ⟨rfl, rfl⟩
    · cases done
  · rw [orElse_bind_ok] at done
    obtain ⟨⟨bindingId, bindings⟩, written, done⟩ := done
    rw [orElse_bind_ok] at done
    obtain ⟨rows, -, done⟩ := done
    rw [pure_ok, Prod.mk.injEq] at done
    rw [← done.1, ← done.2]
    exact .inr ⟨rfl, active, bindings, rows, written, rfl⟩

theorem bindToDevice_change {request : ClientPolicyBinding}
    (done : bindToDevice services.codec.toClientCodec plane request = .ok (outcome, plane')) :
    PlaneChange services plane (.bindPolicy request) plane' := by
  rcases bindToDevice_ok done with ⟨-, rfl⟩ | ⟨-, active, bindings, rows, written, rfl⟩
  · exact .same _
  · exact .bound active written

theorem setClientTrafficMode_change {switch : TrafficModeSwitch}
    {outcome : ClientTrafficModeOutcome}
    (done : setClientTrafficMode services.codec.toClientCodec plane switch =
      .ok (outcome, plane')) :
    PlaneChange services plane (.switchMode switch) plane' := by
  rw [setClientTrafficMode, bind_ok] at done
  obtain ⟨snapshot, read, done⟩ := done
  rw [mapError_ok] at read
  rw [setTrafficMode, unit_bind_ok, orElse_bind_ok] at done
  obtain ⟨valid, device, -, done⟩ := done
  rw [ClientTrafficModeRequest.validate, unit_bind_ok, reject_ok] at valid
  rw [unit_bind_ok] at done
  obtain ⟨-, done⟩ := done
  split at done
  · split at done
    · rw [pure_ok, Prod.mk.injEq] at done
      rw [← done.2]
      exact .same _
    · cases done
  · simp only at done
    rw [orElse_bind_ok] at done
    obtain ⟨rows, -, done⟩ := done
    rw [pure_ok, Prod.mk.injEq] at done
    rw [← done.2]
    refine .switched ⟨rfl, rfl⟩ read ?_
    intro global
    have allowed := valid.2
    simp only at global allowed
    rw [reject_ok, global, decide_eq_true rfl, Bool.true_and, Bool.not_eq_false'] at allowed
    exact allowed

end Changes

theorem planeStep_change (services : ClientServices) (plane : ClientPlane) (call : PlaneCall) :
    PlaneChange services plane call (planeStep services plane call) := by
  have committed : ∀ {ε α : Type} {result : Except ε (α × ClientPlane)},
      (∀ outcome plane', result = .ok (outcome, plane') →
        PlaneChange services plane call plane') →
      PlaneChange services plane call (commit plane (result.map Prod.snd)) := by
    intro ε α result change
    refine commit_cases (.same call) ?_
    intro plane' done
    obtain ⟨⟨outcome, _⟩, finished, rfl⟩ := map_ok.mp done
    exact change outcome _ finished
  cases call with
  | accounts accounts => exact .accounts accounts
  | topology topology => exact .topology topology
  | lifecycle call => exact .lifecycle call
  | publishPolicy request => exact committed fun _ _ done => publishPolicy_change done
  | bindPolicy request => exact committed fun _ _ done => bindToDevice_change done
  | publishSettings request => exact committed fun _ _ done => publishSettings_change done
  | switchMode switch => exact committed fun _ _ done => setClientTrafficMode_change done
  | grant request =>
      rw [planeStep]
      rcases services.issuance.grantForDevice_cases plane request with
        ⟨error, failed⟩ | ⟨row, -, -, replayed⟩ | ⟨write, inserted, issued⟩
      · rw [failed]
        exact .same _
      · rw [replayed]
        exact .same _
      · rw [issued]
        exact .granted inserted
  | projection request =>
      rw [planeStep]
      rcases services.projections.projectionForDevice_cases plane request with
        ⟨row, -, -, replayed⟩ | outcome
      · rw [replayed]
        exact .same _
      · generalize services.projections.projectionForDevice plane request = served at outcome
        cases outcome with
        | failed error => exact .same _
        | unchanged unanswered attempted => exact .same _
        | published due inserted => exact .published inserted

/-- The stored documents are the same, up to their status. -/
structure DocumentsKept (before after : ClientStore) : Prop where
  grants : after.grants.map (·.record) = before.grants.map (·.record)
  projections : after.projections.map (·.record "") = before.projections.map (·.record "")

theorem DocumentsKept.refl (store : ClientStore) : DocumentsKept store store := ⟨rfl, rfl⟩

theorem DocumentsKept.trans {a b c : ClientStore} (first : DocumentsKept a b)
    (second : DocumentsKept b c) : DocumentsKept a c :=
  ⟨second.grants.trans first.grants, second.projections.trans first.projections⟩

def ClientWrite.insertsDocument : ClientWrite → Bool
  | .insertGrant _ | .insertProjection _ => true
  | _ => false

theorem apply_keeps_documents {write : ClientWrite} (keeps : write.insertsDocument = false)
    (store : ClientStore) : DocumentsKept store (store.apply write) := by
  cases write with
  | insertGrant row | insertProjection row => cases keeps
  | setDeviceStatus reach status | revokeKeys reach | retireKey reach deviceKeyId
  | insertKey row => exact ⟨rfl, rfl⟩
  | revokeGrants reach => exact ⟨map_updateWhere (by intro row; rfl) store.grants, rfl⟩
  | revokeProjections reach deviceKeyId | supersedeProjections tenantId clientDeviceId =>
      exact ⟨rfl, map_updateWhere (by intro row; rfl) store.projections⟩

theorem change_keeps_documents {sha256 : Bytes → Hash} {accounts : Accounts}
    {store store' : ClientStore} {call : LifecycleCall}
    (change : ClientChange sha256 store (call.operation accounts) store') :
    DocumentsKept store store' := by
  have kept := fun {write} (keeps : ClientWrite.insertsDocument write = false) {store} =>
    apply_keeps_documents keeps store
  cases call with
  | register clock request =>
      cases change
      exact ⟨rfl, rfl⟩
  | revokeDevice revocation =>
      cases change
      exact ((kept rfl).trans (kept rfl)).trans (kept rfl)
  | setDeviceStatus scope =>
      cases change with
      | suspended => exact ((kept rfl).trans (kept rfl)).trans (kept rfl)
      | activated => exact kept rfl
  | rotateDeviceKey rotation clock =>
      cases change
      exact (((kept rfl).trans (kept rfl)).trans (kept rfl)).trans (kept rfl)
  | revokeProjections audience =>
      cases change
      exact kept rfl

theorem lifecycle_keeps_documents (sha256 : Bytes → Hash) (accounts : Accounts)
    (store : ClientStore) (call : LifecycleCall) :
    DocumentsKept store (lifecycleStep sha256 store (call.operation accounts)) := by
  rcases serve_cases sha256 store (call.operation accounts) with same | ⟨-, change⟩
  · rw [lifecycleStep, same]
    exact .refl store
  · exact change_keeps_documents change

/-- What a step does to the grants and projections: nothing but their status, or
    one new row. -/
inductive DocumentChange (services : ClientServices) (plane plane' : ClientPlane) : Prop where
  | kept (kept : DocumentsKept plane.clients plane'.clients)
  | granted {request : GrantRequest} {write : ClientGrantWrite}
      (inserted : GrantInserted services.issuance plane request write)
      (same : plane' = plane.insertGrant services.codec.sha256 write)
  | published {request : ProjectionRequest} {document : SignedPolicyProjection}
      {write : ClientProjectionWrite}
      (inserted : ProjectionInserted services.projections plane request document write)
      (same : plane' = plane.publishProjection write)

theorem planeStep_documents (services : ClientServices) (plane : ClientPlane) (call : PlaneCall) :
    DocumentChange services plane (planeStep services plane call) := by
  have change := planeStep_change services plane call
  generalize planeStep services plane call = plane' at change
  cases change with
  | same | accounts | topology | policy | bound | settings => exact .kept (.refl _)
  | lifecycle call => exact .kept (lifecycle_keeps_documents _ _ _ call)
  | switched => exact .kept ⟨rfl, rfl⟩
  | granted inserted => exact .granted inserted rfl
  | published inserted => exact .published inserted rfl

end CandyCloud
