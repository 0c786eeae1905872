import CandyCloud.Client.Finality

/-! # Registering a revoked device

A device that is revoked can be registered no more: a registration that names it is told so.
-/

namespace CandyCloud

open Foundation

/-- The registration is answered with the revocation and changes nothing. -/
def AnswersRevoked (sha256 : Bytes → Hash) (accounts : Accounts) (clock : Instant)
    (store : ClientStore) (request : ClientDeviceRegistration) : Prop :=
  ∃ deviceKeyId, serveClient sha256 store (.register accounts clock request) =
    (.registration (.ok (.revoked request.deviceId deviceKeyId)), store)

section Registration

variable {sha256 : Bytes → Hash} {store : ClientStore} {accounts : Accounts} {clock : Instant}
  {request : ClientDeviceRegistration}

theorem answersRevoked_iff :
    AnswersRevoked sha256 accounts clock store request ↔
      ∃ deviceKeyId, registerDevice sha256 accounts clock store request =
        .ok (.revoked request.deviceId deviceKeyId, store) := by
  unfold AnswersRevoked
  simp only [serveClient]
  cases registerDevice sha256 accounts clock store request with
  | error error => simp
  | ok result => simp [Prod.ext_iff]

theorem registerDevice_revoked {deviceId deviceKeyId : Uuid} {store' : ClientStore}
    (done : registerDevice sha256 accounts clock store request =
      .ok (.revoked deviceId deviceKeyId, store')) :
    request.validate = .ok () ∧
      accounts.organizationOf request.scope.tenantId request.scope.userId =
        some request.scope.organizationId ∧
      store.registrationRequest request.scope.tenantId request.scope.userId request.requestId =
        none := by
  simp only [registerDevice, unit_bind_ok, orElse_bind_ok, reject_ok,
    decide_eq_false_iff_not, not_not] at done
  obtain ⟨valid, _, owner, rfl, done⟩ := done
  refine ⟨valid, owner, ?_⟩
  cases repeated : store.registrationRequest request.scope.tenantId request.scope.userId
      request.requestId with
  | none => rfl
  | some stored =>
      simp only [repeated] at done
      split at done
      · simp [pure, Except.pure] at done
      · cases done

theorem registerDevice_of_revoked {device : ClientDeviceRow} (valid : request.validate = .ok ())
    (owner : accounts.organizationOf request.scope.tenantId request.scope.userId =
      some request.scope.organizationId)
    (fresh : store.registrationRequest request.scope.tenantId request.scope.userId
      request.requestId = none)
    (found : store.tenantDevice request.scope.tenantId request.deviceId = some device)
    (revoked : device.status = .revoked) :
    ∃ deviceKeyId, registerDevice sha256 accounts clock store request =
      .ok (.revoked request.deviceId deviceKeyId, store) := by
  refine ⟨((store.latestKeyOf device.id).map (·.deviceKeyId)).getD request.deviceKeyId, ?_⟩
  simp [registerDevice, unit_bind_ok, orElse_bind_ok, valid, owner, fresh, found, revoked,
    pure, Except.pure]

theorem ClientLifecycle.find_tenantDevice {device : ClientDeviceRow} (life : ClientLifecycle store)
    (member : device ∈ store.devices) :
    store.tenantDevice device.scope.tenantId device.deviceId = some device := by
  refine life.find_device member (by simp) ?_
  intro other selected
  simpa using selected

end Registration

/-- In every reachable store a registration that names a revoked device is
    answered with the revocation exactly when it is well formed, made for the
    active tenant and member it names, and not under a request id with which that
    member has registered before. -/
theorem reregistration_revoked_iff (sha256 : Bytes → Hash) (operations : List ClientOperation)
    (accounts : Accounts) (clock : Instant) (request : ClientDeviceRegistration)
    (device : ClientDeviceRow)
    (member : device ∈ (run (lifecycleStep sha256) ClientStore.empty operations).devices)
    (revoked : device.status = .revoked) (tenant : request.scope.tenantId = device.scope.tenantId)
    (named : request.deviceId = device.deviceId) :
    AnswersRevoked sha256 accounts clock (run (lifecycleStep sha256) ClientStore.empty operations)
        request ↔
      request.validate = .ok () ∧
      accounts.organizationOf request.scope.tenantId request.scope.userId =
        some request.scope.organizationId ∧
      (run (lifecycleStep sha256) ClientStore.empty operations).registrationRequest
        request.scope.tenantId request.scope.userId request.requestId = none := by
  rw [answersRevoked_iff]
  constructor
  · rintro ⟨deviceKeyId, done⟩
    exact registerDevice_revoked done
  · rintro ⟨valid, owner, fresh⟩
    have found := (run_lifecycle sha256 operations).find_tenantDevice member
    rw [← tenant, ← named] at found
    exact registerDevice_of_revoked valid owner fresh found revoked

def revokedRegistration : List ClientOperation :=
  [sampleRegistration, .call (.revokeDevice sampleRevocation)]

def firstRegistration : ClientDeviceRegistration :=
  ⟨7, ⟨1, 2, 3⟩, 4, 5, .macos, "notebook", "install-1", none, 1, 8, 3⟩

def laterRegistration : ClientDeviceRegistration :=
  { firstRegistration with recordId := 9, deviceKeyId := 6, requestId := 10 }

theorem revokedRegistration_device :
    ∃ device ∈ (run (lifecycleStep sampleDigest) ClientStore.empty revokedRegistration).devices,
      device.status = .revoked ∧ device.scope.tenantId = 2 ∧ device.deviceId = 4 := by
  decide +kernel

/-- The replay is answered as if the device were still registered. -/
theorem replayed_registration_registered :
    registerDevice sampleDigest sampleAccounts 0
        (run (lifecycleStep sampleDigest) ClientStore.empty revokedRegistration) firstRegistration =
      .ok (.registered 4 true,
        run (lifecycleStep sampleDigest) ClientStore.empty revokedRegistration) ∧
    ¬ ∀ (sha256 : Bytes → Hash) (operations : List ClientOperation) (accounts : Accounts)
      (clock : Instant) (request : ClientDeviceRegistration), ∀ device ∈
        (run (lifecycleStep sha256) ClientStore.empty operations).devices,
      device.status = .revoked → request.scope.tenantId = device.scope.tenantId →
      request.deviceId = device.deviceId →
      AnswersRevoked sha256 accounts clock
        (run (lifecycleStep sha256) ClientStore.empty operations) request := by
  have answered : registerDevice sampleDigest sampleAccounts 0
      (run (lifecycleStep sampleDigest) ClientStore.empty revokedRegistration) firstRegistration =
        .ok (.registered 4 true,
          run (lifecycleStep sampleDigest) ClientStore.empty revokedRegistration) := by
    decide +kernel
  refine ⟨answered, fun claimed => ?_⟩
  obtain ⟨device, member, revoked, tenant, named⟩ := revokedRegistration_device
  obtain ⟨deviceKeyId, told⟩ := answersRevoked_iff.mp (claimed sampleDigest revokedRegistration
    sampleAccounts 0 firstRegistration device member revoked tenant.symm named.symm)
  rw [answered] at told
  cases told

theorem later_registration_revoked :
    ∃ device ∈ (run (lifecycleStep sampleDigest) ClientStore.empty revokedRegistration).devices,
      device.status = .revoked ∧ device.deviceId = laterRegistration.deviceId ∧
      AnswersRevoked sampleDigest sampleAccounts 0
        (run (lifecycleStep sampleDigest) ClientStore.empty revokedRegistration)
        laterRegistration := by
  obtain ⟨device, member, revoked, tenant, named⟩ := revokedRegistration_device
  refine ⟨device, member, revoked, named, ?_⟩
  exact (reregistration_revoked_iff sampleDigest revokedRegistration sampleAccounts 0
    laterRegistration device member revoked tenant.symm named.symm).mpr (by decide +kernel)

end CandyCloud
