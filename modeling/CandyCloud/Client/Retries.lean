import CandyCloud.Client.Fingerprints

/-! # Retrying a request by its id

Five operations of the client plane record the request id they were accepted under. A retry that
finds the record and the same fingerprint is answered from it.
-/

namespace CandyCloud

open Foundation

/-- The requests that a client may send again. -/
inductive RetriedRequest where
  | register (clock : Instant) (request : ClientDeviceRegistration)
  | publishPolicy (request : ClientPolicyPublication)
  | bindPolicy (request : ClientPolicyBinding)
  | publishSettings (request : ClientSettingsPublication)
  | setTrafficMode (request : ClientTrafficModeRequest)

inductive RetriedOutcome where
  | registered (deviceId : Uuid)
  | revoked (deviceId deviceKeyId : Uuid)
  | published (id : Uuid)
  | switched (previous current : ClientTrafficMode)
deriving DecidableEq, Repr

/-- What was done, and whether an earlier request did it. -/
structure RetriedAnswer where
  outcome : RetriedOutcome
  replayed : Bool
deriving DecidableEq, Repr

inductive RetriedError where
  | control (error : ClientControlError)
  | access (error : ClientAccessPolicyError)
  | settings (error : ClientProjectionSettingsError)
deriving DecidableEq, Repr

def RetriedError.isConflict : RetriedError → Bool
  | .control .bindingConflict | .access .conflict | .settings .conflict => true
  | _ => false

def ClientDeviceRegistrationOutcome.answer : ClientDeviceRegistrationOutcome → RetriedAnswer
  | .registered deviceId replayed => ⟨.registered deviceId, replayed⟩
  | .revoked deviceId deviceKeyId => ⟨.revoked deviceId deviceKeyId, false⟩

def ClientPublished.answer (published : ClientPublished) : RetriedAnswer :=
  ⟨.published published.id, published.replayed⟩

def ClientTrafficModeOutcome.answer (outcome : ClientTrafficModeOutcome) : RetriedAnswer :=
  ⟨.switched outcome.previous outcome.current, outcome.replayed⟩

/-- One request against the plane. -/
def serveRetried (codec : ClientCodec) (plane : ClientPlane) :
    RetriedRequest → Except RetriedError (RetriedAnswer × ClientPlane)
  | .register clock request =>
      ((registerDevice codec.sha256 plane.accounts clock plane.clients request).map fun served =>
        (served.1.answer, { plane with clients := served.2 })).mapError .control
  | .publishPolicy request =>
      ((publishPolicy codec plane request).map fun served =>
        (served.1.answer, served.2)).mapError .access
  | .bindPolicy request =>
      ((bindToDevice codec plane request).map fun served =>
        (served.1.answer, served.2)).mapError .access
  | .publishSettings request =>
      ((publishSettings codec plane request).map fun served =>
        (served.1.answer, served.2)).mapError .settings
  | .setTrafficMode request =>
      ((setTrafficMode codec plane request).map fun served =>
        (served.1.answer, served.2)).mapError .settings

/-- A retried request, or another call between two of them. -/
inductive RetriedCall where
  | request (request : RetriedRequest)
  | plane (call : PlaneCall)

def retriedStep (services : ClientServices) (plane : ClientPlane) : RetriedCall → ClientPlane
  | .request request =>
      commit plane ((serveRetried services.codec.toClientCodec plane request).map Prod.snd)
  | .plane call => planeStep services plane call

/-- The unique key a request id stands in. -/
inductive RetryKey where
  | registration (tenantId userId requestId : Uuid)
  | policy (tenantId requestId : Uuid)
  | binding (tenantId requestId : Uuid)
  | settings (tenantId requestId : Uuid)
  | mode (tenantId clientDeviceId requestId : Uuid)
deriving DecidableEq, Repr

structure RetryRecord where
  requestHash : Hash
  outcome : RetriedOutcome
deriving DecidableEq, Repr

namespace ClientPlane

variable (plane : ClientPlane)

def recorded : RetryKey → Option RetryRecord
  | .registration tenantId userId requestId =>
      (plane.clients.registrationRequest tenantId userId requestId).map fun row =>
        ⟨row.requestHash, .registered row.deviceId⟩
  | .policy tenantId requestId =>
      (plane.policies.find? fun row =>
        decide (row.tenantId = tenantId) && decide (row.requestId = requestId)).map fun row =>
        ⟨row.requestHash, .published row.id⟩
  | .binding tenantId requestId =>
      (plane.bindingRequests.find? fun row =>
        decide (row.tenantId = tenantId) && decide (row.requestId = requestId)).map fun row =>
        ⟨row.requestHash, .published row.bindingId⟩
  | .settings tenantId requestId =>
      (plane.settings.find? fun row =>
        decide (row.tenantId = tenantId) && decide (row.requestId = requestId)).map fun row =>
        ⟨row.requestHash, .published row.id⟩
  | .mode tenantId clientDeviceId requestId =>
      (plane.modeRequests.find? fun row =>
        decide (row.scope.tenantId = tenantId) && decide (row.clientDeviceId = clientDeviceId) &&
          decide (row.requestId = requestId)).map fun row =>
        ⟨row.requestHash, .switched row.previousMode row.requestedMode⟩

end ClientPlane

namespace RetriedRequest

def key : RetriedRequest → RetryKey
  | .register _ request =>
      .registration request.scope.tenantId request.scope.userId request.requestId
  | .publishPolicy request => .policy request.policy.tenantId request.requestId
  | .bindPolicy request => .binding request.scope.tenantId request.requestId
  | .publishSettings request => .settings request.settings.tenantId request.requestId
  | .setTrafficMode request =>
      .mode request.scope.tenantId request.clientDeviceId request.requestId

/-- The request without what is drawn or looked up anew at each attempt: the
    identifiers of new rows, the time, and whether Global is permitted. -/
def content : RetriedRequest → RetriedRequest
  | .register _ request => .register 0 { request with recordId := 0 }
  | .publishPolicy request => .publishPolicy request
  | .bindPolicy request => .bindPolicy { request with bindingId := 0, recordId := 0 }
  | .publishSettings request => .publishSettings { request with settingsId := 0 }
  | .setTrafficMode request => .setTrafficMode { request with globalPermitted := true, recordId := 0 }

/-- The bytes whose digest is stored with the request. -/
def fingerprinted (codec : ClientCodec) : RetriedRequest → Bytes
  | .register _ request => registrationBytes request
  | .publishPolicy request =>
      utf8 "candy/terminal-client-access-policy/v1" ++ [0] ++
        uuidBytes request.organizationId ++ uuidBytes request.actorId ++
        codec.policyJson request.policy
  | .bindPolicy request =>
      utf8 "candy/terminal-client-access-policy-binding/v1" ++ [0] ++
        [request.policyId, request.scope.organizationId, request.scope.tenantId,
          request.scope.userId, request.clientDeviceId, request.actorId].flatMap uuidBytes
  | .publishSettings request =>
      utf8 "candy/terminal-client-projection-settings/v1" ++ [0] ++
        lengthPrefixed (uuidBytes request.organizationId) ++
        lengthPrefixed (uuidBytes request.settings.tenantId) ++
        lengthPrefixed (codec.settingsJson request.settings) ++ uuidBytes request.actorId
  | .setTrafficMode request =>
      utf8 "candy/terminal-client-traffic-mode/v1" ++ [0] ++
        (request.scope.ids ++ [request.clientDeviceId, request.deviceKeyId]).flatMap
          (fun id => lengthPrefixed (uuidBytes id)) ++
        lengthPrefixed (utf8 request.requested.toDatabaseValue)

def fingerprint (codec : ClientCodec) (request : RetriedRequest) : Hash :=
  codec.sha256 (request.fingerprinted codec)

def WellFormed : RetriedRequest → Prop
  | .register _ request => request.validate = .ok ()
  | .publishPolicy request =>
      request.policy.validate = .ok () ∧
        [request.organizationId, request.actorId, request.requestId].any isNil = false
  | .bindPolicy request =>
      (request.policyId :: request.scope.ids ++
        [request.clientDeviceId, request.actorId, request.requestId]).any isNil = false
  | .publishSettings request =>
      request.settings.validate = .ok () ∧
        [request.organizationId, request.actorId, request.requestId].any isNil = false
  | .setTrafficMode request =>
      (request.scope.ids ++
        [request.clientDeviceId, request.deviceKeyId, request.requestId]).any isNil = false

/-- The tenant, the organization, the actor and the device are active, as far as
    the operation asks for them. -/
def InScope (plane : ClientPlane) : RetriedRequest → Prop
  | .register _ request =>
      plane.accounts.organizationOf request.scope.tenantId request.scope.userId =
        some request.scope.organizationId
  | .publishPolicy request =>
      plane.accounts.publisherOrganization request.policy.tenantId request.actorId =
        some request.organizationId
  | .bindPolicy request => request.organization plane = some request.scope.organizationId
  | .publishSettings request =>
      plane.accounts.activeTenant request.settings.tenantId request.organizationId = true
  | .setTrafficMode request =>
      ∃ device, plane.clients.devices.find? request.names = some device ∧ device.status = .active

def Permitted : RetriedRequest → Prop
  | .setTrafficMode request => request.requested = .global → request.globalPermitted = true
  | _ => True

def Backed (plane : ClientPlane) : RetriedRequest → Prop
  | .bindPolicy request => request.policyActive plane = true
  | _ => True

/-- The outcome names the device that was registered. -/
def Names (outcome : RetriedOutcome) : RetriedRequest → Prop
  | .register _ request => outcome = .registered request.deviceId
  | _ => True

theorem fingerprinted_content (codec : ClientCodec) (request : RetriedRequest) :
    request.content.fingerprinted codec = request.fingerprinted codec := by
  cases request with
  | register | publishPolicy | bindPolicy | publishSettings | setTrafficMode => rfl

end RetriedRequest

variable {sha256 : Bytes → Hash} {accounts : Accounts} {clock : Instant} {store : ClientStore}
  {α : Type} {rows : List α} {published : ClientPublished} {rest rest' : Bytes}
  {again : RetriedRequest}

section Recorded

variable {codec : ClientCodec} {plane : ClientPlane}

theorem registerDevice_recorded {request : ClientDeviceRegistration} {row : ClientDeviceRow}
    (valid : request.validate = .ok ())
    (organization : accounts.organizationOf request.scope.tenantId request.scope.userId =
      some request.scope.organizationId)
    (stored : store.registrationRequest request.scope.tenantId request.scope.userId
      request.requestId = some row) :
    registerDevice sha256 accounts clock store request =
      if row.requestHash = requestFingerprint sha256 request ∧ row.deviceId = request.deviceId then
        .ok (.registered request.deviceId true, store)
      else .error .bindingConflict := by
  simp only [registerDevice, valid, organization, orElse, stored, ne_eq, not_true, decide_false,
    reject, bind, Except.bind]
  rfl

theorem publishPolicy_recorded {request : ClientPolicyPublication} {row : ClientAccessPolicyRow}
    (valid : request.policy.validate = .ok ())
    (named : [request.organizationId, request.actorId, request.requestId].any isNil = false)
    (scope : plane.accounts.publisherOrganization request.policy.tenantId request.actorId =
      some request.organizationId)
    (stored : plane.policies.find? request.requested = some row) :
    publishPolicy codec plane request =
      if row.requestHash = request.fingerprint codec then .ok (⟨row.id, true⟩, plane)
      else .error .conflict := by
  simp only [publishPolicy, ClientAccessPolicy.contentHash, valid, named, scope, stored, ne_eq,
    not_true, decide_false, reject, bind, Except.bind]
  rfl

theorem bindToDevice_recorded {request : ClientPolicyBinding} {row : ClientBindingRequestRow}
    (named : (request.policyId :: request.scope.ids ++
      [request.clientDeviceId, request.actorId, request.requestId]).any isNil = false)
    (scope : request.organization plane = some request.scope.organizationId)
    (active : request.policyActive plane = true)
    (stored : plane.bindingRequests.find? (fun row =>
      decide (row.tenantId = request.scope.tenantId) &&
        decide (row.requestId = request.requestId)) = some row) :
    bindToDevice codec plane request =
      if row.requestHash = request.fingerprint codec then .ok (⟨row.bindingId, true⟩, plane)
      else .error .conflict := by
  simp only [bindToDevice, named, scope, active, stored, ne_eq, not_true, decide_false, Bool.not_true,
    reject, bind, Except.bind]
  rfl

theorem bindToDevice_unbacked {request : ClientPolicyBinding}
    (named : (request.policyId :: request.scope.ids ++
      [request.clientDeviceId, request.actorId, request.requestId]).any isNil = false)
    (scope : request.organization plane = some request.scope.organizationId)
    (inactive : request.policyActive plane = false) :
    bindToDevice codec plane request = .error .conflict := by
  simp only [bindToDevice, named, scope, inactive, ne_eq, not_true, decide_false, Bool.not_false,
    reject, bind, Except.bind]
  rfl

theorem publishSettings_recorded {request : ClientSettingsPublication} {row : ClientSettingsRow}
    (valid : request.settings.validate = .ok ())
    (named : [request.organizationId, request.actorId, request.requestId].any isNil = false)
    (scope : plane.accounts.activeTenant request.settings.tenantId request.organizationId = true)
    (stored : plane.settings.find? request.requested = some row) :
    publishSettings codec plane request =
      if row.requestHash = request.fingerprint codec then .ok (⟨row.id, true⟩, plane)
      else .error .conflict := by
  simp only [publishSettings, ClientProjectionSettings.contentHash, valid, named, scope, stored,
    Bool.not_true, reject, bind, Except.bind]
  rfl

theorem setTrafficMode_recorded {request : ClientTrafficModeRequest} {device : ClientDeviceRow}
    {row : ClientModeRequestRow} (valid : request.validate = .ok ())
    (found : plane.clients.devices.find? request.names = some device)
    (active : device.status = .active)
    (stored : plane.modeRequests.find? (fun row =>
      decide (row.scope.tenantId = request.scope.tenantId) &&
        decide (row.clientDeviceId = request.clientDeviceId) &&
        decide (row.requestId = request.requestId)) = some row) :
    setTrafficMode codec plane request =
      if row.requestHash = request.fingerprint codec then
        .ok (⟨row.previousMode, row.requestedMode, true⟩, plane)
      else .error .conflict := by
  simp only [setTrafficMode, valid, found, active, stored, orElse, ne_eq, not_true, decide_false,
    reject, bind, Except.bind]
  rfl

theorem setTrafficMode_forbidden {request : ClientTrafficModeRequest}
    (named : (request.scope.ids ++
      [request.clientDeviceId, request.deviceKeyId, request.requestId]).any isNil = false)
    (global : request.requested = .global) (forbidden : request.globalPermitted = false) :
    setTrafficMode codec plane request = .error .modeNotPermitted := by
  simp only [setTrafficMode, ClientTrafficModeRequest.validate, named, global, forbidden,
    decide_true, Bool.not_false, Bool.and_self, reject, bind, Except.bind]
  rfl

theorem valid_of_permitted {request : ClientTrafficModeRequest}
    (named : (request.scope.ids ++
      [request.clientDeviceId, request.deviceKeyId, request.requestId]).any isNil = false)
    (permitted : request.requested = .global → request.globalPermitted = true) :
    request.validate = .ok () := by
  rw [ClientTrafficModeRequest.validate, unit_bind_ok, reject_ok, reject_ok]
  refine ⟨named, ?_⟩
  by_cases global : request.requested = .global
  · rw [permitted global, Bool.not_true, Bool.and_false]
  · rw [decide_eq_false global, Bool.false_and]

variable {request : RetriedRequest} {outcome : RetriedOutcome} {record : RetryRecord}

theorem serveRetried_replays (wellFormed : request.WellFormed) (scope : request.InScope plane)
    (permitted : request.Permitted) (backed : request.Backed plane) (named : request.Names outcome)
    (stored : plane.recorded request.key = some ⟨request.fingerprint codec, outcome⟩) :
    serveRetried codec plane request = .ok (⟨outcome, true⟩, plane) := by
  cases request with
  | register clock request =>
      obtain ⟨row, found, same⟩ := Option.map_eq_some_iff.mp stored
      obtain ⟨hash, rfl⟩ := RetryRecord.mk.inj same
      have device : row.deviceId = request.deviceId := RetriedOutcome.registered.inj named
      rw [serveRetried, registerDevice_recorded wellFormed scope found, if_pos ⟨hash, device⟩,
        device]
      rfl
  | publishPolicy request =>
      obtain ⟨row, found, same⟩ := Option.map_eq_some_iff.mp stored
      obtain ⟨(hash : row.requestHash = request.fingerprint codec), rfl⟩ := RetryRecord.mk.inj same
      rw [serveRetried, publishPolicy_recorded wellFormed.1 wellFormed.2 scope found, if_pos hash]
      rfl
  | bindPolicy request =>
      obtain ⟨row, found, same⟩ := Option.map_eq_some_iff.mp stored
      obtain ⟨(hash : row.requestHash = request.fingerprint codec), rfl⟩ := RetryRecord.mk.inj same
      rw [serveRetried, bindToDevice_recorded wellFormed scope backed found, if_pos hash]
      rfl
  | publishSettings request =>
      obtain ⟨row, found, same⟩ := Option.map_eq_some_iff.mp stored
      obtain ⟨(hash : row.requestHash = request.fingerprint codec), rfl⟩ := RetryRecord.mk.inj same
      rw [serveRetried, publishSettings_recorded wellFormed.1 wellFormed.2 scope found,
        if_pos hash]
      rfl
  | setTrafficMode request =>
      obtain ⟨row, found, same⟩ := Option.map_eq_some_iff.mp stored
      obtain ⟨(hash : row.requestHash = request.fingerprint codec), rfl⟩ := RetryRecord.mk.inj same
      obtain ⟨device, present, active⟩ := scope
      rw [serveRetried, setTrafficMode_recorded (valid_of_permitted wellFormed permitted) present
        active found, if_pos hash]
      rfl

theorem serveRetried_conflicts (wellFormed : request.WellFormed) (scope : request.InScope plane)
    (permitted : request.Permitted) (stored : plane.recorded request.key = some record)
    (other : record.requestHash ≠ request.fingerprint codec) :
    ∃ error, serveRetried codec plane request = .error error ∧ error.isConflict = true := by
  cases request with
  | register clock request =>
      obtain ⟨row, found, rfl⟩ := Option.map_eq_some_iff.mp stored
      refine ⟨.control .bindingConflict, ?_, rfl⟩
      rw [serveRetried, registerDevice_recorded wellFormed scope found,
        if_neg fun both => other both.1]
      rfl
  | publishPolicy request =>
      obtain ⟨row, found, rfl⟩ := Option.map_eq_some_iff.mp stored
      have other : row.requestHash ≠ request.fingerprint codec := other
      refine ⟨.access .conflict, ?_, rfl⟩
      rw [serveRetried, publishPolicy_recorded wellFormed.1 wellFormed.2 scope found, if_neg other]
      rfl
  | bindPolicy request =>
      obtain ⟨row, found, rfl⟩ := Option.map_eq_some_iff.mp stored
      have other : row.requestHash ≠ request.fingerprint codec := other
      refine ⟨.access .conflict, ?_, rfl⟩
      cases active : request.policyActive plane with
      | true =>
          rw [serveRetried, bindToDevice_recorded wellFormed scope active found, if_neg other]
          rfl
      | false =>
          rw [serveRetried, bindToDevice_unbacked wellFormed scope active]
          rfl
  | publishSettings request =>
      obtain ⟨row, found, rfl⟩ := Option.map_eq_some_iff.mp stored
      have other : row.requestHash ≠ request.fingerprint codec := other
      refine ⟨.settings .conflict, ?_, rfl⟩
      rw [serveRetried, publishSettings_recorded wellFormed.1 wellFormed.2 scope found,
        if_neg other]
      rfl
  | setTrafficMode request =>
      obtain ⟨row, found, rfl⟩ := Option.map_eq_some_iff.mp stored
      have other : row.requestHash ≠ request.fingerprint codec := other
      obtain ⟨device, present, active⟩ := scope
      refine ⟨.settings .conflict, ?_, rfl⟩
      rw [serveRetried, setTrafficMode_recorded (valid_of_permitted wellFormed permitted) present
        active found, if_neg other]
      rfl

theorem serveRetried_forbidden (wellFormed : request.WellFormed)
    (forbidden : ¬ request.Permitted) :
    serveRetried codec plane request = .error (.settings .modeNotPermitted) := by
  cases request with
  | register | publishPolicy | bindPolicy | publishSettings => exact absurd trivial forbidden
  | setTrafficMode request =>
      simp only [RetriedRequest.Permitted, Classical.not_imp, Bool.not_eq_true] at forbidden
      rw [serveRetried, setTrafficMode_forbidden wellFormed forbidden.1 forbidden.2]
      rfl

theorem serveRetried_unbacked (wellFormed : request.WellFormed) (scope : request.InScope plane)
    (unbacked : ¬ request.Backed plane) :
    serveRetried codec plane request = .error (.access .conflict) := by
  cases request with
  | register | publishPolicy | setTrafficMode | publishSettings => exact absurd trivial unbacked
  | bindPolicy request =>
      simp only [RetriedRequest.Backed, Bool.not_eq_true] at unbacked
      rw [serveRetried, bindToDevice_unbacked wellFormed scope unbacked]
      rfl

end Recorded

/-- What a registration is looked up and compared by. -/
def ClientDeviceRow.requestForm (row : ClientDeviceRow) : Uuid × Uuid × Uuid × Hash × Uuid :=
  (row.scope.tenantId, row.scope.userId, row.requestId, row.requestHash, row.deviceId)

structure RequestsGrow (before after : ClientPlane) : Prop where
  devices :
    before.clients.devices.map (·.requestForm) <+: after.clients.devices.map (·.requestForm)
  policies : before.policies.map (·.content) <+: after.policies.map (·.content)
  bindingRequests : before.bindingRequests <+: after.bindingRequests
  settings : before.settings.map (·.content) <+: after.settings.map (·.content)
  modeRequests : before.modeRequests <+: after.modeRequests

theorem RequestsGrow.refl (plane : ClientPlane) : RequestsGrow plane plane :=
  ⟨List.prefix_rfl, List.prefix_rfl, List.prefix_rfl, List.prefix_rfl, List.prefix_rfl⟩

theorem RequestsGrow.trans {a b c : ClientPlane} (first : RequestsGrow a b)
    (second : RequestsGrow b c) : RequestsGrow a c :=
  ⟨first.devices.trans second.devices, first.policies.trans second.policies,
    first.bindingRequests.trans second.bindingRequests, first.settings.trans second.settings,
    first.modeRequests.trans second.modeRequests⟩

theorem find_grown {κ β : Type} (content : α → κ) (wanted : κ → Bool) (value : κ → β)
    {rows' : List α} (grown : rows.map content <+: rows'.map content) {b : β}
    (found : (rows.find? fun row => wanted (content row)).map (fun row => value (content row)) =
      some b) :
    (rows'.find? fun row => wanted (content row)).map (fun row => value (content row)) =
      some b := by
  have mapped : ∀ rows : List α,
      (rows.find? fun row => wanted (content row)).map (fun row => value (content row)) =
        ((rows.map content).find? wanted).map value := by
    intro rows
    rw [List.find?_map, Option.map_map]
    rfl
  rw [mapped] at found ⊢
  obtain ⟨row, first, rfl⟩ := Option.map_eq_some_iff.mp found
  rw [grown.find?_eq_some first, Option.map_some]

theorem RequestsGrow.recorded {before after : ClientPlane} (grown : RequestsGrow before after)
    {key : RetryKey} {record : RetryRecord} (stored : before.recorded key = some record) :
    after.recorded key = some record := by
  cases key with
  | registration tenantId userId requestId =>
      exact find_grown ClientDeviceRow.requestForm
        (fun form => decide (form.1 = tenantId) && decide (form.2.1 = userId) &&
          decide (form.2.2.1 = requestId))
        (fun form => RetryRecord.mk form.2.2.2.1 (.registered form.2.2.2.2)) grown.devices stored
  | policy tenantId requestId =>
      exact find_grown ClientAccessPolicyRow.content
        (fun row => decide (row.tenantId = tenantId) && decide (row.requestId = requestId))
        (fun row => RetryRecord.mk row.requestHash (.published row.id)) grown.policies stored
  | binding tenantId requestId =>
      exact find_grown id
        (fun row : ClientBindingRequestRow => decide (row.tenantId = tenantId) &&
          decide (row.requestId = requestId))
        (fun row => RetryRecord.mk row.requestHash (.published row.bindingId))
        (by simpa using grown.bindingRequests) stored
  | settings tenantId requestId =>
      exact find_grown ClientSettingsRow.content
        (fun row => decide (row.tenantId = tenantId) && decide (row.requestId = requestId))
        (fun row => RetryRecord.mk row.requestHash (.published row.id)) grown.settings stored
  | mode tenantId clientDeviceId requestId =>
      exact find_grown id
        (fun row : ClientModeRequestRow => decide (row.scope.tenantId = tenantId) &&
          decide (row.clientDeviceId = clientDeviceId) && decide (row.requestId = requestId))
        (fun row =>
          RetryRecord.mk row.requestHash (.switched row.previousMode row.requestedMode))
        (by simpa using grown.modeRequests) stored

/-- What an accepted request leaves behind. -/
structure Registers (codec : ClientCodec) (request : RetriedRequest) (outcome : RetriedOutcome)
    (before after : ClientPlane) : Prop where
  wellFormed : request.WellFormed
  grown : RequestsGrow before after
  stored : after.recorded request.key = some ⟨request.fingerprint codec, outcome⟩
  named : request.Names outcome

section Accepted

variable {codec : ClientCodec} {plane plane' : ClientPlane}

theorem find_inserted {wanted : α → Bool} (none_ : rows.find? wanted = none) (row : α)
    (own : wanted row = true) :
    (rows ++ [row]).find? wanted = some row := by
  rw [List.find?_append, none_, Option.none_or, List.find?_singleton, own, if_pos rfl]

theorem map_found {β : Type} {wanted : α → Bool} {row : α} {f : α → β} {value : β}
    (found : rows.find? wanted = some row) (same : f row = value) :
    (rows.find? wanted).map f = some value := by
  rw [found, Option.map_some, same]

theorem register_registers {request : ClientDeviceRegistration}
    {outcome : ClientDeviceRegistrationOutcome} {clients : ClientStore}
    (done : registerDevice codec.sha256 plane.accounts clock plane.clients request =
      .ok (outcome, clients)) :
    Registers codec (.register clock request) outcome.answer.outcome plane
        { plane with clients } ∨
      (clients = plane.clients ∧ ∃ deviceId deviceKeyId,
        outcome.answer.outcome = .revoked deviceId deviceKeyId) := by
  simp only [registerDevice, unit_bind_ok, orElse_bind_ok] at done
  obtain ⟨valid, organization, -, -, done⟩ := done
  cases found : plane.clients.registrationRequest request.scope.tenantId request.scope.userId
      request.requestId with
  | some row =>
      simp only [found] at done
      obtain ⟨same, ⟨⟩⟩ := ite_ok.mp done
      exact .inl ⟨valid, .refl _, map_found found (by rw [same.1, same.2]; rfl), rfl⟩
  | none =>
      simp only [found] at done
      split at done
      · split at done
        · obtain ⟨rfl, rfl⟩ := Prod.mk.inj (Except.ok.inj done)
          exact .inr ⟨rfl, _, _, rfl⟩
        · cases done
        · cases done
      · simp only [bind_ok, insertDevice, orElse_ok, pure_ok, Prod.mk.injEq] at done
        obtain ⟨_, -, _, ⟨devices, inserted, keys, -, rfl⟩, rfl, rfl⟩ := done
        obtain ⟨-, rfl⟩ := insertRow_some.mp inserted
        refine .inl ⟨valid, ⟨?_, List.prefix_rfl, List.prefix_rfl, List.prefix_rfl,
          List.prefix_rfl⟩, ?_, rfl⟩
        · rw [List.map_append]
          exact List.prefix_append _ _
        · exact map_found (find_inserted found (request.deviceRow codec.sha256) (by
            simp [ClientDeviceRegistration.deviceRow])) rfl

theorem publishPolicy_registers {request : ClientPolicyPublication}
    (done : publishPolicy codec plane request = .ok (published, plane')) :
    Registers codec (.publishPolicy request) published.answer.outcome plane plane' := by
  rw [publishPolicy, unit_bind_ok, unit_bind_ok, reject_ok, bind_ok] at done
  obtain ⟨valid, named, contentHash, -, done⟩ := done
  rw [unit_bind_ok] at done
  obtain ⟨-, done⟩ := done
  cases found : plane.policies.find? request.requested with
  | some row =>
      simp only [found] at done
      obtain ⟨same, ⟨⟩⟩ := ite_ok.mp done
      exact ⟨⟨valid, named⟩, .refl _, map_found found (congrArg (RetryRecord.mk · _) same),
        trivial⟩
  | none =>
      simp only [found] at done
      rw [orElse_bind_ok] at done
      obtain ⟨policies, inserted, done⟩ := done
      obtain ⟨rfl, rfl⟩ := Prod.mk.inj (Except.ok.inj done)
      obtain ⟨-, rfl⟩ := insertRow_some.mp inserted
      refine ⟨⟨valid, named⟩, ⟨List.prefix_rfl, ?_, List.prefix_rfl, List.prefix_rfl,
        List.prefix_rfl⟩, ?_, trivial⟩
      · rw [List.map_append, supersedePolicies, map_updateWhere (by intro row; rfl)]
        exact List.prefix_append _ _
      · have none_ : (supersedePolicies request.policy.tenantId plane.policies).find?
            request.requested = none := by
          rw [supersedePolicies, find_updateWhere (by intro row _; rfl), found]
          rfl
        exact map_found (find_inserted none_ (request.row codec contentHash) (by
          simp [ClientPolicyPublication.requested, ClientPolicyPublication.row])) rfl

theorem bindToDevice_registers {request : ClientPolicyBinding}
    (done : bindToDevice codec plane request = .ok (published, plane')) :
    Registers codec (.bindPolicy request) published.answer.outcome plane plane' := by
  simp only [bindToDevice, unit_bind_ok, reject_ok] at done
  obtain ⟨named, -, -, done⟩ := done
  cases found : plane.bindingRequests.find? fun row =>
      decide (row.tenantId = request.scope.tenantId) &&
        decide (row.requestId = request.requestId) with
  | some row =>
      simp only [found] at done
      obtain ⟨same, ⟨⟩⟩ := ite_ok.mp done
      exact ⟨named, .refl _, map_found found (congrArg (RetryRecord.mk · _) same), trivial⟩
  | none =>
      simp only [found] at done
      rw [orElse_bind_ok] at done
      obtain ⟨⟨bindingId, bindings⟩, -, done⟩ := done
      rw [orElse_bind_ok] at done
      obtain ⟨bindingRequests, inserted, done⟩ := done
      obtain ⟨rfl, rfl⟩ := Prod.mk.inj (Except.ok.inj done)
      obtain ⟨-, rfl⟩ := insertRow_some.mp inserted
      refine ⟨named, ⟨List.prefix_rfl, List.prefix_rfl, List.prefix_append _ _, List.prefix_rfl,
        List.prefix_rfl⟩, ?_, trivial⟩
      exact map_found (find_inserted found (request.record codec bindingId) (by
        simp [ClientPolicyBinding.record])) rfl

theorem publishSettings_registers {request : ClientSettingsPublication}
    (done : publishSettings codec plane request = .ok (published, plane')) :
    Registers codec (.publishSettings request) published.answer.outcome plane plane' := by
  rw [publishSettings, unit_bind_ok, unit_bind_ok, reject_ok, bind_ok] at done
  obtain ⟨valid, named, contentHash, -, done⟩ := done
  rw [unit_bind_ok] at done
  obtain ⟨-, done⟩ := done
  cases found : plane.settings.find? request.requested with
  | some row =>
      simp only [found] at done
      obtain ⟨same, ⟨⟩⟩ := ite_ok.mp done
      exact ⟨⟨valid, named⟩, .refl _, map_found found (congrArg (RetryRecord.mk · _) same),
        trivial⟩
  | none =>
      simp only [found, unit_bind_ok] at done
      obtain ⟨-, done⟩ := done
      rw [orElse_bind_ok] at done
      obtain ⟨settings, inserted, done⟩ := done
      obtain ⟨rfl, rfl⟩ := Prod.mk.inj (Except.ok.inj done)
      obtain ⟨-, rfl⟩ := insertRow_some.mp inserted
      refine ⟨⟨valid, named⟩, ⟨List.prefix_rfl, List.prefix_rfl, List.prefix_rfl, ?_,
        List.prefix_rfl⟩, ?_, trivial⟩
      · rw [List.map_append, supersedeSettings, map_updateWhere (by intro row; rfl)]
        exact List.prefix_append _ _
      · have none_ : (supersedeSettings request.settings.tenantId plane.settings).find?
            request.requested = none := by
          rw [supersedeSettings, find_updateWhere (by intro row _; rfl), found]
          rfl
        exact map_found (find_inserted none_ (request.row codec contentHash) (by
          simp [ClientSettingsPublication.requested, ClientSettingsPublication.row])) rfl

theorem setTrafficMode_registers {request : ClientTrafficModeRequest}
    {outcome : ClientTrafficModeOutcome}
    (done : setTrafficMode codec plane request = .ok (outcome, plane')) :
    Registers codec (.setTrafficMode request) outcome.answer.outcome plane plane' := by
  simp only [setTrafficMode, ClientTrafficModeRequest.validate, unit_bind_ok, reject_ok,
    orElse_bind_ok] at done
  obtain ⟨⟨named, -⟩, device, -, -, done⟩ := done
  cases found : plane.modeRequests.find? fun row =>
      decide (row.scope.tenantId = request.scope.tenantId) &&
        decide (row.clientDeviceId = request.clientDeviceId) &&
        decide (row.requestId = request.requestId) with
  | some row =>
      simp only [found] at done
      obtain ⟨same, ⟨⟩⟩ := ite_ok.mp done
      exact ⟨named, .refl _, map_found found (congrArg (RetryRecord.mk · _) same), trivial⟩
  | none =>
      simp only [found] at done
      rw [orElse_bind_ok] at done
      obtain ⟨modeRequests, inserted, done⟩ := done
      obtain ⟨rfl, rfl⟩ := Prod.mk.inj (Except.ok.inj done)
      obtain ⟨-, rfl⟩ := insertRow_some.mp inserted
      refine ⟨named, ⟨?_, List.prefix_rfl, List.prefix_rfl, List.prefix_rfl,
        List.prefix_append _ _⟩, ?_, trivial⟩
      · have kept : ∀ selected, (updateWhere selected (fun row : ClientDeviceRow =>
            { row with trafficMode := request.requested }) plane.clients.devices).map
            (·.requestForm) = plane.clients.devices.map (·.requestForm) := by
          intro selected
          apply map_updateWhere
          intro row
          rfl
        exact (kept _).symm ▸ List.prefix_rfl
      · exact map_found (find_inserted found (request.row codec device.trafficMode) (by
          simp [ClientTrafficModeRequest.row])) rfl

end Accepted

theorem serveRetried_registers {codec : ClientCodec} {plane plane' : ClientPlane}
    {request : RetriedRequest} {answer : RetriedAnswer}
    (done : serveRetried codec plane request = .ok (answer, plane')) :
    Registers codec request answer.outcome plane plane' ∨
      (plane' = plane ∧ ∃ deviceId deviceKeyId,
        answer.outcome = .revoked deviceId deviceKeyId) := by
  cases request with
  | register clock request =>
      rw [serveRetried, mapError_ok, map_ok] at done
      obtain ⟨⟨outcome, clients⟩, served, same⟩ := done
      obtain ⟨rfl, rfl⟩ := Prod.mk.inj same
      rcases register_registers served with registers | ⟨rfl, revoked⟩
      · exact .inl registers
      · exact .inr ⟨rfl, revoked⟩
  | publishPolicy request =>
      rw [serveRetried, mapError_ok, map_ok] at done
      obtain ⟨⟨published, after⟩, served, same⟩ := done
      obtain ⟨rfl, rfl⟩ := Prod.mk.inj same
      exact .inl (publishPolicy_registers served)
  | bindPolicy request =>
      rw [serveRetried, mapError_ok, map_ok] at done
      obtain ⟨⟨published, after⟩, served, same⟩ := done
      obtain ⟨rfl, rfl⟩ := Prod.mk.inj same
      exact .inl (bindToDevice_registers served)
  | publishSettings request =>
      rw [serveRetried, mapError_ok, map_ok] at done
      obtain ⟨⟨published, after⟩, served, same⟩ := done
      obtain ⟨rfl, rfl⟩ := Prod.mk.inj same
      exact .inl (publishSettings_registers served)
  | setTrafficMode request =>
      rw [serveRetried, mapError_ok, map_ok] at done
      obtain ⟨⟨outcome, after⟩, served, same⟩ := done
      obtain ⟨rfl, rfl⟩ := Prod.mk.inj same
      exact .inl (setTrafficMode_registers served)

theorem serveRetried_grows {codec : ClientCodec} {plane plane' : ClientPlane}
    {request : RetriedRequest} {answer : RetriedAnswer}
    (done : serveRetried codec plane request = .ok (answer, plane')) :
    RequestsGrow plane plane' := by
  rcases serveRetried_registers done with registers | ⟨rfl, -⟩
  · exact registers.grown
  · exact .refl _

theorem lifecycle_devices (call : LifecycleCall) :
    store.devices.map (·.requestForm) <+:
      (lifecycleStep sha256 store (call.operation accounts)).devices.map (·.requestForm) := by
  have kept : ∀ reach status, (store.apply (.setDeviceStatus reach status)).devices.map
      (·.requestForm) = store.devices.map (·.requestForm) :=
    fun _ _ => map_updateWhere (by intro row; rfl) store.devices
  rw [lifecycleStep]
  rcases serve_cases sha256 store (call.operation accounts) with same | ⟨-, change⟩
  · exact same.symm ▸ List.prefix_rfl
  · generalize (serveClient sha256 store (call.operation accounts)).2 = after at change
    cases call with
    | register clock request =>
        cases change
        rw [List.map_append]
        exact List.prefix_append _ _
    | revokeDevice revocation =>
        cases change
        exact (kept _ _).symm ▸ List.prefix_rfl
    | setDeviceStatus scope =>
        cases change with
        | suspended | activated => exact (kept _ _).symm ▸ List.prefix_rfl
    | rotateDeviceKey rotation clock =>
        cases change
        exact List.prefix_rfl
    | revokeProjections audience =>
        cases change
        exact List.prefix_rfl

theorem planeStep_requests (services : ClientServices) (plane : ClientPlane) (call : PlaneCall) :
    RequestsGrow plane (planeStep services plane call) := by
  cases call with
  | accounts accounts | topology topology =>
      exact ⟨List.prefix_rfl, List.prefix_rfl, List.prefix_rfl, List.prefix_rfl, List.prefix_rfl⟩
  | lifecycle call =>
      exact ⟨lifecycle_devices call, List.prefix_rfl, List.prefix_rfl, List.prefix_rfl,
        List.prefix_rfl⟩
  | publishPolicy request =>
      refine commit_cases (.refl plane) ?_
      intro plane' done
      obtain ⟨⟨published, after⟩, served, rfl⟩ := map_ok.mp done
      exact (publishPolicy_registers served).grown
  | bindPolicy request =>
      refine commit_cases (.refl plane) ?_
      intro plane' done
      obtain ⟨⟨published, after⟩, served, rfl⟩ := map_ok.mp done
      exact (bindToDevice_registers served).grown
  | publishSettings request =>
      refine commit_cases (.refl plane) ?_
      intro plane' done
      obtain ⟨⟨published, after⟩, served, rfl⟩ := map_ok.mp done
      exact (publishSettings_registers served).grown
  | switchMode switch =>
      refine commit_cases (.refl plane) ?_
      intro plane' done
      obtain ⟨⟨outcome, after⟩, served, rfl⟩ := map_ok.mp done
      rw [setClientTrafficMode, bind_ok] at served
      obtain ⟨snapshot, -, switched⟩ := served
      exact (setTrafficMode_registers switched).grown
  | grant request =>
      have change := planeStep_change services plane (.grant request)
      generalize planeStep services plane (.grant request) = plane' at change
      cases change with
      | same => exact .refl plane
      | granted inserted =>
          exact ⟨List.prefix_rfl, List.prefix_rfl, List.prefix_rfl, List.prefix_rfl,
            List.prefix_rfl⟩
  | projection request =>
      have change := planeStep_change services plane (.projection request)
      generalize planeStep services plane (.projection request) = plane' at change
      cases change with
      | same => exact .refl plane
      | published inserted =>
          exact ⟨List.prefix_rfl, List.prefix_rfl, List.prefix_rfl, List.prefix_rfl,
            List.prefix_rfl⟩

theorem retriedStep_requests (services : ClientServices) (plane : ClientPlane)
    (call : RetriedCall) : RequestsGrow plane (retriedStep services plane call) := by
  cases call with
  | plane call => exact planeStep_requests services plane call
  | request request =>
      refine commit_cases (.refl plane) ?_
      intro plane' done
      obtain ⟨⟨answer, after⟩, served, rfl⟩ := map_ok.mp done
      exact serveRetried_grows served

theorem run_requests (services : ClientServices) (plane : ClientPlane)
    (calls : List RetriedCall) :
    RequestsGrow plane (run (retriedStep services) plane calls) := by
  refine run_invariant (P := fun after => RequestsGrow plane after) ?_ (.refl plane) calls
  intro after call grown
  exact grown.trans (retriedStep_requests services after call)

theorem lengthPrefixed_inj {a b : Bytes} (short : a.length < 256 ^ 4) (short' : b.length < 256 ^ 4)
    (same : lengthPrefixed a ++ rest = lengthPrefixed b ++ rest') : a = b ∧ rest = rest' := by
  simp only [lengthPrefixed, List.append_assoc] at same
  obtain ⟨lengths, same⟩ := List.append_inj same (by simp only [bigEndian_length])
  exact List.append_inj same (bigEndian_inj short short' lengths)

theorem uuidBytes_short (id : Uuid) : (uuidBytes id).length < 256 ^ 4 := by
  rw [uuidBytes_length]
  omega

theorem prefixedUuid_inj {a b : Uuid}
    (same : lengthPrefixed (uuidBytes a) ++ rest = lengthPrefixed (uuidBytes b) ++ rest') :
    a = b ∧ rest = rest' := by
  obtain ⟨ids, rests⟩ := lengthPrefixed_inj (uuidBytes_short a) (uuidBytes_short b) same
  exact ⟨uuidBytes_inj ids, rests⟩

theorem databaseValue_inj {a b : ClientPlatform}
    (same : utf8 a.databaseValue = utf8 b.databaseValue) : a = b := by
  have texts := utf8_inj same
  cases a with
  | windows | macos | android =>
      cases b with
      | windows | macos | android => first | rfl | (revert texts; decide)

theorem toDatabaseValue_inj {a b : ClientTrafficMode}
    (same : utf8 a.toDatabaseValue = utf8 b.toDatabaseValue) : a = b := by
  have texts := utf8_inj same
  cases a with
  | policy | global =>
      cases b with
      | policy | global => first | rfl | (revert texts; decide)

theorem version_inj {a b : Option String}
    (same : (match a with
        | some version => lengthPrefixed (utf8 version)
        | none => bigEndian 4 0) =
      match b with
        | some version => lengthPrefixed (utf8 version)
        | none => bigEndian 4 0)
    (valid : ∀ version, a = some version →
      version.isEmpty = false ∧ version.utf8ByteSize ≤ maxClientVersionLen)
    (valid' : ∀ version, b = some version →
      version.isEmpty = false ∧ version.utf8ByteSize ≤ maxClientVersionLen) : a = b := by
  have given : ∀ version : String, version.isEmpty = false →
      bigEndian 4 0 ≠ lengthPrefixed (utf8 version) := by
    intro version filled equal
    have lengths := congrArg List.length equal
    rw [lengthPrefixed, List.length_append, bigEndian_length, bigEndian_length, utf8_length]
      at lengths
    have none_ : version.utf8ByteSize = 0 := by omega
    rw [String.isEmpty, none_] at filled
    cases filled
  cases a with
  | none =>
      cases b with
      | none => rfl
      | some version => exact absurd same (given version (valid' version rfl).1)
  | some version =>
      cases b with
      | none => exact absurd same.symm (given version (valid version rfl).1)
      | some other =>
          have short : ∀ text : String, text.utf8ByteSize ≤ maxClientVersionLen →
              (utf8 text).length < 256 ^ 4 := by
            intro text bound
            rw [utf8_length]
            simp only [maxClientVersionLen] at bound
            omega
          have whole : lengthPrefixed (utf8 version) ++ [] = lengthPrefixed (utf8 other) ++ [] := by
            simpa only [List.append_nil] using same
          have texts := lengthPrefixed_inj (short version (valid version rfl).2)
            (short other (valid' other rfl).2) whole
          rw [utf8_inj texts.1]

theorem registration_bounds {request : ClientDeviceRegistration}
    (valid : request.validate = .ok ()) :
    (utf8 request.displayName).length < 256 ^ 4 ∧ (utf8 request.installId).length < 256 ^ 4 ∧
      request.actorId = request.scope.userId ∧
      ∀ version, request.clientVersion = some version →
        version.isEmpty = false ∧ version.utf8ByteSize ≤ maxClientVersionLen := by
  rw [ClientDeviceRegistration.validate, unit_bind_ok, unit_bind_ok, unit_bind_ok, unit_bind_ok,
    unit_bind_ok] at valid
  obtain ⟨-, display, actor, install, version, -⟩ := valid
  rw [reject_ok] at display actor install version
  simp only [Bool.or_eq_false_iff, decide_eq_false_iff_not, not_not, ne_eq] at display actor install
  simp only [maxDisplayNameLen, maxInstallIdLen] at display install
  refine ⟨?_, ?_, actor, ?_⟩
  · rw [utf8_length]
    omega
  · rw [utf8_length]
    omega
  · intro text given
    rw [given, Option.any_some, Bool.or_eq_false_iff, decide_eq_false_iff_not] at version
    exact ⟨version.1, by omega⟩

/-- The fields a registration's fingerprint covers. -/
structure SameRegistration (a b : ClientDeviceRegistration) : Prop where
  scope : a.scope = b.scope
  deviceId : a.deviceId = b.deviceId
  deviceKeyId : a.deviceKeyId = b.deviceKeyId
  platform : a.platform = b.platform
  displayName : a.displayName = b.displayName
  installId : a.installId = b.installId
  publicKey : a.publicKey = b.publicKey
  clientVersion : a.clientVersion = b.clientVersion

theorem registrationBytes_fields {a b : ClientDeviceRegistration} (valid : a.validate = .ok ())
    (valid' : b.validate = .ok ()) (same : registrationBytes a = registrationBytes b) :
    SameRegistration a b := by
  obtain ⟨display, install, -, version⟩ := registration_bounds valid
  obtain ⟨display', install', -, version'⟩ := registration_bounds valid'
  have platform : ∀ platform : ClientPlatform,
      (utf8 platform.databaseValue).length < 256 ^ 4 := by
    intro platform
    cases platform with
    | windows | macos | android => decide
  have key : ∀ hash : Hash, (hashBytes hash).length < 256 ^ 4 := by
    intro hash
    rw [hashBytes_length]
    omega
  simp only [registrationBytes, List.flatMap_cons, List.flatMap_nil, List.append_nil,
    List.append_assoc] at same
  replace same := List.append_cancel_left (List.append_cancel_left same)
  obtain ⟨organizationId, same⟩ := prefixedUuid_inj same
  obtain ⟨tenantId, same⟩ := prefixedUuid_inj same
  obtain ⟨userId, same⟩ := prefixedUuid_inj same
  obtain ⟨deviceId, same⟩ := prefixedUuid_inj same
  obtain ⟨deviceKeyId, same⟩ := prefixedUuid_inj same
  obtain ⟨platforms, same⟩ := lengthPrefixed_inj (platform _) (platform _) same
  obtain ⟨displayName, same⟩ := lengthPrefixed_inj display display' same
  obtain ⟨installId, same⟩ := lengthPrefixed_inj install install' same
  obtain ⟨publicKey, same⟩ := lengthPrefixed_inj (key _) (key _) same
  have scope : a.scope = b.scope := by
    change ClientScope.mk a.scope.organizationId a.scope.tenantId a.scope.userId = _
    rw [organizationId, tenantId, userId]
  constructor
  · exact scope
  · exact deviceId
  · exact deviceKeyId
  · exact databaseValue_inj platforms
  · exact utf8_inj displayName
  · exact utf8_inj installId
  · exact hashBytes_inj publicKey
  · exact version_inj same version version'

theorem registrationBytes_inj {a b : ClientDeviceRegistration} (valid : a.validate = .ok ())
    (valid' : b.validate = .ok ()) (request : a.requestId = b.requestId)
    (same : registrationBytes a = registrationBytes b) :
    { a with recordId := 0 } = { b with recordId := 0 } := by
  obtain ⟨scope, deviceId, deviceKeyId, platform, displayName, installId, publicKey,
    clientVersion⟩ := registrationBytes_fields valid valid' same
  have actor := (registration_bounds valid).2.2.1
  have actor' := (registration_bounds valid').2.2.1
  cases a
  cases b
  simp only at *
  simp only [scope, deviceId, deviceKeyId, platform, displayName, installId, publicKey,
    clientVersion, request, actor, actor']

theorem uuidBytes_append_inj {a b : Uuid} (same : uuidBytes a ++ rest = uuidBytes b ++ rest')
    : a = b ∧ rest = rest' := by
  obtain ⟨ids, rests⟩ := List.append_inj same (by simp only [uuidBytes_length])
  exact ⟨uuidBytes_inj ids, rests⟩

/-- SHA-256 does not collide on the two requests, and different documents have
    different texts. -/
structure Distinguishes (codec : ClientCodec) (a b : RetriedRequest) : Prop where
  digests : a.fingerprint codec = b.fingerprint codec → a.fingerprinted codec = b.fingerprinted codec
  policies : ∀ p q : ClientPolicyPublication, a = .publishPolicy p → b = .publishPolicy q →
    codec.policyJson p.policy = codec.policyJson q.policy → p.policy = q.policy
  settings : ∀ p q : ClientSettingsPublication, a = .publishSettings p → b = .publishSettings q →
    codec.settingsJson p.settings = codec.settingsJson q.settings → p.settings = q.settings

theorem content_of_fingerprint {codec : ClientCodec} {a b : RetriedRequest}
    (distinguishes : Distinguishes codec a b) (wellFormed : a.WellFormed)
    (wellFormed' : b.WellFormed) (key : a.key = b.key)
    (same : a.fingerprint codec = b.fingerprint codec) : a.content = b.content := by
  have bytes := distinguishes.digests same
  cases a with
  | register clock request =>
      cases b with
      | register clock' again =>
          simp only [RetriedRequest.key, RetryKey.registration.injEq] at key
          simp only [RetriedRequest.content,
            registrationBytes_inj wellFormed wellFormed' key.2.2 bytes]
      | publishPolicy | bindPolicy | publishSettings | setTrafficMode => cases key
  | publishPolicy request =>
      cases b with
      | publishPolicy again =>
          simp only [RetriedRequest.key, RetryKey.policy.injEq] at key
          simp only [RetriedRequest.fingerprinted, List.append_assoc] at bytes
          replace bytes := List.append_cancel_left (List.append_cancel_left bytes)
          obtain ⟨organization, bytes⟩ := uuidBytes_append_inj bytes
          obtain ⟨actor, bytes⟩ := uuidBytes_append_inj bytes
          have policy := distinguishes.policies request again rfl rfl bytes
          cases request
          cases again
          simp only at *
          rw [organization, actor, policy, key.2]
      | register | bindPolicy | publishSettings | setTrafficMode => cases key
  | bindPolicy request =>
      cases b with
      | bindPolicy again =>
          simp only [RetriedRequest.key, RetryKey.binding.injEq] at key
          simp only [RetriedRequest.fingerprinted, List.flatMap_cons, List.flatMap_nil,
            List.append_assoc] at bytes
          replace bytes := List.append_cancel_left (List.append_cancel_left bytes)
          obtain ⟨policyId, bytes⟩ := uuidBytes_append_inj bytes
          obtain ⟨organizationId, bytes⟩ := uuidBytes_append_inj bytes
          obtain ⟨tenantId, bytes⟩ := uuidBytes_append_inj bytes
          obtain ⟨userId, bytes⟩ := uuidBytes_append_inj bytes
          obtain ⟨deviceId, bytes⟩ := uuidBytes_append_inj bytes
          obtain ⟨actorId, -⟩ := uuidBytes_append_inj bytes
          obtain ⟨_, ⟨_, _, _⟩, _, _, _, _, _⟩ := request
          obtain ⟨_, ⟨_, _, _⟩, _, _, _, _, _⟩ := again
          simp only at *
          simp only [RetriedRequest.content, policyId, organizationId, tenantId, userId, deviceId,
            actorId, key.2]
      | register | publishPolicy | publishSettings | setTrafficMode => cases key
  | publishSettings request =>
      cases b with
      | publishSettings again =>
          simp only [RetriedRequest.key, RetryKey.settings.injEq] at key
          simp only [RetriedRequest.fingerprinted, List.append_assoc] at bytes
          replace bytes := List.append_cancel_left (List.append_cancel_left bytes)
          obtain ⟨organizationId, bytes⟩ := prefixedUuid_inj bytes
          obtain ⟨tenantId, bytes⟩ := prefixedUuid_inj bytes
          -- the text may be longer than its length field, so the actor is read from the end
          obtain ⟨prefixed, actorId⟩ := List.append_inj' bytes (by simp only [uuidBytes_length])
          obtain ⟨-, text⟩ := List.append_inj prefixed (by simp only [bigEndian_length])
          have settings := distinguishes.settings request again rfl rfl text
          cases request
          cases again
          simp only at *
          simp only [RetriedRequest.content, settings, organizationId, uuidBytes_inj actorId,
            key.2]
      | register | publishPolicy | bindPolicy | setTrafficMode => cases key
  | setTrafficMode request =>
      cases b with
      | setTrafficMode again =>
          simp only [RetriedRequest.key, RetryKey.mode.injEq] at key
          simp only [RetriedRequest.fingerprinted, ClientScope.ids, List.cons_append,
            List.nil_append, List.flatMap_cons, List.flatMap_nil, List.append_nil,
            List.append_assoc] at bytes
          obtain ⟨-, bytes⟩ := List.append_inj bytes rfl
          replace bytes := (List.cons.inj bytes).2
          obtain ⟨organizationId, bytes⟩ := prefixedUuid_inj bytes
          obtain ⟨tenantId, bytes⟩ := prefixedUuid_inj bytes
          obtain ⟨userId, bytes⟩ := prefixedUuid_inj bytes
          obtain ⟨deviceId, bytes⟩ := prefixedUuid_inj bytes
          obtain ⟨deviceKeyId, bytes⟩ := prefixedUuid_inj bytes
          have short : ∀ mode : ClientTrafficMode,
              (bigEndian 4 (utf8 mode.toDatabaseValue).length).length = 4 :=
            fun _ => bigEndian_length 4 _
          obtain ⟨-, mode⟩ := List.append_inj bytes (by simp only [short])
          obtain ⟨⟨_, _, _⟩, _, _, _, _, _, _⟩ := request
          obtain ⟨⟨_, _, _⟩, _, _, _, _, _, _⟩ := again
          simp only at *
          simp only [RetriedRequest.content, organizationId, tenantId, userId, deviceId,
            deviceKeyId, toDatabaseValue_inj mode, key.2.2]
      | register | publishPolicy | bindPolicy | publishSettings => cases key

/-- The identifier of a new row is drawn, and no drawn identifier is nil. -/
def RetriedRequest.Drawn : RetriedRequest → Prop
  | .register _ request => isNil request.recordId = false
  | _ => True

theorem wellFormed_of_content {request : RetriedRequest} (wellFormed : request.WellFormed)
    (same : again.content = request.content) (drawn : again.Drawn) : again.WellFormed := by
  cases again with
  | register clock again =>
      cases request with
      | register clock' request =>
          obtain ⟨recordId, _⟩ := again
          obtain ⟨recordId', _⟩ := request
          simp only [RetriedRequest.content, RetriedRequest.register.injEq,
            ClientDeviceRegistration.mk.injEq, true_and] at same
          obtain ⟨rfl, rfl, rfl, rfl, rfl, rfl, rfl, rfl, rfl, rfl⟩ := same
          change isNil recordId = false at drawn
          simp only [RetriedRequest.WellFormed, ClientDeviceRegistration.validate, unit_bind_ok,
            reject_ok, List.cons_append, List.any_cons, drawn, Bool.or_eq_false_iff]
            at wellFormed ⊢
          exact ⟨⟨trivial, wellFormed.1.2⟩, wellFormed.2⟩
      | publishPolicy | bindPolicy | publishSettings | setTrafficMode => cases same
  | publishPolicy again =>
      cases request with
      | publishPolicy request =>
          cases same
          exact wellFormed
      | register | bindPolicy | publishSettings | setTrafficMode => cases same
  | bindPolicy again =>
      cases request with
      | bindPolicy request =>
          cases request
          cases again
          cases same
          exact wellFormed
      | register | publishPolicy | publishSettings | setTrafficMode => cases same
  | publishSettings again =>
      cases request with
      | publishSettings request =>
          cases request
          cases again
          cases same
          exact wellFormed
      | register | publishPolicy | bindPolicy | setTrafficMode => cases same
  | setTrafficMode again =>
      cases request with
      | setTrafficMode request =>
          cases request
          cases again
          cases same
          exact wellFormed
      | register | publishPolicy | bindPolicy | publishSettings => cases same

theorem names_of_content {request : RetriedRequest} {outcome : RetriedOutcome}
    (same : again.content = request.content) (named : request.Names outcome) :
    again.Names outcome := by
  cases again with
  | register clock again =>
      cases request with
      | register clock' request =>
          simp only [RetriedRequest.content, RetriedRequest.register.injEq,
            ClientDeviceRegistration.mk.injEq, true_and] at same
          exact named.trans (congrArg RetriedOutcome.registered same.2.1.symm)
      | publishPolicy | bindPolicy | publishSettings | setTrafficMode => cases same
  | publishPolicy | bindPolicy | publishSettings | setTrafficMode => trivial

/-- What is asked of a request that comes under an id that is recorded. -/
structure RetriesSafely (services : ClientServices) (plane : ClientPlane)
    (request : RetriedRequest) (outcome : RetriedOutcome) (again : RetriedRequest) : Prop where
  replayed : again.content = request.content →
    serveRetried services.codec.toClientCodec plane again = .ok (⟨outcome, true⟩, plane)
  conflicting : again.content ≠ request.content →
    ∃ error, serveRetried services.codec.toClientCodec plane again = .error error ∧
      error.isConflict = true
  unchanged : retriedStep services plane (.request again) = plane

/-- A switch to Global is still permitted, and the policy of a binding that is
    repeated is still active. -/
def Retryable (plane : ClientPlane) (request again : RetriedRequest) : Prop :=
  again.Permitted ∧ (again.content = request.content → again.Backed plane)

/-- From any state, for any calls between a request and its retry. -/
theorem retries_safely_iff (services : ClientServices) (plane plane' : ClientPlane)
    (request again : RetriedRequest) (answer : RetriedAnswer) (calls : List RetriedCall)
    (accepted : serveRetried services.codec.toClientCodec plane request = .ok (answer, plane'))
    (registered : ∀ deviceId deviceKeyId, answer.outcome ≠ .revoked deviceId deviceKeyId)
    (key : again.key = request.key) (drawn : again.Drawn)
    (wellFormed : again.content ≠ request.content → again.WellFormed)
    (scope : again.InScope (run (retriedStep services) plane' calls))
    (distinguishes : Distinguishes services.codec.toClientCodec request again) :
    RetriesSafely services (run (retriedStep services) plane' calls) request answer.outcome again ↔
      Retryable (run (retriedStep services) plane' calls) request again := by
  have registers : Registers services.codec.toClientCodec request answer.outcome plane plane' := by
    rcases serveRetried_registers accepted with registers | ⟨-, deviceId, deviceKeyId, revoked⟩
    · exact registers
    · exact absurd revoked (registered deviceId deviceKeyId)
  have stored := (run_requests services plane' calls).recorded registers.stored
  generalize run (retriedStep services) plane' calls = later at scope stored
  have formed : again.WellFormed := by
    by_cases same : again.content = request.content
    · exact wellFormed_of_content registers.wellFormed same drawn
    · exact wellFormed same
  constructor
  · intro safe
    have permitted : again.Permitted := by
      by_contra forbidden
      have refused : serveRetried services.codec.toClientCodec later again =
          .error (.settings .modeNotPermitted) := serveRetried_forbidden formed forbidden
      by_cases same : again.content = request.content
      · rw [safe.replayed same] at refused
        cases refused
      · obtain ⟨error, failed, conflict⟩ := safe.conflicting same
        rw [failed] at refused
        cases refused
        cases conflict
    refine ⟨permitted, ?_⟩
    intro same
    by_contra unbacked
    have refused : serveRetried services.codec.toClientCodec later again =
        .error (.access .conflict) := serveRetried_unbacked formed scope unbacked
    rw [safe.replayed same] at refused
    cases refused
  · intro ⟨permitted, backed⟩
    have replayed : again.content = request.content →
        serveRetried services.codec.toClientCodec later again =
          .ok (⟨answer.outcome, true⟩, later) := by
      intro same
      have fingerprints : request.fingerprint services.codec.toClientCodec =
          again.fingerprint services.codec.toClientCodec := by
        rw [RetriedRequest.fingerprint, RetriedRequest.fingerprint,
          ← RetriedRequest.fingerprinted_content, ← same, RetriedRequest.fingerprinted_content]
      refine serveRetried_replays formed scope permitted (backed same) ?_ ?_
      · exact names_of_content same registers.named
      · rw [key, stored, fingerprints]
    have conflicting : again.content ≠ request.content →
        ∃ error, serveRetried services.codec.toClientCodec later again = .error error ∧
          error.isConflict = true := by
      intro other
      refine serveRetried_conflicts formed scope permitted (key ▸ stored) ?_
      intro same
      exact other (content_of_fingerprint distinguishes registers.wellFormed formed key.symm
        same).symm
    refine ⟨replayed, conflicting, ?_⟩
    by_cases same : again.content = request.content
    · rw [retriedStep, replayed same]
      rfl
    · obtain ⟨error, failed, -⟩ := conflicting same
      rw [retriedStep, failed]
      rfl

def terminalBound : ClientPolicyBinding := ⟨31, ⟨1, 2, 3⟩, 7, 3, 43, 61, 53⟩

def terminalUnbound : ClientPlane := terminalAfter (terminalCalls.take 2)

def terminalLater (calls : List RetriedCall) : ClientPlane :=
  run (retriedStep terminalServices) (terminalAfter (terminalCalls.take 3)) calls

def terminalRepublished : List RetriedCall :=
  [.plane (.publishPolicy ⟨terminalPolicy 32 2 false, 1, 3, 55⟩)]

def terminalConfigured : List RetriedCall :=
  [.plane (.publishSettings ⟨terminalSettings, 1, 3, 44, 33⟩)]

/-- The accounts and the device are active, and the same binding is a conflict. -/
theorem repeated_binding_conflicts :
    serveRetried terminalServices.codec.toClientCodec terminalUnbound (.bindPolicy terminalBound) =
      .ok (⟨.published 61, false⟩, terminalAfter (terminalCalls.take 3)) ∧
    RetriedRequest.InScope (terminalLater terminalRepublished) (.bindPolicy terminalBound) ∧
    ¬ RetriesSafely terminalServices (terminalLater terminalRepublished)
      (.bindPolicy terminalBound) (.published 61) (.bindPolicy terminalBound) := by
  have scope : terminalBound.organization (terminalLater terminalRepublished) = some 1 := by
    decide +kernel
  refine ⟨by decide +kernel, scope, ?_⟩
  intro safe
  have replayed := safe.replayed rfl
  have refused : serveRetried terminalServices.codec.toClientCodec
      (terminalLater terminalRepublished) (.bindPolicy terminalBound) =
        .error (.access .conflict) := by
    decide +kernel
  rw [replayed] at refused
  cases refused

/-- As long as its policy stands it is replayed. -/
theorem repeated_binding_replays :
    RetriesSafely terminalServices (terminalLater terminalConfigured) (.bindPolicy terminalBound)
      (.published 61) (.bindPolicy terminalBound) := by
  have scope : terminalBound.organization (terminalLater terminalConfigured) = some 1 := by
    decide +kernel
  have backed : terminalBound.policyActive (terminalLater terminalConfigured) = true := by
    decide +kernel
  refine (retries_safely_iff terminalServices terminalUnbound
    (terminalAfter (terminalCalls.take 3)) (.bindPolicy terminalBound) (.bindPolicy terminalBound)
    ⟨.published 61, false⟩ terminalConfigured (by decide +kernel) ?_ rfl
    trivial (fun other => absurd rfl other) scope ⟨fun _ => rfl, ?_, ?_⟩).mpr ?_
  · intro deviceId deviceKeyId same
    cases same
  · intro first second same
    cases same
  · intro first second same
    cases same
  · exact ⟨trivial, fun _ => backed⟩

end CandyCloud
