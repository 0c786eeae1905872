import CandyCloud.Identity.Membership
import CandyCloud.Identity.Requests

/-! # Registration and its undoing

The handler that registers a workspace, sends the verification mail, and undoes the registration
when the mail cannot be delivered.
-/

namespace CandyCloud.Identity

open Foundation

inductive RegisterError where
  | invalidRequest
  | rateLimited (retryAfterSeconds : Nat)
  | unavailable
  | repository (error : IdentityRepositoryError)
deriving DecidableEq, Repr

inductive EmailPurpose where
  | verifyEmail
  | resetPassword
  | organizationInvitation
deriving DecidableEq, Repr

structure EmailMessage where
  purpose : EmailPurpose
  recipient : String
  token : String
deriving DecidableEq, Repr

structure RegisterRequest where
  email : String
  password : String
  displayName : String
  organizationName : String
deriving DecidableEq, Repr

/-- The identifiers, the token and the clocks of one registration. -/
structure RegisterDraw where
  userId : Uuid
  organizationId : Uuid
  tenantId : Uuid
  trial : TrialIds
  registeredClock : Instant
  registeredAt : Instant
  tokenId : Uuid
  token : String
  expiresAt : Instant
  tokenClock : Instant
  tokenAt : Instant
deriving DecidableEq, Repr

structure RegisterServices where
  enforcePublicLimit : String → Except RegisterError Unit
  hashPassword : String → Option String
  hashToken : String → Hash
  deliver : EmailMessage → Bool

def asciiLowercase (text : String) : String :=
  text.map fun c => if 'A' ≤ c ∧ c ≤ 'Z' then Char.ofNat (c.toNat + 32) else c

def trimmed (text : String) : String := String.ofList (trim text.toList)

def canonicalEmail (value : String) : Except RegisterError String := do
  let email := asciiLowercase (trimmed value)
  reject (!bounded email 254 || !email.toList.contains '@' ||
    email.toList.any fun c => c == '\r' || c == '\n') .invalidRequest
  return email

def validatePassword (password : String) : Except RegisterError Unit :=
  reject (decide ((utf8 password).length < 12) || decide (1024 < (utf8 password).length))
    .invalidRequest

def malformedName (value : String) : Bool :=
  (trim value.toList).isEmpty || decide (200 < (utf8 value).length)

def RegisterRequest.prepare (request : RegisterRequest) (services : RegisterServices)
    (draw : RegisterDraw) : Except RegisterError RegistrationWrite := do
  let email ← canonicalEmail request.email
  services.enforcePublicLimit email
  validatePassword request.password
  reject (malformedName request.organizationName || malformedName request.displayName)
    .invalidRequest
  let passwordHash ← orElse .unavailable (services.hashPassword request.password)
  return {
    userId := draw.userId
    email
    displayName := trimmed request.displayName
    passwordHash
    organizationId := draw.organizationId
    organizationName := trimmed request.organizationName
    tenantId := draw.tenantId }

def createActionToken (store : IdentityStore) (write : ActionTokenWrite) (clock now : Instant) :
    Except IdentityRepositoryError Unit × IdentityStore :=
  if isNil write.id || isNil write.userId || decide (write.expiresAt ≤ now) then
    (.error .invalidInput, store)
  else
    let invalidated := updateWhere (fun row => row.issuedTo write.userId write.purpose &&
      row.consumedAt == none) (fun row => { row with consumedAt := some clock }) store.actionTokens
    if !store.hasUser write.userId || invalidated.any write.row.conflict then
      (.error .database, { store with actionTokens := invalidated })
    else (.ok (), { store with actionTokens := invalidated ++ [write.row] })

namespace IdentityStore

variable (store : IdentityStore)

def deleteTenants (selected : TenantRow → Bool) : Except IdentityRepositoryError IdentityStore := do
  reject (store.tenants.any fun row => selected row && store.tenantReferred row.id) .database
  return { store with tenants := store.tenants.filter fun row => !selected row }

def deleteOrganizations (selected : OrganizationRow → Bool) :
    Except IdentityRepositoryError IdentityStore := do
  reject (store.organizations.any fun row => selected row && store.organizationReferred row.id)
    .database
  return { store with organizations := store.organizations.filter fun row => !selected row }

def deleteUsers (selected : HumanUserRow → Bool) : Except IdentityRepositoryError IdentityStore := do
  reject (store.users.any fun row => selected row && store.userReferred row.id) .database
  return { store with users := store.users.filter fun row => !selected row }

end IdentityStore

def rollbackPendingRegistration (store : IdentityStore) (userId organizationId tenantId : Uuid) :
    Except IdentityRepositoryError IdentityStore := do
  reject (isNil userId || isNil organizationId || isNil tenantId) .invalidInput
  let actionTokens := store.actionTokens.filter fun row => !(row.userId == userId)
  let memberless := IdentityStore.deleteMemberships { store with actionTokens }
    fun row => row.organizationId == organizationId && row.userId == userId
  let tenantless ← memberless.deleteTenants fun row =>
    row.id == tenantId && row.organizationId == organizationId
  let unorganized ← tenantless.deleteOrganizations fun row => row.id == organizationId
  unorganized.deleteUsers fun row => row.id == userId && row.status == .pendingVerification

/-- What a request comes to; `sent` is the mail handed to the provider. -/
structure Registered where
  answer : Except RegisterError Unit
  store : IdentityStore
  sent : Option EmailMessage

def RegisterDraw.verification (draw : RegisterDraw) (services : RegisterServices) :
    ActionTokenWrite :=
  ⟨draw.tokenId, draw.userId, .verifyEmail, services.hashToken draw.token, draw.expiresAt⟩

/-- `register` answers an existing account as it answers a new one. -/
def register (collate : Collation) (services : RegisterServices) (store : IdentityStore)
    (request : RegisterRequest) (draw : RegisterDraw) : Registered :=
  match request.prepare services draw with
  | .error error => ⟨.error error, store, none⟩
  | .ok registration =>
      match registerUserAndWorkspace collate store registration draw.trial draw.registeredClock
          draw.registeredAt with
      | .error .conflict => ⟨.ok (), store, none⟩
      | .error error => ⟨.error (.repository error), store, none⟩
      | .ok registered =>
          match createActionToken registered (draw.verification services) draw.tokenClock
              draw.tokenAt with
          | (.error error, after) => ⟨.error (.repository error), after, none⟩
          | (.ok (), after) =>
              let message : EmailMessage := ⟨.verifyEmail, registration.email, draw.token⟩
              if services.deliver message then ⟨.ok (), after, some message⟩
              else
                match rollbackPendingRegistration after draw.userId draw.organizationId
                    draw.tenantId with
                | .error error => ⟨.error (.repository error), after, some message⟩
                | .ok undone => ⟨.error .unavailable, undone, some message⟩

variable {collate : Collation} {services : RegisterServices} {store store' : IdentityStore}
  {request : RegisterRequest} {draw : RegisterDraw}

variable {registration : RegistrationWrite} {clock now : Instant} {after before : IdentityStore}
  {email : String}

theorem registerUserAndWorkspace_ok {ids : TrialIds}
    (done : registerUserAndWorkspace collate store registration ids clock now = .ok store') :
    (∀ old ∈ store.users, registration.user.conflict collate old = false) ∧
      store' = { store with
        users := store.users ++ [registration.user]
        organizations := store.organizations ++ [registration.organization]
        tenants := store.tenants ++ [registration.tenant clock]
        memberships := store.memberships ++ [registration.owner clock]
        nodePools := store.nodePools ++ [trialPool ids registration.tenantId]
        subscriptions := store.subscriptions ++ [trialSubscription ids registration.tenantId now]
        entitlements := store.entitlements ++ [trialEntitlement ids registration.tenantId] } := by
  simp only [registerUserAndWorkspace, provisionInitialSdwanTrial, bind_ok, orElse_ok, pure_ok,
    insertRow_some] at done
  obtain ⟨-, -, users, ⟨fresh, rfl⟩, organizations, ⟨-, rfl⟩, tenants, ⟨-, rfl⟩, owned, inserted,
    nodePools, ⟨-, rfl⟩, subscriptions, ⟨-, rfl⟩, entitlements, ⟨-, rfl⟩, rfl⟩ := done
  obtain ⟨-, -, rfl⟩ := insertMembership_ok inserted
  exact ⟨fresh, rfl⟩

theorem createActionToken_ok {write : ActionTokenWrite}
    (done : createActionToken store write clock now = (.ok (), store')) :
    ∃ invalidated, invalidated.length = store.actionTokens.length ∧
      store' = { store with actionTokens := invalidated ++ [write.row] } := by
  simp only [createActionToken] at done
  split at done
  · cases done
  · split at done
    · cases done
    · cases done
      exact ⟨_, List.length_map _, rfl⟩

theorem rollback_refused {userId organizationId tenantId : Uuid} {tenant : TenantRow}
    (member : tenant ∈ store.tenants) (named : tenant.id = tenantId)
    (owned : tenant.organizationId = organizationId)
    (referred : store.tenantReferred tenantId = true) :
    ∃ error, rollbackPendingRegistration store userId organizationId tenantId = .error error := by
  cases outcome : rollbackPendingRegistration store userId organizationId tenantId with
  | error error => exact ⟨error, rfl⟩
  | ok undone =>
      simp only [rollbackPendingRegistration, bind_ok] at outcome
      obtain ⟨-, -, tenantless, deleted, -⟩ := outcome
      simp only [IdentityStore.deleteTenants, unit_bind_ok, reject_ok, List.any_eq_false] at deleted
      refine absurd ?_ (deleted.1 tenant member)
      simp only [named, owned, beq_self_eq_true, Bool.true_and]
      exact referred

def IdentityStore.accountTables (store : IdentityStore) :=
  (store.users, store.organizations, store.tenants, store.memberships, store.actionTokens,
    store.nodePools, store.subscriptions, store.entitlements)

theorem register_sent {message : EmailMessage}
    (sent : (register collate services store request draw).sent = some message) :
    ∃ registration registered after, request.prepare services draw = .ok registration ∧
      registerUserAndWorkspace collate store registration draw.trial draw.registeredClock
        draw.registeredAt = .ok registered ∧
      createActionToken registered (draw.verification services) draw.tokenClock draw.tokenAt =
        (.ok (), after) ∧
      message = ⟨.verifyEmail, registration.email, draw.token⟩ := by
  simp only [register] at sent
  split at sent
  · cases sent
  · rename_i registration prepared
    split at sent
    · cases sent
    · cases sent
    · rename_i registered accepted
      split at sent
      · cases sent
      · rename_i after created
        refine ⟨registration, registered, after, prepared, accepted, created, ?_⟩
        split at sent
        · exact (Option.some.inj sent).symm
        · split at sent
          · exact (Option.some.inj sent).symm
          · exact (Option.some.inj sent).symm

theorem prepare_ok (prepared : request.prepare services draw = .ok registration) :
    canonicalEmail request.email = .ok registration.email ∧
      registration.userId = draw.userId ∧ registration.organizationId = draw.organizationId ∧
      registration.tenantId = draw.tenantId := by
  simp only [RegisterRequest.prepare, bind_ok, pure_ok] at prepared
  obtain ⟨email, canonical, -, -, -, -, -, -, passwordHash, -, rfl⟩ := prepared
  exact ⟨canonical, rfl, rfl, rfl⟩

/-- The store when the mail is handed over. -/
structure Written (before after : IdentityStore) (draw : RegisterDraw)
    (email : String) : Prop where
  users : ∃ row, row.email = email ∧ after.users = before.users ++ [row]
  organizations : ∃ row, after.organizations = before.organizations ++ [row]
  tenants : ∃ row : TenantRow, row.id = draw.tenantId ∧
    row.organizationId = draw.organizationId ∧ after.tenants = before.tenants ++ [row]
  memberships : ∃ row, after.memberships = before.memberships ++ [row]
  actionTokens : after.actionTokens.length = before.actionTokens.length + 1
  nodePools : ∃ row : NodePoolRow, row.tenantId = some draw.tenantId ∧
    after.nodePools = before.nodePools ++ [row]
  subscriptions : ∃ row, after.subscriptions = before.subscriptions ++ [row]
  entitlements : ∃ row, after.entitlements = before.entitlements ++ [row]

theorem written {registered : IdentityStore}
    (prepared : request.prepare services draw = .ok registration)
    (accepted : registerUserAndWorkspace collate store registration draw.trial
      draw.registeredClock draw.registeredAt = .ok registered)
    (created : createActionToken registered (draw.verification services) draw.tokenClock
      draw.tokenAt = (.ok (), after)) :
    Written store after draw registration.email := by
  obtain ⟨-, -, organization, tenant⟩ := prepare_ok prepared
  obtain ⟨-, rfl⟩ := registerUserAndWorkspace_ok accepted
  obtain ⟨invalidated, size, rfl⟩ := createActionToken_ok created
  exact {
    users := ⟨registration.user, rfl, rfl⟩
    organizations := ⟨_, rfl⟩
    tenants := ⟨_, tenant, organization, rfl⟩
    memberships := ⟨_, rfl⟩
    actionTokens := by rw [List.length_append, size, List.length_singleton]
    nodePools := ⟨_, congrArg some tenant, rfl⟩
    subscriptions := ⟨_, rfl⟩
    entitlements := ⟨_, rfl⟩ }

theorem Written.traces (written : Written before after draw email)
    : after.accountTables ≠ before.accountTables := by
  intro same
  have tokens := written.actionTokens
  rw [show after.actionTokens = before.actionTokens from
    congrArg (fun tables => tables.2.2.2.2.1) same] at tokens
  omega

theorem Written.kept (written : Written before after draw email) :
    ∃ error, rollbackPendingRegistration after draw.userId draw.organizationId draw.tenantId =
      .error error := by
  obtain ⟨tenant, named, owned, tenants⟩ := written.tenants
  obtain ⟨pool, referring, nodePools⟩ := written.nodePools
  refine rollback_refused ?_ named owned ?_
  · rw [tenants]
    exact List.mem_concat_self
  · simp [IdentityStore.tenantReferred, nodePools, referring]

theorem Written.taken (written : Written before after draw email) (services' : RegisterServices)
    (request' : RegisterRequest) (draw' : RegisterDraw)
    (same : canonicalEmail request'.email = .ok email) :
    (register collate services' after request' draw').sent = none := by
  obtain ⟨row, own, users⟩ := written.users
  cases sent : (register collate services' after request' draw').sent with
  | none => rfl
  | some message =>
      obtain ⟨registration, registered, -, prepared, accepted, -, -⟩ := register_sent sent
      have fresh := (registerUserAndWorkspace_ok accepted).1 row
        (users ▸ List.mem_concat_self)
      have equal := (prepare_ok prepared).1
      rw [same] at equal
      rw [HumanUserRow.conflict, own, Except.ok.inj equal, RegistrationWrite.user,
        beq_self_eq_true, Bool.or_true] at fresh
      cases fresh

/-- A registration whose mail could not be delivered. -/
structure Retained (collate : Collation) (before : IdentityStore) (outcome : Registered)
    (email : String) : Prop where
  answered : ∃ error, outcome.answer = .error (.repository error)
  traces : outcome.store.accountTables ≠ before.accountTables
  taken : ∀ services request draw, canonicalEmail request.email = .ok email →
    (register collate services outcome.store request draw).sent = none

/-- The undoing of a registration always fails, and all it has written stays. -/
theorem undelivered_registration_retained (collate : Collation) (services : RegisterServices)
    (store : IdentityStore) (request : RegisterRequest) (draw : RegisterDraw)
    {message : EmailMessage}
    (sent : (register collate services store request draw).sent = some message)
    (undelivered : services.deliver message = false) :
    Retained collate store (register collate services store request draw) message.recipient := by
  obtain ⟨registration, registered, after, prepared, accepted, created, rfl⟩ := register_sent sent
  have written := written prepared accepted created
  obtain ⟨error, refused⟩ := written.kept
  have outcome : register collate services store request draw = ⟨.error (.repository error), after,
      some ⟨.verifyEmail, registration.email, draw.token⟩⟩ := by
    simp only [register, prepared, accepted, created, undelivered, refused, Bool.false_eq_true,
      if_false]
  rw [outcome]
  exact ⟨⟨error, rfl⟩, written.traces, written.taken⟩

def silentServices : RegisterServices :=
  ⟨fun _ => .ok (), some, fun token => BitVec.ofNat 256 token.length, fun _ => false⟩

def workspaceRequest : RegisterRequest :=
  ⟨" Owner@Candy.example", "correct horse battery", "Owner", "Workspace "⟩

def workspaceDraw : RegisterDraw := ⟨1, 2, 3, ⟨5, 6, 7⟩, 10, 10, 8, "token", 1000, 11, 11⟩

/-- An empty database is not empty afterwards. -/
theorem empty_database_filled :
    (register asciiCollation silentServices emptyStore workspaceRequest workspaceDraw).sent =
      some ⟨.verifyEmail, "owner@candy.example", "token"⟩ ∧
    (register asciiCollation silentServices emptyStore workspaceRequest
      workspaceDraw).store.accountTables ≠ emptyStore.accountTables := by
  refine ⟨by decide +kernel, ?_⟩
  intro same
  have users := congrArg (fun tables => tables.1) same
  revert users
  decide +kernel

/-- The owner tries once more. -/
theorem second_attempt_unsent :
    (register asciiCollation silentServices
      (register asciiCollation silentServices emptyStore workspaceRequest workspaceDraw).store
      workspaceRequest { workspaceDraw with userId := 11 }).sent = none := by
  have sent : (register asciiCollation silentServices emptyStore workspaceRequest
      workspaceDraw).sent = some ⟨.verifyEmail, "owner@candy.example", "token"⟩ := by
    decide +kernel
  have retained := undelivered_registration_retained asciiCollation silentServices emptyStore
    workspaceRequest workspaceDraw sent rfl
  exact retained.taken silentServices workspaceRequest _ (by decide +kernel)

end CandyCloud.Identity
