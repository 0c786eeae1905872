import CandyCloud.Identity.Tables

/-! # Members of an organization

Registration, invitations and the changes an owner makes to members, each one
transaction. The connection counts the rows a condition matches, whether or not
their values change. An audit row names an organization that a row of the same
transaction already names.
-/

namespace CandyCloud.Identity

open Foundation

structure RegistrationWrite where
  userId : Uuid
  email : String
  displayName : String
  passwordHash : String
  organizationId : Uuid
  organizationName : String
  tenantId : Uuid
deriving DecidableEq, Repr

structure TrialIds where
  pool : Uuid
  subscription : Uuid
  entitlement : Uuid
deriving DecidableEq, Repr

def trialMaxDatagramRecordBytes : Nat := 1300 + 50

def trialQuota : List (String × Nat) :=
  [("allowed_features", 9216), ("max_outer_connections_per_node", 2),
    ("max_outer_connections_per_pool", 4), ("max_active_sessions_per_connection", 128),
    ("max_udp_flows_per_connection", 256), ("max_pending_opens", 32),
    ("max_speculative_streams", 8), ("max_datagram_record", trialMaxDatagramRecordBytes),
    ("upload_rate_bps", 0), ("download_rate_bps", 0)]

/-- Thirty days. -/
def trialPeriod : Nat := 30 * 24 * 3600 * 1000000

def trialPool (ids : TrialIds) (tenantId : Uuid) : NodePoolRow :=
  { id := ids.pool
    tenantId := some tenantId
    serviceClass := "PRIVATE"
    name := "cloud-private-" ++ uuidText tenantId
    audience := "tenant-private"
    status := "ACTIVE" }

def trialSubscription (ids : TrialIds) (tenantId : Uuid) (now : Instant) : SubscriptionRow :=
  { id := ids.subscription
    tenantId
    planCode := "sdwan-trial"
    status := "TRIAL"
    startsAt := now
    endsAt := some (now + trialPeriod) }

def trialEntitlement (ids : TrialIds) (tenantId : Uuid) : EntitlementRow :=
  { id := ids.entitlement
    tenantId
    subscriptionId := ids.subscription
    nodePoolId := ids.pool
    servicePermission := "private.tun.connect"
    quota := trialQuota
    status := "ACTIVE" }

def provisionInitialSdwanTrial (collate : Collation) (store : IdentityStore) (ids : TrialIds)
    (tenantId : Uuid) (now : Instant) : Except IdentityRepositoryError IdentityStore := do
  let nodePools ← orElse .database
    (insertRow (fun a b => a.id == b.id) store.nodePools (trialPool ids tenantId))
  let subscriptions ← orElse .database
    (insertRow (fun a b => a.id == b.id) store.subscriptions (trialSubscription ids tenantId now))
  let entitlements ← orElse .database (insertRow (EntitlementRow.conflict collate)
    store.entitlements (trialEntitlement ids tenantId))
  return { store with nodePools, subscriptions, entitlements }

namespace RegistrationWrite

variable (registration : RegistrationWrite)

def validate : Except IdentityRepositoryError Unit := do
  validateEmail registration.email
  reject (isNil registration.userId || isNil registration.organizationId ||
    isNil registration.tenantId || !bounded registration.displayName 200 ||
    !bounded registration.organizationName 200 || !bounded registration.passwordHash 255)
    .invalidInput

def user : HumanUserRow :=
  { id := registration.userId
    email := registration.email
    displayName := registration.displayName
    passwordHash := registration.passwordHash
    emailVerifiedAt := none
    status := .pendingVerification }

def organization : OrganizationRow :=
  ⟨registration.organizationId, registration.organizationName, .active⟩

def tenant (clock : Instant) : TenantRow :=
  ⟨registration.tenantId, registration.organizationId, registration.organizationName, .active, clock⟩

def owner (clock : Instant) : MembershipRow :=
  ⟨registration.organizationId, registration.userId, .organizationOwner, .active, clock⟩

end RegistrationWrite

/-- `clock` is the database's time, `now` the one of the service. -/
def registerUserAndWorkspace (collate : Collation) (store : IdentityStore)
    (registration : RegistrationWrite) (ids : TrialIds) (clock now : Instant) :
    Except IdentityRepositoryError IdentityStore := do
  registration.validate
  let users ← orElse .conflict
    (insertRow (HumanUserRow.conflict collate) store.users registration.user)
  let organizations ← orElse .database
    (insertRow (fun a b => a.id == b.id) store.organizations registration.organization)
  let tenants ← orElse .database
    (insertRow (fun a b => a.id == b.id) store.tenants (registration.tenant clock))
  let owned ← IdentityStore.insertMembership { store with users, organizations, tenants }
    (registration.owner clock)
  provisionInitialSdwanTrial collate owned ids registration.tenantId now

structure OrganizationInvitation where
  id : Uuid
  organizationId : Uuid
  email : String
  role : MembershipRole
  expiresAt : Instant
deriving DecidableEq, Repr

def InvitationRow.record (row : InvitationRow) : OrganizationInvitation :=
  ⟨row.id, row.organizationId, row.email, row.role.membership, row.expiresAt⟩

def InvitationRow.pending (row : InvitationRow) : Bool :=
  row.acceptedAt == none && row.revokedAt == none

/-- `organization_id = ? AND email_normalized = ? AND accepted_at IS NULL AND
    revoked_at IS NULL`. -/
def InvitationRow.openFor (collate : Collation) (organizationId : Uuid) (email : String)
    (row : InvitationRow) : Bool :=
  row.organizationId == organizationId && collate row.email == collate email && row.pending

def IdentityStore.revokeInvitations (store : IdentityStore) (selected : InvitationRow → Bool)
    (clock : Instant) : IdentityStore :=
  store.updateInvitations selected fun row => { row with revokedAt := some clock }

def createOrganizationInvitation (collate : Collation) (store : IdentityStore)
    (invitation : OrganizationInvitation) (tokenHash : Hash) (invitedBy : Uuid)
    (clock now : Instant) : Except IdentityRepositoryError IdentityStore := do
  validateEmail invitation.email
  reject (isNil invitation.id || isNil invitation.organizationId || isNil invitedBy ||
    decide (invitation.expiresAt ≤ now) || invitation.role.reserved) .invalidInput
  let role ← orElse .invalidInput invitation.role.invited
  reject (store.memberships.any fun membership =>
    membership.organizationId == invitation.organizationId && store.users.any fun user =>
      user.id == membership.userId && collate user.email == collate invitation.email) .conflict
  let revoked := store.revokeInvitations
    (InvitationRow.openFor collate invitation.organizationId invitation.email) clock
  reject (!store.hasOrganization invitation.organizationId || !store.hasUser invitedBy) .database
  let invitations ← orElse .database (insertRow InvitationRow.conflict revoked.invitations
    { id := invitation.id
      organizationId := invitation.organizationId
      email := invitation.email
      role
      tokenHash
      invitedBy
      expiresAt := invitation.expiresAt
      acceptedAt := none
      revokedAt := none })
  return IdentityStore.audited { revoked with invitations }
    { organizationId := invitation.organizationId
      actorId := invitedBy
      action := "ORGANIZATION_INVITATION_CREATED"
      objectType := "ORGANIZATION_INVITATION"
      objectId := invitation.id
      metadata := .invitation invitation.email invitation.role invitation.expiresAt }

def identityAudit (organizationId actorId : Uuid) (action objectType : String) (objectId : Uuid) :
    IdentityAuditRow :=
  ⟨organizationId, actorId, action, objectType, objectId, .none⟩

/-- The membership of an acceptance, the mark on its invitation and the audit. -/
def IdentityStore.acceptInvitation (store : IdentityStore) (invitation : InvitationRow)
    (userId : Uuid) (clock now : Instant) : Except IdentityRepositoryError IdentityStore := do
  let joined ← store.insertMembership
    ⟨invitation.organizationId, userId, invitation.role.membership, .active, clock⟩
  let accepted := joined.updateInvitations (fun row => row.id == invitation.id)
    fun row => { row with acceptedAt := some now }
  return accepted.audited (identityAudit invitation.organizationId userId
    "ORGANIZATION_INVITATION_ACCEPTED" "ORGANIZATION_INVITATION" invitation.id)

def acceptOrganizationInvitation (collate : Collation) (store : IdentityStore) (userId : Uuid)
    (email : String) (tokenHash : Hash) (clock now : Instant) :
    Except IdentityRepositoryError (Option OrganizationInvitation × IdentityStore) := do
  validateEmail email
  reject (isNil userId) .invalidInput
  match store.invitations.find? fun row => row.tokenHash == tokenHash &&
      collate row.email == collate email && row.pending && decide (now < row.expiresAt) with
  | none => return (none, store)
  | some invitation =>
      reject invitation.role.membership.reserved .invalidInput
      reject (store.memberships.any fun membership =>
        membership.key == (invitation.organizationId, userId)) .conflict
      return (some invitation.record, ← store.acceptInvitation invitation userId clock now)

structure InvitedRegistrationWrite where
  userId : Uuid
  displayName : String
  passwordHash : String
deriving DecidableEq, Repr

structure Membership where
  organizationId : Uuid
  organizationName : String
  tenantId : Uuid
  tenantName : String
  role : MembershipRole
deriving DecidableEq, Repr

/-- `ORDER BY created_at LIMIT 1`. -/
def earliest (best : Option TenantRow) (row : TenantRow) : Option TenantRow :=
  match best with
  | none => some row
  | some old => if row.createdAt < old.createdAt then some row else some old

namespace IdentityStore

variable (store : IdentityStore)

def activeOrganization (id : Uuid) : Option OrganizationRow :=
  store.organizations.find? fun row => row.id == id && row.status == .active

def firstTenant (organizationId : Uuid) : Option TenantRow :=
  (store.tenants.filter fun row => row.organizationId == organizationId &&
    row.status == .active).foldl earliest none

/-- A pending invitation with its organization and its oldest tenant. -/
def invitationFor (tokenHash : Hash) (now : Instant) :
    Option (InvitationRow × OrganizationRow × TenantRow) := do
  let invitation ← store.invitations.find? fun row => row.tokenHash == tokenHash && row.pending &&
    decide (now < row.expiresAt)
  let organization ← store.activeOrganization invitation.organizationId
  let tenant ← store.firstTenant organization.id
  return (invitation, organization, tenant)

end IdentityStore

def registerFromOrganizationInvitation (collate : Collation) (store : IdentityStore)
    (registration : InvitedRegistrationWrite) (tokenHash : Hash) (clock now : Instant) :
    Except IdentityRepositoryError (Option (HumanUserRow × Membership) × IdentityStore) := do
  reject (isNil registration.userId || !bounded registration.displayName 200 ||
    !bounded registration.passwordHash 255) .invalidInput
  match store.invitationFor tokenHash now with
  | none => return (none, store)
  | some (invitation, organization, tenant) =>
      reject (store.users.any fun user => collate user.email == collate invitation.email) .conflict
      let user : HumanUserRow :=
        { id := registration.userId
          email := invitation.email
          displayName := registration.displayName
          passwordHash := registration.passwordHash
          emailVerifiedAt := some now
          status := .active }
      let users ← orElse .database (insertRow (HumanUserRow.conflict collate) store.users user)
      let after ← IdentityStore.acceptInvitation { store with users } invitation
        registration.userId clock now
      return (some (user, { organizationId := invitation.organizationId
                            organizationName := organization.name
                            tenantId := tenant.id
                            tenantName := tenant.name
                            role := invitation.role.membership }), after)

def revokeOrganizationInvitation (store : IdentityStore) (invitationId organizationId actorId : Uuid)
    (clock : Instant) : Except IdentityRepositoryError IdentityStore := do
  reject (isNil invitationId || isNil organizationId || isNil actorId) .invalidInput
  let selected : InvitationRow → Bool := fun row =>
    row.id == invitationId && row.organizationId == organizationId && row.pending
  let revoked := store.revokeInvitations selected clock
  if (store.invitations.filter selected).length = 1 then
    return revoked.audited (identityAudit organizationId actorId
      "ORGANIZATION_INVITATION_REVOKED" "ORGANIZATION_INVITATION" invitationId)
  else return revoked

def IdentityStore.revokeMembershipSessions (store : IdentityStore) (organizationId userId : Uuid)
    (now : Instant) : IdentityStore :=
  store.updateSessions (fun row => row.organizationId == organizationId && row.userId == userId &&
    row.revokedAt == none) (SessionRow.revoke now .admin)

/-- `organization_id = ? AND user_id = ? AND role <> 'ORGANIZATION_OWNER'`. -/
def MembershipRow.changeable (organizationId userId : Uuid) (row : MembershipRow) : Bool :=
  row.key == (organizationId, userId) && row.role != .organizationOwner

/-- What follows a statement on one member: his sessions in the organization end. -/
def IdentityStore.memberChanged (store : IdentityStore) (organizationId actorId userId : Uuid)
    (action : String) (now : Instant) : IdentityStore :=
  (store.revokeMembershipSessions organizationId userId now).audited
    (identityAudit organizationId actorId action "ORGANIZATION_MEMBERSHIP" userId)

/-- The statement on a member other than the owner, and what follows when it
    met one row. -/
def changeMember (store : IdentityStore)
    (statement : IdentityStore → Except IdentityRepositoryError IdentityStore)
    (organizationId actorId userId : Uuid) (action : String) (now : Instant) :
    Except IdentityRepositoryError (Bool × IdentityStore) := do
  let after ← statement store
  if (store.memberships.filter (MembershipRow.changeable organizationId userId)).length = 1 then
    return (true, after.memberChanged organizationId actorId userId action now)
  else return (false, after)

def updateMemberRoleAndRevokeSessions (store : IdentityStore)
    (organizationId actorId userId : Uuid) (role : MembershipRole) (now : Instant) :
    Except IdentityRepositoryError (Bool × IdentityStore) := do
  reject (isNil organizationId || isNil actorId || isNil userId || role.reserved) .invalidInput
  changeMember store (·.updateMemberships (MembershipRow.changeable organizationId userId)
      fun row => { row with role })
    organizationId actorId userId "ORGANIZATION_MEMBER_ROLE_CHANGED" now

def setMemberActiveAndRevokeSessions (store : IdentityStore) (organizationId actorId userId : Uuid)
    (active : Bool) (now : Instant) : Except IdentityRepositoryError (Bool × IdentityStore) := do
  reject (isNil organizationId || isNil actorId || isNil userId) .invalidInput
  changeMember store (·.updateMemberships (MembershipRow.changeable organizationId userId)
      fun row => { row with status := if active then .active else .suspended })
    organizationId actorId userId
    (if active then "ORGANIZATION_MEMBER_REACTIVATED" else "ORGANIZATION_MEMBER_SUSPENDED") now

def removeMemberAndRevokeSessions (store : IdentityStore) (organizationId actorId userId : Uuid)
    (now : Instant) : Except IdentityRepositoryError (Bool × IdentityStore) := do
  reject (isNil organizationId || isNil actorId || isNil userId) .invalidInput
  changeMember store (fun store => .ok (store.deleteMemberships
      (MembershipRow.changeable organizationId userId)))
    organizationId actorId userId "ORGANIZATION_MEMBER_REMOVED" now

def transferOrganizationOwnership (store : IdentityStore)
    (organizationId currentOwner newOwner : Uuid) (now : Instant) :
    Except IdentityRepositoryError (Bool × IdentityStore) := do
  reject (isNil organizationId || isNil currentOwner || isNil newOwner ||
    currentOwner == newOwner) .invalidInput
  if !store.memberships.any fun row =>
      row.key == (organizationId, newOwner) && row.status == .active then
    return (false, store)
  else
    let owns : MembershipRow → Bool := fun row =>
      row.key == (organizationId, currentOwner) && row.role == .organizationOwner
    let demoted ← store.updateMemberships owns fun row => { row with role := .tenantAdmin }
    if (store.memberships.filter owns).length ≠ 1 then return (false, store)
    else
      let promoted ← demoted.updateMemberships (fun row => row.key == (organizationId, newOwner))
        fun row => { row with role := .organizationOwner }
      let ended := (promoted.revokeMembershipSessions organizationId currentOwner
        now).revokeMembershipSessions organizationId newOwner now
      return (true, ended.audited (identityAudit organizationId currentOwner
        "ORGANIZATION_OWNERSHIP_TRANSFERRED" "ORGANIZATION" organizationId))

end CandyCloud.Identity
