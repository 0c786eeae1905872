import CandyCloud.Text
import CandyCloud.Foundation.Fallible
import CandyCloud.Foundation.Table
import CandyCloud.Topology

/-! # Accounts

The tables of the identity service with the unique and foreign keys of their
migrations. Every foreign key restricts; tables of other subsystems that name an
organization, a tenant or a user are kept as the identifiers they name. Audit
identifiers are random and left out. Text columns compare by the sort key of the
database's collation.
-/

namespace CandyCloud.Identity

open Foundation

inductive IdentityRepositoryError where
  | invalidInput
  | conflict
  | notFound
  | database
deriving DecidableEq, Repr

inductive MembershipRole where
  | platformAdmin
  | organizationOwner
  | tenantAdmin
  | operator
  | billingViewer
  | auditor
deriving DecidableEq, Repr

/-- The roles the column of an invitation can hold. -/
inductive InvitedRole where
  | tenantAdmin
  | operator
  | billingViewer
  | auditor
deriving DecidableEq, Repr

def InvitedRole.membership : InvitedRole → MembershipRole
  | .tenantAdmin => .tenantAdmin
  | .operator => .operator
  | .billingViewer => .billingViewer
  | .auditor => .auditor

def MembershipRole.invited : MembershipRole → Option InvitedRole
  | .platformAdmin | .organizationOwner => none
  | .tenantAdmin => some .tenantAdmin
  | .operator => some .operator
  | .billingViewer => some .billingViewer
  | .auditor => some .auditor

/-- `matches!(role, PlatformAdmin | OrganizationOwner)`. -/
def MembershipRole.reserved : MembershipRole → Bool
  | .platformAdmin | .organizationOwner => true
  | .tenantAdmin | .operator | .billingViewer | .auditor => false

inductive MembershipStatus where
  | active
  | suspended
deriving DecidableEq, Repr

inductive HumanUserStatus where
  | pendingVerification
  | active
  | suspended
  | deleted
deriving DecidableEq, Repr

inductive RevokeReason where
  | user
  | logout
  | rotationReuse
  | passwordReset
  | admin
deriving DecidableEq, Repr

inductive ActionTokenPurpose where
  | verifyEmail
  | resetPassword
deriving DecidableEq, Repr

/-- `human_users`. -/
structure HumanUserRow where
  id : Uuid
  email : String
  displayName : String
  passwordHash : String
  emailVerifiedAt : Option Instant
  status : HumanUserStatus
deriving DecidableEq, Repr

/-- `organizations`. -/
structure OrganizationRow where
  id : Uuid
  name : String
  status : AccountStatus
deriving DecidableEq, Repr

structure TenantRow where
  id : Uuid
  organizationId : Uuid
  name : String
  status : AccountStatus
  createdAt : Instant
deriving DecidableEq, Repr

/-- `organization_memberships`. -/
structure MembershipRow where
  organizationId : Uuid
  userId : Uuid
  role : MembershipRole
  status : MembershipStatus
  createdAt : Instant
deriving DecidableEq, Repr

/-- `organization_invitations`. -/
structure InvitationRow where
  id : Uuid
  organizationId : Uuid
  email : String
  role : InvitedRole
  tokenHash : Hash
  invitedBy : Uuid
  expiresAt : Instant
  acceptedAt : Option Instant
  revokedAt : Option Instant
deriving DecidableEq, Repr

/-- `human_sessions`. -/
structure SessionRow where
  id : Uuid
  userId : Uuid
  familyId : Uuid
  organizationId : Uuid
  tenantId : Uuid
  deviceLabel : Option String
  expiresAt : Instant
  lastSeenAt : Instant
  revokedAt : Option Instant
  revokeReason : Option RevokeReason
deriving DecidableEq, Repr

/-- `human_refresh_tokens`. -/
structure RefreshTokenRow where
  id : Uuid
  sessionId : Uuid
  tokenHash : Hash
  expiresAt : Instant
  usedAt : Option Instant
  revokedAt : Option Instant
  replacedById : Option Uuid
deriving DecidableEq, Repr

/-- `human_action_tokens`. -/
structure ActionTokenRow where
  id : Uuid
  userId : Uuid
  purpose : ActionTokenPurpose
  tokenHash : Hash
  expiresAt : Instant
  consumedAt : Option Instant
deriving DecidableEq, Repr

structure NodePoolRow where
  id : Uuid
  tenantId : Option Uuid
  serviceClass : String
  name : String
  audience : String
  status : String
deriving DecidableEq, Repr

structure SubscriptionRow where
  id : Uuid
  tenantId : Uuid
  planCode : String
  status : String
  startsAt : Instant
  endsAt : Option Instant
deriving DecidableEq, Repr

structure EntitlementRow where
  id : Uuid
  tenantId : Uuid
  subscriptionId : Uuid
  nodePoolId : Uuid
  servicePermission : String
  quota : List (String × Nat)
  status : String
deriving DecidableEq, Repr

inductive IdentityAuditMetadata where
  | none
  | invitation (email : String) (role : MembershipRole) (expiresAt : Instant)
deriving DecidableEq, Repr

/-- `audit_events`. -/
structure IdentityAuditRow where
  organizationId : Uuid
  actorId : Uuid
  action : String
  objectType : String
  objectId : Uuid
  metadata : IdentityAuditMetadata
deriving DecidableEq, Repr

/-- What tables of other subsystems refer to. -/
structure ForeignReferences where
  users : List Uuid
  organizations : List Uuid
  tenants : List Uuid
deriving DecidableEq, Repr

/-- The tables of accounts, sessions and tokens. -/
structure IdentityStore where
  users : List HumanUserRow
  organizations : List OrganizationRow
  tenants : List TenantRow
  memberships : List MembershipRow
  invitations : List InvitationRow
  sessions : List SessionRow
  refreshTokens : List RefreshTokenRow
  actionTokens : List ActionTokenRow
  nodePools : List NodePoolRow
  subscriptions : List SubscriptionRow
  entitlements : List EntitlementRow
  audits : List IdentityAuditRow
  foreign_ : ForeignReferences
deriving DecidableEq, Repr

/-- The sort key of a text. -/
abbrev Collation := String → List Nat

/-- Primary key and `uq_human_users_email`. -/
def HumanUserRow.conflict (collate : Collation) (a b : HumanUserRow) : Bool :=
  a.id == b.id || collate a.email == collate b.email

def MembershipRow.key (row : MembershipRow) : Uuid × Uuid := (row.organizationId, row.userId)

/-- Primary key and `uq_organization_single_owner`. -/
def MembershipRow.conflict (a b : MembershipRow) : Bool :=
  a.key == b.key || (a.organizationId == b.organizationId &&
    a.role == .organizationOwner && b.role == .organizationOwner)

/-- Primary key and `uq_organization_invitations_token`. -/
def InvitationRow.conflict (a b : InvitationRow) : Bool :=
  a.id == b.id || a.tokenHash == b.tokenHash

/-- Primary key and `uq_human_refresh_tokens_hash`. -/
def RefreshTokenRow.conflict (a b : RefreshTokenRow) : Bool :=
  a.id == b.id || a.tokenHash == b.tokenHash

/-- Primary key and `uq_human_action_tokens_hash`. -/
def ActionTokenRow.conflict (a b : ActionTokenRow) : Bool :=
  a.id == b.id || a.tokenHash == b.tokenHash

/-- Primary key and `uq_entitlements_pool_permission`. -/
def EntitlementRow.conflict (collate : Collation) (a b : EntitlementRow) : Bool :=
  a.id == b.id || (a.tenantId == b.tenantId && a.nodePoolId == b.nodePoolId &&
    collate a.servicePermission == collate b.servicePermission)

namespace IdentityStore

variable (store : IdentityStore)

def hasUser (id : Uuid) : Bool := store.users.any (·.id == id)

def hasOrganization (id : Uuid) : Bool := store.organizations.any (·.id == id)

def hasTenant (id : Uuid) : Bool := store.tenants.any (·.id == id)

def userReferred (id : Uuid) : Bool :=
  store.memberships.any (·.userId == id) || store.invitations.any (·.invitedBy == id) ||
    store.sessions.any (·.userId == id) || store.actionTokens.any (·.userId == id) ||
    store.foreign_.users.contains id

def organizationReferred (id : Uuid) : Bool :=
  store.tenants.any (·.organizationId == id) || store.memberships.any (·.organizationId == id) ||
    store.invitations.any (·.organizationId == id) ||
    store.sessions.any (·.organizationId == id) || store.audits.any (·.organizationId == id) ||
    store.foreign_.organizations.contains id

def tenantReferred (id : Uuid) : Bool :=
  store.nodePools.any (·.tenantId == some id) || store.subscriptions.any (·.tenantId == id) ||
    store.entitlements.any (·.tenantId == id) || store.sessions.any (·.tenantId == id) ||
    store.foreign_.tenants.contains id

def insertMembership (row : MembershipRow) : Except IdentityRepositoryError IdentityStore := do
  reject (!store.hasOrganization row.organizationId || !store.hasUser row.userId) .database
  let memberships ← orElse .database (insertRow MembershipRow.conflict store.memberships row)
  return { store with memberships }

/-- An `UPDATE` of the roles or statuses of memberships; a second owner violates
    the unique key. -/
def updateMemberships (selected : MembershipRow → Bool) (set : MembershipRow → MembershipRow) :
    Except IdentityRepositoryError IdentityStore := do
  let memberships := updateWhere selected set store.memberships
  reject (memberships.any fun a => memberships.any fun b => a.key != b.key && a.conflict b) .database
  return { store with memberships }

/-- A `DELETE` of memberships; no table refers to them. -/
def deleteMemberships (selected : MembershipRow → Bool) : IdentityStore :=
  { store with memberships := store.memberships.filter fun row => !selected row }

def updateInvitations (selected : InvitationRow → Bool) (set : InvitationRow → InvitationRow) :
    IdentityStore :=
  { store with invitations := updateWhere selected set store.invitations }

def updateSessions (selected : SessionRow → Bool) (set : SessionRow → SessionRow) :
    IdentityStore :=
  { store with sessions := updateWhere selected set store.sessions }

def audited (row : IdentityAuditRow) : IdentityStore :=
  { store with audits := store.audits ++ [row] }

end IdentityStore

/-- `revoked_at = COALESCE(revoked_at, ?), revoke_reason = ?`. -/
def SessionRow.revoke (now : Instant) (reason : RevokeReason) (row : SessionRow) : SessionRow :=
  { row with revokedAt := row.revokedAt <|> some now, revokeReason := some reason }

def bounded (value : String) (limit : Nat) : Bool :=
  !(utf8 value).isEmpty && decide ((utf8 value).length ≤ limit)

/-- `to_ascii_lowercase` changes the text. -/
def hasUppercase (value : String) : Bool := (utf8 value).any asciiUpper

def validateEmail (email : String) : Except IdentityRepositoryError Unit :=
  reject (!bounded email 254 || email.toList != trim email.toList || hasUppercase email ||
    email.toList.any (fun c => c == '\r' || c == '\n') || !email.toList.contains '@') .invalidInput

end CandyCloud.Identity
