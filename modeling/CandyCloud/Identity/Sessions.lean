import CandyCloud.Identity.Members

/-! # Sessions and refresh tokens

A session is created with its first refresh token. Exchanging a token marks it
used and leaves its successor behind; presenting it again revokes every session
of the family.
-/

namespace CandyCloud.Identity

open Foundation

structure SessionRecord where
  id : Uuid
  familyId : Uuid
  userId : Uuid
  organizationId : Uuid
  tenantId : Uuid
  role : MembershipRole
  expiresAt : Instant
  revokedAt : Option Instant
deriving DecidableEq, Repr

/-- A token to be stored; the token itself never is. -/
structure RefreshTokenWrite where
  id : Uuid
  tokenHash : Hash
  expiresAt : Instant
deriving DecidableEq, Repr

/-- The checks the two ways to create a session share. -/
def SessionRecord.malformed (session : SessionRecord) (token : RefreshTokenWrite)
    (deviceLabel : Option String) (now : Instant) : Bool :=
  isNil session.id || isNil session.familyId || isNil session.userId ||
    isNil session.organizationId || isNil session.tenantId || isNil token.id ||
    decide (session.expiresAt ≤ now) || decide (session.expiresAt < token.expiresAt) ||
    deviceLabel.any fun label => !bounded label 200

/-- A new row; `clock` is the default of `last_seen_at`. -/
def SessionRecord.row (session : SessionRecord) (deviceLabel : Option String) (clock : Instant) :
    SessionRow :=
  { id := session.id
    userId := session.userId
    familyId := session.familyId
    organizationId := session.organizationId
    tenantId := session.tenantId
    deviceLabel
    expiresAt := session.expiresAt
    lastSeenAt := clock
    revokedAt := none
    revokeReason := none }

def RefreshTokenWrite.row (token : RefreshTokenWrite) (sessionId : Uuid) : RefreshTokenRow :=
  { id := token.id
    sessionId
    tokenHash := token.tokenHash
    expiresAt := token.expiresAt
    usedAt := none
    revokedAt := none
    replacedById := none }

namespace IdentityStore

variable (store : IdentityStore)

def insertSession (row : SessionRow) : Except IdentityRepositoryError IdentityStore := do
  reject (!store.hasUser row.userId || !store.hasOrganization row.organizationId ||
    !store.hasTenant row.tenantId) .database
  let sessions ← orElse .database (insertRow (fun a b => a.id == b.id) store.sessions row)
  return { store with sessions }

def insertRefreshToken (row : RefreshTokenRow) : Except IdentityRepositoryError IdentityStore := do
  reject (!store.sessions.any (·.id == row.sessionId)) .database
  let refreshTokens ← orElse .database
    (insertRow RefreshTokenRow.conflict store.refreshTokens row)
  return { store with refreshTokens }

def openSession (session : SessionRecord) (token : RefreshTokenWrite)
    (deviceLabel : Option String) (clock : Instant) :
    Except IdentityRepositoryError IdentityStore := do
  let opened ← store.insertSession (session.row deviceLabel clock)
  opened.insertRefreshToken (token.row session.id)

/-- The session is unrevoked and unexpired, and the user's. -/
def liveSession (sessionId userId : Uuid) (now : Instant) : Bool :=
  store.sessions.any fun row => row.id == sessionId && row.userId == userId &&
    row.revokedAt == none && decide (now < row.expiresAt)

def membershipOf (session : SessionRow) : Option MembershipRow :=
  store.memberships.find? fun row => row.key == (session.organizationId, session.userId) &&
    row.status == .active

/-- A refresh token joined with its session and the active membership. -/
def presented (tokenHash : Hash) : Option (RefreshTokenRow × SessionRow × MembershipRow) := do
  let token ← store.refreshTokens.find? (·.tokenHash == tokenHash)
  let session ← store.sessions.find? (·.id == token.sessionId)
  let membership ← store.membershipOf session
  return (token, session, membership)

end IdentityStore

def createSession (store : IdentityStore) (session : SessionRecord) (token : RefreshTokenWrite)
    (deviceLabel : Option String) (clock now : Instant) :
    Except IdentityRepositoryError IdentityStore := do
  reject (session.malformed token deviceLabel now) .invalidInput
  store.openSession session token deviceLabel clock

def replaceContextSession (store : IdentityStore) (previousSessionId : Uuid)
    (session : SessionRecord) (token : RefreshTokenWrite) (deviceLabel : Option String)
    (clock now : Instant) : Except IdentityRepositoryError IdentityStore := do
  reject (isNil previousSessionId || session.malformed token deviceLabel now) .invalidInput
  reject (!store.liveSession previousSessionId session.userId now) .conflict
  let opened ← store.openSession session token deviceLabel clock
  return opened.updateSessions (fun row => row.id == previousSessionId && row.revokedAt == none)
    (SessionRow.revoke now .user)

/-- The token was used or revoked, or it or its session is over. -/
def invalidToken (token : RefreshTokenRow) (session : SessionRow) (now : Instant) : Bool :=
  token.usedAt.isSome || token.revokedAt.isSome || session.revokedAt.isSome ||
    decide (token.expiresAt ≤ now) || decide (session.expiresAt ≤ now)

/-- The reuse of a token ends every session of its family. -/
def IdentityStore.revokeFamily (store : IdentityStore) (familyId : Uuid) (now : Instant) :
    IdentityStore :=
  store.updateSessions (fun row => row.familyId == familyId && row.revokedAt == none)
    (SessionRow.revoke now .rotationReuse)

/-- The statements of a rotation whose token is valid. -/
def IdentityStore.exchangeToken (store : IdentityStore) (token : RefreshTokenRow)
    (session : SessionRow) (replacement : RefreshTokenWrite) (now : Instant) :
    Except IdentityRepositoryError IdentityStore := do
  let issued ← store.insertRefreshToken (RefreshTokenWrite.row { replacement with
    expiresAt := min replacement.expiresAt session.expiresAt } session.id)
  let unused : RefreshTokenRow → Bool := fun row => row.id == token.id && row.usedAt == none
  reject ((issued.refreshTokens.filter unused).length != 1) .conflict
  let refreshTokens := updateWhere unused (fun row =>
    { row with usedAt := some now, replacedById := some replacement.id }) issued.refreshTokens
  return IdentityStore.updateSessions { issued with refreshTokens } (fun row => row.id == session.id)
    fun row => { row with lastSeenAt := now }

def SessionRow.record (row : SessionRow) (role : MembershipRole) : SessionRecord :=
  { id := row.id
    familyId := row.familyId
    userId := row.userId
    organizationId := row.organizationId
    tenantId := row.tenantId
    role
    expiresAt := row.expiresAt
    revokedAt := none }

def rotateRefreshToken (store : IdentityStore) (tokenHash : Hash) (replacement : RefreshTokenWrite)
    (now : Instant) : Except IdentityRepositoryError (Option SessionRecord × IdentityStore) := do
  reject (isNil replacement.id || decide (replacement.expiresAt ≤ now)) .invalidInput
  match store.presented tokenHash with
  | none => return (none, store)
  | some (token, session, membership) =>
      if invalidToken token session now then return (none, store.revokeFamily session.familyId now)
      else return (some (session.record membership.role),
        ← store.exchangeToken token session replacement now)

def revokeSession (store : IdentityStore) (userId sessionId : Uuid) (now : Instant) :
    Except IdentityRepositoryError (Bool × IdentityStore) := do
  reject (isNil userId || isNil sessionId) .invalidInput
  let selected : SessionRow → Bool := fun row => row.id == sessionId && row.userId == userId
  return (decide ((store.sessions.filter selected).length = 1),
    store.updateSessions selected (SessionRow.revoke now .user))

def revokeCurrentSession (store : IdentityStore) (sessionId : Uuid) (now : Instant) :
    IdentityStore :=
  store.updateSessions (fun row => row.id == sessionId) (SessionRow.revoke now .logout)

def updatePasswordAndRevokeSessions (store : IdentityStore) (userId : Uuid) (passwordHash : String)
    (now : Instant) : Except IdentityRepositoryError IdentityStore := do
  reject (isNil userId || !bounded passwordHash 255) .invalidInput
  let users := updateWhere (fun row => row.id == userId) (fun row => { row with passwordHash })
    store.users
  return IdentityStore.updateSessions { store with users } (fun row => row.userId == userId &&
    row.revokedAt == none) (SessionRow.revoke now .passwordReset)

/-- The access token of a session still stands: user, membership, tenant and
    organization are active, and the session is open. -/
def sessionIsActive (store : IdentityStore) (sessionId userId organizationId tenantId : Uuid)
    (role : MembershipRole) (now : Instant) : Except IdentityRepositoryError Bool := do
  reject (isNil sessionId || isNil userId || isNil organizationId || isNil tenantId) .invalidInput
  return store.sessions.any fun session =>
    session.id == sessionId && session.userId == userId &&
    session.organizationId == organizationId && session.tenantId == tenantId &&
    session.revokedAt == none && decide (now < session.expiresAt) &&
    store.users.any (fun user => user.id == session.userId && user.status == .active) &&
    store.memberships.any (fun membership =>
      membership.key == (session.organizationId, session.userId) && membership.role == role &&
      membership.status == .active) &&
    store.tenants.any (fun tenant => tenant.id == session.tenantId &&
      tenant.organizationId == session.organizationId && tenant.status == .active) &&
    store.organizations.any fun organization =>
      organization.id == session.organizationId && organization.status == .active

def markEmailVerified (store : IdentityStore) (userId : Uuid) (now : Instant) : IdentityStore :=
  { store with
    users := updateWhere (fun row => row.id == userId) (fun row =>
      { row with emailVerifiedAt := row.emailVerifiedAt <|> some now, status := .active })
      store.users }

/-- Every call is one transaction. -/
inductive IdentityCall where
  | register (registration : RegistrationWrite) (ids : TrialIds) (clock now : Instant)
  | createInvitation (invitation : OrganizationInvitation) (tokenHash : Hash) (invitedBy : Uuid)
      (clock now : Instant)
  | acceptInvitation (userId : Uuid) (email : String) (tokenHash : Hash) (clock now : Instant)
  | registerInvited (registration : InvitedRegistrationWrite) (tokenHash : Hash)
      (clock now : Instant)
  | revokeInvitation (invitationId organizationId actorId : Uuid) (clock : Instant)
  | updateRole (organizationId actorId userId : Uuid) (role : MembershipRole) (now : Instant)
  | setActive (organizationId actorId userId : Uuid) (active : Bool) (now : Instant)
  | remove (organizationId actorId userId : Uuid) (now : Instant)
  | transfer (organizationId currentOwner newOwner : Uuid) (now : Instant)
  | createSession (session : SessionRecord) (token : RefreshTokenWrite)
      (deviceLabel : Option String) (clock now : Instant)
  | replaceSession (previousSessionId : Uuid) (session : SessionRecord) (token : RefreshTokenWrite)
      (deviceLabel : Option String) (clock now : Instant)
  | rotate (tokenHash : Hash) (replacement : RefreshTokenWrite) (now : Instant)
  | revokeSession (userId sessionId : Uuid) (now : Instant)
  | revokeCurrent (sessionId : Uuid) (now : Instant)
  | updatePassword (userId : Uuid) (passwordHash : String) (now : Instant)
  | markVerified (userId : Uuid) (now : Instant)

inductive IdentityAnswer where
  | done
  | invitation (accepted : Option OrganizationInvitation)
  | registered (account : Option (HumanUserRow × Membership))
  | changed (applied : Bool)
  | rotated (session : Option SessionRecord)
deriving DecidableEq, Repr

def transact (collate : Collation) (store : IdentityStore) :
    IdentityCall → Except IdentityRepositoryError (IdentityAnswer × IdentityStore)
  | .register registration ids clock now =>
      (registerUserAndWorkspace collate store registration ids clock now).map (.done, ·)
  | .createInvitation invitation tokenHash invitedBy clock now =>
      (createOrganizationInvitation collate store invitation tokenHash invitedBy clock now).map
        (.done, ·)
  | .acceptInvitation userId email tokenHash clock now =>
      (acceptOrganizationInvitation collate store userId email tokenHash clock now).map
        fun (accepted, after) => (.invitation accepted, after)
  | .registerInvited registration tokenHash clock now =>
      (registerFromOrganizationInvitation collate store registration tokenHash clock now).map
        fun (account, after) => (.registered account, after)
  | .revokeInvitation invitationId organizationId actorId clock =>
      (revokeOrganizationInvitation store invitationId organizationId actorId clock).map (.done, ·)
  | .updateRole organizationId actorId userId role now =>
      (updateMemberRoleAndRevokeSessions store organizationId actorId userId role now).map
        fun (applied, after) => (.changed applied, after)
  | .setActive organizationId actorId userId active now =>
      (setMemberActiveAndRevokeSessions store organizationId actorId userId active now).map
        fun (applied, after) => (.changed applied, after)
  | .remove organizationId actorId userId now =>
      (removeMemberAndRevokeSessions store organizationId actorId userId now).map
        fun (applied, after) => (.changed applied, after)
  | .transfer organizationId currentOwner newOwner now =>
      (transferOrganizationOwnership store organizationId currentOwner newOwner now).map
        fun (applied, after) => (.changed applied, after)
  | .createSession session token deviceLabel clock now =>
      (createSession store session token deviceLabel clock now).map (.done, ·)
  | .replaceSession previousSessionId session token deviceLabel clock now =>
      (replaceContextSession store previousSessionId session token deviceLabel clock now).map
        (.done, ·)
  | .rotate tokenHash replacement now =>
      (rotateRefreshToken store tokenHash replacement now).map
        fun (session, after) => (.rotated session, after)
  | .revokeSession userId sessionId now =>
      (revokeSession store userId sessionId now).map fun (applied, after) => (.changed applied, after)
  | .revokeCurrent sessionId now => .ok (.done, revokeCurrentSession store sessionId now)
  | .updatePassword userId passwordHash now =>
      (updatePasswordAndRevokeSessions store userId passwordHash now).map (.done, ·)
  | .markVerified userId now => .ok (.done, markEmailVerified store userId now)

/-- One transaction; what fails is rolled back. -/
def identityStep (collate : Collation) (store : IdentityStore) (call : IdentityCall) :
    IdentityStore :=
  commit store ((transact collate store call).map (·.2))

end CandyCloud.Identity
