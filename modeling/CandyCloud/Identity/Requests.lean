import CandyCloud.Identity.Sessions
import CandyCloud.Foundation.Requests

/-! # Requests of the identity service, statement by statement

Signing in, refreshing, switching the context and resetting a password, with the
action tokens the last one needs. Statements outside a transaction commit by
themselves, the connection reads committed rows, and a foreign key shares the
lock of the row it names. A `FOR UPDATE` locks the rows its query selects and
none of a subquery.

Rate limits and the security log are left out, which no other statement reads;
so are locks on organizations and tenants, which nothing here takes exclusively.
What the service draws (identifiers, hashes, its clock) belongs to the call.
-/

namespace CandyCloud.Identity

open Foundation

structure Placement where
  membership : MembershipRow
  organization : OrganizationRow
  tenant : TenantRow

def Placement.record (placement : Placement) : Membership :=
  { organizationId := placement.membership.organizationId
    organizationName := placement.organization.name
    tenantId := placement.tenant.id
    tenantName := placement.tenant.name
    role := placement.membership.role }

/-- `ORDER BY membership.created_at, tenant.created_at LIMIT 1`. -/
def Placement.first (best : Option Placement) (placement : Placement) : Option Placement :=
  match best with
  | none => some placement
  | some old =>
      if placement.membership.createdAt < old.membership.createdAt ∨
          (placement.membership.createdAt = old.membership.createdAt ∧
            placement.tenant.createdAt < old.tenant.createdAt) then some placement
      else some old

namespace IdentityStore

variable (store : IdentityStore)

/-- Active memberships with their active organizations and tenants. -/
def placements (selected : MembershipRow → Bool) : List Placement :=
  (store.memberships.filter fun row => selected row && row.status == .active).flatMap
    fun membership =>
      (store.organizations.filter fun row =>
        row.id == membership.organizationId && row.status == .active).flatMap fun organization =>
          (store.tenants.filter fun row =>
            row.organizationId == membership.organizationId && row.status == .active).map
              fun tenant => ⟨membership, organization, tenant⟩

def primaryMembership (userId : Uuid) : Option Membership :=
  ((store.placements (·.userId == userId)).foldl Placement.first none).map Placement.record

def membershipInOrganization (userId organizationId : Uuid) : Option Membership :=
  ((store.placements (·.key == (organizationId, userId))).foldl Placement.first none).map
    Placement.record

end IdentityStore

inductive ApiError where
  | unauthenticated
  | invalidCredentials
  | invalidToken
  | forbidden
  | unavailable
  | repository (error : IdentityRepositoryError)
deriving DecidableEq, Repr

structure ActionTokenWrite where
  id : Uuid
  userId : Uuid
  purpose : ActionTokenPurpose
  tokenHash : Hash
  expiresAt : Instant
deriving DecidableEq, Repr

/-- What issuing a session draws. -/
structure SessionDraw where
  id : Uuid
  familyId : Uuid
  tokenId : Uuid
  tokenHash : Hash
  expiresAt : Instant
  clock : Instant
  now : Instant
deriving DecidableEq, Repr

structure LoginRequest where
  email : String
  password : String
  deviceLabel : Option String
  draw : SessionDraw
deriving DecidableEq, Repr

/-- The claims of an access token and the organization asked for. -/
structure SwitchContextRequest where
  sessionId : Uuid
  userId : Uuid
  organizationId : Uuid
  tenantId : Uuid
  role : MembershipRole
  target : Uuid
  checkedAt : Instant
  draw : SessionDraw
deriving DecidableEq, Repr

structure RefreshRequest where
  tokenHash : Hash
  replacement : RefreshTokenWrite
  now : Instant
deriving DecidableEq, Repr

/-- What follows the consumption of an action token. -/
inductive AfterToken where
  | answer
  | resetPassword (passwordHash : String) (now : Instant)
deriving DecidableEq, Repr

/-- The requests whose transactions interleave. -/
inductive RequestCall where
  | createActionToken (write : ActionTokenWrite) (clock now : Instant)
  | consumeActionToken (purpose : ActionTokenPurpose) (tokenHash : Hash) (now : Instant)
  | resetPassword (tokenHash : Hash) (passwordHash : String) (consumedAt now : Instant)
  | login (request : LoginRequest)
  | switchContext (request : SwitchContextRequest)
  | refresh (request : RefreshRequest)

/-- What a request answers. -/
inductive RequestAnswer where
  | tokenCreated
  | consumed (userId : Option Uuid)
  | passwordUpdated
  | issued (session : SessionRecord)
  | refreshed (session : SessionRecord)
  | failed (error : ApiError)
deriving DecidableEq, Repr

inductive ActionStage where
  /-- The two statements of a creation; the second remembers which tokens the
      first one had seen. -/
  | invalidate (write : ActionTokenWrite) (clock : Instant)
  | insert (write : ActionTokenWrite) (known : List Uuid)
  | select (purpose : ActionTokenPurpose) (tokenHash : Hash) (now : Instant) (after : AfterToken)
  | mark (purpose : ActionTokenPurpose) (tokenHash : Hash) (now : Instant) (userId : Uuid)
      (after : AfterToken)
  | commit (purpose : ActionTokenPurpose) (tokenHash : Hash) (now : Instant)
      (consumed : Option Uuid) (after : AfterToken)
deriving DecidableEq, Repr

/-- A session about to be created; `checked` is how many resets of its user the
    check of the request had seen. -/
structure Issue where
  session : SessionRecord
  token : RefreshTokenWrite
  deviceLabel : Option String
  clock : Instant
  now : Instant
  previous : Option Uuid
  checked : Nat
deriving DecidableEq, Repr

inductive SessionStage where
  | findUser (request : LoginRequest)
  | primaryMembership (request : LoginRequest) (user : HumanUserRow) (checked : Nat)
  | sessionActive (request : SwitchContextRequest)
  | userOfSession (request : SwitchContextRequest)
  | membershipIn (request : SwitchContextRequest) (user : HumanUserRow)
  | previousLive (issue : Issue) (previous : Uuid)
  | insertSession (issue : Issue)
  | insertToken (issue : Issue)
  | revokePrevious (issue : Issue) (previous : Uuid)
  | commitIssue (issue : Issue)
  | selectToken (request : RefreshRequest)
  | insertReplacement (request : RefreshRequest) (token : RefreshTokenRow) (session : SessionRow)
      (role : MembershipRole)
  | useToken (request : RefreshRequest) (token : RefreshTokenRow) (session : SessionRow)
      (role : MembershipRole)
  | touchSession (request : RefreshRequest) (session : SessionRow) (role : MembershipRole)
  | commitRefresh (session : SessionRecord)
  | revokeFamily (request : RefreshRequest) (familyId : Uuid)
  | commitReuse
  | userOfRotated (session : SessionRecord)
  | membershipOfRotated (session : SessionRecord)
  | updatePassword (userId : Uuid) (passwordHash : String) (now : Instant)
  | sweepSessions (userId : Uuid) (now : Instant)
  | commitReset (userId : Uuid)
deriving DecidableEq, Repr

inductive RequestStage where
  | action (stage : ActionStage)
  | session (stage : SessionStage)
  | answering (answer : RequestAnswer)
deriving DecidableEq, Repr

/-- The rows that a transaction locks. -/
inductive RowName where
  | user (id : Uuid)
  | session (id : Uuid)
  | membership (key : Uuid × Uuid)
  | refreshToken (id : Uuid)
  | actionToken (id : Uuid)
deriving DecidableEq, Repr

def shared (row : RowName) : RowLock RowName := ⟨row, .shared⟩

def exclusive (row : RowName) : RowLock RowName := ⟨row, .exclusive⟩

/-- What a statement writes: the rows an update selects are those it found. -/
inductive RequestWrite where
  | consumeTokens (ids : List Uuid) (now : Instant)
  | insertActionToken (row : ActionTokenRow)
  | insertSession (row : SessionRow) (checked : Nat)
  | insertRefreshToken (row : RefreshTokenRow)
  | revokeSessions (ids : List Uuid) (now : Instant) (reason : RevokeReason)
  | useToken (id replacementId : Uuid) (now : Instant)
  | touchSession (id : Uuid) (now : Instant)
  | setPassword (userId : Uuid) (passwordHash : String)
  | reset (userId : Uuid)
deriving DecidableEq, Repr

/-- The tables, with what the resets leave no row about: the users whose sessions
    were swept, once a reset, and how many of them the check behind a session
    had seen. No statement reads either. -/
structure RequestStore where
  identity : IdentityStore
  resets : List Uuid
  checks : List (Uuid × Nat)
deriving DecidableEq, Repr

def RequestStore.resetsOf (store : RequestStore) (userId : Uuid) : Nat := store.resets.count userId

def applyWrite (store : RequestStore) : RequestWrite → RequestStore
  | .consumeTokens ids now =>
      { store with
        identity.actionTokens := updateWhere (fun row => ids.contains row.id)
          (fun row => { row with consumedAt := some now }) store.identity.actionTokens }
  | .insertActionToken row =>
      { store with identity.actionTokens := store.identity.actionTokens ++ [row] }
  | .insertSession row checked =>
      { store with
        identity.sessions := store.identity.sessions ++ [row]
        checks := store.checks ++ [(row.id, checked)] }
  | .insertRefreshToken row =>
      { store with identity.refreshTokens := store.identity.refreshTokens ++ [row] }
  | .revokeSessions ids now reason =>
      { store with
        identity.sessions := updateWhere (fun row => ids.contains row.id)
          (SessionRow.revoke now reason) store.identity.sessions }
  | .useToken id replacementId now =>
      { store with
        identity.refreshTokens := updateWhere (fun row => row.id == id)
          (fun row => { row with usedAt := some now, replacedById := some replacementId })
          store.identity.refreshTokens }
  | .touchSession id now =>
      { store with
        identity.sessions := updateWhere (fun row => row.id == id)
          (fun row => { row with lastSeenAt := now }) store.identity.sessions }
  | .setPassword userId passwordHash =>
      { store with
        identity.users := updateWhere (fun row => row.id == userId)
          (fun row => { row with passwordHash }) store.identity.users }
  | .reset userId => { store with resets := store.resets ++ [userId] }

abbrev IdentityStatement :=
  RequestStatement RowName RequestStage RequestWrite RequestAnswer

def failed (error : ApiError) : Progress RequestStage RequestWrite RequestAnswer :=
  .answer (.failed error)

def ActionTokenWrite.row (write : ActionTokenWrite) : ActionTokenRow :=
  { id := write.id
    userId := write.userId
    purpose := write.purpose
    tokenHash := write.tokenHash
    expiresAt := write.expiresAt
    consumedAt := none }

def ActionTokenRow.issuedTo (userId : Uuid) (purpose : ActionTokenPurpose) (row : ActionTokenRow) :
    Bool :=
  row.userId == userId && row.purpose == purpose

def AfterToken.stage (consumed : Option Uuid) : AfterToken → RequestStage
  | .answer => .answering (.consumed consumed)
  | .resetPassword passwordHash now =>
      match consumed with
      | none => .answering (.failed .invalidToken)
      | some userId => .session (.updatePassword userId passwordHash now)

variable (collate : Collation) (verify : String → String → Bool)

/-- `create_action_token` and `consume_action_token`. -/
def actionStatement (store : IdentityStore) : ActionStage → IdentityStatement
  | .invalidate write clock =>
      let own := store.actionTokens.filter (ActionTokenRow.issuedTo write.userId write.purpose)
      let ids := (own.filter (·.consumedAt == none)).map (·.id)
      { locks := ids.map fun id => exclusive (.actionToken id)
        progress := .commit (.action (.insert write (own.map (·.id))))
          [.consumeTokens ids clock] }
  | .insert write _ =>
      { locks := [shared (.user write.userId), exclusive (.actionToken write.id)]
        progress :=
          if !store.hasUser write.userId || store.actionTokens.any write.row.conflict then
            failed (.repository .database)
          else .commit (.answering .tokenCreated) [.insertActionToken write.row] }
  | .select purpose tokenHash now after =>
      match store.actionTokens.find? fun row => row.purpose == purpose &&
          row.tokenHash == tokenHash && row.consumedAt == none && decide (now < row.expiresAt) with
      | none => ⟨[], .next (.action (.commit purpose tokenHash now none after)) []⟩
      | some row =>
          { locks := [exclusive (.actionToken row.id)]
            progress := .next (.action (.mark purpose tokenHash now row.userId after)) [] }
  | .mark purpose tokenHash now userId after =>
      let ids := (store.actionTokens.filter fun row => row.purpose == purpose &&
        row.tokenHash == tokenHash && row.consumedAt == none).map (·.id)
      { locks := ids.map fun id => exclusive (.actionToken id)
        progress := .next (.action (.commit purpose tokenHash now (some userId) after))
          [.consumeTokens ids now] }
  | .commit _ _ _ consumed after => ⟨[], .commit (after.stage consumed) []⟩

def SessionDraw.session (draw : SessionDraw) (userId : Uuid) (membership : Membership) :
    SessionRecord :=
  { id := draw.id
    familyId := draw.familyId
    userId
    organizationId := membership.organizationId
    tenantId := membership.tenantId
    role := membership.role
    expiresAt := draw.expiresAt
    revokedAt := none }

/-- `issue_session` and `issue_replacement_session`. -/
def SessionDraw.issue (draw : SessionDraw) (userId : Uuid) (membership : Membership)
    (deviceLabel : Option String) (previous : Option Uuid) (checked : Nat) : Issue :=
  { session := draw.session userId membership
    token := ⟨draw.tokenId, draw.tokenHash, draw.expiresAt⟩
    deviceLabel
    clock := draw.clock
    now := draw.now
    previous
    checked }

/-- The argument checks of the two ways to create a session. -/
def Issue.malformed (issue : Issue) : Bool :=
  issue.previous.any isNil || issue.session.malformed issue.token issue.deviceLabel issue.now

def IdentityStore.userOfSession (store : IdentityStore) (sessionId : Uuid) :
    Option HumanUserRow := do
  let session ← store.sessions.find? (·.id == sessionId)
  store.users.find? (·.id == session.userId)

def IdentityStore.unrevoked (store : IdentityStore) (selected : SessionRow → Bool) : List Uuid :=
  (store.sessions.filter fun row => selected row && row.revokedAt == none).map (·.id)

/-- `login`, `switch_context`, `refresh` and the second part of `reset_password`. -/
def sessionStatement (store : RequestStore) : SessionStage → IdentityStatement
  | .findUser request =>
      { locks := []
        progress :=
          match validateEmail request.email with
          | .error error => failed (.repository error)
          | .ok _ =>
              match store.identity.users.find? fun row =>
                  collate row.email == collate request.email with
              | none => failed .invalidCredentials
              | some user =>
                  if !verify user.passwordHash request.password || user.emailVerifiedAt.isNone ||
                      user.status != .active then failed .invalidCredentials
                  else .commit (.session (.primaryMembership request user
                    (store.resetsOf user.id))) [] }
  | .primaryMembership request user checked =>
      { locks := []
        progress :=
          if isNil user.id then failed (.repository .invalidInput)
          else
            match store.identity.primaryMembership user.id with
            | none => failed .unavailable
            | some membership =>
                let issue := request.draw.issue user.id membership request.deviceLabel none checked
                if issue.malformed then failed (.repository .invalidInput)
                else .commit (.session (.insertSession issue)) [] }
  | .sessionActive request =>
      { locks := []
        progress :=
          match sessionIsActive store.identity request.sessionId request.userId
              request.organizationId request.tenantId request.role request.checkedAt with
          | .error error => failed (.repository error)
          | .ok active =>
              if active then .commit (.session (.userOfSession request)) []
              else failed .unauthenticated }
  | .userOfSession request =>
      { locks := []
        progress :=
          match store.identity.userOfSession request.sessionId with
          | none => failed .unauthenticated
          | some user => .commit (.session (.membershipIn request user)) [] }
  | .membershipIn request user =>
      { locks := []
        progress :=
          if isNil request.userId || isNil request.target then failed (.repository .invalidInput)
          else
            match store.identity.membershipInOrganization request.userId request.target with
            | none => failed .forbidden
            | some membership =>
                let issue := request.draw.issue user.id membership (some "context switch")
                  (some request.sessionId) 0
                if issue.malformed then failed (.repository .invalidInput)
                else .commit (.session (.previousLive issue request.sessionId)) [] }
  | .previousLive issue previous =>
      { locks := []
        progress :=
          if store.identity.liveSession previous issue.session.userId issue.now then
            .next (.session (.insertSession
              { issue with checked := store.resetsOf issue.session.userId })) []
          else failed (.repository .conflict) }
  | .insertSession issue =>
      { locks := [shared (.user issue.session.userId), exclusive (.session issue.session.id)]
        progress :=
          match store.identity.insertSession (issue.session.row issue.deviceLabel issue.clock) with
          | .error error => failed (.repository error)
          | .ok _ => .next (.session (.insertToken issue))
              [.insertSession (issue.session.row issue.deviceLabel issue.clock) issue.checked] }
  | .insertToken issue =>
      { locks := [shared (.session issue.session.id), exclusive (.refreshToken issue.token.id)]
        progress :=
          match store.identity.insertRefreshToken (issue.token.row issue.session.id) with
          | .error error => failed (.repository error)
          | .ok _ => .next (.session (match issue.previous with
              | none => .commitIssue issue
              | some previous => .revokePrevious issue previous))
              [.insertRefreshToken (issue.token.row issue.session.id)] }
  | .revokePrevious issue previous =>
      let ids := store.identity.unrevoked (·.id == previous)
      { locks := ids.map fun id => exclusive (.session id)
        progress := .next (.session (.commitIssue issue)) [.revokeSessions ids issue.now .user] }
  | .commitIssue issue => ⟨[], .commit (.answering (.issued issue.session)) []⟩
  | .selectToken request =>
      match store.identity.presented request.tokenHash with
      | none => ⟨[], .commit (.answering (.failed .invalidCredentials)) []⟩
      | some (token, session, membership) =>
          { locks := [exclusive (.refreshToken token.id), exclusive (.session session.id),
              exclusive (.membership membership.key)]
            progress := .next (.session
              (if invalidToken token session request.now then
                .revokeFamily request session.familyId
              else .insertReplacement request token session membership.role)) [] }
  | .insertReplacement request token session role =>
      { locks := [shared (.session session.id), exclusive (.refreshToken request.replacement.id)]
        progress :=
          match store.identity.insertRefreshToken (RefreshTokenWrite.row { request.replacement with
              expiresAt := min request.replacement.expiresAt session.expiresAt } session.id) with
          | .error error => failed (.repository error)
          | .ok _ => .next (.session (.useToken request token session role))
              [.insertRefreshToken (RefreshTokenWrite.row { request.replacement with
                expiresAt := min request.replacement.expiresAt session.expiresAt } session.id)] }
  | .useToken request token session role =>
      { locks := [exclusive (.refreshToken token.id)]
        progress :=
          if (store.identity.refreshTokens.filter fun row =>
              row.id == token.id && row.usedAt == none).length = 1 then
            .next (.session (.touchSession request session role))
              [.useToken token.id request.replacement.id request.now]
          else failed (.repository .conflict) }
  | .touchSession request session role =>
      { locks := [exclusive (.session session.id)]
        progress := .next (.session (.commitRefresh (session.record role)))
          [.touchSession session.id request.now] }
  | .commitRefresh session => ⟨[], .commit (.session (.userOfRotated session)) []⟩
  | .revokeFamily request familyId =>
      let ids := store.identity.unrevoked (·.familyId == familyId)
      { locks := ids.map fun id => exclusive (.session id)
        progress := .next (.session .commitReuse) [.revokeSessions ids request.now .rotationReuse] }
  | .commitReuse => ⟨[], .commit (.answering (.failed .invalidCredentials)) []⟩
  | .userOfRotated session =>
      { locks := []
        progress :=
          match store.identity.userOfSession session.id with
          | none => failed .unauthenticated
          | some _ => .commit (.session (.membershipOfRotated session)) [] }
  | .membershipOfRotated session =>
      { locks := []
        progress :=
          match store.identity.membershipInOrganization session.userId session.organizationId with
          | none => failed .unavailable
          | some _ => .answer (.refreshed session) }
  | .updatePassword userId passwordHash now =>
      if isNil userId || !bounded passwordHash 255 then ⟨[], failed (.repository .invalidInput)⟩
      else
        { locks := [exclusive (.user userId)]
          progress := .next (.session (.sweepSessions userId now))
            [.setPassword userId passwordHash] }
  | .sweepSessions userId now =>
      let ids := store.identity.unrevoked (·.userId == userId)
      { locks := ids.map fun id => exclusive (.session id)
        progress := .next (.session (.commitReset userId))
          [.revokeSessions ids now .passwordReset] }
  | .commitReset userId => ⟨[], .commit (.answering .passwordUpdated) [.reset userId]⟩

def requestStatement (store : RequestStore) : RequestStage → IdentityStatement
  | .action stage => actionStatement store.identity stage
  | .session stage => sessionStatement collate verify store stage
  | .answering answer => ⟨[], .answer answer⟩

def requestOpening : RequestCall → Except RequestAnswer RequestStage
  | .createActionToken write clock now =>
      if isNil write.id || isNil write.userId || decide (write.expiresAt ≤ now) then
        .error (.failed (.repository .invalidInput))
      else .ok (.action (.invalidate write clock))
  | .consumeActionToken purpose tokenHash now => .ok (.action (.select purpose tokenHash now .answer))
  | .resetPassword tokenHash passwordHash consumedAt now =>
      .ok (.action (.select .resetPassword tokenHash consumedAt (.resetPassword passwordHash now)))
  | .login request => .ok (.session (.findUser request))
  | .switchContext request => .ok (.session (.sessionActive request))
  | .refresh request =>
      if isNil request.replacement.id || decide (request.replacement.expiresAt ≤ request.now) then
        .error (.failed (.repository .invalidInput))
      else .ok (.session (.selectToken request))

/-- The requests of the service; `verify` checks a password against its hash. -/
def identityRequests : Requests RequestStore RowName RequestStage RequestWrite RequestAnswer
    RequestCall where
  opening := requestOpening
  statement := requestStatement collate verify
  apply := applyWrite

abbrev RequestState := Concurrent RequestStore RowName RequestStage RequestWrite RequestAnswer

end CandyCloud.Identity
