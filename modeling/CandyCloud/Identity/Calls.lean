import CandyCloud.Identity.Sessions
import CandyCloud.Foundation.Machine

/-! # What a call of the identity repository changes

Every call is inverted once, into the tables it changes and what it had checked.
-/

namespace CandyCloud.Identity

open Foundation

def IdentityAnswer.silent : IdentityAnswer → Bool
  | .invitation none | .registered none | .changed false | .rotated none => true
  | .done | .invitation (some _) | .registered (some _) | .changed true | .rotated (some _) => false

def invitationRow (invitation : OrganizationInvitation) (role : InvitedRole) (tokenHash : Hash)
    (invitedBy : Uuid) : InvitationRow :=
  { id := invitation.id
    organizationId := invitation.organizationId
    email := invitation.email
    role
    tokenHash
    invitedBy
    expiresAt := invitation.expiresAt
    acceptedAt := none
    revokedAt := none }

def endedSessions (organizationId userId : Uuid) (now : Instant) (sessions : List SessionRow) :
    List SessionRow :=
  updateWhere (fun row => row.organizationId == organizationId && row.userId == userId &&
    row.revokedAt == none) (SessionRow.revoke now .admin) sessions

/-- What an acceptance had found: a pending, unexpired invitation, and no
    membership of the new member. -/
structure Acceptable (store : IdentityStore) (invitation : InvitationRow) (tokenHash : Hash)
    (userId : Uuid) (now : Instant) : Prop where
  member : invitation ∈ store.invitations
  presented : invitation.tokenHash = tokenHash
  pending : invitation.pending = true
  timely : now < invitation.expiresAt
  organization : store.hasOrganization invitation.organizationId = true
  fresh : ∀ old ∈ store.memberships, old.key ≠ (invitation.organizationId, userId)

def InvitationRow.joined (invitation : InvitationRow) (userId : Uuid) (clock : Instant) :
    MembershipRow :=
  ⟨invitation.organizationId, userId, invitation.role.membership, .active, clock⟩

def acceptedInvitations (invitation : InvitationRow) (now : Instant)
    (invitations : List InvitationRow) : List InvitationRow :=
  updateWhere (fun row => row.id == invitation.id) (fun row => { row with acceptedAt := some now })
    invitations

structure Exchangeable (store : IdentityStore) (token : RefreshTokenRow) (session : SessionRow)
    (membership : MembershipRow) (tokenHash : Hash) (replacement : RefreshTokenWrite)
    (now : Instant) : Prop where
  presented : store.presented tokenHash = some (token, session, membership)
  valid : invalidToken token session now = false
  fresh : ∀ old ∈ store.refreshTokens, old.conflict (replacement.row session.id) = false

def RefreshTokenWrite.within (replacement : RefreshTokenWrite) (session : SessionRow) :
    RefreshTokenRow :=
  RefreshTokenWrite.row { replacement with expiresAt := min replacement.expiresAt session.expiresAt }
    session.id

/-- The used token names its successor, which comes last. -/
def exchangedTokens (token : RefreshTokenRow) (session : SessionRow)
    (replacement : RefreshTokenWrite) (now : Instant) (tokens : List RefreshTokenRow) :
    List RefreshTokenRow :=
  updateWhere (fun row => row.id == token.id && row.usedAt == none)
    (fun row => { row with usedAt := some now, replacedById := some replacement.id })
    (tokens ++ [replacement.within session])

/-- What opening a session had checked. -/
structure Openable (store : IdentityStore) (session : SessionRecord) (token : RefreshTokenWrite) :
    Prop where
  fresh : ∀ old ∈ store.sessions, old.id ≠ session.id
  freshToken : ∀ old ∈ store.refreshTokens, old.conflict (token.row session.id) = false
  within : token.expiresAt ≤ session.expiresAt

def transferredMemberships (organizationId currentOwner newOwner : Uuid)
    (memberships : List MembershipRow) : List MembershipRow :=
  updateWhere (fun row => row.key == (organizationId, newOwner))
    (fun row => { row with role := .organizationOwner })
    (updateWhere (fun row => row.key == (organizationId, currentOwner) &&
      row.role == .organizationOwner) (fun row => { row with role := .tenantAdmin }) memberships)

inductive IdentityChange (collate : Collation) (store : IdentityStore) :
    IdentityCall → IdentityAnswer → IdentityStore → Prop where
  | quiet {call : IdentityCall} {answer : IdentityAnswer} (silent : answer.silent = true) :
      IdentityChange collate store call answer store
  | registered {registration : RegistrationWrite} {ids : TrialIds} {clock now : Instant}
      {users : List HumanUserRow} {tenants : List TenantRow} {nodePools : List NodePoolRow}
      {subscriptions : List SubscriptionRow} {entitlements : List EntitlementRow}
      (fresh : ∀ old ∈ store.organizations, old.id ≠ registration.organizationId)
      (unique : ∀ old ∈ store.memberships, (registration.owner clock).conflict old = false) :
      IdentityChange collate store (.register registration ids clock now) .done
        { store with
          users
          tenants
          nodePools
          subscriptions
          entitlements
          organizations := store.organizations ++ [registration.organization]
          memberships := store.memberships ++ [registration.owner clock] }
  | invited {invitation : OrganizationInvitation} {tokenHash : Hash} {invitedBy : Uuid}
      {clock now : Instant} {role : InvitedRole} {audits : List IdentityAuditRow}
      (assignable : invitation.role.invited = some role)
      (fresh : ∀ old ∈ store.invitations, old.id ≠ invitation.id ∧ old.tokenHash ≠ tokenHash) :
      IdentityChange collate store (.createInvitation invitation tokenHash invitedBy clock now) .done
        { store with
          invitations := (store.revokeInvitations (InvitationRow.openFor collate
            invitation.organizationId invitation.email) clock).invitations ++
              [invitationRow invitation role tokenHash invitedBy]
          audits }
  | accepted {userId : Uuid} {email : String} {tokenHash : Hash} {clock now : Instant}
      {invitation : InvitationRow} {audits : List IdentityAuditRow}
      (acceptable : Acceptable store invitation tokenHash userId now) :
      IdentityChange collate store (.acceptInvitation userId email tokenHash clock now)
        (.invitation (some invitation.record))
        { store with
          memberships := store.memberships ++ [invitation.joined userId clock]
          invitations := acceptedInvitations invitation now store.invitations
          audits }
  | registeredInvited {registration : InvitedRegistrationWrite} {tokenHash : Hash}
      {clock now : Instant} {invitation : InvitationRow} {user : HumanUserRow}
      {membership : Membership} {users : List HumanUserRow} {audits : List IdentityAuditRow}
      (acceptable : Acceptable store invitation tokenHash registration.userId now)
      (named : membership.organizationId = invitation.organizationId ∧
        membership.role = invitation.role.membership) :
      IdentityChange collate store (.registerInvited registration tokenHash clock now)
        (.registered (some (user, membership)))
        { store with
          users
          memberships := store.memberships ++ [invitation.joined registration.userId clock]
          invitations := acceptedInvitations invitation now store.invitations
          audits }
  | uninvited {invitationId organizationId actorId : Uuid} {clock : Instant}
      {audits : List IdentityAuditRow} :
      IdentityChange collate store (.revokeInvitation invitationId organizationId actorId clock) .done
        { store with
          invitations := (store.revokeInvitations (fun row => row.id == invitationId &&
            row.organizationId == organizationId && row.pending) clock).invitations
          audits }
  | roleChanged {organizationId actorId userId : Uuid} {role : MembershipRole} {now : Instant}
      {audits : List IdentityAuditRow} (assignable : role.reserved = false) :
      IdentityChange collate store (.updateRole organizationId actorId userId role now)
        (.changed true)
        { store with
          memberships := updateWhere (MembershipRow.changeable organizationId userId)
            (fun row => { row with role }) store.memberships
          sessions := endedSessions organizationId userId now store.sessions
          audits }
  | statusChanged {organizationId actorId userId : Uuid} {active : Bool} {now : Instant}
      {audits : List IdentityAuditRow} :
      IdentityChange collate store (.setActive organizationId actorId userId active now)
        (.changed true)
        { store with
          memberships := updateWhere (MembershipRow.changeable organizationId userId)
            (fun row => { row with status := if active then .active else .suspended })
            store.memberships
          sessions := endedSessions organizationId userId now store.sessions
          audits }
  | removed {organizationId actorId userId : Uuid} {now : Instant} {audits : List IdentityAuditRow} :
      IdentityChange collate store (.remove organizationId actorId userId now) (.changed true)
        { store with
          memberships := store.memberships.filter fun row =>
            !row.changeable organizationId userId
          sessions := endedSessions organizationId userId now store.sessions
          audits }
  | transferred {organizationId currentOwner newOwner : Uuid} {now : Instant}
      {audits : List IdentityAuditRow} (other : currentOwner ≠ newOwner)
      (target : ∃ row ∈ store.memberships, row.key = (organizationId, newOwner) ∧
        row.status = .active)
      (owner : ∃ row ∈ store.memberships, row.key = (organizationId, currentOwner) ∧
        row.role = .organizationOwner) :
      IdentityChange collate store (.transfer organizationId currentOwner newOwner now)
        (.changed true)
        { store with
          memberships := transferredMemberships organizationId currentOwner newOwner
            store.memberships
          sessions := endedSessions organizationId newOwner now
            (endedSessions organizationId currentOwner now store.sessions)
          audits }
  | opened {session : SessionRecord} {token : RefreshTokenWrite} {deviceLabel : Option String}
      {clock now : Instant} (openable : Openable store session token) :
      IdentityChange collate store (.createSession session token deviceLabel clock now) .done
        { store with
          sessions := store.sessions ++ [session.row deviceLabel clock]
          refreshTokens := store.refreshTokens ++ [token.row session.id] }
  | replaced {previousSessionId : Uuid} {session : SessionRecord} {token : RefreshTokenWrite}
      {deviceLabel : Option String} {clock now : Instant} (openable : Openable store session token)
      (live : store.liveSession previousSessionId session.userId now = true) :
      IdentityChange collate store
        (.replaceSession previousSessionId session token deviceLabel clock now) .done
        { store with
          sessions := updateWhere (fun row => row.id == previousSessionId && row.revokedAt == none)
            (SessionRow.revoke now .user) (store.sessions ++ [session.row deviceLabel clock])
          refreshTokens := store.refreshTokens ++ [token.row session.id] }
  | exchanged {tokenHash : Hash} {replacement : RefreshTokenWrite} {now : Instant}
      {token : RefreshTokenRow} {session : SessionRow} {membership : MembershipRow}
      (exchangeable : Exchangeable store token session membership tokenHash replacement now) :
      IdentityChange collate store (.rotate tokenHash replacement now)
        (.rotated (some (session.record membership.role)))
        { store with
          refreshTokens := exchangedTokens token session replacement now store.refreshTokens
          sessions := updateWhere (fun row => row.id == session.id)
            (fun row => { row with lastSeenAt := now }) store.sessions }
  | reused {tokenHash : Hash} {replacement : RefreshTokenWrite} {now : Instant}
      {token : RefreshTokenRow} {session : SessionRow} {membership : MembershipRow}
      (presented : store.presented tokenHash = some (token, session, membership))
      (invalid : invalidToken token session now = true) :
      IdentityChange collate store (.rotate tokenHash replacement now) (.rotated none)
        (store.revokeFamily session.familyId now)
  | sessionRevoked {userId sessionId : Uuid} {now : Instant} {applied : Bool} :
      IdentityChange collate store (.revokeSession userId sessionId now) (.changed applied)
        (store.updateSessions (fun row => row.id == sessionId && row.userId == userId)
          (SessionRow.revoke now .user))
  | currentRevoked {sessionId : Uuid} {now : Instant} :
      IdentityChange collate store (.revokeCurrent sessionId now) .done
        (revokeCurrentSession store sessionId now)
  | passwordChanged {userId : Uuid} {passwordHash : String} {now : Instant}
      {users : List HumanUserRow} :
      IdentityChange collate store (.updatePassword userId passwordHash now) .done
        (IdentityStore.updateSessions { store with users }
          (fun row => row.userId == userId && row.revokedAt == none)
          (SessionRow.revoke now .passwordReset))
  | verified {userId : Uuid} {now : Instant} {users : List HumanUserRow} :
      IdentityChange collate store (.markVerified userId now) .done { store with users }

variable {collate : Collation} {store store' : IdentityStore}

theorem insertMembership_ok {row : MembershipRow}
    (done : store.insertMembership row = .ok store') :
    store.hasOrganization row.organizationId = true ∧
      (∀ old ∈ store.memberships, row.conflict old = false) ∧
      store' = { store with memberships := store.memberships ++ [row] } := by
  simp only [IdentityStore.insertMembership, unit_bind_ok, orElse_bind_ok, reject_ok, pure_ok,
    insertRow_some, Bool.or_eq_false_iff, Bool.not_eq_false'] at done
  obtain ⟨⟨organization, -⟩, memberships, ⟨unique, rfl⟩, rfl⟩ := done
  exact ⟨organization, unique, rfl⟩

theorem updateMemberships_ok {selected : MembershipRow → Bool}
    {set : MembershipRow → MembershipRow} (done : store.updateMemberships selected set = .ok store') :
    store' = { store with memberships := updateWhere selected set store.memberships } := by
  simp only [IdentityStore.updateMemberships, unit_bind_ok, pure_ok] at done
  exact done.2.symm

variable {invitation : InvitationRow} {userId organizationId actorId : Uuid} {clock now : Instant}
  {tokenHash : Hash} {applied : Bool} {session : SessionRecord} {token : RefreshTokenWrite}
  {deviceLabel : Option String}

theorem acceptInvitation_ok
    (done : store.acceptInvitation invitation userId clock now = .ok store') :
    ∃ audits, store.hasOrganization invitation.organizationId = true ∧
      (∀ old ∈ store.memberships, (invitation.joined userId clock).conflict old = false) ∧
      store' = { store with
        memberships := store.memberships ++ [invitation.joined userId clock]
        invitations := acceptedInvitations invitation now store.invitations
        audits } := by
  simp only [IdentityStore.acceptInvitation, bind_ok, pure_ok] at done
  obtain ⟨joined, inserted, rfl⟩ := done
  obtain ⟨organization, unique, rfl⟩ := insertMembership_ok inserted
  exact ⟨_, organization, unique, rfl⟩

theorem registerUserAndWorkspace_change {registration : RegistrationWrite} {ids : TrialIds}
    (done : registerUserAndWorkspace collate store registration ids clock now = .ok store') :
    IdentityChange collate store (.register registration ids clock now) .done store' := by
  simp only [registerUserAndWorkspace, provisionInitialSdwanTrial, bind_ok, orElse_ok, pure_ok,
    insertRow_some] at done
  obtain ⟨-, -, users, -, organizations, ⟨fresh, rfl⟩, tenants, -, owned, inserted, nodePools, -,
    subscriptions, -, entitlements, -, rfl⟩ := done
  obtain ⟨-, unique, rfl⟩ := insertMembership_ok inserted
  refine .registered ?_ unique
  intro old member same
  have apart := fresh old member
  simp [RegistrationWrite.organization, same] at apart

theorem createOrganizationInvitation_change {invitation : OrganizationInvitation} {invitedBy : Uuid}
    (done : createOrganizationInvitation collate store invitation tokenHash invitedBy clock now =
      .ok store') :
    IdentityChange collate store (.createInvitation invitation tokenHash invitedBy clock now) .done
      store' := by
  simp only [createOrganizationInvitation, bind_ok, orElse_ok, pure_ok, insertRow_some] at done
  obtain ⟨-, -, -, -, role, assignable, -, -, -, -, invitations, ⟨unique, rfl⟩, rfl⟩ := done
  refine .invited assignable ?_
  intro old member
  have apart := unique _ (mem_updateWhere.mpr ⟨old, member, rfl⟩)
  rw [InvitationRow.conflict, Bool.or_eq_false_iff, beq_eq_false_iff_ne,
    beq_eq_false_iff_ne] at apart
  split at apart
  · exact ⟨apart.1.symm, apart.2.symm⟩
  · exact ⟨apart.1.symm, apart.2.symm⟩

theorem acceptOrganizationInvitation_change {email : String}
    {accepted : Option OrganizationInvitation}
    (done : acceptOrganizationInvitation collate store userId email tokenHash clock now =
      .ok (accepted, store')) :
    IdentityChange collate store (.acceptInvitation userId email tokenHash clock now)
      (.invitation accepted) store' := by
  simp only [acceptOrganizationInvitation, unit_bind_ok] at done
  obtain ⟨-, -, later⟩ := done
  split at later
  · cases later
    exact .quiet rfl
  · rename_i invitation found
    simp only [bind_ok, pure_ok, Prod.mk.injEq] at later
    obtain ⟨-, -, -, -, after, joined, rfl, rfl⟩ := later
    obtain ⟨audits, organization, unique, rfl⟩ := acceptInvitation_ok joined
    have tested := List.find?_some found
    simp only [Bool.and_eq_true, beq_iff_eq, decide_eq_true_eq] at tested
    refine .accepted ⟨List.mem_of_find?_eq_some found, tested.1.1.1, tested.1.2, tested.2,
      organization, ?_⟩
    intro old member same
    have apart := unique old member
    rw [MembershipRow.conflict, Bool.or_eq_false_iff, beq_eq_false_iff_ne] at apart
    exact apart.1 same.symm

theorem invitationFor_some {organization : OrganizationRow} {tenant : TenantRow}
    (found : store.invitationFor tokenHash now = some (invitation, organization, tenant)) :
    invitation ∈ store.invitations ∧ invitation.tokenHash = tokenHash ∧
      invitation.pending = true ∧ now < invitation.expiresAt := by
  simp only [IdentityStore.invitationFor, Option.bind_eq_bind, Option.bind_eq_some_iff,
    Option.pure_def, Option.some.injEq, Prod.mk.injEq] at found
  obtain ⟨row, located, -, -, -, -, rfl, -⟩ := found
  have tested := List.find?_some located
  simp only [Bool.and_eq_true, beq_iff_eq, decide_eq_true_eq] at tested
  exact ⟨List.mem_of_find?_eq_some located, tested.1.1, tested.1.2, tested.2⟩

theorem registerFromOrganizationInvitation_change {registration : InvitedRegistrationWrite}
    {account : Option (HumanUserRow × Membership)}
    (done : registerFromOrganizationInvitation collate store registration tokenHash clock now =
      .ok (account, store')) :
    IdentityChange collate store (.registerInvited registration tokenHash clock now)
      (.registered account) store' := by
  simp only [registerFromOrganizationInvitation, unit_bind_ok] at done
  obtain ⟨-, later⟩ := done
  split at later
  · cases later
    exact .quiet rfl
  · rename_i invitation organization tenant found
    obtain ⟨member, presented, pending, timely⟩ := invitationFor_some found
    simp only [bind_ok, orElse_ok, pure_ok, Prod.mk.injEq] at later
    obtain ⟨-, -, users, -, after, joined, rfl, rfl⟩ := later
    obtain ⟨audits, known, unique, rfl⟩ := acceptInvitation_ok joined
    refine .registeredInvited ⟨member, presented, pending, timely, known, ?_⟩ ⟨rfl, rfl⟩
    intro old member same
    have apart := unique old member
    rw [MembershipRow.conflict, Bool.or_eq_false_iff, beq_eq_false_iff_ne] at apart
    exact apart.1 same.symm

theorem revokeOrganizationInvitation_change {invitationId : Uuid}
    (done : revokeOrganizationInvitation store invitationId organizationId actorId clock =
      .ok store') :
    IdentityChange collate store (.revokeInvitation invitationId organizationId actorId clock) .done
      store' := by
  simp only [revokeOrganizationInvitation, unit_bind_ok] at done
  obtain ⟨-, later⟩ := done
  split at later
  · cases later
    exact .uninvited
  · cases later
    exact .uninvited

theorem changeable_length (keys : (store.memberships.map (·.key)).Nodup)
    (organizationId userId : Uuid) :
    (store.memberships.filter (MembershipRow.changeable organizationId userId)).length ≤ 1 := by
  refine length_filter_key_le_one keys (organizationId, userId) ?_
  intro row _ chosen
  exact beq_iff_eq.mp (Bool.and_eq_true_iff.mp chosen).1

theorem changeable_none (keys : (store.memberships.map (·.key)).Nodup)
    (other : (store.memberships.filter (MembershipRow.changeable organizationId userId)).length ≠ 1)
    :
    ∀ row ∈ store.memberships, row.changeable organizationId userId = false := by
  have bound := changeable_length keys organizationId userId
  have empty := List.length_eq_zero_iff.mp (by omega : (store.memberships.filter
    (MembershipRow.changeable organizationId userId)).length = 0)
  intro row member
  exact Bool.not_eq_true _ ▸ List.filter_eq_nil_iff.mp empty row member

theorem changeMember_ok {statement : IdentityStore → Except IdentityRepositoryError IdentityStore}
    {action : String}
    (done : changeMember store statement organizationId actorId userId action now =
      .ok (applied, store')) :
    ∃ after, statement store = .ok after ∧
      ((applied = true ∧ store' = after.memberChanged organizationId actorId userId action now) ∨
        (applied = false ∧ store' = after ∧ (store.memberships.filter
          (MembershipRow.changeable organizationId userId)).length ≠ 1)) := by
  simp only [changeMember, bind_ok] at done
  obtain ⟨after, finished, later⟩ := done
  refine ⟨after, finished, ?_⟩
  split at later
  · cases later
    exact .inl ⟨rfl, rfl⟩
  · rename_i other
    cases later
    exact .inr ⟨rfl, rfl, other⟩

theorem updateMemberRoleAndRevokeSessions_change (keys : (store.memberships.map (·.key)).Nodup)
    {role : MembershipRole}
    (done : updateMemberRoleAndRevokeSessions store organizationId actorId userId role now =
      .ok (applied, store')) :
    IdentityChange collate store (.updateRole organizationId actorId userId role now)
      (.changed applied) store' := by
  simp only [updateMemberRoleAndRevokeSessions, unit_bind_ok, reject_ok, Bool.or_eq_false_iff]
    at done
  obtain ⟨checked, later⟩ := done
  obtain ⟨after, statement, ⟨rfl, rfl⟩ | ⟨rfl, rfl, other⟩⟩ := changeMember_ok later
  · rw [updateMemberships_ok statement]
    exact .roleChanged checked.2
  · rw [updateMemberships_ok statement, updateWhere_none (changeable_none keys other)]
    exact .quiet rfl

theorem setMemberActiveAndRevokeSessions_change (keys : (store.memberships.map (·.key)).Nodup)
    {active : Bool}
    (done : setMemberActiveAndRevokeSessions store organizationId actorId userId active now =
      .ok (applied, store')) :
    IdentityChange collate store (.setActive organizationId actorId userId active now)
      (.changed applied) store' := by
  simp only [setMemberActiveAndRevokeSessions, unit_bind_ok] at done
  obtain ⟨-, later⟩ := done
  obtain ⟨after, statement, ⟨rfl, rfl⟩ | ⟨rfl, rfl, other⟩⟩ := changeMember_ok later
  · rw [updateMemberships_ok statement]
    exact .statusChanged
  · rw [updateMemberships_ok statement, updateWhere_none (changeable_none keys other)]
    exact .quiet rfl

theorem removeMemberAndRevokeSessions_change (keys : (store.memberships.map (·.key)).Nodup)
    (done : removeMemberAndRevokeSessions store organizationId actorId userId now =
      .ok (applied, store')) :
    IdentityChange collate store (.remove organizationId actorId userId now)
      (.changed applied) store' := by
  simp only [removeMemberAndRevokeSessions, unit_bind_ok] at done
  obtain ⟨-, later⟩ := done
  obtain ⟨after, statement, ⟨rfl, rfl⟩ | ⟨rfl, rfl, other⟩⟩ := changeMember_ok later
  · cases statement
    exact .removed
  · cases statement
    have kept : store.memberships.filter (fun row => !row.changeable organizationId userId) =
        store.memberships := by
      rw [List.filter_eq_self]
      intro row member
      rw [changeable_none keys other row member]
      rfl
    simp only [IdentityStore.deleteMemberships, kept]
    exact .quiet rfl

theorem transferOrganizationOwnership_change {currentOwner newOwner : Uuid}
    (done : transferOrganizationOwnership store organizationId currentOwner newOwner now =
      .ok (applied, store')) :
    IdentityChange collate store (.transfer organizationId currentOwner newOwner now)
      (.changed applied) store' := by
  simp only [transferOrganizationOwnership, unit_bind_ok, reject_ok, Bool.or_eq_false_iff,
    beq_eq_false_iff_ne] at done
  obtain ⟨⟨-, different⟩, later⟩ := done
  split at later
  · cases later
    exact .quiet rfl
  · rename_i present
    simp only [Bool.not_eq_true', Bool.not_eq_false, List.any_eq_true, Bool.and_eq_true,
      beq_iff_eq] at present
    obtain ⟨demoted, demotes, later⟩ := bind_ok.mp later
    split at later
    · cases later
      exact .quiet rfl
    · rename_i one
      obtain ⟨promoted, promotes, returned⟩ := bind_ok.mp later
      cases returned
      rw [updateMemberships_ok demotes] at promotes
      rw [updateMemberships_ok promotes]
      refine .transferred different present ?_
      obtain ⟨row, member⟩ := List.length_pos_iff_exists_mem.mp
        (by omega : 0 < (store.memberships.filter fun row =>
          row.key == (organizationId, currentOwner) && row.role == .organizationOwner).length)
      obtain ⟨stored, chosen⟩ := List.mem_filter.mp member
      rw [Bool.and_eq_true, beq_iff_eq, beq_iff_eq] at chosen
      exact ⟨row, stored, chosen⟩

theorem conflict_comm (a b : RefreshTokenRow) : a.conflict b = b.conflict a := by
  rw [RefreshTokenRow.conflict, RefreshTokenRow.conflict, Bool.beq_comm (a := a.id),
    Bool.beq_comm (a := a.tokenHash)]

theorem insertSession_ok {row : SessionRow} (done : store.insertSession row = .ok store') :
    (∀ old ∈ store.sessions, old.id ≠ row.id) ∧
      store' = { store with sessions := store.sessions ++ [row] } := by
  simp only [IdentityStore.insertSession, unit_bind_ok, orElse_bind_ok, pure_ok,
    insertRow_some] at done
  obtain ⟨-, sessions, ⟨unique, rfl⟩, rfl⟩ := done
  refine ⟨?_, rfl⟩
  intro old member same
  have apart := unique old member
  rw [beq_eq_false_iff_ne] at apart
  exact apart same.symm

theorem insertRefreshToken_ok {row : RefreshTokenRow}
    (done : store.insertRefreshToken row = .ok store') :
    (∀ old ∈ store.refreshTokens, old.conflict row = false) ∧
      store' = { store with refreshTokens := store.refreshTokens ++ [row] } := by
  simp only [IdentityStore.insertRefreshToken, unit_bind_ok, orElse_bind_ok, pure_ok,
    insertRow_some] at done
  obtain ⟨-, tokens, ⟨unique, rfl⟩, rfl⟩ := done
  refine ⟨?_, rfl⟩
  intro old member
  rw [conflict_comm]
  exact unique old member

theorem openSession_ok (formed : session.malformed token deviceLabel now = false)
    (done : store.openSession session token deviceLabel clock = .ok store') :
    Openable store session token ∧ store' = { store with
      sessions := store.sessions ++ [session.row deviceLabel clock]
      refreshTokens := store.refreshTokens ++ [token.row session.id] } := by
  simp only [IdentityStore.openSession, bind_ok] at done
  obtain ⟨opened, inserted, later⟩ := done
  obtain ⟨fresh, rfl⟩ := insertSession_ok inserted
  obtain ⟨freshToken, rfl⟩ := insertRefreshToken_ok later
  simp only [SessionRecord.malformed, Bool.or_eq_false_iff, decide_eq_false_iff_not,
    Nat.not_lt] at formed
  exact ⟨⟨fresh, freshToken, formed.1.2⟩, rfl⟩

theorem createSession_change
    (done : createSession store session token deviceLabel clock now = .ok store') :
    IdentityChange collate store (.createSession session token deviceLabel clock now) .done
      store' := by
  simp only [createSession, unit_bind_ok, reject_ok] at done
  obtain ⟨openable, rfl⟩ := openSession_ok done.1 done.2
  exact .opened openable

theorem replaceContextSession_change {previousSessionId : Uuid}
    (done : replaceContextSession store previousSessionId session token deviceLabel clock now =
      .ok store') :
    IdentityChange collate store
      (.replaceSession previousSessionId session token deviceLabel clock now) .done store' := by
  simp only [replaceContextSession, bind_ok, reject_ok, pure_ok, Bool.or_eq_false_iff,
    Bool.not_eq_false'] at done
  obtain ⟨-, ⟨-, formed⟩, -, live, opened, inserted, rfl⟩ := done
  obtain ⟨openable, rfl⟩ := openSession_ok formed inserted
  exact .replaced openable live

theorem exchangeToken_ok {token : RefreshTokenRow} {session : SessionRow}
    {replacement : RefreshTokenWrite}
    (done : store.exchangeToken token session replacement now = .ok store') :
    (∀ old ∈ store.refreshTokens, old.conflict (replacement.row session.id) = false) ∧
      store' = { store with
        refreshTokens := exchangedTokens token session replacement now store.refreshTokens
        sessions := updateWhere (fun row => row.id == session.id)
          (fun row => { row with lastSeenAt := now }) store.sessions } := by
  simp only [IdentityStore.exchangeToken, bind_ok] at done
  obtain ⟨issued, inserted, later⟩ := done
  obtain ⟨fresh, rfl⟩ := insertRefreshToken_ok inserted
  simp only [pure_ok] at later
  obtain ⟨-, -, rfl⟩ := later
  exact ⟨fresh, rfl⟩

theorem rotateRefreshToken_change {tokenHash : Hash} {replacement : RefreshTokenWrite}
    {now : Instant} {rotated : Option SessionRecord}
    (done : rotateRefreshToken store tokenHash replacement now = .ok (rotated, store')) :
    IdentityChange collate store (.rotate tokenHash replacement now) (.rotated rotated) store' := by
  simp only [rotateRefreshToken, unit_bind_ok] at done
  obtain ⟨-, later⟩ := done
  split at later
  · cases later
    exact .quiet rfl
  · rename_i token session membership presented
    split at later
    · rename_i invalid
      cases later
      exact .reused presented invalid
    · rename_i valid
      simp only [bind_ok, pure_ok, Prod.mk.injEq] at later
      obtain ⟨after, exchanged, rfl, rfl⟩ := later
      obtain ⟨fresh, rfl⟩ := exchangeToken_ok exchanged
      exact .exchanged ⟨presented, Bool.not_eq_true _ ▸ valid, fresh⟩

theorem revokeSession_change {sessionId : Uuid}
    (done : revokeSession store userId sessionId now = .ok (applied, store')) :
    IdentityChange collate store (.revokeSession userId sessionId now) (.changed applied)
      store' := by
  simp only [revokeSession, unit_bind_ok, pure_ok, Prod.mk.injEq] at done
  obtain ⟨-, rfl, rfl⟩ := done
  exact .sessionRevoked

theorem updatePasswordAndRevokeSessions_change {passwordHash : String}
    (done : updatePasswordAndRevokeSessions store userId passwordHash now = .ok store') :
    IdentityChange collate store (.updatePassword userId passwordHash now) .done store' := by
  simp only [updatePasswordAndRevokeSessions, unit_bind_ok, pure_ok] at done
  obtain ⟨-, rfl⟩ := done
  exact .passwordChanged

theorem transact_change {call : IdentityCall} {answer : IdentityAnswer}
    (keys : (store.memberships.map (·.key)).Nodup)
    (done : transact collate store call = .ok (answer, store')) :
    IdentityChange collate store call answer store' := by
  cases call with
  | register registration ids clock now =>
      obtain ⟨after, finished, same⟩ := map_ok.mp done
      cases same
      exact registerUserAndWorkspace_change finished
  | createInvitation invitation tokenHash invitedBy clock now =>
      obtain ⟨after, finished, same⟩ := map_ok.mp done
      cases same
      exact createOrganizationInvitation_change finished
  | acceptInvitation userId email tokenHash clock now =>
      obtain ⟨⟨accepted, after⟩, finished, same⟩ := map_ok.mp done
      cases same
      exact acceptOrganizationInvitation_change finished
  | registerInvited registration tokenHash clock now =>
      obtain ⟨⟨account, after⟩, finished, same⟩ := map_ok.mp done
      cases same
      exact registerFromOrganizationInvitation_change finished
  | revokeInvitation invitationId organizationId actorId clock =>
      obtain ⟨after, finished, same⟩ := map_ok.mp done
      cases same
      exact revokeOrganizationInvitation_change finished
  | updateRole organizationId actorId userId role now =>
      obtain ⟨⟨applied, after⟩, finished, same⟩ := map_ok.mp done
      cases same
      exact updateMemberRoleAndRevokeSessions_change keys finished
  | setActive organizationId actorId userId active now =>
      obtain ⟨⟨applied, after⟩, finished, same⟩ := map_ok.mp done
      cases same
      exact setMemberActiveAndRevokeSessions_change keys finished
  | remove organizationId actorId userId now =>
      obtain ⟨⟨applied, after⟩, finished, same⟩ := map_ok.mp done
      cases same
      exact removeMemberAndRevokeSessions_change keys finished
  | transfer organizationId currentOwner newOwner now =>
      obtain ⟨⟨applied, after⟩, finished, same⟩ := map_ok.mp done
      cases same
      exact transferOrganizationOwnership_change finished
  | createSession session token deviceLabel clock now =>
      obtain ⟨after, finished, same⟩ := map_ok.mp done
      cases same
      exact createSession_change finished
  | replaceSession previousSessionId session token deviceLabel clock now =>
      obtain ⟨after, finished, same⟩ := map_ok.mp done
      cases same
      exact replaceContextSession_change finished
  | rotate tokenHash replacement now =>
      obtain ⟨⟨rotated, after⟩, finished, same⟩ := map_ok.mp done
      cases same
      exact rotateRefreshToken_change finished
  | revokeSession userId sessionId now =>
      obtain ⟨⟨applied, after⟩, finished, same⟩ := map_ok.mp done
      cases same
      exact revokeSession_change finished
  | revokeCurrent sessionId now =>
      cases done
      exact .currentRevoked
  | updatePassword userId passwordHash now =>
      obtain ⟨after, finished, same⟩ := map_ok.mp done
      cases same
      exact updatePasswordAndRevokeSessions_change finished
  | markVerified userId now =>
      cases done
      exact .verified

theorem identityStep_cases (collate : Collation) (store : IdentityStore) (call : IdentityCall) :
    identityStep collate store call = store ∨
      ∃ answer, transact collate store call = .ok (answer, identityStep collate store call) := by
  rw [identityStep]
  cases result : transact collate store call with
  | error error => exact .inl rfl
  | ok answered => exact .inr ⟨answered.1, rfl⟩

theorem identityStep_change (collate : Collation) (keys : (store.memberships.map (·.key)).Nodup)
    (call : IdentityCall) :
    ∃ answer, IdentityChange collate store call answer (identityStep collate store call) := by
  obtain same | ⟨answer, done⟩ := identityStep_cases collate store call
  · rw [same]
    exact ⟨.changed false, .quiet rfl⟩
  · exact ⟨answer, transact_change keys done⟩

end CandyCloud.Identity
