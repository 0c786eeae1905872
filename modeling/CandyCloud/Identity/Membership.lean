import CandyCloud.Identity.Organizations

/-! # Membership over whole runs

Who becomes an owner, what an acceptance needs and leaves behind, and which
sessions a change to a member ends.
-/

namespace CandyCloud.Identity

open Foundation

variable {collate : Collation} {start store store' : IdentityStore} {call : IdentityCall}
  {answer : IdentityAnswer}

abbrev identityRun (collate : Collation) (start : IdentityStore) (calls : List IdentityCall) :
    IdentityStore :=
  run (identityStep collate) start calls

def Owns (store : IdentityStore) (organizationId userId : Uuid) : Prop :=
  ∃ row ∈ store.memberships, row.key = (organizationId, userId) ∧ row.role = .organizationOwner

instance (store : IdentityStore) (organizationId userId : Uuid) :
    Decidable (Owns store organizationId userId) :=
  inferInstanceAs (Decidable (∃ row ∈ store.memberships,
    row.key = (organizationId, userId) ∧ row.role = .organizationOwner))

/-- What makes a user the owner of an organization. -/
def Grants (store : IdentityStore) (call : IdentityCall) (organizationId userId : Uuid) : Prop :=
  (∃ registration ids clock now, call = .register registration ids clock now ∧
    registration.organizationId = organizationId ∧ registration.userId = userId ∧
    store.hasOrganization organizationId = false) ∨
  ∃ currentOwner now, call = .transfer organizationId currentOwner userId now ∧
    Owns store organizationId currentOwner

variable {memberships : List MembershipRow} {row : MembershipRow} {invitation : InvitationRow}
  {userId organizationId : Uuid} {now : Instant} {sessions : List SessionRow}

theorem owns_update {selected : MembershipRow → Bool} {set : MembershipRow → MembershipRow}
    (after : ∀ row, selected row = true → (set row).role ≠ .organizationOwner)
    (member : row ∈ updateWhere selected set memberships) (role : row.role = .organizationOwner) :
    row ∈ memberships := by
  obtain ⟨old, present, rfl⟩ := mem_updateWhere.mp member
  split at role
  · rename_i chosen
    exact absurd role (after old chosen)
  · rename_i kept
    rw [if_neg kept]
    exact present

theorem joined_role (invitation : InvitationRow) (userId : Uuid) (clock : Instant) :
    (invitation.joined userId clock).role ≠ .organizationOwner := by
  cases role : invitation.role <;> simp [InvitationRow.joined, role, InvitedRole.membership]

theorem owns_joined {clock : Instant}
    (member : row ∈ memberships ++ [invitation.joined userId clock])
    (role : row.role = .organizationOwner) : row ∈ memberships := by
  rcases mem_concat.mp member with old | new
  · exact old
  · rw [new] at role
    exact absurd role (joined_role invitation userId clock)

theorem IdentityChange.grants (change : IdentityChange collate store call answer store')
    (before : ¬ Owns store organizationId userId) (owns : Owns store' organizationId userId)
    : Grants store call organizationId userId := by
  obtain ⟨row, member, key, role⟩ := owns
  have absent : row ∉ store.memberships := fun old => before ⟨row, old, key, role⟩
  cases change with
  | registered fresh unique =>
      rcases mem_concat.mp member with old | new
      · exact absurd old absent
      · rw [new] at key
        obtain ⟨home, user⟩ := Prod.mk.inj key
        refine .inl ⟨_, _, _, _, rfl, home, user, ?_⟩
        rw [IdentityStore.hasOrganization, List.any_eq_false]
        intro old present same
        exact fresh old present ((beq_iff_eq.mp same).trans home.symm)
  | accepted acceptable => exact absurd (owns_joined member role) absent
  | registeredInvited acceptable named => exact absurd (owns_joined member role) absent
  | @roleChanged _ _ _ given _ _ assignable =>
      refine absurd (owns_update ?_ member role) absent
      intro old _ owner
      have reserved : given = .organizationOwner := owner
      rw [reserved] at assignable
      cases assignable
  | statusChanged =>
      refine absurd (owns_update ?_ member role) absent
      exact fun _ => changeable_other
  | removed => exact absurd (List.mem_of_mem_filter member) absent
  | @transferred organization currentOwner newOwner now audits other target owner =>
      obtain ⟨old, demoted, same⟩ := mem_updateWhere.mp member
      split at same
      · rename_i promoted
        have named : row.key = (organization, newOwner) := by
          rw [← same]
          exact beq_iff_eq.mp promoted
        obtain ⟨rfl, rfl⟩ := Prod.mk.inj (named.symm.trans key)
        exact .inr ⟨currentOwner, now, rfl, owner⟩
      · rw [same] at demoted
        refine absurd (owns_update ?_ demoted role) absent
        intro _ _ contrary
        cases contrary
  | quiet | invited | uninvited | opened | replaced | exchanged | reused | sessionRevoked
  | currentRevoked | passwordChanged | verified => exact absurd member absent

structure Acceptance where
  invitation : InvitationRow
  userId : Uuid
  now : Instant
deriving DecidableEq, Repr

def IdentityStore.invitationOf (store : IdentityStore) (tokenHash : Hash) : Option InvitationRow :=
  store.invitations.find? (·.tokenHash == tokenHash)

def acceptance (collate : Collation) (store : IdentityStore) (call : IdentityCall) :
    Option Acceptance :=
  match call, transact collate store call with
  | .acceptInvitation userId _ tokenHash _ now, .ok (.invitation (some _), _) =>
      (store.invitationOf tokenHash).map (⟨·, userId, now⟩)
  | .registerInvited registration tokenHash _ now, .ok (.registered (some _), _) =>
      (store.invitationOf tokenHash).map (⟨·, registration.userId, now⟩)
  | _, _ => none

/-- What an acceptance leaves behind. -/
structure Accepts (store : IdentityStore) (accepted : Acceptance) (store' : IdentityStore) :
    Prop where
  acceptable : Acceptable store accepted.invitation accepted.invitation.tokenHash accepted.userId
    accepted.now
  memberships : ∃ clock, store'.memberships =
    store.memberships ++ [accepted.invitation.joined accepted.userId clock]
  invitations : store'.invitations =
    acceptedInvitations accepted.invitation accepted.now store.invitations

theorem Organized.invitationOf (inv : Organized collate store) {tokenHash : Hash}
    (acceptable : Acceptable store invitation tokenHash userId now) :
    store.invitationOf tokenHash = some invitation := by
  refine find_of_key inv.offered.hashes acceptable.member ?_
  intro row
  rw [acceptable.presented]
  exact beq_iff_eq

theorem acceptance_accepts (inv : Organized collate store) {accepted : Acceptance}
    (presented : acceptance collate store call = some accepted) :
    Accepts store accepted (identityStep collate store call) := by
  unfold acceptance at presented
  split at presented
  · rename_i userId email tokenHash clock now record after done
    have stepped : identityStep collate store
        (.acceptInvitation userId email tokenHash clock now) = after := by
      rw [identityStep, done]
      rfl
    rw [stepped]
    cases transact_change inv.governed.keys done with
    | quiet silent => cases silent
    | @accepted _ _ _ _ _ invitation audits acceptable =>
        rw [inv.invitationOf acceptable] at presented
        cases presented
        exact ⟨acceptable.presented ▸ acceptable, ⟨clock, rfl⟩, rfl⟩
  · rename_i registration tokenHash clock now account after done
    have stepped : identityStep collate store
        (.registerInvited registration tokenHash clock now) = after := by
      rw [identityStep, done]
      rfl
    rw [stepped]
    cases transact_change inv.governed.keys done with
    | quiet silent => cases silent
    | @registeredInvited _ _ _ _ invitation _ _ _ _ acceptable named =>
        rw [inv.invitationOf acceptable] at presented
        cases presented
        exact ⟨acceptable.presented ▸ acceptable, ⟨clock, rfl⟩, rfl⟩
  · cases presented

theorem IdentityChange.closed (change : IdentityChange collate store call answer store')
    (inv : Organized collate store) {row : InvitationRow} (member : row ∈ store.invitations)
    (closed : row.pending = false) : row ∈ store'.invitations := by
  have kept : ∀ {selected : InvitationRow → Bool} {set : InvitationRow → InvitationRow},
      selected row = false → row ∈ updateWhere selected set store.invitations := by
    intro selected set unselected
    refine mem_updateWhere.mpr ⟨row, member, ?_⟩
    rw [unselected]
    rfl
  have other : ∀ {invitation : InvitationRow} {tokenHash : Hash} {userId : Uuid} {now : Instant},
      Acceptable store invitation tokenHash userId now →
      row ∈ acceptedInvitations invitation now store.invitations := by
    intro invitation tokenHash userId now acceptable
    refine kept ?_
    rw [beq_eq_false_iff_ne]
    intro same
    rw [eq_of_key inv.offered.ids member acceptable.member same, acceptable.pending] at closed
    cases closed
  cases change with
  | invited assignable fresh => exact List.mem_append_left _ (kept (not_openFor closed))
  | accepted acceptable => exact other acceptable
  | registeredInvited acceptable named => exact other acceptable
  | uninvited =>
      refine kept ?_
      rw [closed, Bool.and_false]
  | quiet | registered | roleChanged | statusChanged | removed | transferred | opened | replaced
  | exchanged | reused | sessionRevoked | currentRevoked | passwordChanged | verified =>
      exact member

theorem closed_run (inv : Organized collate store) {row : InvitationRow}
    (member : row ∈ store.invitations) (closed : row.pending = false) (calls : List IdentityCall) :
    row ∈ (identityRun collate store calls).invitations := by
  refine (run_invariant (P := fun after => Organized collate after ∧ row ∈ after.invitations)
    ?_ ⟨inv, member⟩ calls).2
  intro after call ⟨kept, present⟩
  obtain ⟨answer, change⟩ := identityStep_change collate kept.governed.keys call
  exact ⟨kept.step call, change.closed kept present closed⟩

def affected : IdentityCall → List (Uuid × Uuid)
  | .updateRole organizationId _ userId _ _ | .setActive organizationId _ userId _ _
  | .remove organizationId _ userId _ => [(organizationId, userId)]
  | .transfer organizationId currentOwner newOwner _ =>
      [(organizationId, currentOwner), (organizationId, newOwner)]
  | _ => []

theorem revoke_revoked {selected : SessionRow → Bool} {reason : RevokeReason}
    {session : SessionRow}
    (member : session ∈ updateWhere selected (SessionRow.revoke now reason) sessions)
    (named : session.revokedAt = none → selected session = true) : session.revokedAt ≠ none := by
  obtain ⟨old, present, rfl⟩ := mem_updateWhere.mp member
  split
  · simp [SessionRow.revoke]
  · rename_i kept
    rw [if_neg kept] at named
    exact fun revoked => kept (named revoked)

theorem endedSessions_ended {session : SessionRow}
    (member : session ∈ endedSessions organizationId userId now sessions)
    (own : (session.organizationId, session.userId) = (organizationId, userId)) :
    session.revokedAt ≠ none := by
  obtain ⟨home, user⟩ := Prod.mk.inj own
  exact revoke_revoked member fun revoked => by rw [home, user, revoked]; simp

theorem endedSessions_revoked {wanted : SessionRow → Prop}
    (ended : ∀ session ∈ sessions, wanted session → session.revokedAt ≠ none) :
    ∀ session ∈ endedSessions organizationId userId now sessions, wanted session →
      session.revokedAt ≠ none := by
  intro session member want
  obtain ⟨old, present, rfl⟩ := mem_updateWhere.mp member
  split
  · simp [SessionRow.revoke]
  · rename_i untouched
    rw [if_neg untouched] at want
    exact ended old present want

theorem IdentityChange.ended (change : IdentityChange collate store call (.changed true) store') :
    ∀ member ∈ affected call, ∀ session ∈ store'.sessions,
      (session.organizationId, session.userId) = member → session.revokedAt ≠ none := by
  intro member listed session present own
  cases change with
  | quiet silent => cases silent
  | roleChanged | statusChanged | removed =>
      rw [affected, List.mem_singleton] at listed
      exact endedSessions_ended present (own.trans listed)
  | transferred other target owner =>
      rw [affected, List.mem_cons, List.mem_singleton] at listed
      rcases listed with rfl | rfl
      · exact endedSessions_revoked (fun _ member own => endedSessions_ended member own) session
          present own
      · exact endedSessions_ended present own
  | sessionRevoked => cases listed

theorem transact_uninvites {invitationId actorId : Uuid} {clock : Instant} {answer : IdentityAnswer}
    {row : InvitationRow}
    (done : transact collate store (.revokeInvitation invitationId organizationId actorId clock) =
      .ok (answer, store'))
    (member : row ∈ store.invitations) (own : row.id = invitationId)
    (home : row.organizationId = organizationId) (pending : row.pending = true) :
    { row with revokedAt := some clock } ∈ store'.invitations := by
  obtain ⟨after, finished, same⟩ := map_ok.mp done
  cases same
  simp only [revokeOrganizationInvitation, unit_bind_ok] at finished
  obtain ⟨-, later⟩ := finished
  have marked : { row with revokedAt := some clock } ∈ (store.revokeInvitations (fun row =>
      row.id == invitationId && row.organizationId == organizationId && row.pending)
      clock).invitations :=
    mem_updateWhere.mpr ⟨row, member, if_pos (by rw [own, home, pending]; simp)⟩
  split at later
  · cases later
    exact marked
  · cases later
    exact marked

/-- Organizations and invitations over the run `calls` from `start`. -/
structure MembershipLaw (collate : Collation) (start : IdentityStore) (calls : List IdentityCall) :
    Prop where
  owned : ∀ organization ∈ (identityRun collate start calls).organizations, ∃ owner,
    owners organization.id (identityRun collate start calls).memberships = [owner] ∧
      owner.status = .active
  granted : ∀ before call after, calls = before ++ call :: after → ∀ organizationId userId,
    ¬ Owns (identityRun collate start before) organizationId userId →
    Owns (identityRun collate start (before ++ [call])) organizationId userId →
    Grants (identityRun collate start before) call organizationId userId
  /-- What is accepted is pending and unexpired; the membership has its role. -/
  accepted : ∀ before call after, calls = before ++ call :: after → ∀ accepted,
    acceptance collate (identityRun collate start before) call = some accepted →
    accepted.invitation ∈ (identityRun collate start before).invitations ∧
      accepted.invitation.pending = true ∧ accepted.now < accepted.invitation.expiresAt ∧
      { accepted.invitation with acceptedAt := some accepted.now } ∈
        (identityRun collate start (before ++ [call])).invitations ∧
      (∀ row ∈ (identityRun collate start before).memberships,
        row.key ≠ (accepted.invitation.organizationId, accepted.userId)) ∧
      ∃ row ∈ (identityRun collate start (before ++ [call])).memberships,
        row.key = (accepted.invitation.organizationId, accepted.userId) ∧
        row.role = accepted.invitation.role.membership ∧ row.status = .active
  /-- A pending invitation that a successful call revokes is revoked to the end of
      the run. -/
  revoked : ∀ before invitationId organizationId actorId clock after,
    calls = before ++ .revokeInvitation invitationId organizationId actorId clock :: after →
    ∀ done, transact collate (identityRun collate start before)
      (.revokeInvitation invitationId organizationId actorId clock) = .ok done →
    ∀ row ∈ (identityRun collate start before).invitations, row.id = invitationId →
      row.organizationId = organizationId → row.pending = true →
      { row with revokedAt := some clock } ∈ (identityRun collate start calls).invitations
  /-- What was accepted or revoked stays so, and is not accepted any more. -/
  final : ∀ before after, calls = before ++ after →
    ∀ row ∈ (identityRun collate start before).invitations, row.pending = false →
      row ∈ (identityRun collate start calls).invitations
  once : ∀ before between call after, calls = before ++ between ++ call :: after →
    ∀ row ∈ (identityRun collate start before).invitations, row.pending = false → ∀ accepted,
      acceptance collate (identityRun collate start (before ++ between)) call = some accepted →
      accepted.invitation.id ≠ row.id
  oneOpen : ∀ organizationId email, ((identityRun collate start calls).invitations.filter
    (InvitationRow.openFor collate organizationId email)).length ≤ 1
  ended : ∀ before call after, calls = before ++ call :: after → ∀ done,
    transact collate (identityRun collate start before) call = .ok (.changed true, done) →
    ∀ member ∈ affected call, ∀ session ∈
      (identityRun collate start (before ++ [call])).sessions,
      (session.organizationId, session.userId) = member → session.revokedAt ≠ none

theorem Accepts.accepted {accepted : Acceptance} (accepts : Accepts store accepted store') :
    { accepted.invitation with acceptedAt := some accepted.now } ∈ store'.invitations ∧
      ∃ row ∈ store'.memberships,
        row.key = (accepted.invitation.organizationId, accepted.userId) ∧
        row.role = accepted.invitation.role.membership ∧ row.status = .active := by
  obtain ⟨clock, memberships⟩ := accepts.memberships
  constructor
  · rw [accepts.invitations]
    refine mem_updateWhere.mpr ⟨accepted.invitation, accepts.acceptable.member, ?_⟩
    rw [beq_self_eq_true]
    rfl
  · refine ⟨accepted.invitation.joined accepted.userId clock, ?_, rfl, rfl, rfl⟩
    rw [memberships]
    exact List.mem_concat_self

/-- Over every run of calls from accounts in order, every organization has one
    active owner and every invitation is accepted at most once. -/
theorem organization_membership (collate : Collation) (start : IdentityStore)
    (inv : Organized collate start) (calls : List IdentityCall) :
    MembershipLaw collate start calls := by
  have reached := fun calls => inv.run calls
  constructor
  · exact (reached calls).governed.owned
  · intro before call after _ organizationId userId absent owns
    rw [identityRun, run_concat] at owns
    obtain ⟨answer, change⟩ := identityStep_change collate
      (reached before).governed.keys call
    exact change.grants absent owns
  · intro before call after _ accepted presented
    have accepts := acceptance_accepts (reached before) presented
    obtain ⟨marked, joined⟩ := accepts.accepted
    rw [identityRun, identityRun, run_concat]
    exact ⟨accepts.acceptable.member, accepts.acceptable.pending, accepts.acceptable.timely,
      marked, accepts.acceptable.fresh, joined⟩
  · intro before invitationId organizationId actorId clock after split done answered row member
      own home pending
    rw [split, identityRun, run_append, run_cons]
    refine closed_run ((reached before).step _) ?_ (by simp [InvitationRow.pending]) after
    rw [identityStep, answered]
    exact transact_uninvites answered member own home pending
  · intro before after split row member closed
    rw [split, identityRun, run_append]
    exact closed_run (reached before) member closed after
  · intro before between call after _ row member closed accepted presented same
    have kept := closed_run (reached before) member closed between
    rw [identityRun, ← run_append] at kept
    have accepts := acceptance_accepts (reached (before ++ between)) presented
    have pending := accepts.acceptable.pending
    rw [eq_of_key (reached (before ++ between)).offered.ids accepts.acceptable.member kept same,
      closed] at pending
    cases pending
  · exact (reached calls).offered.oneOpen
  · intro before call after _ done answered
    have stepped : identityStep collate (identityRun collate start before) call = done := by
      rw [identityStep, answered]
      rfl
    rw [identityRun, run_concat, show identityStep collate (run (identityStep collate) start before)
      call = done from stepped]
    exact (transact_change (reached before).governed.keys answered).ended

def emptyStore : IdentityStore :=
  { users := []
    organizations := []
    tenants := []
    memberships := []
    invitations := []
    sessions := []
    refreshTokens := []
    actionTokens := []
    nodePools := []
    subscriptions := []
    entitlements := []
    audits := []
    foreign_ := ⟨[], [], []⟩ }

def asciiCollation : Collation := fun text => text.toList.map Char.toNat

def workspaceRegistration : RegistrationWrite :=
  { userId := 1
    email := "owner@candy.example"
    displayName := "Owner"
    passwordHash := "hash"
    organizationId := 2
    organizationName := "Workspace"
    tenantId := 3 }

def workspaceInvitation : OrganizationInvitation :=
  ⟨4, 2, "member@candy.example", .operator, 1000⟩

def workspaceCalls : List IdentityCall :=
  [.register workspaceRegistration ⟨5, 6, 7⟩ 10 10,
    .createInvitation workspaceInvitation 8 1 20 20,
    .registerInvited ⟨9, "Member", "hash"⟩ 8 30 30,
    .transfer 2 1 9 40]

theorem emptyStore_organized (collate : Collation) : Organized collate emptyStore := by
  refine ⟨⟨List.nodup_nil, List.nodup_nil, ?_, ?_⟩, ⟨List.nodup_nil, List.nodup_nil, ?_⟩⟩
  · intro row member
    cases member
  · intro organization member
    cases member
  · intro organizationId email
    exact Nat.zero_le 1

/-- The member owns the organization, and nobody else. -/
theorem workspace_transferred :
    Owns (identityRun asciiCollation emptyStore workspaceCalls) 2 9 ∧
      ∃ owner, owners 2 (identityRun asciiCollation emptyStore workspaceCalls).memberships =
        [owner] ∧ owner.status = .active := by
  have law := organization_membership asciiCollation emptyStore
    (emptyStore_organized asciiCollation) workspaceCalls
  refine ⟨by decide +kernel, ?_⟩
  exact law.owned ⟨2, "Workspace", .active⟩ (by decide +kernel)

end CandyCloud.Identity
