import CandyCloud.Identity.Rotation

/-! # Refresh tokens over whole runs

A token is exchanged once, its reuse ends the family of its session, and a
revoked session stays without authority.
-/

namespace CandyCloud.Identity

open Foundation

variable {collate : Collation} {start store store' : IdentityStore} {call : IdentityCall}
  {answer : IdentityAnswer}

/-- Members and sessions in order. -/
structure Accounts (collate : Collation) (store : IdentityStore) : Prop where
  organized : Organized collate store
  rotating : Rotating store.sessions store.refreshTokens

theorem Accounts.step (accounts : Accounts collate store) (call : IdentityCall) :
    Accounts collate (identityStep collate store call) := by
  obtain ⟨answer, change⟩ := identityStep_change collate
    accounts.organized.governed.keys call
  exact ⟨accounts.organized.step call, change.rotating accounts.rotating⟩

theorem Accounts.run (accounts : Accounts collate start) (calls : List IdentityCall) :
    Accounts collate (identityRun collate start calls) :=
  run_invariant (fun _ call accounts => accounts.step call) accounts calls

theorem Accounts.evolve (accounts : Accounts collate start) (calls : List IdentityCall) :
    Evolves SessionRow.Continues start.sessions (identityRun collate start calls).sessions ∧
      Evolves RefreshTokenRow.Continues start.refreshTokens
        (identityRun collate start calls).refreshTokens := by
  induction calls generalizing start with
  | nil => exact ⟨Evolves.refl SessionRow.Continues.refl _,
      Evolves.refl RefreshTokenRow.Continues.refl _⟩
  | cons call rest ih =>
      obtain ⟨answer, change⟩ := identityStep_change collate
        accounts.organized.governed.keys call
      obtain ⟨sessions, tokens⟩ := ih (accounts.step call)
      exact ⟨change.sessionsEvolve.trans SessionRow.Continues.trans sessions,
        change.tokensEvolve.trans RefreshTokenRow.Continues.trans tokens⟩

def exchange (collate : Collation) (store : IdentityStore) (call : IdentityCall) :
    Option RefreshTokenRow :=
  match call, transact collate store call with
  | .rotate tokenHash _ _, .ok (.rotated (some _), _) =>
      store.refreshTokens.find? (·.tokenHash == tokenHash)
  | _, _ => none

variable {replacement : RefreshTokenWrite} {now : Instant} {token : RefreshTokenRow}
  {session : SessionRow} {membership : MembershipRow}

theorem rotate_valid {tokenHash : Hash} {session : SessionRecord}
    (done : rotateRefreshToken store tokenHash replacement now = .ok (some session, store')) :
    ∃ token home membership, Exchangeable store token home membership tokenHash replacement now ∧
      store'.refreshTokens = exchangedTokens token home replacement now store.refreshTokens := by
  have change := @rotateRefreshToken_change (fun _ => []) _ _ _ _ _ _ done
  cases change with
  | quiet silent => cases silent
  | exchanged exchangeable => exact ⟨_, _, _, exchangeable, rfl⟩

theorem exchange_uses (rotating : Rotating store.sessions store.refreshTokens)
    (exchanged : exchange collate store call = some token) :
    token ∈ store.refreshTokens ∧ token.usedAt = none ∧
      ∃ used ∈ (identityStep collate store call).refreshTokens, used.id = token.id ∧
        used.usedAt ≠ none := by
  unfold exchange at exchanged
  split at exchanged
  · rename_i tokenHash replacement now record after done
    have stepped : identityStep collate store (.rotate tokenHash replacement now) = after := by
      rw [identityStep, done]
      rfl
    obtain ⟨⟨rotated, finished⟩, rotates, same⟩ := map_ok.mp done
    cases same
    obtain ⟨own, home, membership, exchangeable, tokens⟩ := rotate_valid rotates
    obtain ⟨member, named, -, -⟩ := presented_some exchangeable.presented
    obtain ⟨unused, -⟩ := invalidToken_false exchangeable.valid
    have found : store.refreshTokens.find? (·.tokenHash == tokenHash) = some own :=
      find_of_key rotating.hashes member fun row => by rw [named, beq_iff_eq]
    rw [found] at exchanged
    cases exchanged
    refine ⟨member, unused, { token with usedAt := some now, replacedById := some replacement.id },
      ?_, rfl, Option.some_ne_none now⟩
    rw [stepped, tokens, exchangedTokens]
    refine mem_updateWhere.mpr ⟨token, List.mem_append_left _ member, ?_⟩
    rw [unused, beq_self_eq_true, beq_self_eq_true]
    rfl
  · cases exchanged

theorem membershipOf_some (keys : (store.memberships.map (·.key)).Nodup)
    (member : membership ∈ store.memberships)
    (key : membership.key = (session.organizationId, session.userId))
    (active : membership.status = .active) : store.membershipOf session = some membership := by
  refine find_keyed keys member (by simp [key, active]) ?_
  intro row tested
  simp only [Bool.and_eq_true, beq_iff_eq] at tested
  exact tested.1.trans key.symm

theorem presented_of (accounts : Accounts collate store) (member : token ∈ store.refreshTokens)
    (home : session ∈ store.sessions) (own : session.id = token.sessionId)
    (belongs : membership ∈ store.memberships)
    (key : membership.key = (session.organizationId, session.userId))
    (active : membership.status = .active) :
    store.presented token.tokenHash = some (token, session, membership) := by
  have first : store.refreshTokens.find? (·.tokenHash == token.tokenHash) = some token :=
    find_of_key accounts.rotating.hashes member fun _ => beq_iff_eq
  have second : store.sessions.find? (·.id == token.sessionId) = some session :=
    find_of_key accounts.rotating.sessionIds home fun row => by rw [own, beq_iff_eq]
  have third := membershipOf_some accounts.organized.governed.keys belongs key active
  simp only [IdentityStore.presented, first, second, third, Option.bind_eq_bind,
    Option.bind_some, Option.pure_def]

theorem reuse_revokes (accounts : Accounts collate store) (named : isNil replacement.id = false)
    (later : now < replacement.expiresAt) (member : token ∈ store.refreshTokens)
    (used : token.usedAt ≠ none) (home : session ∈ store.sessions)
    (own : session.id = token.sessionId) (belongs : membership ∈ store.memberships)
    (key : membership.key = (session.organizationId, session.userId))
    (active : membership.status = .active) :
    identityStep collate store (.rotate token.tokenHash replacement now) =
      store.revokeFamily session.familyId now := by
  have presented := presented_of accounts member home own belongs key active
  have invalid : invalidToken token session now = true := by
    rw [invalidToken, Option.isSome_iff_ne_none.mpr used]
    rfl
  have formed : (isNil replacement.id || decide (replacement.expiresAt ≤ now)) = false := by
    rw [named, decide_eq_false (Nat.not_le.mpr later)]
    rfl
  simp only [identityStep, transact, rotateRefreshToken, formed, reject, presented, invalid,
    Bool.false_eq_true, if_false, if_true, bind, Except.bind]
  rfl

theorem revokeFamily_revoked {familyId : Uuid}
    (member : session ∈ (store.revokeFamily familyId now).sessions)
    (family : session.familyId = familyId) : session.revokedAt ≠ none :=
  revoke_revoked member fun revoked => by rw [family, revoked]; simp

/-- The call revokes this session when it succeeds. -/
def IdentityCall.Revokes (session : SessionRow) : IdentityCall → Prop
  | .revokeSession userId sessionId _ => session.id = sessionId ∧ session.userId = userId
  | .revokeCurrent sessionId _ => session.id = sessionId
  | .updatePassword userId _ _ => session.userId = userId
  | _ => False

theorem IdentityCall.Revokes.of_identity {other : SessionRow} (revokes : call.Revokes session)
    (same : other.identity = session.identity) : call.Revokes other := by
  simp only [SessionRow.identity, Prod.mk.injEq] at same
  cases call with
  | revokeSession userId sessionId now => exact ⟨same.1.trans revokes.1, same.2.1.trans revokes.2⟩
  | revokeCurrent sessionId now => exact same.1.trans revokes
  | updatePassword userId passwordHash now => exact same.2.1.trans revokes
  | _ => cases revokes

theorem transact_revokes {answer : IdentityAnswer}
    (done : transact collate store call = .ok (answer, store'))
    (member : session ∈ store'.sessions) (named : call.Revokes session) :
    session.revokedAt ≠ none := by
  cases call with
  | revokeSession userId sessionId now =>
      obtain ⟨⟨applied, after⟩, finished, same⟩ := map_ok.mp done
      cases same
      simp only [revokeSession, unit_bind_ok, pure_ok, Prod.mk.injEq] at finished
      obtain ⟨-, -, rfl⟩ := finished
      exact revoke_revoked member fun _ => by simp [named.1, named.2]
  | revokeCurrent sessionId now =>
      cases done
      exact revoke_revoked member fun _ => beq_iff_eq.mpr named
  | updatePassword userId passwordHash now =>
      obtain ⟨after, finished, same⟩ := map_ok.mp done
      cases same
      simp only [updatePasswordAndRevokeSessions, unit_bind_ok, pure_ok] at finished
      obtain ⟨-, rfl⟩ := finished
      exact revoke_revoked member fun revoked => by
        rw [show session.userId = userId from named, revoked]
        simp
  | _ => cases named

theorem revoked_inactive (rotating : Rotating store.sessions store.refreshTokens)
    (member : session ∈ store.sessions) (revoked : session.revokedAt ≠ none)
    {userId organizationId tenantId : Uuid} {role : MembershipRole} {active : Bool}
    (answered : sessionIsActive store session.id userId organizationId tenantId role now =
      .ok active) : active = false := by
  simp only [sessionIsActive, unit_bind_ok, pure_ok] at answered
  rw [← answered.2, List.any_eq_false]
  intro row listed tested
  simp only [Bool.and_eq_true, beq_iff_eq] at tested
  have named := tested.1.1.1.1.1.1.1.1.1
  have unrevoked := tested.1.1.1.1.1.2
  rw [eq_of_key rotating.sessionIds listed member named] at unrevoked
  exact revoked unrevoked

theorem revoked_refuses (rotating : Rotating store.sessions store.refreshTokens)
    (member : session ∈ store.sessions) (revoked : session.revokedAt ≠ none)
    (listed : token ∈ store.refreshTokens) (own : token.sessionId = session.id)
    {accepted : SessionRecord} :
    rotateRefreshToken store token.tokenHash replacement now ≠ .ok (some accepted, store') := by
  intro done
  obtain ⟨presented, home, membership, exchangeable, -⟩ := rotate_valid done
  obtain ⟨stored, named, present, placed⟩ := presented_some exchangeable.presented
  obtain ⟨-, unrevoked⟩ := invalidToken_false exchangeable.valid
  rw [eq_of_key rotating.hashes stored listed named] at placed
  rw [eq_of_key rotating.sessionIds present member (placed.trans own)] at unrevoked
  exact revoked unrevoked

/-- Sessions and refresh tokens over the run `calls` from `start`. -/
structure RotationLaw (collate : Collation) (start : IdentityStore) (calls : List IdentityCall) :
    Prop where
  exchangedOnce : ∀ before call between call' after,
    calls = before ++ call :: between ++ call' :: after → ∀ token token',
    exchange collate (identityRun collate start before) call = some token →
    exchange collate (identityRun collate start (before ++ call :: between)) call' =
      some token' → token'.id ≠ token.id
  /-- The tokens of a session are linked one after the other. -/
  linked : ∀ sessionId,
    links (tokensOf sessionId (identityRun collate start calls).refreshTokens) =
      successions
        ((tokensOf sessionId (identityRun collate start calls).refreshTokens).map (·.id))
  oneUnused : ∀ sessionId, ((tokensOf sessionId
    (identityRun collate start calls).refreshTokens).filter (·.usedAt == none)).length ≤ 1
  within : ∀ token ∈ (identityRun collate start calls).refreshTokens, ∃ session ∈
    (identityRun collate start calls).sessions, session.id = token.sessionId ∧
      token.expiresAt ≤ session.expiresAt
  /-- A used token presented by an active member ends its family. -/
  reused : ∀ before token replacement now after,
    calls = before ++ .rotate token.tokenHash replacement now :: after →
    isNil replacement.id = false → now < replacement.expiresAt →
    token ∈ (identityRun collate start before).refreshTokens → token.usedAt ≠ none →
    ∀ session ∈ (identityRun collate start before).sessions, session.id = token.sessionId →
    ∀ membership ∈ (identityRun collate start before).memberships,
      membership.key = (session.organizationId, session.userId) → membership.status = .active →
      ∀ other ∈ (identityRun collate start
        (before ++ [.rotate token.tokenHash replacement now])).sessions,
        other.familyId = session.familyId → other.revokedAt ≠ none
  /-- A session that a successful call revokes is revoked to the end of the run. -/
  revoked : ∀ before call after, calls = before ++ call :: after → ∀ done,
    transact collate (identityRun collate start before) call = .ok done →
    ∀ session ∈ (identityRun collate start before).sessions, call.Revokes session →
      ∃ later ∈ (identityRun collate start calls).sessions, later.identity = session.identity ∧
        later.revokedAt ≠ none
  /-- A revocation is final. -/
  final : ∀ before after, calls = before ++ after →
    ∀ session ∈ (identityRun collate start before).sessions, session.revokedAt ≠ none →
      ∃ later ∈ (identityRun collate start calls).sessions, later.identity = session.identity ∧
        later.revokedAt = session.revokedAt
  inactive : ∀ session ∈ (identityRun collate start calls).sessions, session.revokedAt ≠ none →
    ∀ userId organizationId tenantId role now active,
      sessionIsActive (identityRun collate start calls) session.id userId organizationId tenantId
        role now = .ok active → active = false
  refused : ∀ session ∈ (identityRun collate start calls).sessions, session.revokedAt ≠ none →
    ∀ token ∈ (identityRun collate start calls).refreshTokens, token.sessionId = session.id →
      ∀ replacement now accepted after,
        rotateRefreshToken (identityRun collate start calls) token.tokenHash replacement now ≠
          .ok (some accepted, after)

/-- Over every run of calls from accounts in order, a refresh token is exchanged
    at most once and a revoked session stays without authority. -/
theorem refresh_token_rotation (collate : Collation) (start : IdentityStore)
    (accounts : Accounts collate start) (calls : List IdentityCall) :
    RotationLaw collate start calls := by
  have reached := fun calls => accounts.run calls
  constructor
  · intro before call between call' after _ token token' first second same
    obtain ⟨-, -, used, member, named, spent⟩ := exchange_uses (reached before).rotating first
    obtain ⟨-, tokens⟩ := ((reached before).step call).evolve between
    obtain ⟨later, listed, continues⟩ := tokens.mem member
    have unchanged := continues.used spent
    have split : identityRun collate start (before ++ call :: between) = identityRun collate
        (identityStep collate (identityRun collate start before) call) between := by
      rw [identityRun, run_append, run_cons]
    obtain ⟨present, unused, -⟩ := exchange_uses (reached (before ++ call :: between)).rotating
      second
    rw [← split] at listed
    rw [eq_of_key (reached (before ++ call :: between)).rotating.ids present listed
      (same.trans (named.symm.trans (congrArg (·.id) unchanged).symm)), unchanged] at unused
    exact spent unused
  · exact fun sessionId => ((reached calls).rotating.chain sessionId).links
  · exact fun sessionId => ((reached calls).rotating.chain sessionId).oneUnused
  · exact (reached calls).rotating.placed
  · intro before token replacement now after _ named later member used session home own membership
      belongs key active other listed family
    have revoked := reuse_revokes (reached before) named later member used home own belongs key
      active
    rw [identityRun, run_concat, show identityStep collate (run (identityStep collate) start before)
      (.rotate token.tokenHash replacement now) = _ from revoked] at listed
    exact revokeFamily_revoked listed family
  · intro before call after split done answered session member named
    obtain ⟨answer, store'⟩ := done
    have stepped : identityStep collate (identityRun collate start before) call = store' := by
      rw [identityStep, answered]
      rfl
    obtain ⟨first, -⟩ := (reached before).evolve [call]
    obtain ⟨ended, stored, continues⟩ := first.mem member
    obtain ⟨second, -⟩ := ((reached before).step call).evolve after
    obtain ⟨later, listed, kept⟩ := second.mem stored
    have revoked := transact_revokes answered (stepped ▸ stored)
      (named.of_identity continues.identity)
    refine ⟨later, ?_, kept.identity.trans continues.identity, (kept.revoked revoked).symm ▸ revoked⟩
    rw [split, identityRun, run_append, run_cons]
    exact listed
  · intro before after split session member revoked
    obtain ⟨sessions, -⟩ := (reached before).evolve after
    obtain ⟨later, listed, continues⟩ := sessions.mem member
    refine ⟨later, ?_, continues.identity, continues.revoked revoked⟩
    rw [split, identityRun, run_append]
    exact listed
  · intro session member revoked userId organizationId tenantId role now active
    exact revoked_inactive (reached calls).rotating member revoked
  · intro session member revoked token listed own replacement now accepted after
    exact revoked_refuses (reached calls).rotating member revoked listed own

theorem emptyStore_accounts (collate : Collation) : Accounts collate emptyStore := by
  refine ⟨emptyStore_organized collate, List.nodup_nil, List.nodup_nil, List.nodup_nil, ?_, ?_⟩
  · intro token member
    cases member
  · exact fun _ => TokenChain.nil

def workspaceSession : SessionRecord :=
  { id := 20
    familyId := 21
    userId := 1
    organizationId := 2
    tenantId := 3
    role := .organizationOwner
    expiresAt := 900
    revokedAt := none }

def stolenCalls : List IdentityCall :=
  [.register workspaceRegistration ⟨5, 6, 7⟩ 10 10,
    .createSession workspaceSession ⟨22, 23, 900⟩ none 20 20,
    .rotate 23 ⟨24, 25, 1000⟩ 30,
    .rotate 23 ⟨26, 27, 1000⟩ 40]

/-- The reuse ends the session, and the successor is worth nothing. -/
theorem stolen_token_revokes :
    (∃ session ∈ (identityRun asciiCollation emptyStore stolenCalls).sessions,
      session.id = 20 ∧ session.revokedAt = some 40) ∧
    ∀ replacement now accepted after,
      rotateRefreshToken (identityRun asciiCollation emptyStore stolenCalls) 25 replacement now ≠
        .ok (some accepted, after) := by
  have law := refresh_token_rotation asciiCollation emptyStore (emptyStore_accounts asciiCollation)
    stolenCalls
  have member : SessionRow.mk 20 1 21 2 3 none 900 30 (some 40) (some .rotationReuse) ∈
      (identityRun asciiCollation emptyStore stolenCalls).sessions := by decide +kernel
  refine ⟨⟨_, member, rfl, rfl⟩, ?_⟩
  exact law.refused _ member (Option.some_ne_none 40) ⟨24, 20, 25, 900, none, none, none⟩
    (by decide +kernel) rfl

end CandyCloud.Identity
