import CandyCloud.Identity.ActionTokenRuns

/-! # Password resets under concurrent requests

A reset takes the user's row before it sweeps his sessions, and a new session shares that row
from its insert to its commit, so no session slips past a sweep once it is inserted.
-/

namespace CandyCloud.Identity

open Foundation

variable {collate : Collation} {verify : String → String → Bool}

def RequestWrite.harmless : RequestWrite → Bool
  | .insertSession _ _ | .reset _ => false
  | _ => true

/-- No session is new, and none has lost its revocation. -/
structure Quieter (store store' : RequestStore) : Prop where
  back : ∀ later ∈ store'.identity.sessions, ∃ session ∈ store.identity.sessions,
    session.id = later.id ∧ session.userId = later.userId ∧
      (later.revokedAt = none → session.revokedAt = none)
  resets : store'.resets = store.resets
  checks : store'.checks = store.checks

theorem Quieter.refl (store : RequestStore) : Quieter store store :=
  ⟨fun session member => ⟨session, member, rfl, rfl, fun revoked => revoked⟩, rfl, rfl⟩

theorem Quieter.trans {a b c : RequestStore} (first : Quieter a b) (second : Quieter b c) :
    Quieter a c := by
  refine ⟨?_, second.resets.trans first.resets, second.checks.trans first.checks⟩
  intro later member
  obtain ⟨between, present, id, user, revoked⟩ := second.back later member
  obtain ⟨session, listed, id', user', revoked'⟩ := first.back between present
  exact ⟨session, listed, id'.trans id, user'.trans user, fun open_ => revoked' (revoked open_)⟩

theorem applyWrite_quieter {write : RequestWrite} (harmless : write.harmless = true)
    (store : RequestStore) : Quieter store (applyWrite store write) := by
  have updated : ∀ {selected : SessionRow → Bool} {set : SessionRow → SessionRow},
      (∀ row, (set row).id = row.id ∧ (set row).userId = row.userId ∧
        ((set row).revokedAt = none → row.revokedAt = none)) →
      ∀ later ∈ updateWhere selected set store.identity.sessions, ∃ session ∈
        store.identity.sessions, session.id = later.id ∧ session.userId = later.userId ∧
          (later.revokedAt = none → session.revokedAt = none) := by
    intro selected set kept later member
    obtain ⟨old, present, rfl⟩ := mem_updateWhere.mp member
    split
    · exact ⟨old, present, (kept old).1.symm, (kept old).2.1.symm, (kept old).2.2⟩
    · exact ⟨old, present, rfl, rfl, fun revoked => revoked⟩
  cases write with
  | insertSession | reset => cases harmless
  | revokeSessions ids now reason =>
      refine ⟨updated ?_, rfl, rfl⟩
      intro row
      exact ⟨rfl, rfl, fun revoked => absurd revoked (by simp [SessionRow.revoke])⟩
  | touchSession id now =>
      refine ⟨updated ?_, rfl, rfl⟩
      exact fun row => ⟨rfl, rfl, fun revoked => revoked⟩
  | consumeTokens | insertActionToken | insertRefreshToken | useToken | setPassword =>
      exact ⟨(Quieter.refl store).back, rfl, rfl⟩

theorem foldl_quieter {writes : List RequestWrite}
    (harmless : ∀ write ∈ writes, write.harmless = true) (store : RequestStore) :
    Quieter store (writes.foldl applyWrite store) := by
  induction writes generalizing store with
  | nil => exact Quieter.refl store
  | cons write rest ih =>
      exact (applyWrite_quieter (harmless write List.mem_cons_self) store).trans
        (ih (fun other member => harmless other (List.mem_cons_of_mem _ member)) _)

theorem Quieter.resetsOf {store store' : RequestStore} (quieter : Quieter store store')
    (userId : Uuid) : store'.resetsOf userId = store.resetsOf userId := by
  rw [RequestStore.resetsOf, RequestStore.resetsOf, quieter.resets]

section Assertions

variable (userId : Uuid)

/-- Once a password was reset, every unrevoked session of its user rests on a
    check made after the last reset. -/
def Current (store : RequestStore) : Prop :=
  ∀ session ∈ store.identity.sessions, session.userId = userId → session.revokedAt = none →
    store.resetsOf userId = 0 ∨ (session.id, store.resetsOf userId) ∈ store.checks

/-- An issue keeps the row of its user from the insert on, with a check up to date. -/
structure Issuing (store : RequestStore) (session : IdentitySession) (issue : Issue) : Prop where
  locked : shared (.user issue.session.userId) ∈ session.locks
  checked : issue.session.userId = userId → store.resetsOf userId = issue.checked
  writes : ∃ later, session.writes = .insertSession (issue.session.row issue.deviceLabel
    issue.clock) issue.checked :: later ∧ ∀ write ∈ later, write.harmless = true

/-- A sweep has found every unrevoked session of the user. -/
structure Swept (store : RequestStore) (session : IdentitySession) : Prop where
  locked : exclusive (.user userId) ∈ session.locks
  writes : ∃ passwordHash ids now, session.writes = [.setPassword userId passwordHash,
      .revokeSessions ids now .passwordReset] ∧
    ∀ row ∈ store.identity.sessions, row.userId = userId → row.revokedAt = none → row.id ∈ ids

/-- Where a request stands between its check and the commit that uses it. -/
inductive Phase where
  | other
  | fresh
  | issuing (issue : Issue)
  | sweeping (userId : Uuid)
  | swept (userId : Uuid)

def RequestStage.phase : RequestStage → Phase
  | .session (.previousLive _ _) | .session (.insertSession _)
  | .session (.updatePassword _ _ _) => .fresh
  | .session (.insertToken issue) | .session (.revokePrevious issue _)
  | .session (.commitIssue issue) => .issuing issue
  | .session (.sweepSessions userId _) => .sweeping userId
  | .session (.commitReset userId) => .swept userId
  | _ => .other

def AuthorityAssertion (store : RequestStore) (session : IdentitySession) : Prop :=
  match session.stage.phase with
  | .other => ∀ write ∈ session.writes, write.harmless = true
  | .fresh => session.writes = []
  | .issuing issue => Issuing userId store session issue
  | .sweeping user => exclusive (.user user) ∈ session.locks ∧
      ∃ passwordHash, session.writes = [.setPassword user passwordHash]
  | .swept user => Swept user store session

/-- A request inserts a session of the user while no reset has committed since
    its check. -/
def stillChecked (store : RequestStore) (session : IdentitySession) : Bool :=
  match session.stage with
  | .session (.insertSession issue) =>
      issue.session.userId != userId || store.resetsOf userId == issue.checked
  | _ => true

end Assertions

def HarmlessProgress : Progress RequestStage RequestWrite RequestAnswer → Prop
  | .next stage writes => (∀ write ∈ writes, write.harmless = true) ∧ stage.phase = .other
  | .commit stage writes => (∀ write ∈ writes, write.harmless = true) ∧
      (stage.phase = .other ∨ stage.phase = .fresh)
  | .answer _ => True

theorem actionStatement_harmless (store : IdentityStore) (stage : ActionStage) :
    HarmlessProgress (actionStatement store stage).progress := by
  cases stage with
  | commit purpose tokenHash now consumed after =>
      cases after <;> cases consumed <;>
        simp [actionStatement, AfterToken.stage, HarmlessProgress, RequestStage.phase]
  | _ =>
      dsimp only [actionStatement]
      repeat' split
      all_goals simp [HarmlessProgress, RequestWrite.harmless, RequestStage.phase, failed]

theorem requestStatement_harmless (collate : Collation) (verify : String → String → Bool)
    (store : RequestStore) {stage : RequestStage} (other : stage.phase = .other) :
    HarmlessProgress (requestStatement collate verify store stage).progress := by
  cases stage with
  | action stage => exact actionStatement_harmless store.identity stage
  | answering answer => exact True.intro
  | session stage =>
      cases stage with
      | previousLive | insertSession | insertToken | revokePrevious | commitIssue
      | updatePassword | sweepSessions | commitReset => cases other
      | _ =>
          dsimp only [requestStatement, sessionStatement]
          repeat' split
          all_goals simp [HarmlessProgress, RequestWrite.harmless, RequestStage.phase, failed]

variable {store store' : RequestStore} {session other : IdentitySession} {stage : RequestStage}
  {writes : List RequestWrite} {userId : Uuid}

theorem Current.quieter (current : Current userId store) (quieter : Quieter store store') :
    Current userId store' := by
  intro later member user unrevoked
  obtain ⟨row, present, id, same, revoked⟩ := quieter.back later member
  rw [quieter.resetsOf, quieter.checks, ← id]
  exact current row present (same.trans user) (revoked unrevoked)

theorem Swept.sweeps {user : Uuid} (swept : Swept user store session) :
    Quieter store (session.writes.foldl applyWrite store) ∧
      ∀ row ∈ (session.writes.foldl applyWrite store).identity.sessions, row.userId = user →
        row.revokedAt ≠ none := by
  obtain ⟨passwordHash, ids, now, wrote, found⟩ := swept.writes
  rw [wrote]
  constructor
  · refine foldl_quieter ?_ store
    intro write member
    simp only [List.mem_cons, List.not_mem_nil, or_false] at member
    rcases member with rfl | rfl
    · rfl
    · rfl
  · intro row member own
    obtain ⟨old, present, rfl⟩ := mem_updateWhere.mp member
    by_cases selected : ids.contains old.id = true
    · rw [if_pos selected]
      simp [SessionRow.revoke]
    · rw [if_neg selected] at own ⊢
      intro unrevoked
      exact selected (List.contains_iff_mem.mpr (found old present own unrevoked))

inductive AuthorityCommit (userId : Uuid) (store : RequestStore) (session : IdentitySession)
    (store' : RequestStore) : Prop where
  | quiet (quieter : Quieter store store')
  | issued (issue : Issue) (issuing : Issuing userId store session issue)
      (quieter : Quieter (applyWrite store (.insertSession (issue.session.row issue.deviceLabel
        issue.clock) issue.checked)) store')
  | reset (user : Uuid) (swept : Swept user store session)
      (after : store' = applyWrite (session.writes.foldl applyWrite store) (.reset user))

theorem uncommitted (collate : Collation) (verify : String → String → Bool)
    (store : RequestStore) {point : SessionStage} {writes : List RequestWrite}
    (progress : (requestStatement collate verify store (.session point)).progress =
      .commit stage writes) :
    RequestStage.phase (.session point) = .other ∨ (∃ issue, point = .commitIssue issue) ∨
      ∃ userId, point = .commitReset userId := by
  cases point with
  | commitIssue issue => exact .inr (.inl ⟨issue, rfl⟩)
  | commitReset userId => exact .inr (.inr ⟨userId, rfl⟩)
  | previousLive issue previous | insertSession issue | insertToken issue
  | updatePassword userId passwordHash now =>
      simp only [requestStatement, sessionStatement, failed] at progress
      split at progress
      · cases progress
      · cases progress
  | revokePrevious issue previous => cases progress
  | sweepSessions userId now => cases progress
  | _ => exact .inl rfl

theorem commit_authority (own : AuthorityAssertion userId store session)
    (progress : ((identityRequests collate verify).pending store session).progress =
      .commit stage writes) :
    AuthorityCommit userId store session
      ((identityRequests collate verify).committed store session writes) ∧
      (stage.phase = .other ∨ stage.phase = .fresh) := by
  obtain ⟨at_, locks, earlier⟩ := session
  have quiet : at_.phase = .other → AuthorityCommit userId store ⟨at_, locks, earlier⟩
      ((identityRequests collate verify).committed store ⟨at_, locks, earlier⟩ writes) ∧
        (stage.phase = .other ∨ stage.phase = .fresh) := by
    intro phase
    have harmless := requestStatement_harmless collate verify
      ((identityRequests collate verify).seen store ⟨at_, locks, earlier⟩) phase
    rw [show (requestStatement collate verify _ at_).progress = .commit stage writes from
      progress] at harmless
    rw [AuthorityAssertion, phase] at own
    exact ⟨.quiet ((foldl_quieter own store).trans (foldl_quieter harmless.1 _)), harmless.2⟩
  cases at_ with
  | action point => exact quiet rfl
  | answering answer => exact quiet rfl
  | session point =>
      rcases uncommitted collate verify _ progress with phase | ⟨issue, rfl⟩ | ⟨user, rfl⟩
      · exact quiet phase
      · obtain ⟨later, wrote, harmless⟩ := own.writes
        have wrote : earlier = _ := wrote
        cases progress
        refine ⟨.issued issue own ?_, .inl rfl⟩
        rw [Requests.committed, Requests.seen, wrote]
        exact foldl_quieter harmless _
      · cases progress
        exact ⟨.reset user own rfl, .inl rfl⟩

theorem AuthorityCommit.current (commit : AuthorityCommit userId store session store')
    (current : Current userId store) : Current userId store' := by
  cases commit with
  | quiet quieter => exact current.quieter quieter
  | issued issue issuing quieter =>
      refine Current.quieter ?_ quieter
      intro row member user unrevoked
      rcases mem_concat.mp member with old | rfl
      · rcases current row old user unrevoked with none | checked
        · exact .inl none
        · exact .inr (List.mem_append_left _ checked)
      · refine .inr (List.mem_append_right _ (List.mem_singleton.mpr ?_))
        exact congrArg (Prod.mk issue.session.id) (issuing.checked user)
  | reset user swept after =>
      obtain ⟨quieter, resets⟩ := swept.sweeps
      rw [after]
      by_cases mine : user = userId
      · subst mine
        intro row member own unrevoked
        exact absurd unrevoked (resets row member own)
      · have others := current.quieter quieter
        intro row member own unrevoked
        rw [RequestStore.resetsOf, applyWrite, List.count_append, List.count_singleton,
          beq_false_of_ne mine]
        exact others row member own unrevoked

theorem AuthorityCommit.resetsOf (commit : AuthorityCommit userId store session store')
    (apart : ∀ user, exclusive (.user user) ∈ session.locks → user ≠ userId) :
    store'.resetsOf userId = store.resetsOf userId := by
  cases commit with
  | quiet quieter => exact quieter.resetsOf userId
  | issued issue issuing quieter => exact quieter.resetsOf userId
  | reset user swept after =>
      rw [after, ← swept.sweeps.1.resetsOf userId, RequestStore.resetsOf, applyWrite,
        List.count_append, List.count_singleton, beq_false_of_ne (apart user swept.locked)]
      rfl

theorem AuthorityCommit.back (commit : AuthorityCommit userId store session store') {user : Uuid}
    (apart : shared (.user user) ∉ session.locks) :
    ∀ later ∈ store'.identity.sessions, later.userId = user → later.revokedAt = none →
      ∃ row ∈ store.identity.sessions, row.id = later.id ∧ row.userId = user ∧
        row.revokedAt = none := by
  intro later member own unrevoked
  cases commit with
  | quiet quieter =>
      obtain ⟨row, present, id, user, revoked⟩ := quieter.back later member
      exact ⟨row, present, id, user.trans own, revoked unrevoked⟩
  | issued issue issuing quieter =>
      obtain ⟨row, present, id, same, revoked⟩ := quieter.back later member
      rcases mem_concat.mp present with old | rfl
      · exact ⟨row, old, id, same.trans own, revoked unrevoked⟩
      · have inserted : issue.session.userId = user := same.trans own
        rw [← inserted] at apart
        exact absurd issuing.locked apart
  | reset resetUser swept after =>
      rw [after] at member
      obtain ⟨row, present, id, same, revoked⟩ := swept.sweeps.1.back later member
      exact ⟨row, present, id, same.trans own, revoked unrevoked⟩

theorem authority_idle (phase : stage.phase = .other ∨ stage.phase = .fresh)
    (store : RequestStore) : AuthorityAssertion userId store ⟨stage, [], []⟩ := by
  rcases phase with other | fresh
  · rw [AuthorityAssertion, other]
    intro write member
    cases member
  · rw [AuthorityAssertion, fresh]

theorem opening_phase {call : RequestCall} (opened : requestOpening call = .ok stage) :
    stage.phase = .other := by
  cases call with
  | createActionToken write clock now =>
      simp only [requestOpening] at opened
      split at opened
      · cases opened
      · cases opened
        rfl
  | refresh request =>
      simp only [requestOpening] at opened
      split at opened
      · cases opened
      · cases opened
        rfl
  | consumeActionToken | resetPassword | login | switchContext =>
      cases opened
      rfl

theorem Issuing.more {issue : Issue} (issuing : Issuing userId store session issue)
    {locks : List (RowLock RowName)} (harmless : ∀ write ∈ writes, write.harmless = true) :
    Issuing userId store ⟨stage, session.locks ++ locks, session.writes ++ writes⟩ issue := by
  obtain ⟨later, wrote, own⟩ := issuing.writes
  refine ⟨List.mem_append_left _ issuing.locked, issuing.checked, later ++ writes, ?_, ?_⟩
  · rw [wrote]
    rfl
  · intro write member
    rcases List.mem_append.mp member with old | new
    · exact own write old
    · exact harmless write new

theorem authority_continues (own : AuthorityAssertion userId store session)
    (permitted : stillChecked userId store session = true)
    (progress : ((identityRequests collate verify).pending store session).progress =
      .next stage writes) :
    AuthorityAssertion userId store ⟨stage, session.locks ++
      ((identityRequests collate verify).pending store session).locks,
      session.writes ++ writes⟩ := by
  obtain ⟨at_, locks, earlier⟩ := session
  have quiet : at_.phase = .other → AuthorityAssertion userId store ⟨stage, locks ++
      ((identityRequests collate verify).pending store ⟨at_, locks, earlier⟩).locks,
      earlier ++ writes⟩ := by
    intro phase
    have harmless := requestStatement_harmless collate verify
      ((identityRequests collate verify).seen store ⟨at_, locks, earlier⟩) phase
    rw [show (requestStatement collate verify _ at_).progress = .next stage writes from
      progress] at harmless
    rw [AuthorityAssertion, phase] at own
    rw [AuthorityAssertion, harmless.2]
    intro write member
    rcases List.mem_append.mp member with old | new
    · exact own write old
    · exact harmless.1 write new
  cases at_ with
  | action point => exact quiet rfl
  | answering answer => cases progress
  | session point =>
      cases point with
      | previousLive issue previous =>
          have alone : earlier = [] := own
          subst alone
          simp only [Requests.pending, identityRequests, requestStatement, sessionStatement,
            failed] at progress
          split at progress
          · cases progress
            exact rfl
          · cases progress
      | insertSession issue =>
          have alone : earlier = [] := own
          subst alone
          simp only [Requests.pending, identityRequests, requestStatement, sessionStatement,
            failed] at progress
          split at progress
          · cases progress
          · cases progress
            refine ⟨List.mem_append_right _ List.mem_cons_self, ?_, [], rfl, ?_⟩
            · intro user
              simpa [stillChecked, user] using permitted
            · intro write member
              cases member
      | insertToken issue =>
          have issuing : Issuing userId store ⟨_, locks, earlier⟩ issue := own
          have inserts : ∀ write ∈ [RequestWrite.insertRefreshToken
              (issue.token.row issue.session.id)], write.harmless = true := by
            intro write member
            rw [List.mem_singleton.mp member]
            rfl
          simp only [Requests.pending, identityRequests, requestStatement, sessionStatement,
            failed] at progress
          split at progress
          · cases progress
          · cases progress
            cases issue.previous with
            | none => exact issuing.more inserts
            | some previous => exact issuing.more inserts
      | revokePrevious issue previous =>
          have issuing : Issuing userId store ⟨_, locks, earlier⟩ issue := own
          cases progress
          refine issuing.more ?_
          intro write member
          rw [List.mem_singleton.mp member]
          rfl
      | commitIssue issue => cases progress
      | updatePassword user passwordHash now =>
          have alone : earlier = [] := own
          subst alone
          simp only [Requests.pending, identityRequests, requestStatement, sessionStatement,
            failed] at progress ⊢
          split at progress
          · cases progress
          · rename_i valid
            cases progress
            rw [if_neg valid]
            exact ⟨List.mem_concat_self, passwordHash, rfl⟩
      | sweepSessions user now =>
          obtain ⟨locked, passwordHash, wrote⟩ := own
          have wrote : earlier = [.setPassword user passwordHash] := wrote
          subst wrote
          cases progress
          refine ⟨List.mem_append_left _ locked, passwordHash, _, now, rfl, ?_⟩
          intro row member own unrevoked
          refine List.mem_map.mpr ⟨row, List.mem_filter.mpr ⟨member, ?_⟩, rfl⟩
          simp [own, unrevoked]
      | commitReset user => cases progress
      | _ => exact quiet rfl

theorem authority_stable (theirs : AuthorityAssertion userId store other)
    (own : AuthorityAssertion userId store session)
    (apart : Apart session other)
    (progress : ((identityRequests collate verify).pending store session).progress =
      .commit stage writes) :
    AuthorityAssertion userId ((identityRequests collate verify).committed store session writes)
      other := by
  obtain ⟨commit, -⟩ := commit_authority own progress
  generalize (identityRequests collate verify).committed store session writes = after at commit
  rw [AuthorityAssertion] at theirs ⊢
  cases phase : other.stage.phase with
  | other | fresh | sweeping =>
      rw [phase] at theirs
      exact theirs
  | issuing issue =>
      rw [phase] at theirs
      -- the shared lock on the user's row keeps his resets off
      refine ⟨theirs.locked, ?_, theirs.writes⟩
      intro mine
      rw [← theirs.checked mine]
      refine commit.resetsOf ?_
      rintro user locked rfl
      have held := theirs.locked
      rw [mine] at held
      exact apart.exclusive locked held
  | swept user =>
      rw [phase] at theirs
      -- and the exclusive one new sessions
      obtain ⟨passwordHash, ids, now, wrote, found⟩ := theirs.writes
      refine ⟨theirs.locked, passwordHash, ids, now, wrote, ?_⟩
      intro later member mine unrevoked
      obtain ⟨row, present, id, same, kept⟩ := commit.back
        (fun held => apart.symm.exclusive theirs.locked held) later member mine unrevoked
      rw [← id]
      exact found row present same kept

abbrev AuthorityGuarded (userId : Uuid) (s : RequestState) : Prop :=
  Transactions.Guarded (Current userId) (AuthorityAssertion userId) s

theorem authorityGuarded_step {s : RequestState} (guarded : AuthorityGuarded userId s)
    (event : Event RequestCall)
    (permitted : Transactions.Permits (stillChecked userId) s event) :
    AuthorityGuarded userId ((identityRequests collate verify).step s event) := by
  refine Requests.guarded_step ?_ ?_ ?_ ?_ guarded event permitted
  · intro store call stage _ opened
    exact authority_idle (.inl (opening_phase opened)) store
  · intro store session stage writes _ own allowed progress
    exact authority_continues own allowed progress
  · intro store session stage writes current own _ progress
    obtain ⟨commit, phase⟩ := commit_authority own progress
    exact ⟨commit.current current, authority_idle phase _⟩
  · intro store session other stage writes _ own theirs apart progress
    refine authority_stable theirs own ?_ progress
    intro held member
    exact apart held (List.mem_append_left _ member)

/-- Along every run in which no reset of the user commits between a check and the
    insert that relies on it, his unrevoked sessions rest on checks made after the
    last reset. -/
theorem password_resets (collate : Collation) (verify : String → String → Bool) (userId : Uuid)
    (store : RequestStore) (current : Current userId store) (events : List (Event RequestCall))
    (along : Along (identityRequests collate verify).step
      (Transactions.Permits (stillChecked userId)) (quiescent store) events) :
    ∀ before after, events = before ++ after →
      Current userId (requestRun collate verify (quiescent store) before).store := by
  intro before after split
  rw [split, along_append] at along
  have guarded : AuthorityGuarded userId (quiescent store) := by
    refine ⟨current, ?_, List.Pairwise.nil⟩
    intro session member
    cases member
  exact (Requests.guarded_run (fun _ event kept permitted =>
    authorityGuarded_step kept event permitted) guarded before along.1).store

def verifiedIdentity : RequestStore :=
  (requestRun asciiCollation samePassword
    (quiescent ⟨identityRun asciiCollation emptyStore
      (workspaceCalls.take 1 ++ [.markVerified 1 15]), [], []⟩)
    [.begin (.createActionToken firstToken 20 20), .advance 0, .advance 0]).store

def ownerLogin (password : String) (id : Uuid) : RequestCall :=
  .login ⟨"owner@candy.example", password, none, ⟨id, 52, 53, 54, 1000, 60, 60⟩⟩

def ownerReset : List (Event RequestCall) :=
  [.begin (.resetPassword 41 "renewed" 50 50), .advance 0, .advance 0, .advance 0, .advance 0,
    .advance 0, .advance 0, .advance 0]

def overtakenLogin : List (Event RequestCall) :=
  [.begin (ownerLogin "hash" 51), .advance 0] ++ ownerReset ++
    [.advance 0, .advance 0, .advance 0, .advance 0, .advance 0]

/-- A login that overlaps the reset keeps a session for the old password. -/
theorem old_password_survives :
    Current 1 verifiedIdentity ∧
    (requestRun asciiCollation samePassword (quiescent verifiedIdentity) overtakenLogin).sessions =
      [] ∧
    (requestRun asciiCollation samePassword (quiescent verifiedIdentity)
      overtakenLogin).store.resetsOf 1 = 1 ∧
    ¬ Current 1 (requestRun asciiCollation samePassword (quiescent verifiedIdentity)
      overtakenLogin).store := by
  refine ⟨?_, by decide +kernel, by decide +kernel, ?_⟩
  · intro session member
    exact fun _ _ => .inl (by decide +kernel)
  · rw [Current]
    decide +kernel

/-- A login with the old password is through before the reset changes it; the login with the
    new one begins before the reset commits and checks after it. -/
def renewedLogin : List (Event RequestCall) :=
  [.begin (.resetPassword 41 "renewed" 50 50), .advance 0, .begin (ownerLogin "hash" 51),
    .advance 0, .advance 0, .advance 1, .advance 1, .advance 0, .advance 0, .advance 0, .advance 0,
    .begin (.login ⟨"owner@candy.example", "renewed", none, ⟨61, 62, 63, 64, 1000, 60, 60⟩⟩),
    .advance 1, .advance 0, .advance 0, .advance 0, .advance 0, .advance 0, .advance 0, .advance 0,
    .advance 0, .advance 0]

theorem renewed_password_checked :
    (requestRun asciiCollation samePassword (quiescent verifiedIdentity) renewedLogin).sessions =
      [] ∧
    (requestRun asciiCollation samePassword (quiescent verifiedIdentity)
      renewedLogin).store.identity.sessions.map (fun session => (session.id, session.revokedAt)) =
      [(51, some 50), (61, none)] ∧
    Current 1 (requestRun asciiCollation samePassword (quiescent verifiedIdentity)
      renewedLogin).store := by
  refine ⟨by decide +kernel, by decide +kernel, ?_⟩
  refine password_resets asciiCollation samePassword 1 verifiedIdentity ?_ renewedLogin
    (by decide +kernel) renewedLogin [] (List.append_nil _).symm
  intro session member
  exact fun _ _ => .inl (by decide +kernel)

end CandyCloud.Identity
