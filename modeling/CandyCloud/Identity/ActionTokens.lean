import CandyCloud.Identity.Requests
import CandyCloud.Foundation.Evolution

/-! # Action tokens under concurrent requests

A consumption locks its token from the first statement on, so a token is consumed once, for its
purpose and in time.
-/

namespace CandyCloud.Identity

open Foundation

variable {collate : Collation} {verify : String → String → Bool}

/-- The columns of a token that are never written again. -/
def ActionTokenRow.identity (row : ActionTokenRow) :
    Uuid × Uuid × ActionTokenPurpose × Hash × Instant :=
  (row.id, row.userId, row.purpose, row.tokenHash, row.expiresAt)

structure ActionTokenRow.Continues (old new : ActionTokenRow) : Prop where
  identity : new.identity = old.identity
  consumed : old.consumedAt ≠ none → new.consumedAt ≠ none

theorem ActionTokenRow.Continues.refl (row : ActionTokenRow) : row.Continues row :=
  ⟨rfl, fun consumed => consumed⟩

theorem ActionTokenRow.Continues.trans (a b c : ActionTokenRow) (first : a.Continues b)
    (second : b.Continues c) : a.Continues c :=
  ⟨second.identity.trans first.identity, fun consumed => second.consumed (first.consumed consumed)⟩

variable {old new : ActionTokenRow} {s : RequestState}

theorem ActionTokenRow.Continues.id (continues : old.Continues new) :
    new.id = old.id :=
  (Prod.mk.inj continues.identity).1

def RequestWrite.plain : RequestWrite → Bool
  | .consumeTokens _ _ | .insertActionToken _ => false
  | _ => true

theorem applyWrite_plain {write : RequestWrite} (plain : write.plain = true)
    (store : RequestStore) :
    (applyWrite store write).identity.actionTokens = store.identity.actionTokens := by
  cases write with
  | consumeTokens | insertActionToken => cases plain
  | _ => rfl

theorem foldl_plain {writes : List RequestWrite} (plain : ∀ write ∈ writes, write.plain = true)
    (store : RequestStore) :
    (writes.foldl applyWrite store).identity.actionTokens = store.identity.actionTokens := by
  induction writes generalizing store with
  | nil => rfl
  | cons write rest ih =>
      rw [List.foldl_cons, ih fun other member => plain other (List.mem_cons_of_mem _ member)]
      exact applyWrite_plain (plain write List.mem_cons_self) store

structure ActionTables (tokens : List ActionTokenRow) : Prop where
  ids : (tokens.map (·.id)).Nodup
  hashes : (tokens.map (·.tokenHash)).Nodup

/-- A consumption has found its token, and nobody else can have it. -/
structure Found (tokens : List ActionTokenRow) (locks : List (RowLock RowName))
    (purpose : ActionTokenPurpose) (tokenHash : Hash) (now : Instant) (userId : Uuid)
    (row : ActionTokenRow) : Prop where
  member : row ∈ tokens
  purpose : row.purpose = purpose
  tokenHash : row.tokenHash = tokenHash
  unconsumed : row.consumedAt = none
  timely : now < row.expiresAt
  user : row.userId = userId
  locked : exclusive (.actionToken row.id) ∈ locks

/-- The tokens a creation had seen are no longer usable. -/
structure Invalidated (tokens : List ActionTokenRow) (known : List Uuid) : Prop where
  listed : ∀ id ∈ known, ∃ row ∈ tokens, row.id = id
  consumed : ∀ row ∈ tokens, row.id ∈ known → row.consumedAt ≠ none

abbrev IdentitySession := Session RowName RequestStage RequestWrite

def ActionAssertion (store : RequestStore) (session : IdentitySession) : Prop :=
  match session.stage with
  | .action (.invalidate _ _) | .action (.select _ _ _ _) | .answering _
  | .action (.commit _ _ _ none _) => session.writes = []
  | .action (.insert _ known) =>
      session.writes = [] ∧ Invalidated store.identity.actionTokens known
  | .action (.mark purpose tokenHash now userId _) =>
      session.writes = [] ∧ ∃ row, Found store.identity.actionTokens session.locks purpose
        tokenHash now userId row
  | .action (.commit purpose tokenHash now (some userId) _) =>
      ∃ row, Found store.identity.actionTokens session.locks purpose tokenHash now userId row ∧
        session.writes = [.consumeTokens [row.id] now]
  | .session _ => ∀ write ∈ session.writes, write.plain = true

/-- What a statement leaves writes no action token. -/
def PlainProgress : Progress RequestStage RequestWrite RequestAnswer → Prop
  | .next stage writes => (∀ write ∈ writes, write.plain = true) ∧ ∃ point, stage = .session point
  | .commit stage writes =>
      (∀ write ∈ writes, write.plain = true) ∧ ∀ point, stage ≠ .action point
  | .answer _ => True

theorem sessionStatement_plain (collate : Collation) (verify : String → String → Bool)
    (store : RequestStore) (stage : SessionStage) :
    PlainProgress (sessionStatement collate verify store stage).progress := by
  cases stage <;> dsimp only [sessionStatement] <;> repeat' split
  all_goals simp [PlainProgress, RequestWrite.plain, failed]

def consumeAt (now : Instant) (row : ActionTokenRow) : ActionTokenRow :=
  { row with consumedAt := some now }

/-- The unconsumed tokens a creation makes unusable. -/
def unusedIds (tokens : List ActionTokenRow) (write : ActionTokenWrite) : List Uuid :=
  ((tokens.filter (ActionTokenRow.issuedTo write.userId write.purpose)).filter
    (·.consumedAt == none)).map (·.id)

inductive TokenCommit (tokens : List ActionTokenRow) (session : IdentitySession) :
    List ActionTokenRow → Prop where
  | kept : TokenCommit tokens session tokens
  | invalidated {write : ActionTokenWrite} {clock : Instant}
      (stage : session.stage = .action (.invalidate write clock)) :
      TokenCommit tokens session
        (updateWhere (fun row => (unusedIds tokens write).contains row.id) (consumeAt clock) tokens)
  | inserted {write : ActionTokenWrite} {known : List Uuid}
      (stage : session.stage = .action (.insert write known))
      (fresh : ∀ old ∈ tokens, write.row.conflict old = false) :
      TokenCommit tokens session (tokens ++ [write.row])
  | consumed {purpose : ActionTokenPurpose} {tokenHash : Hash} {now : Instant} {userId : Uuid}
      {after : AfterToken} {row : ActionTokenRow}
      (stage : session.stage = .action (.commit purpose tokenHash now (some userId) after))
      (found : Found tokens session.locks purpose tokenHash now userId row) :
      TokenCommit tokens session
        (updateWhere (fun other => [row.id].contains other.id) (consumeAt now) tokens)

variable {store : RequestStore} {session other : IdentitySession} {stage : RequestStage}
  {writes : List RequestWrite} {tokens tokens' : List ActionTokenRow}

theorem after_assertion (after : AfterToken) (consumed : Option Uuid) (store : RequestStore) :
    ActionAssertion store ⟨after.stage consumed, [], []⟩ := by
  cases after with
  | answer => exact rfl
  | resetPassword passwordHash now =>
      cases consumed with
      | none => exact rfl
      | some userId =>
          intro write member
          cases member

theorem invalidate_known (tables : ActionTables tokens) (write : ActionTokenWrite)
    (clock : Instant) :
    Invalidated (updateWhere (fun row => (unusedIds tokens write).contains row.id)
        (consumeAt clock) tokens)
      ((tokens.filter (ActionTokenRow.issuedTo write.userId write.purpose)).map (·.id)) := by
  constructor
  · intro id listed
    obtain ⟨row, member, named⟩ := List.mem_map.mp listed
    refine ⟨_, mem_updateWhere.mpr ⟨row, List.mem_of_mem_filter member, rfl⟩, ?_⟩
    split
    · exact named
    · exact named
  · intro row member known
    obtain ⟨old, present, same⟩ := mem_updateWhere.mp member
    have named : row.id = old.id := by
      rw [← same]
      split
      · rfl
      · rfl
    obtain ⟨own, listed, equal⟩ := List.mem_map.mp known
    obtain ⟨stored, mine⟩ := List.mem_filter.mp listed
    rw [eq_of_key tables.ids stored present (equal.trans named)] at listed
    rw [← same]
    split
    · exact Option.some_ne_none clock
    · rename_i unselected
      intro unconsumed
      refine unselected (List.contains_iff_mem.mpr (List.mem_map.mpr ⟨old, ?_, rfl⟩))
      exact List.mem_filter.mpr ⟨listed, beq_iff_eq.mpr unconsumed⟩

/-- What a commit does to the tokens, and what its request has seen after it. -/
theorem action_commits (tables : ActionTables store.identity.actionTokens)
    (own : ActionAssertion store session)
    (progress : ((identityRequests collate verify).pending store session).progress =
      .commit stage writes) :
    TokenCommit store.identity.actionTokens session
        ((identityRequests collate verify).committed store session writes).identity.actionTokens ∧
      ActionAssertion ((identityRequests collate verify).committed store session writes)
        ⟨stage, [], []⟩ := by
  obtain ⟨at_, locks, earlier⟩ := session
  cases at_ with
  | answering answer => cases progress
  | session point =>
      have plain := sessionStatement_plain collate verify
        ((identityRequests collate verify).seen store ⟨.session point, locks, earlier⟩) point
      rw [show (sessionStatement collate verify _ point).progress = .commit stage writes from
        progress] at plain
      constructor
      · rw [Requests.committed, show (identityRequests collate verify).apply = applyWrite from rfl,
          foldl_plain plain.1, Requests.seen,
          show (identityRequests collate verify).apply = applyWrite from rfl, foldl_plain own]
        exact .kept
      · cases stage with
        | action later => exact absurd rfl (plain.2 later)
        | answering answer => exact rfl
        | session later =>
            intro write member
            cases member
  | action point =>
      cases point with
      | select purpose tokenHash now after =>
          have alone : earlier = [] := own
          subst alone
          simp only [Requests.pending, Requests.seen, identityRequests, requestStatement,
            actionStatement, List.foldl_nil] at progress
          split at progress
          · cases progress
          · cases progress
      | mark purpose tokenHash now userId after => cases progress
      | invalidate write clock =>
          have alone : earlier = [] := own
          subst alone
          cases progress
          exact ⟨.invalidated rfl, rfl, invalidate_known tables write clock⟩
      | insert write known =>
          obtain ⟨alone, -⟩ := own
          have alone : earlier = [] := alone
          subst alone
          simp only [Requests.pending, Requests.seen, identityRequests, requestStatement,
            actionStatement, List.foldl_nil] at progress
          split at progress
          · cases progress
          · rename_i free
            cases progress
            simp only [Bool.or_eq_true, List.any_eq_true, not_or, not_exists, not_and,
              Bool.not_eq_true] at free
            exact ⟨.inserted rfl free.2, rfl⟩
      | commit purpose tokenHash now consumed after =>
          cases progress
          refine ⟨?_, after_assertion after consumed _⟩
          cases consumed with
          | none =>
              have alone : earlier = [] := own
              subst alone
              exact .kept
          | some userId =>
              obtain ⟨row, found, wrote⟩ := own
              have wrote : earlier = [.consumeTokens [row.id] now] := wrote
              subst wrote
              exact .consumed rfl found

theorem TokenCommit.evolves (commit : TokenCommit tokens session tokens') :
    Evolves ActionTokenRow.Continues tokens tokens' := by
  have within : ∀ (now : Instant) (row : ActionTokenRow), row.Continues (consumeAt now row) :=
    fun now row => ⟨rfl, fun _ => Option.some_ne_none now⟩
  cases commit with
  | kept => exact Evolves.refl ActionTokenRow.Continues.refl _
  | invalidated stage =>
      exact Evolves.updated ActionTokenRow.Continues.refl (fun row _ => within _ row) _
  | inserted stage fresh => exact Evolves.append ActionTokenRow.Continues.refl _ _
  | consumed stage found =>
      exact Evolves.updated ActionTokenRow.Continues.refl (fun row _ => within _ row) _

theorem TokenCommit.tables (commit : TokenCommit tokens session tokens')
    (tables : ActionTables tokens) : ActionTables tokens' := by
  have kept : ∀ (selected : ActionTokenRow → Bool) (now : Instant),
      ActionTables (updateWhere selected (consumeAt now) tokens) := by
    intro selected now
    have ids : ∀ row : ActionTokenRow, (consumeAt now row).id = row.id := fun _ => rfl
    have hashes : ∀ row : ActionTokenRow, (consumeAt now row).tokenHash = row.tokenHash :=
      fun _ => rfl
    constructor
    · rw [map_updateWhere ids]
      exact tables.ids
    · rw [map_updateWhere hashes]
      exact tables.hashes
  cases commit with
  | kept => exact tables
  | invalidated stage => exact kept _ _
  | inserted stage fresh =>
      have apart : ∀ old ∈ tokens, _ := fun old member => by
        have free := fresh old member
        rw [ActionTokenRow.conflict, Bool.or_eq_false_iff, beq_eq_false_iff_ne,
          beq_eq_false_iff_ne] at free
        exact free
      exact ⟨nodup_concat_key tables.ids fun old member => (apart old member).1,
        nodup_concat_key tables.hashes fun old member => (apart old member).2⟩
  | consumed stage found => exact kept _ _

theorem Invalidated.evolve {known : List Uuid} (invalidated : Invalidated tokens known)
    (evolves : Evolves ActionTokenRow.Continues tokens tokens') (tables : ActionTables tokens') :
    Invalidated tokens' known := by
  have back : ∀ id ∈ known, ∃ row ∈ tokens, row.id = id ∧
      ∃ later ∈ tokens', later.id = id ∧ row.Continues later := by
    intro id member
    obtain ⟨row, present, named⟩ := invalidated.listed id member
    obtain ⟨later, listed, continues⟩ := evolves.mem present
    exact ⟨row, present, named, later, listed, continues.id.trans named, continues⟩
  constructor
  · intro id member
    obtain ⟨-, -, -, later, listed, named, -⟩ := back id member
    exact ⟨later, listed, named⟩
  · intro row member own
    obtain ⟨old, present, named, later, listed, same, continues⟩ := back row.id own
    rw [eq_of_key tables.ids member listed same.symm]
    exact continues.consumed (invalidated.consumed old present (named ▸ own))

theorem Found.stable {purpose : ActionTokenPurpose} {tokenHash : Hash} {now : Instant}
    {userId : Uuid} {row : ActionTokenRow}
    (found : Found store.identity.actionTokens other.locks purpose tokenHash now userId row)
    (own : ActionAssertion store session)
    (apart : Apart ⟨session.stage, session.locks ++
      ((identityRequests collate verify).pending store session).locks, session.writes⟩ other)
    (commit : TokenCommit store.identity.actionTokens session tokens') :
    Found tokens' other.locks purpose tokenHash now userId row := by
  have kept : ∀ {ids : List Uuid} {at_ : Instant}, (∀ id ∈ ids,
      exclusive (.actionToken id) ∈ session.locks ++
        ((identityRequests collate verify).pending store session).locks) →
      row ∈ updateWhere (fun other => ids.contains other.id) (consumeAt at_)
        store.identity.actionTokens := by
    intro ids at_ locked
    have unselected : ids.contains row.id = false := by
      rw [Bool.eq_false_iff]
      intro selected
      exact apart.exclusive (locked row.id (List.contains_iff_mem.mp selected)) found.locked
    exact mem_updateWhere.mpr ⟨row, found.member, by rw [unselected]; rfl⟩
  have member : row ∈ tokens' := by
    cases commit with
    | kept => exact found.member
    | @invalidated write clock stage =>
        refine kept ?_
        obtain ⟨point, locks, writes⟩ := session
        have point : point = .action (.invalidate write clock) := stage
        subst point
        have alone : writes = [] := own
        subst alone
        intro id listed
        refine List.mem_append_right _ (List.mem_map.mpr ⟨id, ?_, rfl⟩)
        exact listed
    | inserted stage fresh => exact List.mem_append_left _ found.member
    | consumed stage mine =>
        refine kept ?_
        intro id listed
        rw [List.mem_singleton.mp listed]
        exact List.mem_append_left _ mine.locked
  exact ⟨member, found.purpose, found.tokenHash, found.unconsumed, found.timely, found.user,
    found.locked⟩

theorem action_stable (tables : ActionTables store.identity.actionTokens)
    (own : ActionAssertion store session) (theirs : ActionAssertion store other)
    (apart : Apart ⟨session.stage, session.locks ++
      ((identityRequests collate verify).pending store session).locks, session.writes⟩ other)
    (progress : ((identityRequests collate verify).pending store session).progress =
      .commit stage writes) :
    ActionAssertion ((identityRequests collate verify).committed store session writes) other := by
  obtain ⟨commit, -⟩ := action_commits tables own progress
  obtain ⟨at_, locks, wrote⟩ := other
  cases at_ with
  | answering answer => exact theirs
  | session point => exact theirs
  | action point =>
      cases point with
      | invalidate write clock => exact theirs
      | select purpose tokenHash now after => exact theirs
      | insert write known =>
          exact ⟨theirs.1, theirs.2.evolve commit.evolves (commit.tables tables)⟩
      | mark purpose tokenHash now userId after =>
          obtain ⟨alone, row, found⟩ := theirs
          exact ⟨alone, row, found.stable own apart commit⟩
      | commit purpose tokenHash now consumed after =>
          cases consumed with
          | none => exact theirs
          | some userId =>
              obtain ⟨row, found, same⟩ := theirs
              exact ⟨row, found.stable own apart commit, same⟩

theorem action_opens {call : RequestCall} (opened : requestOpening call = .ok stage) :
    ActionAssertion store ⟨stage, [], []⟩ := by
  cases call with
  | createActionToken write clock now =>
      simp only [requestOpening] at opened
      split at opened
      · cases opened
      · cases opened
        rfl
  | refresh request =>
      simp only [requestOpening] at opened
      split at opened
      · cases opened
      · cases opened
        intro write member
        cases member
  | consumeActionToken | resetPassword =>
      cases opened
      rfl
  | login | switchContext =>
      cases opened
      intro write member
      cases member

theorem action_continues (tables : ActionTables store.identity.actionTokens)
    (own : ActionAssertion store session)
    (progress : ((identityRequests collate verify).pending store session).progress =
      .next stage writes) :
    ActionAssertion store ⟨stage, session.locks ++
      ((identityRequests collate verify).pending store session).locks,
      session.writes ++ writes⟩ := by
  obtain ⟨at_, locks, earlier⟩ := session
  cases at_ with
  | answering answer => cases progress
  | session point =>
      have plain := sessionStatement_plain collate verify
        ((identityRequests collate verify).seen store ⟨.session point, locks, earlier⟩) point
      rw [show (sessionStatement collate verify _ point).progress = .next stage writes from
        progress] at plain
      obtain ⟨plain, later, rfl⟩ := plain
      intro write member
      rcases List.mem_append.mp member with old | new
      · exact own write old
      · exact plain write new
  | action point =>
      cases point with
      | invalidate write clock => cases progress
      | commit purpose tokenHash now consumed after => cases progress
      | insert write known =>
          simp only [Requests.pending, identityRequests, requestStatement, actionStatement,
            failed] at progress
          split at progress
          · cases progress
          · cases progress
      | select purpose tokenHash now after =>
          have alone : earlier = [] := own
          subst alone
          simp only [Requests.pending, Requests.seen, identityRequests, requestStatement,
            actionStatement, List.foldl_nil] at progress ⊢
          split at progress
          · cases progress
            rfl
          · rename_i row found
            cases progress
            have tested := List.find?_some found
            simp only [Bool.and_eq_true, beq_iff_eq, decide_eq_true_eq] at tested
            refine ⟨rfl, row, List.mem_of_find?_eq_some found, tested.1.1.1, tested.1.1.2,
              tested.1.2, tested.2, rfl, ?_⟩
            exact List.mem_concat_self
      | mark purpose tokenHash now userId after =>
          obtain ⟨alone, row, found⟩ := own
          have alone : earlier = [] := alone
          subst alone
          have one : store.identity.actionTokens.filter (fun row => row.purpose == purpose &&
              row.tokenHash == tokenHash && row.consumedAt == none) = [row] := by
            refine filter_of_key tables.hashes found.member ?_
            intro candidate member
            simp only [Bool.and_eq_true, beq_iff_eq]
            constructor
            · intro both
              exact both.1.2.trans found.tokenHash.symm
            · intro same
              rw [eq_of_key tables.hashes member found.member same]
              exact ⟨⟨found.purpose, found.tokenHash⟩, found.unconsumed⟩
          cases progress
          refine ⟨row, ⟨found.member, found.purpose, found.tokenHash, found.unconsumed,
            found.timely, found.user, List.mem_append_left _ found.locked⟩, ?_⟩
          simp only [Requests.seen, identityRequests, List.foldl_nil, List.nil_append, one,
            List.map_cons, List.map_nil]

abbrev ActionGuarded (s : RequestState) : Prop :=
  Transactions.Guarded (fun store => ActionTables store.identity.actionTokens) ActionAssertion s

theorem actionGuarded_step (guarded : ActionGuarded s) (event : Event RequestCall) :
    ActionGuarded ((identityRequests collate verify).step s event) := by
  refine Requests.guarded_step ?_ ?_ ?_ ?_ guarded event
    (Transactions.permits_all s event)
  · exact fun store call stage _ opened => action_opens opened
  · exact fun store session stage writes tables own _ progress =>
      action_continues tables own progress
  · intro store session stage writes tables own _ progress
    obtain ⟨commit, assertion⟩ := action_commits tables own progress
    exact ⟨commit.tables tables, assertion⟩
  · exact fun store session other stage writes tables own theirs apart progress =>
      action_stable tables own theirs apart progress

theorem actionGuarded_run (guarded : ActionGuarded s) (events : List (Event RequestCall)) :
    ActionGuarded (run (identityRequests collate verify).step s events) :=
  run_invariant (P := ActionGuarded) (fun _ event kept => actionGuarded_step kept event) guarded
    events

end CandyCloud.Identity
