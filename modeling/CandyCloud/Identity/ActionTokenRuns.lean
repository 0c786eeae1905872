import CandyCloud.Identity.ActionTokens
import CandyCloud.Identity.Membership

/-! # Action tokens over whole runs

Consumptions are in order along every run of statements.
-/

namespace CandyCloud.Identity

open Foundation

variable {collate : Collation} {verify : String → String → Bool} {s : RequestState}

abbrev requestRun (collate : Collation) (verify : String → String → Bool) (start : RequestState)
    (events : List (Event RequestCall)) : RequestState :=
  run (identityRequests collate verify).step start events

def quiescent (store : RequestStore) : RequestState := ⟨store, [], []⟩

structure Consumption where
  token : ActionTokenRow
  purpose : ActionTokenPurpose
  now : Instant
  userId : Uuid
deriving DecidableEq, Repr

def consumption (s : RequestState) : Event RequestCall → Option Consumption
  | .begin _ | .abort _ => none
  | .advance position =>
      match s.sessions[position]? with
      | some ⟨.action (.commit purpose tokenHash now (some userId) _), _, _⟩ =>
          (s.store.identity.actionTokens.find? (·.tokenHash == tokenHash)).map
            (⟨·, purpose, now, userId⟩)
      | _ => none

/-- What a consumption had found and leaves behind. -/
structure Consumes (tokens : List ActionTokenRow) (consumed : Consumption)
    (tokens' : List ActionTokenRow) : Prop where
  member : consumed.token ∈ tokens
  purpose : consumed.token.purpose = consumed.purpose
  unconsumed : consumed.token.consumedAt = none
  timely : consumed.now < consumed.token.expiresAt
  user : consumed.token.userId = consumed.userId
  after : tokens' = updateWhere (fun other => [consumed.token.id].contains other.id)
    (consumeAt consumed.now) tokens

theorem blocked_nil (others : List IdentitySession) : blocked ([] : List (RowLock RowName)) others =
    false := by
  simp [blocked]

variable {consumed : Consumption} {tokens tokens' : List ActionTokenRow} {row : ActionTokenRow}

theorem consumption_consumes (collate : Collation) (verify : String → String → Bool)
    (guarded : ActionGuarded s) {event : Event RequestCall}
    (happens : consumption s event = some consumed) :
    Consumes s.store.identity.actionTokens consumed
      ((identityRequests collate verify).step s event).store.identity.actionTokens := by
  cases event with
  | begin call => cases happens
  | abort position => cases happens
  | advance position =>
      simp only [consumption] at happens
      split at happens
      · rename_i purpose tokenHash now userId after locks writes located
        obtain ⟨row, found, wrote⟩ := guarded.sessions _ (List.mem_of_getElem? located)
        have wrote : writes = [.consumeTokens [row.id] now] := wrote
        have named : s.store.identity.actionTokens.find? (·.tokenHash == tokenHash) = some row :=
          find_of_key guarded.store.hashes found.member fun candidate => by
            rw [found.tokenHash, beq_iff_eq]
        rw [named] at happens
        cases happens
        refine ⟨found.member, found.purpose, found.unconsumed, found.timely, found.user, ?_⟩
        subst wrote
        simp only [Requests.step, located, Requests.advance, Requests.pending, identityRequests,
          requestStatement, actionStatement, blocked_nil, Bool.false_eq_true, if_false]
        rfl
      · cases happens

theorem Consumes.spent (consumes : Consumes tokens consumed tokens') :
    ∃ row ∈ tokens', row.id = consumed.token.id ∧ row.consumedAt ≠ none := by
  refine ⟨consumeAt consumed.now consumed.token, ?_, rfl, Option.some_ne_none _⟩
  rw [consumes.after]
  refine mem_updateWhere.mpr ⟨consumed.token, consumes.member, ?_⟩
  simp

theorem tokens_step (guarded : ActionGuarded s) (event : Event RequestCall) :
    Evolves ActionTokenRow.Continues s.store.identity.actionTokens
      ((identityRequests collate verify).step s event).store.identity.actionTokens := by
  obtain same | ⟨position, session, stage, writes, -, located, progress, after⟩ :=
    Requests.step_store (identityRequests collate verify) s event
  · rw [same]
    exact Evolves.refl ActionTokenRow.Continues.refl _
  · rw [after]
    exact (action_commits guarded.store (guarded.sessions session (List.mem_of_getElem? located))
      progress).1.evolves

theorem tokens_run (guarded : ActionGuarded s) (events : List (Event RequestCall)) :
    Evolves ActionTokenRow.Continues s.store.identity.actionTokens
      (requestRun collate verify s events).store.identity.actionTokens := by
  induction events generalizing s with
  | nil => exact Evolves.refl ActionTokenRow.Continues.refl _
  | cons event rest ih =>
      exact (tokens_step guarded event).trans ActionTokenRow.Continues.trans
        (ih (actionGuarded_step guarded event))

theorem consumed_run (collate : Collation) (verify : String → String → Bool)
    (guarded : ActionGuarded s) (events : List (Event RequestCall))
    (member : row ∈ s.store.identity.actionTokens) (consumed : row.consumedAt ≠ none)
    {later : ActionTokenRow}
    (listed : later ∈ (requestRun collate verify s events).store.identity.actionTokens)
    (same : later.id = row.id) : later.consumedAt ≠ none := by
  obtain ⟨kept, present, continues⟩ := (tokens_run guarded events).mem member
  rw [eq_of_key (actionGuarded_run guarded events).store.ids listed present
    (same.trans continues.id.symm)]
  exact continues.consumed consumed

def ActionTokenRow.usable (now : Instant) (row : ActionTokenRow) : Bool :=
  row.consumedAt == none && decide (now < row.expiresAt)

/-- At most one token of each user and purpose can still be used. -/
def OneUsable (tokens : List ActionTokenRow) : Prop :=
  ∀ userId purpose, (tokens.filter fun row =>
    row.issuedTo userId purpose && row.consumedAt == none).length ≤ 1

/-- A creation inserts its token when those inserted since its first statement,
    for the same user and purpose, have been consumed. -/
def uncontested (store : RequestStore) (session : IdentitySession) : Bool :=
  match session.stage with
  | .action (.insert write known) =>
      store.identity.actionTokens.all fun row =>
        !(row.issuedTo write.userId write.purpose && row.consumedAt == none) ||
          known.contains row.id
  | _ => true

theorem oneUsable_consumed (one : OneUsable tokens) (selected : ActionTokenRow → Bool)
    (now : Instant) :
    OneUsable (updateWhere selected (consumeAt now) tokens) := by
  intro userId purpose
  rw [filter_updateWhere_removed]
  · refine Nat.le_trans (List.Sublist.length_le ?_) (one userId purpose)
    apply List.monotone_filter_right
    intro row both
    exact (Bool.and_eq_true_iff.mp both).1
  · intro row _
    simp [consumeAt]

theorem oneUsable_step (guarded : ActionGuarded s) (one : OneUsable s.store.identity.actionTokens)
    (event : Event RequestCall) (permitted : Transactions.Permits uncontested s event) :
    OneUsable ((identityRequests collate verify).step s event).store.identity.actionTokens := by
  obtain same | ⟨position, session, stage, writes, rfl, located, progress, after⟩ :=
    Requests.step_store (identityRequests collate verify) s event
  · rw [same]
    exact one
  · have own := guarded.sessions session (List.mem_of_getElem? located)
    have allowed : uncontested s.store session = true := by
      simpa [Transactions.Permits, located] using permitted
    rw [after]
    obtain ⟨commit, -⟩ := action_commits guarded.store own progress
    generalize ((identityRequests collate verify).committed s.store session
      writes).identity.actionTokens = tokens at commit
    cases commit with
    | kept => exact one
    | invalidated point => exact oneUsable_consumed one _ _
    | consumed point found => exact oneUsable_consumed one _ _
    | @inserted write known point fresh =>
        intro userId purpose
        rw [List.filter_append, List.length_append, List.filter_singleton]
        cases mine : write.row.issuedTo userId purpose with
        | false => exact one userId purpose
        | true =>
            have none : s.store.identity.actionTokens.filter (fun row =>
                row.issuedTo userId purpose && row.consumedAt == none) = [] := by
              rw [List.filter_eq_nil_iff]
              intro row member both
              simp only [ActionTokenRow.issuedTo, ActionTokenWrite.row, Bool.and_eq_true,
                beq_iff_eq] at mine
              obtain ⟨rfl, rfl⟩ := mine
              simp only [ActionAssertion, point] at own
              simp only [uncontested, point, List.all_eq_true] at allowed
              have listed := allowed row member
              rw [both, Bool.not_true, Bool.false_or, List.contains_iff_mem] at listed
              exact own.2.consumed row member listed
                (beq_iff_eq.mp (Bool.and_eq_true_iff.mp both).2)
            rw [none]
            exact Nat.le_refl 1

/-- Action tokens over the run `events` from `start`. -/
structure ActionTokenLaw (collate : Collation) (verify : String → String → Bool)
    (start : RequestState) (events : List (Event RequestCall)) : Prop where
  /-- What is consumed is unconsumed and unexpired, and for the purpose. -/
  consumed : ∀ before event after, events = before ++ event :: after → ∀ consumed,
    consumption (requestRun collate verify start before) event = some consumed →
    Consumes (requestRun collate verify start before).store.identity.actionTokens consumed
      (requestRun collate verify start (before ++ [event])).store.identity.actionTokens
  once : ∀ before event between event' after,
    events = before ++ event :: between ++ event' :: after → ∀ consumed consumed',
    consumption (requestRun collate verify start before) event = some consumed →
    consumption (requestRun collate verify start (before ++ event :: between)) event' =
      some consumed' → consumed'.token.id ≠ consumed.token.id
  oneUsable : ∀ before after, events = before ++ after → ∀ userId purpose now,
    ((requestRun collate verify start before).store.identity.actionTokens.filter fun row =>
      row.issuedTo userId purpose && row.usable now).length ≤ 1
  /-- A consumption ends every token issued before it. -/
  superseded : ∀ before event after, events = before ++ event :: after → ∀ consumed,
    consumption (requestRun collate verify start before) event = some consumed →
    ∀ row ∈ (requestRun collate verify start before).store.identity.actionTokens,
      row.issuedTo consumed.userId consumed.purpose = true →
      ∀ later ∈ (requestRun collate verify start events).store.identity.actionTokens,
        later.id = row.id → ∀ now, later.usable now = false

theorem oneUsable_now (one : OneUsable tokens) (userId : Uuid) (purpose : ActionTokenPurpose)
    (now : Instant) :
    (tokens.filter fun row => row.issuedTo userId purpose && row.usable now).length ≤ 1 := by
  refine Nat.le_trans (List.Sublist.length_le ?_) (one userId purpose)
  apply List.monotone_filter_right
  intro row both
  simp only [ActionTokenRow.usable, Bool.and_eq_true] at both ⊢
  exact ⟨both.1, both.2.1⟩

theorem Consumes.superseded (consumes : Consumes tokens consumed tokens') (one : OneUsable tokens)
    (member : row ∈ tokens) (issued : row.issuedTo consumed.userId consumed.purpose = true) :
    ∃ spent ∈ tokens', spent.id = row.id ∧ spent.consumedAt ≠ none := by
  cases unconsumed : row.consumedAt with
  | some instant =>
      rw [consumes.after]
      refine ⟨_, mem_updateWhere.mpr ⟨row, member, rfl⟩, ?_⟩
      split
      · exact ⟨rfl, Option.some_ne_none _⟩
      · exact ⟨rfl, by rw [unconsumed]; exact Option.some_ne_none _⟩
  | none =>
      have wanted : ∀ other ∈ tokens, other.issuedTo consumed.userId consumed.purpose = true →
          other.consumedAt = none → other ∈ tokens.filter fun row =>
            row.issuedTo consumed.userId consumed.purpose && row.consumedAt == none := by
        intro other present own open_
        exact List.mem_filter.mpr ⟨present, by rw [own, open_]; rfl⟩
      have token : consumed.token.issuedTo consumed.userId consumed.purpose = true := by
        rw [ActionTokenRow.issuedTo, consumes.user, consumes.purpose, beq_self_eq_true,
          beq_self_eq_true]
        rfl
      have both := wanted row member issued unconsumed
      have mine := wanted consumed.token consumes.member token consumes.unconsumed
      have single := one consumed.userId consumed.purpose
      have same : row = consumed.token := by
        generalize tokens.filter (fun row =>
          row.issuedTo consumed.userId consumed.purpose && row.consumedAt == none) = open_ at *
        cases open_ with
        | nil => cases both
        | cons only rest =>
            obtain rfl := List.length_eq_zero_iff.mp (Nat.le_zero.mp (Nat.le_of_succ_le_succ single))
            exact (List.mem_singleton.mp both).trans (List.mem_singleton.mp mine).symm
      rw [same]
      exact consumes.spent

/-- Along every run whose creations are uncontested, one token a user and a
    purpose is usable, and a consumption ends it and all before it. -/
theorem action_tokens (collate : Collation) (verify : String → String → Bool)
    (store : RequestStore) (tables : ActionTables store.identity.actionTokens)
    (one : OneUsable store.identity.actionTokens) (events : List (Event RequestCall))
    (along : Along (identityRequests collate verify).step (Transactions.Permits uncontested)
      (quiescent store) events) :
    ActionTokenLaw collate verify (quiescent store) events := by
  have guarded : ActionGuarded (quiescent store) := by
    refine ⟨tables, ?_, List.Pairwise.nil⟩
    intro session member
    cases member
  have reached : ∀ events, ActionGuarded (requestRun collate verify (quiescent store) events) :=
    fun events => actionGuarded_run guarded events
  have usable : ∀ before after, events = before ++ after →
      OneUsable (requestRun collate verify (quiescent store) before).store.identity.actionTokens := by
    intro before after split
    rw [split, along_append] at along
    refine (run_invariant_along (P := fun s => ActionGuarded s ∧
      OneUsable s.store.identity.actionTokens) ?_ ⟨guarded, one⟩ before along.1).2
    intro s event ⟨kept, single⟩ permitted
    exact ⟨actionGuarded_step kept event, oneUsable_step kept single event permitted⟩
  have happened : ∀ before event consumed,
      consumption (requestRun collate verify (quiescent store) before) event = some consumed →
      Consumes (requestRun collate verify (quiescent store) before).store.identity.actionTokens
        consumed (requestRun collate verify (quiescent store)
          (before ++ [event])).store.identity.actionTokens := by
    intro before event consumed happens
    rw [requestRun, requestRun, run_concat]
    exact consumption_consumes collate verify (reached before) happens
  constructor
  · exact fun before event after _ consumed happens => happened before event consumed happens
  · intro before event between event' after _ consumed consumed' first second same
    obtain ⟨row, member, named, spent⟩ := (happened before event consumed first).spent
    have later := happened (before ++ event :: between) event' consumed' second
    refine consumed_run collate verify (reached (before ++ [event])) between member spent ?_
      (same.trans named.symm) later.unconsumed
    rw [requestRun, ← run_append, List.append_assoc]
    exact later.member
  · intro before after split userId purpose now
    exact oneUsable_now (usable before after split) userId purpose now
  · intro before event after split consumed happens row member issued later listed same now
    obtain ⟨spent, present, named, gone⟩ := (happened before event consumed happens).superseded
      (usable before (event :: after) split) member issued
    have stored : later ∈ (requestRun collate verify
        (requestRun collate verify (quiescent store) (before ++ [event]))
        after).store.identity.actionTokens := by
      rw [requestRun, ← run_append, List.append_assoc]
      rw [split] at listed
      exact listed
    have kept := consumed_run collate verify (reached (before ++ [event])) after present gone stored
      (same.trans named.symm)
    rw [ActionTokenRow.usable, beq_false_of_ne kept, Bool.false_and]

def tokenStore : RequestStore :=
  ⟨identityRun asciiCollation emptyStore (workspaceCalls.take 1), [], []⟩

def samePassword (passwordHash password : String) : Bool := passwordHash == password

def firstToken : ActionTokenWrite := ⟨31, 1, .resetPassword, 41, 1000⟩

def secondToken : ActionTokenWrite := ⟨32, 1, .resetPassword, 42, 1000⟩

def overlappingEvents : List (Event RequestCall) :=
  [.begin (.createActionToken firstToken 20 20), .begin (.createActionToken secondToken 20 20),
    .advance 0, .advance 1, .advance 0, .advance 1]

def consumingEvents : List (Event RequestCall) :=
  [.begin (.consumeActionToken .resetPassword 41 50), .advance 0, .advance 0, .advance 0]

/-- Two tokens are usable, and the second is so after the first was consumed. -/
theorem overlapping_tokens :
    ((requestRun asciiCollation samePassword (quiescent tokenStore)
        overlappingEvents).store.identity.actionTokens.filter fun row =>
      row.issuedTo 1 .resetPassword && row.usable 50).length = 2 ∧
    (consumption (requestRun asciiCollation samePassword (quiescent tokenStore)
        (overlappingEvents ++ consumingEvents.take 3)) (.advance 0)).isSome = true ∧
    ∃ row ∈ (requestRun asciiCollation samePassword (quiescent tokenStore)
        (overlappingEvents ++ consumingEvents)).store.identity.actionTokens,
      row.id = 32 ∧ row.usable 50 = true := by
  refine ⟨by decide +kernel, by decide +kernel, ?_⟩
  exact ⟨secondToken.row, by decide +kernel, rfl, by decide⟩

def orderedEvents : List (Event RequestCall) :=
  [.begin (.createActionToken firstToken 20 20), .advance 0, .advance 0,
    .begin (.createActionToken secondToken 30 30), .advance 0, .advance 0,
    .begin (.consumeActionToken .resetPassword 42 50), .advance 0, .advance 0, .advance 0]

theorem ordered_tokens :
    (∃ row ∈ (requestRun asciiCollation samePassword (quiescent tokenStore)
        orderedEvents).store.identity.actionTokens, row.id = 31) ∧
    ∀ later ∈ (requestRun asciiCollation samePassword (quiescent tokenStore)
        orderedEvents).store.identity.actionTokens, later.id = 31 → ∀ now,
      later.usable now = false := by
  refine ⟨by decide +kernel, ?_⟩
  have law := action_tokens asciiCollation samePassword tokenStore
    ⟨by decide +kernel, by decide +kernel⟩ (fun _ _ => Nat.zero_le 1) orderedEvents
    (by decide +kernel)
  exact law.superseded (orderedEvents.take 9) (.advance 0) [] rfl
    ⟨secondToken.row, .resetPassword, 50, 1⟩ (by decide +kernel)
    ⟨31, 1, .resetPassword, 41, 1000, some 30⟩ (by decide +kernel) (by decide)

end CandyCloud.Identity
