import CandyCloud.Identity.Membership
import CandyCloud.Foundation.Chain
import CandyCloud.Foundation.Evolution

/-! # The tokens of a session

The tokens of a session form a chain whose last link alone is unused. A session
never loses a revocation, so what it stood for ends with it.
-/

namespace CandyCloud.Identity

open Foundation

/-- The columns of a session that are never written again. -/
def SessionRow.identity (row : SessionRow) : Uuid × Uuid × Uuid × Uuid × Uuid × Instant :=
  (row.id, row.userId, row.familyId, row.organizationId, row.tenantId, row.expiresAt)

/-- A session keeps who it is for and its revocation. -/
structure SessionRow.Continues (old new : SessionRow) : Prop where
  identity : new.identity = old.identity
  revoked : old.revokedAt ≠ none → new.revokedAt = old.revokedAt

theorem SessionRow.Continues.refl (row : SessionRow) : row.Continues row := ⟨rfl, fun _ => rfl⟩

theorem SessionRow.Continues.trans (a b c : SessionRow) (first : a.Continues b)
    (second : b.Continues c) : a.Continues c := by
  refine ⟨second.identity.trans first.identity, ?_⟩
  intro revoked
  have kept := first.revoked revoked
  rw [← kept]
  exact second.revoked (kept.symm ▸ revoked)

theorem SessionRow.continues_revoke (now : Instant) (reason : RevokeReason) (row : SessionRow) :
    row.Continues (row.revoke now reason) := by
  refine ⟨rfl, ?_⟩
  intro revoked
  cases marked : row.revokedAt with
  | none => exact absurd marked revoked
  | some instant => simp [SessionRow.revoke, marked]

theorem SessionRow.continues_seen (now : Instant) (row : SessionRow) :
    row.Continues { row with lastSeenAt := now } :=
  ⟨rfl, fun _ => rfl⟩

variable {old new session : SessionRow} {token : RefreshTokenRow} {now : Instant}

theorem SessionRow.Continues.id (continues : old.Continues new) :
    new.id = old.id :=
  (Prod.mk.inj continues.identity).1

theorem SessionRow.Continues.expiresAt (continues : old.Continues new) :
    new.expiresAt = old.expiresAt := by
  have same := continues.identity
  simp only [SessionRow.identity, Prod.mk.injEq] at same
  exact same.2.2.2.2.2

/-- A used token never changes, an unused one only by its use. -/
structure RefreshTokenRow.Continues (old new : RefreshTokenRow) : Prop where
  id : new.id = old.id
  sessionId : new.sessionId = old.sessionId
  used : old.usedAt ≠ none → new = old

theorem RefreshTokenRow.Continues.refl (row : RefreshTokenRow) : row.Continues row :=
  ⟨rfl, rfl, fun _ => rfl⟩

theorem RefreshTokenRow.Continues.trans (a b c : RefreshTokenRow) (first : a.Continues b)
    (second : b.Continues c) : a.Continues c := by
  refine ⟨second.id.trans first.id, second.sessionId.trans first.sessionId, ?_⟩
  intro used
  have same := first.used used
  rw [same] at second
  exact second.used used

variable {collate : Collation} {start store store' : IdentityStore} {call : IdentityCall}
  {answer : IdentityAnswer}

theorem updateSessions_evolves {selected : SessionRow → Bool} {set : SessionRow → SessionRow}
    (within : ∀ row : SessionRow, row.Continues (set row)) (sessions : List SessionRow) :
    Evolves SessionRow.Continues sessions (updateWhere selected set sessions) :=
  Evolves.updated SessionRow.Continues.refl (fun row _ => within row) sessions

theorem IdentityChange.sessionsEvolve (change : IdentityChange collate store call answer store') :
    Evolves SessionRow.Continues store.sessions store'.sessions := by
  cases change with
  | opened openable => exact Evolves.append SessionRow.Continues.refl _ _
  | replaced openable live =>
      exact (Evolves.append SessionRow.Continues.refl _ _).trans SessionRow.Continues.trans
        (updateSessions_evolves (SessionRow.continues_revoke _ _) _)
  | exchanged exchangeable => exact updateSessions_evolves (SessionRow.continues_seen _) _
  | transferred other target owner =>
      exact (updateSessions_evolves (SessionRow.continues_revoke _ _) _).trans
        SessionRow.Continues.trans (updateSessions_evolves (SessionRow.continues_revoke _ _) _)
  | roleChanged | statusChanged | removed | reused | sessionRevoked | currentRevoked
  | passwordChanged => exact updateSessions_evolves (SessionRow.continues_revoke _ _) _
  | quiet | registered | invited | accepted | registeredInvited | uninvited | verified =>
      exact Evolves.refl SessionRow.Continues.refl _

theorem IdentityChange.tokensEvolve (change : IdentityChange collate store call answer store') :
    Evolves RefreshTokenRow.Continues store.refreshTokens store'.refreshTokens := by
  cases change with
  | opened openable => exact Evolves.append RefreshTokenRow.Continues.refl _ _
  | replaced openable live => exact Evolves.append RefreshTokenRow.Continues.refl _ _
  | exchanged exchangeable =>
      refine (Evolves.append RefreshTokenRow.Continues.refl _ _).trans
        RefreshTokenRow.Continues.trans (Evolves.updated RefreshTokenRow.Continues.refl ?_ _)
      intro row chosen
      refine ⟨rfl, rfl, ?_⟩
      intro used
      exact absurd (beq_iff_eq.mp (Bool.and_eq_true_iff.mp chosen).2) used
  | quiet | registered | invited | accepted | registeredInvited | uninvited | roleChanged
  | statusChanged | removed | transferred | reused | sessionRevoked | currentRevoked
  | passwordChanged | verified => exact Evolves.refl RefreshTokenRow.Continues.refl _

def links (tokens : List RefreshTokenRow) : List (Uuid × Uuid) :=
  tokens.filterMap fun token => token.replacedById.map (token.id, ·)

/-- Every token but the last is used and names the next one. -/
structure TokenChain (tokens : List RefreshTokenRow) : Prop where
  links : links tokens = successions (tokens.map (·.id))
  used : ∀ token ∈ tokens.dropLast, token.usedAt ≠ none
  last : ∀ token, tokens.getLast? = some token → token.usedAt = none ∧ token.replacedById = none

namespace TokenChain

theorem nil : TokenChain [] := by
  refine ⟨rfl, ?_, ?_⟩
  · intro token member
    cases member
  · intro token last
    cases last

theorem single (unused : token.usedAt = none) (open_ : token.replacedById = none)
    : TokenChain [token] := by
  refine ⟨?_, ?_, ?_⟩
  · simp [Identity.links, open_, successions]
  · intro other member
    cases member
  · intro other last
    cases last
    exact ⟨unused, open_⟩

variable {tokens : List RefreshTokenRow}

theorem split (chain : TokenChain tokens) (member : token ∈ tokens) (unused : token.usedAt = none) :
    ∃ before, tokens = before ++ [token] := by
  rcases List.eq_nil_or_concat tokens with rfl | ⟨before, last, rfl⟩
  · cases member
  · rw [List.concat_eq_append] at chain member ⊢
    rcases mem_concat.mp member with old | new
    · have used := chain.used token
      rw [List.dropLast_concat] at used
      exact absurd unused (used old)
    · rw [new]
      exact ⟨before, rfl⟩

theorem extend {before : List RefreshTokenRow} {token next : RefreshTokenRow}
    (chain : TokenChain (before ++ [token])) (unused : next.usedAt = none)
    (open_ : next.replacedById = none) (now : Instant) :
    TokenChain (before ++ [{ token with usedAt := some now, replacedById := some next.id }] ++
      [next]) := by
  obtain ⟨-, ended⟩ := chain.last token List.getLast?_concat
  have linked := chain.links
  have used := chain.used
  rw [List.dropLast_concat] at used
  refine ⟨?_, ?_, ?_⟩
  · simp only [Identity.links, List.filterMap_append, List.filterMap_cons, List.filterMap_nil,
      ended, open_, Option.map_none, Option.map_some, List.append_nil, List.map_append,
      List.map_cons, List.map_nil] at linked ⊢
    rw [linked, successions_concat]
  · intro other member
    rw [List.dropLast_concat] at member
    rcases mem_concat.mp member with old | new
    · exact used other old
    · rw [new]
      exact Option.some_ne_none now
  · intro other last
    rw [List.getLast?_concat] at last
    cases last
    exact ⟨unused, open_⟩

theorem oneUnused (chain : TokenChain tokens) :
    (tokens.filter (·.usedAt == none)).length ≤ 1 := by
  rcases List.eq_nil_or_concat tokens with rfl | ⟨before, last, rfl⟩
  · exact Nat.zero_le 1
  · rw [List.concat_eq_append] at chain ⊢
    have used := chain.used
    rw [List.dropLast_concat] at used
    have none : before.filter (·.usedAt == none) = [] := by
      rw [List.filter_eq_nil_iff]
      intro token member unused
      exact used token member (beq_iff_eq.mp unused)
    rw [List.filter_append, none, List.nil_append]
    exact List.length_filter_le _ _

end TokenChain

def tokensOf (sessionId : Uuid) (tokens : List RefreshTokenRow) : List RefreshTokenRow :=
  tokens.filter (·.sessionId == sessionId)

structure Rotating (sessions : List SessionRow) (tokens : List RefreshTokenRow) : Prop where
  sessionIds : (sessions.map (·.id)).Nodup
  ids : (tokens.map (·.id)).Nodup
  hashes : (tokens.map (·.tokenHash)).Nodup
  /-- A token belongs to a session and does not outlive it. -/
  placed : ∀ token ∈ tokens, ∃ session ∈ sessions, session.id = token.sessionId ∧
    token.expiresAt ≤ session.expiresAt
  chain : ∀ sessionId, TokenChain (tokensOf sessionId tokens)

namespace Rotating

variable {sessions sessions' : List SessionRow} {tokens : List RefreshTokenRow}

theorem evolve (rotating : Rotating sessions tokens)
    (evolves : Evolves SessionRow.Continues sessions sessions')
    (ids : (sessions'.map (·.id)).Nodup) : Rotating sessions' tokens := by
  refine ⟨ids, rotating.ids, rotating.hashes, ?_, rotating.chain⟩
  intro token member
  obtain ⟨session, present, named, within⟩ := rotating.placed token member
  obtain ⟨later, listed, continues⟩ := evolves.mem present
  exact ⟨later, listed, continues.id.trans named, continues.expiresAt ▸ within⟩

theorem update (rotating : Rotating sessions tokens) {selected : SessionRow → Bool}
    {set : SessionRow → SessionRow} (within : ∀ row : SessionRow, row.Continues (set row)) :
    Rotating (updateWhere selected set sessions) tokens := by
  refine rotating.evolve (updateSessions_evolves within sessions) ?_
  rw [map_updateWhere fun row => (within row).id]
  exact rotating.sessionIds

theorem apart {old new : RefreshTokenRow} (fresh : old.conflict new = false) :
    new.id ≠ old.id ∧ new.tokenHash ≠ old.tokenHash := by
  rw [RefreshTokenRow.conflict, Bool.or_eq_false_iff, beq_eq_false_iff_ne,
    beq_eq_false_iff_ne] at fresh
  exact ⟨fresh.1.symm, fresh.2.symm⟩

theorem begin_ (rotating : Rotating sessions tokens) (fresh : ∀ old ∈ sessions, old.id ≠ session.id)
    (freshToken : ∀ old ∈ tokens, old.conflict token = false) (own : token.sessionId = session.id)
    (within : token.expiresAt ≤ session.expiresAt) (unused : token.usedAt = none)
    (open_ : token.replacedById = none) :
    Rotating (sessions ++ [session]) (tokens ++ [token]) := by
  constructor
  · exact nodup_concat_key rotating.sessionIds fun old member => (fresh old member).symm
  · exact nodup_concat_key rotating.ids fun old member => (apart (freshToken old member)).1
  · exact nodup_concat_key rotating.hashes fun old member => (apart (freshToken old member)).2
  · intro other member
    rcases mem_concat.mp member with old | new
    · obtain ⟨home, present, named, inside⟩ := rotating.placed other old
      exact ⟨home, List.mem_append_left _ present, named, inside⟩
    · rw [new]
      exact ⟨session, List.mem_concat_self, own.symm, within⟩
  · intro sessionId
    rw [tokensOf, List.filter_append, List.filter_singleton]
    by_cases mine : token.sessionId = sessionId
    · have none : tokens.filter (·.sessionId == sessionId) = [] := by
        rw [List.filter_eq_nil_iff]
        intro other member same
        obtain ⟨home, present, named, -⟩ := rotating.placed other member
        exact fresh home present (named.trans ((beq_iff_eq.mp same).trans (mine.symm.trans own)))
      rw [none, beq_iff_eq.mpr mine]
      exact TokenChain.single unused open_
    · rw [beq_false_of_ne mine, cond_false, List.append_nil]
      exact rotating.chain sessionId

theorem exchange (rotating : Rotating sessions tokens) {replacement : RefreshTokenWrite}
    (member : token ∈ tokens) (unused : token.usedAt = none) (home : session ∈ sessions)
    (own : session.id = token.sessionId)
    (fresh : ∀ old ∈ tokens, old.conflict (replacement.row session.id) = false) :
    Rotating sessions (exchangedTokens token session replacement now tokens) := by
  have ids : ((tokens ++ [replacement.within session]).map (·.id)).Nodup :=
    nodup_concat_key rotating.ids fun old present => (apart (fresh old present)).1
  have hashes : ((tokens ++ [replacement.within session]).map (·.tokenHash)).Nodup :=
    nodup_concat_key rotating.hashes fun old present => (apart (fresh old present)).2
  refine ⟨rotating.sessionIds, ?_, ?_, ?_, ?_⟩
  · rw [exchangedTokens, map_updateWhere]
    · exact ids
    · exact fun _ => rfl
  · rw [exchangedTokens, map_updateWhere]
    · exact hashes
    · exact fun _ => rfl
  · intro other listed
    obtain ⟨old, present, same⟩ := mem_updateWhere.mp listed
    have columns : other.sessionId = old.sessionId ∧ other.expiresAt = old.expiresAt := by
      rw [← same]
      split
      · exact ⟨rfl, rfl⟩
      · exact ⟨rfl, rfl⟩
    rw [columns.1, columns.2]
    rcases mem_concat.mp present with earlier | new
    · exact rotating.placed old earlier
    · rw [new]
      exact ⟨session, home, rfl, Nat.min_le_right _ _⟩
  · intro sessionId
    have unselected : ∀ row : RefreshTokenRow, row.id ≠ token.id ∨ row.usedAt ≠ none →
        (row.id == token.id && row.usedAt == none) = false := by
      intro row other
      rw [Bool.and_eq_false_iff, beq_eq_false_iff_ne, beq_eq_false_iff_ne]
      exact other
    have successor : (replacement.within session).id ≠ token.id := (apart (fresh token member)).1
    have placed : ∀ row : RefreshTokenRow,
        ({ row with usedAt := some now, replacedById := some replacement.id }.sessionId ==
          sessionId) = (row.sessionId == sessionId) := fun _ => rfl
    rw [tokensOf, exchangedTokens, filter_updateWhere placed, List.filter_append,
      List.filter_singleton]
    by_cases mine : session.id = sessionId
    · obtain ⟨before, split⟩ := (rotating.chain sessionId).split
        (List.mem_filter.mpr ⟨member, beq_iff_eq.mpr (own.symm.trans mine)⟩) unused
      have chain := rotating.chain sessionId
      have used := chain.used
      rw [split] at chain
      rw [split, List.dropLast_concat] at used
      rw [tokensOf] at split
      have next : ((replacement.within session).sessionId == sessionId) = true :=
        beq_iff_eq.mpr mine
      have kept : updateWhere (fun row => row.id == token.id && row.usedAt == none)
          (fun row => { row with usedAt := some now, replacedById := some replacement.id })
          before = before :=
        updateWhere_none fun row present => unselected row (.inr (used row present))
      rw [split, next, cond_true]
      simp only [updateWhere, List.map_append] at kept ⊢
      rw [kept]
      simp only [List.map_cons, List.map_nil, unused, beq_self_eq_true, Bool.and_self, if_true,
        unselected _ (.inl successor), Bool.false_eq_true, if_false]
      exact @TokenChain.extend before token (replacement.within session) chain rfl rfl now
    · have next : ((replacement.within session).sessionId == sessionId) = false :=
        beq_eq_false_iff_ne.mpr mine
      rw [next, cond_false, List.append_nil, updateWhere_none]
      · exact rotating.chain sessionId
      · intro row listed
        obtain ⟨present, placed⟩ := List.mem_filter.mp listed
        refine unselected row (.inl ?_)
        intro same
        rw [eq_of_key rotating.ids present member same] at placed
        exact mine (own.trans (beq_iff_eq.mp placed))

end Rotating

theorem presented_some {tokenHash : Hash} {membership : MembershipRow}
    (found : store.presented tokenHash = some (token, session, membership)) :
    token ∈ store.refreshTokens ∧ token.tokenHash = tokenHash ∧ session ∈ store.sessions ∧
      session.id = token.sessionId := by
  simp only [IdentityStore.presented, Option.bind_eq_bind, Option.bind_eq_some_iff,
    Option.pure_def, Option.some.injEq, Prod.mk.injEq] at found
  obtain ⟨row, located, home, stored, -, -, rfl, rfl, rfl⟩ := found
  have named := List.find?_some located
  have placed := List.find?_some stored
  simp only [beq_iff_eq] at named placed
  exact ⟨List.mem_of_find?_eq_some located, named, List.mem_of_find?_eq_some stored, placed⟩

theorem invalidToken_false (valid : invalidToken token session now = false) :
    token.usedAt = none ∧ session.revokedAt = none := by
  simp only [invalidToken, Bool.or_eq_false_iff, Option.isSome_eq_false_iff,
    Option.isNone_iff_eq_none] at valid
  exact ⟨valid.1.1.1.1, valid.1.1.2⟩

theorem Rotating.opens (rotating : Rotating store.sessions store.refreshTokens)
    {session : SessionRecord} {token : RefreshTokenWrite} (openable : Openable store session token)
    (deviceLabel : Option String) (clock : Instant) :
    Rotating (store.sessions ++ [session.row deviceLabel clock])
      (store.refreshTokens ++ [token.row session.id]) := by
  have within : (token.row session.id).expiresAt ≤ (session.row deviceLabel clock).expiresAt :=
    openable.within
  exact rotating.begin_ openable.fresh openable.freshToken rfl within rfl rfl

theorem IdentityChange.rotating (change : IdentityChange collate store call answer store')
    (rotating : Rotating store.sessions store.refreshTokens) :
    Rotating store'.sessions store'.refreshTokens := by
  cases change with
  | opened openable => exact rotating.opens openable _ _
  | replaced openable live =>
      exact (rotating.opens openable _ _).update (SessionRow.continues_revoke _ _)
  | exchanged exchangeable =>
      obtain ⟨member, -, home, own⟩ := presented_some exchangeable.presented
      obtain ⟨unused, -⟩ := invalidToken_false exchangeable.valid
      exact (rotating.exchange member unused home own exchangeable.fresh).update
        (SessionRow.continues_seen _)
  | transferred other target owner =>
      exact (rotating.update (SessionRow.continues_revoke _ _)).update
        (SessionRow.continues_revoke _ _)
  | roleChanged | statusChanged | removed | reused | sessionRevoked | currentRevoked
  | passwordChanged => exact rotating.update (SessionRow.continues_revoke _ _)
  | quiet | registered | invited | accepted | registeredInvited | uninvited | verified =>
      exact rotating

end CandyCloud.Identity
