import CandyCloud.Foundation.Sessions

/-! # Requests of several transactions

A request runs one transaction after the other. A statement outside a
transaction commits by itself; inside one, its writes wait for the commit and
its row locks are kept until then. Between two transactions a request holds no
locks, so what an earlier one read may have changed. A request that fails or is
aborted keeps what its finished transactions have committed.
-/

namespace Foundation

/-- What a statement leaves its request to do. -/
inductive Progress (π δ ρ : Type) where
  | next (stage : π) (writes : List δ)
  | commit (stage : π) (writes : List δ)
  | answer (value : ρ)

structure RequestStatement (κ π δ ρ : Type) where
  locks : List (RowLock κ)
  progress : Progress π δ ρ

/-- A family of requests, given like a family of transactions. -/
structure Requests (σ κ π δ ρ ι : Type) where
  opening : ι → Except ρ π
  statement : σ → π → RequestStatement κ π δ ρ
  apply : σ → δ → σ

namespace Requests

variable {σ κ π δ ρ ι : Type} [DecidableEq κ] (R : Requests σ κ π δ ρ ι)

/-- The committed rows under the writes of the open transaction. -/
def seen (store : σ) (session : Session κ π δ) : σ :=
  session.writes.foldl R.apply store

def pending (store : σ) (session : Session κ π δ) : RequestStatement κ π δ ρ :=
  R.statement (R.seen store session) session.stage

def committed (store : σ) (session : Session κ π δ) (writes : List δ) : σ :=
  writes.foldl R.apply (R.seen store session)

def advance (s : Concurrent σ κ π δ ρ) (session : Session κ π δ) (others : List (Session κ π δ)) :
    Concurrent σ κ π δ ρ :=
  let statement := R.pending s.store session
  if blocked statement.locks others then s
  else
    match statement.progress with
    | .next stage writes =>
        { s with
          sessions := ⟨stage, session.locks ++ statement.locks, session.writes ++ writes⟩ :: others }
    | .commit stage writes =>
        ⟨R.committed s.store session writes, ⟨stage, [], []⟩ :: others, s.answers⟩
    | .answer value => ⟨s.store, others, s.answers ++ [value]⟩

def step (s : Concurrent σ κ π δ ρ) : Event ι → Concurrent σ κ π δ ρ
  | .begin call =>
      match R.opening call with
      | .error value => { s with answers := s.answers ++ [value] }
      | .ok stage => { s with sessions := ⟨stage, [], []⟩ :: s.sessions }
  | .advance position =>
      match s.sessions[position]? with
      | none => s
      | some session => R.advance s session (s.sessions.eraseIdx position)
  | .abort position => { s with sessions := s.sessions.eraseIdx position }

variable {R} {I : σ → Prop} {J : σ → Session κ π δ → Prop} {allowed : σ → Session κ π δ → Bool}
  {s : Concurrent σ κ π δ ρ}

theorem step_store (R : Requests σ κ π δ ρ ι) (s : Concurrent σ κ π δ ρ) (event : Event ι) :
    (R.step s event).store = s.store ∨ ∃ position session stage writes,
      event = .advance position ∧ s.sessions[position]? = some session ∧
        (R.pending s.store session).progress = .commit stage writes ∧
        (R.step s event).store = R.committed s.store session writes := by
  cases event with
  | begin call =>
      simp only [step]
      split
      · exact .inl rfl
      · exact .inl rfl
  | abort position => exact .inl rfl
  | advance position =>
      simp only [step]
      split
      · exact .inl rfl
      · rename_i session located
        unfold advance
        simp only
        split
        · exact .inl rfl
        · split
          · exact .inl rfl
          · rename_i stage writes progress
            exact .inr ⟨position, session, stage, writes, rfl, located, progress, rfl⟩
          · exact .inl rfl

/-- The obligations of a compositional argument about requests: a statement
    within a transaction keeps the request's own assertion, a commit keeps the
    invariant and leaves the assertion of what the request does next, and keeps
    the assertion of a request whose locks conflict with none of its own. -/
theorem guarded_step
    (opens : ∀ store call stage, I store → R.opening call = .ok stage → J store ⟨stage, [], []⟩)
    (continues : ∀ store session stage writes, I store → J store session →
      allowed store session = true → (R.pending store session).progress = .next stage writes →
      J store ⟨stage, session.locks ++ (R.pending store session).locks, session.writes ++ writes⟩)
    (commits : ∀ store session stage writes, I store → J store session →
      allowed store session = true → (R.pending store session).progress = .commit stage writes →
      I (R.committed store session writes) ∧ J (R.committed store session writes) ⟨stage, [], []⟩)
    (stable : ∀ store session other stage writes, I store → J store session → J store other →
      Apart ⟨session.stage, session.locks ++ (R.pending store session).locks, session.writes⟩ other →
      (R.pending store session).progress = .commit stage writes →
      J (R.committed store session writes) other)
    (guarded : Transactions.Guarded I J s) (event : Event ι)
    (permitted : Transactions.Permits allowed s event) :
    Transactions.Guarded I J (R.step s event) := by
  cases event with
  | begin call =>
      simp only [step]
      split
      · exact ⟨guarded.store, guarded.sessions, guarded.apart⟩
      · rename_i stage opened
        exact guarded.begun (opens s.store call stage guarded.store opened)
  | abort position => exact guarded.aborted position
  | advance position =>
      simp only [step]
      split
      · exact guarded
      · rename_i session located
        obtain ⟨own, rest, apart, pairwise⟩ := guarded.located located
        have here : allowed s.store session = true := by
          simpa [Transactions.Permits, located] using permitted
        unfold advance
        simp only
        split
        · exact guarded
        · rename_i free
          have joined := apart_joined (Bool.not_eq_true _ ▸ free) apart
          split
          · rename_i stage writes progress
            refine ⟨guarded.store, ?_, List.Pairwise.cons (joined _ _) pairwise⟩
            intro other member
            rcases List.mem_cons.mp member with rfl | member
            · exact continues s.store session stage writes guarded.store own here progress
            · exact rest other member
          · rename_i stage writes progress
            obtain ⟨kept, next⟩ := commits s.store session stage writes guarded.store own here progress
            refine ⟨kept, ?_, List.Pairwise.cons ?_ pairwise⟩
            · intro other member
              rcases List.mem_cons.mp member with rfl | member
              · exact next
              · exact stable s.store session other stage writes guarded.store own (rest other member)
                  (joined _ _ other member) progress
            · intro other _ held none
              cases none
          · exact ⟨guarded.store, rest, pairwise⟩

theorem guarded_run
    (keep : ∀ s event, Transactions.Guarded I J s → Transactions.Permits allowed s event →
      Transactions.Guarded I J (R.step s event))
    (guarded : Transactions.Guarded I J s) (events : List (Event ι))
    (along : Along R.step (Transactions.Permits allowed) s events) :
    Transactions.Guarded I J (run R.step s events) :=
  run_invariant_along keep guarded events along

end Requests

end Foundation
