import CandyCloud.Foundation.Machine
import Mathlib.Data.List.Perm.Basic

/-! # Concurrent transactions under row locks

A session runs one transaction, statement by statement, against the committed
store. A statement first takes its row locks, which every session keeps until
it ends, and then reads the committed rows together with the session's own
writes. The writes reach the store when the transaction commits; a session that
rolls back, or is aborted by a fault or a deadlock, leaves no trace. A statement
whose lock another session holds in a conflicting mode does not run yet.
-/

namespace Foundation

inductive LockMode where
  | shared
  | exclusive
deriving DecidableEq, Repr

structure RowLock (κ : Type) where
  row : κ
  mode : LockMode
deriving DecidableEq, Repr

def RowLock.conflicts {κ : Type} [DecidableEq κ] (held wanted : RowLock κ) : Bool :=
  decide (held.row = wanted.row) &&
    (decide (held.mode = .exclusive) || decide (wanted.mode = .exclusive))

/-- What a statement leaves its transaction to do. -/
inductive Outcome (π δ ρ : Type) where
  | next (stage : π) (writes : List δ)
  | commit (answer : ρ)
  | rollback (answer : ρ)

structure Statement (κ π δ ρ : Type) where
  locks : List (RowLock κ)
  outcome : Outcome π δ ρ

/-- A transaction that has not committed yet. -/
structure Session (κ π δ : Type) where
  stage : π
  locks : List (RowLock κ)
  writes : List δ

/-- A family of transactions: where a call enters its program, the statement at
    each program point, and what a write does to the store. -/
structure Transactions (σ κ π δ ρ ι : Type) where
  opening : ι → Except ρ π
  statement : σ → π → Statement κ π δ ρ
  apply : σ → δ → σ

/-- A store, the transactions open on it and the answers given. -/
structure Concurrent (σ κ π δ ρ : Type) where
  store : σ
  sessions : List (Session κ π δ)
  answers : List ρ

/-- Which session moves is a choice of the environment. -/
inductive Event (ι : Type) where
  | begin (call : ι)
  | advance (position : Nat)
  | abort (position : Nat)

section Sessions

variable {σ κ π δ ρ ι : Type} [DecidableEq κ]

def Apart (a b : Session κ π δ) : Prop :=
  ∀ held ∈ a.locks, ∀ other ∈ b.locks, held.conflicts other = false

def blocked (locks : List (RowLock κ)) (others : List (Session κ π δ)) : Bool :=
  others.any fun other => other.locks.any fun held => locks.any held.conflicts

namespace Transactions

variable (T : Transactions σ κ π δ ρ ι)

/-- The committed rows under the session's own writes. -/
def seen (store : σ) (session : Session κ π δ) : σ :=
  session.writes.foldl T.apply store

def pending (store : σ) (session : Session κ π δ) : Statement κ π δ ρ :=
  T.statement (T.seen store session) session.stage

def advance (s : Concurrent σ κ π δ ρ) (session : Session κ π δ) (others : List (Session κ π δ)) :
    Concurrent σ κ π δ ρ :=
  let statement := T.pending s.store session
  if blocked statement.locks others then s
  else
    match statement.outcome with
    | .next stage writes =>
        { s with sessions := ⟨stage, session.locks ++ statement.locks, session.writes ++ writes⟩ :: others }
    | .commit answer => ⟨T.seen s.store session, others, s.answers ++ [answer]⟩
    | .rollback answer => ⟨s.store, others, s.answers ++ [answer]⟩

/-- The session that moved comes to the front. -/
def step (s : Concurrent σ κ π δ ρ) : Event ι → Concurrent σ κ π δ ρ
  | .begin call =>
      match T.opening call with
      | .error answer => { s with answers := s.answers ++ [answer] }
      | .ok stage => { s with sessions := ⟨stage, [], []⟩ :: s.sessions }
  | .advance position =>
      match s.sessions[position]? with
      | none => s
      | some session => T.advance s session (s.sessions.eraseIdx position)
  | .abort position => { s with sessions := s.sessions.eraseIdx position }

/-- A transaction with the store to itself, for at most so many statements. -/
def alone (store : σ) : Nat → π → List δ → Option ρ × σ
  | 0, _, _ => (none, store)
  | statements + 1, stage, writes =>
      match (T.statement (writes.foldl T.apply store) stage).outcome with
      | .next stage' more => alone store statements stage' (writes ++ more)
      | .commit answer => (some answer, writes.foldl T.apply store)
      | .rollback answer => (some answer, store)

/-- A call from its opening to its answer with nothing in between. -/
def serial (statements : Nat) (store : σ) (call : ι) : Option ρ × σ :=
  match T.opening call with
  | .error answer => (some answer, store)
  | .ok stage => T.alone store statements stage []

/-- The session an event advances may run its statement in the committed store. -/
def Permits (allowed : σ → Session κ π δ → Bool) (s : Concurrent σ κ π δ ρ) (event : Event ι) :
    Prop :=
  match event with
  | .advance position => s.sessions[position]?.all (allowed s.store) = true
  | .begin _ | .abort _ => True

instance (allowed : σ → Session κ π δ → Bool) (s : Concurrent σ κ π δ ρ) :
    ∀ event : Event ι, Decidable (Permits allowed s event)
  | .advance position =>
      inferInstanceAs (Decidable (s.sessions[position]?.all (allowed s.store) = true))
  | .begin _ | .abort _ => .isTrue trivial

/-- An invariant of the committed store, an assertion about every open session,
    and locks that do not conflict. -/
structure Guarded (I : σ → Prop) (J : σ → Session κ π δ → Prop) (s : Concurrent σ κ π δ ρ) :
    Prop where
  store : I s.store
  sessions : ∀ session ∈ s.sessions, J s.store session
  apart : s.sessions.Pairwise Apart

end Transactions

theorem RowLock.conflicts_comm (a b : RowLock κ) : a.conflicts b = b.conflicts a := by
  simp only [RowLock.conflicts, Bool.or_comm]
  congr 1
  exact decide_eq_decide.mpr eq_comm

variable {a b session : Session κ π δ} {others : List (Session κ π δ)} {answer : ρ}

theorem Apart.symm (apart : Apart a b) : Apart b a := by
  intro held present other member
  rw [RowLock.conflicts_comm]
  exact apart other member held present

theorem Apart.exclusive (apart : Apart a b) {row : κ} {mode : LockMode}
    (held : ⟨row, .exclusive⟩ ∈ a.locks) (other : ⟨row, mode⟩ ∈ b.locks) : False := by
  have := apart _ held _ other
  simp [RowLock.conflicts] at this

theorem blocked_false {locks : List (RowLock κ)} (free : blocked locks others = false) :
    ∀ other ∈ others, ∀ held ∈ other.locks, ∀ wanted ∈ locks, held.conflicts wanted = false := by
  simpa only [blocked, List.any_eq_false, Bool.not_eq_true] using free

/-- A statement that is not blocked takes its locks beside those of the others. -/
theorem apart_joined {locks : List (RowLock κ)} (free : blocked locks others = false)
    (apart : ∀ other ∈ others, Apart session other) (stage : π) (writes : List δ) :
    ∀ other ∈ others, Apart ⟨stage, session.locks ++ locks, writes⟩ other := by
  intro other member held present lock taken
  rcases List.mem_append.mp present with old | new
  · exact apart other member held old lock taken
  · rw [RowLock.conflicts_comm]
    exact blocked_false free other member lock taken held new

namespace Transactions

variable {T : Transactions σ κ π δ ρ ι} {I : σ → Prop} {J : σ → Session κ π δ → Prop}
  {allowed : σ → Session κ π δ → Bool} {s : Concurrent σ κ π δ ρ}

theorem step_cases (T : Transactions σ κ π δ ρ ι) (s : Concurrent σ κ π δ ρ) (event : Event ι) :
    ((T.step s event).store = s.store ∧ (T.step s event).answers = s.answers) ∨
    (∃ answer, (T.step s event).store = s.store ∧
      (T.step s event).answers = s.answers ++ [answer] ∧
      ((∃ call, T.opening call = .error answer) ∨
        ∃ session ∈ s.sessions, (T.pending s.store session).outcome = .rollback answer)) ∨
    ∃ session ∈ s.sessions, ∃ answer, (T.pending s.store session).outcome = .commit answer ∧
      (T.step s event).store = T.seen s.store session ∧
        (T.step s event).answers = s.answers ++ [answer] := by
  cases event with
  | begin call =>
      simp only [step]
      split
      · rename_i answer opened
        exact .inr (.inl ⟨answer, rfl, rfl, .inl ⟨call, opened⟩⟩)
      · exact .inl ⟨rfl, rfl⟩
  | abort position => exact .inl ⟨rfl, rfl⟩
  | advance position =>
      simp only [step]
      split
      · exact .inl ⟨rfl, rfl⟩
      · rename_i session located
        have member := List.mem_of_getElem? located
        unfold advance
        simp only
        split
        · exact .inl ⟨rfl, rfl⟩
        · split
          · exact .inl ⟨rfl, rfl⟩
          · rename_i answer outcome
            exact .inr (.inr ⟨session, member, answer, outcome, rfl, rfl⟩)
          · rename_i answer outcome
            exact .inr (.inl ⟨answer, rfl, rfl, .inr ⟨session, member, outcome⟩⟩)

theorem step_store (T : Transactions σ κ π δ ρ ι) (s : Concurrent σ κ π δ ρ) (event : Event ι) :
    (T.step s event).store = s.store ∨ ∃ session ∈ s.sessions, ∃ answer,
      (T.pending s.store session).outcome = .commit answer ∧
        (T.step s event).store = T.seen s.store session := by
  rcases T.step_cases s event with same | ⟨-, same, -⟩ | ⟨session, member, answer, outcome, after, -⟩
  · exact .inl same.1
  · exact .inl same
  · exact .inr ⟨session, member, answer, outcome, after⟩

omit [DecidableEq κ] in
theorem permits_all (s : Concurrent σ κ π δ ρ) (event : Event ι) :
    Permits (fun _ _ => true) s event := by
  cases event with
  | begin => trivial
  | abort => trivial
  | advance position => simp [Permits]

theorem Guarded.begun (guarded : Guarded I J s) {stage : π} (own : J s.store ⟨stage, [], []⟩) :
    Guarded I J { s with sessions := ⟨stage, [], []⟩ :: s.sessions } := by
  refine ⟨guarded.store, ?_, List.Pairwise.cons ?_ guarded.apart⟩
  · intro session member
    rcases List.mem_cons.mp member with rfl | member
    · exact own
    · exact guarded.sessions session member
  · intro other _ held none
    cases none

theorem Guarded.aborted (guarded : Guarded I J s) (position : Nat) :
    Guarded I J { s with sessions := s.sessions.eraseIdx position } := by
  refine ⟨guarded.store, ?_, guarded.apart.sublist (List.eraseIdx_sublist _ _)⟩
  intro session member
  exact guarded.sessions session (List.mem_of_mem_eraseIdx member)

/-- The session at a position beside the others. -/
theorem Guarded.located (guarded : Guarded I J s) {position : Nat}
    (located : s.sessions[position]? = some session) :
    J s.store session ∧ (∀ other ∈ s.sessions.eraseIdx position, J s.store other) ∧
      (∀ other ∈ s.sessions.eraseIdx position, Apart session other) ∧
      (s.sessions.eraseIdx position).Pairwise Apart := by
  obtain ⟨bound, rfl⟩ := List.getElem?_eq_some_iff.mp located
  have reorder := List.getElem_cons_eraseIdx_perm bound
  have apart := (reorder.pairwise_iff (R := Apart) Apart.symm).mpr guarded.apart
  rw [List.pairwise_cons] at apart
  exact ⟨guarded.sessions _ (List.getElem_mem bound),
    fun other member => guarded.sessions other (List.mem_of_mem_eraseIdx member), apart⟩

/-- The obligations of a compositional argument: a session keeps its own assertion,
    a commit keeps the invariant, and a commit keeps the assertion of a session it
    has no lock conflict with. -/
theorem guarded_step
    (opens : ∀ store call stage, I store → T.opening call = .ok stage → J store ⟨stage, [], []⟩)
    (continues : ∀ store session stage writes, I store → J store session → allowed store session = true →
      (T.pending store session).outcome = .next stage writes →
      J store ⟨stage, session.locks ++ (T.pending store session).locks, session.writes ++ writes⟩)
    (commits : ∀ store session answer, I store → J store session →
      (T.pending store session).outcome = .commit answer → I (T.seen store session))
    (stable : ∀ store session other answer, I store → J store session → J store other →
      Apart session other → (T.pending store session).outcome = .commit answer →
      J (T.seen store session) other)
    (guarded : Guarded I J s) (event : Event ι) (permitted : Permits allowed s event) :
    Guarded I J (T.step s event) := by
  cases event with
  | begin call =>
      simp only [step]
      split
      · exact ⟨guarded.store, guarded.sessions, guarded.apart⟩
      · rename_i stage opened
        exact guarded.begun (opens s.store call stage guarded.store opened)
  | abort position => exact guarded.aborted position
  | advance position =>
      simp only [step]
      split
      · exact guarded
      · rename_i session located
        obtain ⟨own, rest, apart, pairwise⟩ := guarded.located located
        have here : allowed s.store session = true := by
          simpa [Permits, located] using permitted
        unfold advance
        simp only
        split
        · exact guarded
        · rename_i free
          split
          · rename_i stage writes outcome
            refine ⟨guarded.store, ?_, List.Pairwise.cons
              (apart_joined (Bool.not_eq_true _ ▸ free) apart _ _) pairwise⟩
            intro other member
            rcases List.mem_cons.mp member with rfl | member
            · exact continues s.store session stage writes guarded.store own here outcome
            · exact rest other member
          · rename_i answer outcome
            refine ⟨commits s.store session answer guarded.store own outcome, ?_, pairwise⟩
            intro other member
            exact stable s.store session other answer guarded.store own (rest other member)
              (apart other member) outcome
          · exact ⟨guarded.store, rest, pairwise⟩

section Alone

omit [DecidableEq κ]

variable {store : σ} {statements : Nat} {stage : π} {writes : List δ}

theorem alone_next {stage' : π} {more : List δ}
    (outcome : (T.statement (writes.foldl T.apply store) stage).outcome = .next stage' more) :
    T.alone store (statements + 1) stage writes =
      T.alone store statements stage' (writes ++ more) := by
  simp only [alone, outcome]

theorem alone_commit
    (outcome : (T.statement (writes.foldl T.apply store) stage).outcome = .commit answer) :
    T.alone store (statements + 1) stage writes = (some answer, writes.foldl T.apply store) := by
  simp only [alone, outcome]

theorem alone_rollback
    (outcome : (T.statement (writes.foldl T.apply store) stage).outcome = .rollback answer) :
    T.alone store (statements + 1) stage writes = (some answer, store) := by
  simp only [alone, outcome]

end Alone

end Transactions

end Sessions

end Foundation
