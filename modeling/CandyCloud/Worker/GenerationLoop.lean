import Mathlib.Data.Finset.Max
import CandyCloud.Control.Republish
import CandyCloud.Worker.FailureCodes

/-! # The rounds of a generation worker

`run_claimed_once`: a worker claims a job, has it published and stores what came of it.
-/

namespace CandyCloud

open Foundation

inductive RunOutcome where
  | publisherUnavailable
  | idle
  | published
  | retryScheduled
  | permanentFailure
deriving DecidableEq, Repr

/-- A worker and the publisher that it calls. -/
structure GenerationWorker where
  ownerId : String
  leaseTtl : Nat
  ready : Bool
  publish : GenerationJob → Except PublicationFailure (Nat × Hash)

/-- The clock of a round, before the claim and after the publication. -/
structure Round where
  now : Instant
  later : Instant

def failureOutcome : PublicationFailure → RunOutcome
  | .retryable _ retryAfter =>
      if retryAfter = 0 ∨ 3600000000 < retryAfter then .permanentFailure else .retryScheduled
  | .permanent _ => .permanentFailure

/-- A receipt that cannot be stored leaves the job leased. -/
def storeReceipt (queue : GenerationQueue) (outcome : RunOutcome) :
    Except ControlStoreError GenerationQueue → Except ControlStoreError RunOutcome × GenerationQueue
  | .ok queue' => (.ok outcome, queue')
  | .error error => (.error error, queue)

namespace GenerationWorker

variable (worker : GenerationWorker)

/-- Has a claimed job published and stores what came of it. -/
def finish (queue : GenerationQueue) (later : Instant) (job : GenerationJob) :
    Except ControlStoreError RunOutcome × GenerationQueue :=
  match worker.publish job with
  | .ok (generation, contentHash) =>
      storeReceipt queue .published (publishJob queue job later generation contentHash)
  | .error failure =>
      storeReceipt queue (failureOutcome failure)
        (failJob queue job later (recordedFailure later failure))

def runClaimedOnce (queue : GenerationQueue) (round : Round) (locked : List Uuid) :
    Except ControlStoreError RunOutcome × GenerationQueue :=
  if !worker.ready then (.ok .publisherUnavailable, queue)
  else
    match claimNext queue worker.ownerId round.now worker.leaseTtl locked with
    | .error error => (.error error, queue)
    | .ok (none, queue) => (.ok .idle, queue)
    | .ok (some job, queue) => worker.finish queue round.later job

/-- A round with no other transaction at work. -/
def step (queue : GenerationQueue) (round : Round) : GenerationQueue :=
  (worker.runClaimedOnce queue round []).2

/-- A worker that starts, and whose name fits the column. -/
structure Valid : Prop where
  ready : worker.ready = true
  named : (utf8 worker.ownerId).isEmpty = false ∧ (utf8 worker.ownerId).length ≤ 120
  lease : worker.leaseTtl ≠ 0 ∧ worker.leaseTtl ≤ maxLeaseTtl

/-- The job is published, or will not be tried again. -/
def Settles (job : GenerationJob) : Prop :=
  match worker.publish job with
  | .ok (generation, contentHash) => generation ≠ 0 ∧ contentHash ≠ zeroHash
  | .error failure => failureOutcome failure = .permanentFailure

/-- The state says what came of the job. -/
def Reports (job : GenerationJob) (state : GenerationJobState) : Prop :=
  match worker.publish job with
  | .ok (generation, contentHash) => state = .published generation contentHash
  | .error _ => ∃ code, state = .permanentFailure code

/-- The worker has had the job, and the row says what came of it. -/
def Reported (id : Uuid) (state : GenerationJobState) : Prop :=
  ∃ job : GenerationJob, job.id = id ∧ worker.Reports job state

/-- No job is lost, and those that were settled stay as they were. -/
def Works (queue queue' : GenerationQueue) : Prop :=
  ∀ row ∈ queue.jobs, ∃ row' ∈ queue'.jobs, row'.key = row.key ∧
    (row' = row ∨ row.state.terminal = false ∧ worker.Reported row.id row'.state)

end GenerationWorker

def GenerationQueue.unsettledJobs (queue : GenerationQueue) : List JobRow :=
  queue.jobs.filter fun job => !job.state.terminal

def JobRow.dueAt (job : JobRow) : Instant :=
  match job.state with
  | .leased _ leaseUntil => leaseUntil
  | _ => job.nextAttemptAt

/-- Nothing but the order of the revisions keeps an unsettled job from being claimed. -/
def JobRow.Due (now : Instant) (job : JobRow) : Prop :=
  job.attemptCount < 4294967295 ∧ job.dueAt ≤ now

instance (now : Instant) (job : JobRow) : Decidable (job.Due now) :=
  inferInstanceAs (Decidable (_ ∧ _))

section Rounds

variable {queue queue' : GenerationQueue} {worker : GenerationWorker} {horizon now : Instant}
  {row row' : JobRow} {job : GenerationJob} {round : Round} {set : JobRow → JobRow}

theorem mem_unsettledJobs :
    row ∈ queue.unsettledJobs ↔ row ∈ queue.jobs ∧ row.state.terminal = false := by
  simp [GenerationQueue.unsettledJobs]

theorem reported_terminal {id : Uuid} {state : GenerationJobState}
    (reported : worker.Reported id state) : state.terminal = true := by
  obtain ⟨job, -, reports⟩ := reported
  rw [GenerationWorker.Reports] at reports
  split at reports
  · rw [reports]
    rfl
  · obtain ⟨code, rfl⟩ := reports
    rfl

theorem works_refl (queue : GenerationQueue) : worker.Works queue queue :=
  fun row member => ⟨row, member, rfl, .inl rfl⟩

theorem GenerationWorker.Works.trans {last : GenerationQueue} (first : worker.Works queue queue')
    (second : worker.Works queue' last) : worker.Works queue last := by
  intro row member
  obtain ⟨mid, present, key, made⟩ := first row member
  obtain ⟨final, kept, key', made'⟩ := second mid present
  refine ⟨final, kept, key'.trans key, ?_⟩
  rcases made with rfl | ⟨unsettled, reported⟩
  · exact made'
  · -- The job was settled in the first part, and is left alone in the second.
    rcases made' with rfl | ⟨again, -⟩
    · exact .inr ⟨unsettled, reported⟩
    · exact absurd (again.symm.trans (reported_terminal reported)) Bool.noConfusion

theorem oldest_claimable (due : ∀ job ∈ queue.unsettledJobs, job.Due now)
    (left : queue.unsettledJobs ≠ []) : ∃ row ∈ queue.jobs, claimable queue now row = true := by
  obtain ⟨row, inside, least⟩ := queue.unsettledJobs.toFinset.exists_min_image
    (·.desiredRevision) (by simpa using List.toFinset_nonempty_iff _ |>.mpr left)
  rw [List.mem_toFinset] at inside
  obtain ⟨member, unsettled⟩ := mem_unsettledJobs.mp inside
  refine ⟨row, member, ?_⟩
  have ready := (due row inside).2
  rw [JobRow.dueAt] at ready
  rw [claimable, Bool.and_eq_true, Bool.not_eq_true', List.any_eq_false]
  constructor
  · cases state : row.state with
    | pending | retry _ | leased _ _ =>
        rw [state] at ready
        simpa using ready
    | published _ _ | permanentFailure _ => simp [state, GenerationJobState.terminal] at unsettled
  · intro earlier present blocks
    simp only [Bool.and_eq_true, decide_eq_true_eq] at blocks
    have older : earlier ∈ queue.unsettledJobs.toFinset :=
      List.mem_toFinset.mpr (mem_unsettledJobs.mpr ⟨present, by simpa using blocks.2⟩)
    exact absurd (least earlier older) (Nat.not_le.mpr blocks.1.2)

/-- As long as a job is unsettled a worker is handed one. -/
theorem claimNext_some (valid : worker.Valid) (inv : QueueInvariant queue)
    (due : ∀ job ∈ queue.unsettledJobs, job.Due now) (left : queue.unsettledJobs ≠ []) :
    ∃ job queue', claimNext queue worker.ownerId now worker.leaseTtl [] =
      .ok (some job, queue') := by
  obtain ⟨first, present, claims⟩ := oldest_claimable due left
  have bound : worker.leaseTtl ≤ 9223372036854775807 * 1000 :=
    Nat.le_trans valid.lease.2 (by decide)
  have listed : first ∈ (queue.jobs.filter fun job => claimable queue now job &&
      !([] : List Uuid).contains job.id).insertionSort claimOrder :=
    (List.mem_insertionSort _).mpr (List.mem_filter.mpr ⟨present, by simpa using claims⟩)
  obtain ⟨row, picked⟩ := Option.isSome_iff_exists.mp
    (List.isSome_head?.mpr (List.ne_nil_of_mem listed))
  have member := List.mem_of_mem_head? picked
  rw [List.mem_insertionSort, List.mem_filter, Bool.and_eq_true] at member
  obtain ⟨member, claims, -⟩ := member
  have inside := mem_unsettledJobs.mpr ⟨member, claimable_unsettled claims⟩
  have single : (queue.jobs.filter fun job => job.id == row.id) = [row] :=
    filter_of_key inv.ids member fun _ _ => beq_iff_eq
  have found : claimCandidate queue now [] = some row := picked
  have attempt : nextAttempt row.attemptCount = some (row.attemptCount + 1) :=
    if_pos (due row inside).1
  have allowed : validateLease worker.ownerId worker.leaseTtl = .ok () := by
    simp [validateLease, reject_ok, valid.named.1, valid.named.2, valid.lease.1, valid.lease.2]
  simp only [claimNext, allowed, fromStd, if_pos bound, orElse, found, attempt, single]
  exact ⟨_, _, rfl⟩

section Receipts

variable {attempt : Nat} {leaseUntil : Instant}

section

variable (owned : job.id = row.id ∧ job.leaseOwner = worker.ownerId) (running : now < leaseUntil)

include owned running

theorem leased_held (same : row'.id = row.id) :
    held job now { row' with
      state := .leased worker.ownerId leaseUntil, attemptCount := attempt } = true := by
  simp [held, GenerationJobState.heldBy, owned.1, owned.2, running, same]

/-- A settled job leaves the list of the unsettled ones, and nothing else changes there. -/
theorem unsettledJobs_settled (settled : ∀ row, (set row).state.terminal = true) :
    ((leaseJob queue worker.ownerId leaseUntil attempt row.id).updateJobs (held job now)
      set).unsettledJobs = queue.unsettledJobs.filter fun other => !(other.id == row.id) := by
  simp only [GenerationQueue.unsettledJobs, GenerationQueue.updateJobs, leaseJob]
  rw [filter_updateWhere_removed fun row _ => by simp [settled], filter_updateWhere_removed]
  · rw [List.filter_filter]
    apply List.filter_congr
    intro other _
    cases same : other.id == row.id with
    | true => simp
    | false => simp [held, owned.1, same]
  · intro other same
    simp [leased_held owned running (beq_iff_eq.mp same)]

theorem settled_rows (kept : ∀ row, (set row).key = row.key) (present : row' ∈ queue.jobs) :
    ∃ new ∈ ((leaseJob queue worker.ownerId leaseUntil attempt row.id).updateJobs (held job now)
      set).jobs, new.key = row'.key ∧
        (new = row' ∨ row'.id = row.id ∧ ∃ leased, new = set leased) := by
  refine ⟨_, mem_updateJobs.mpr ⟨_, mem_updateJobs.mpr ⟨row', present, rfl⟩, rfl⟩, ?_⟩
  by_cases same : row'.id = row.id
  · rw [if_pos (beq_iff_eq.mpr same), if_pos (leased_held owned running same)]
    exact ⟨kept _, .inr ⟨same, _, rfl⟩⟩
  · have unheld : held job now row' = false := by
      rw [Bool.eq_false_iff]
      intro holds
      exact same ((held_leased holds).1.trans owned.1)
    simp [same, unheld]

end

/-- The worker's receipt finds the row it has leased. -/
theorem receipt_settles (member : row ∈ queue.jobs)
    (inv : QueueInvariant (leaseJob queue worker.ownerId leaseUntil attempt row.id))
    (owned : job.id = row.id ∧ job.leaseOwner = worker.ownerId) (running : now < leaseUntil)
    (settled : ∀ row, (set row).state.terminal = true) (kept : ∀ row, (set row).key = row.key) :
    ∃ queue', updateHeld (leaseJob queue worker.ownerId leaseUntil attempt row.id) job now set =
        .ok queue' ∧ QueueInvariant queue' ∧
      (queue'.unsettledJobs = queue.unsettledJobs.filter fun other => !(other.id == row.id)) ∧
      ∀ old ∈ queue.jobs, ∃ new ∈ queue'.jobs, new.key = old.key ∧
        (new = old ∨ old.id = row.id ∧ ∃ leased, new = set leased) := by
  have stored : { row with state := .leased worker.ownerId leaseUntil, attemptCount := attempt } ∈
      (leaseJob queue worker.ownerId leaseUntil attempt row.id).jobs :=
    mem_updateJobs.mpr ⟨row, member, if_pos (beq_self_eq_true row.id)⟩
  have finds : ∀ candidate ∈ (leaseJob queue worker.ownerId leaseUntil attempt row.id).jobs,
      held job now candidate = true ↔ candidate.id = row.id := by
    intro candidate present
    constructor
    · intro holds
      exact (held_leased holds).1.trans owned.1
    · intro same
      rw [eq_of_key inv.ids present stored same]
      exact leased_held owned running rfl
  have single := filter_of_key inv.ids stored finds
  refine ⟨_, ?_, updateHeld_invariant inv kept, unsettledJobs_settled owned running settled,
    fun _ => settled_rows owned running kept⟩
  simp only [updateHeld, single]
  rfl

end Receipts

theorem recordedFailure_settles {failure : PublicationFailure}
    (refused : failureOutcome failure = .permanentFailure) :
    ∃ code, recordedFailure now failure = .permanent code ∧
      (JobFailure.permanent code).validate now = .ok () := by
  cases failure with
  | permanent code =>
      refine ⟨_, rfl, (validate_normalized now rfl).mpr ?_⟩
      rintro _ _ ⟨⟩
  | retryable code retryAfter =>
      rw [failureOutcome] at refused
      split at refused
      · rename_i outside
        exact ⟨_, if_pos outside, rfl⟩
      · cases refused

/-- What a worker that settles a job writes to its row. -/
theorem finish_settles (settles : worker.Settles job) (queue : GenerationQueue) (now : Instant) :
    ∃ set outcome, (∀ row : JobRow, worker.Reports job (set row).state) ∧
      (∀ row, (set row).key = row.key) ∧
      worker.finish queue now job = storeReceipt queue outcome (updateHeld queue job now set) := by
  rw [GenerationWorker.Settles] at settles
  simp only [GenerationWorker.finish, GenerationWorker.Reports]
  cases answer : worker.publish job with
  | ok published =>
      rw [answer] at settles
      have accepted : (published.1 == 0 || published.2 == zeroHash) = false := by simp [settles]
      refine ⟨fun row => { row with state := .published published.1 published.2 }, .published,
        fun _ => rfl, fun _ => rfl, congrArg (storeReceipt queue _) ?_⟩
      rw [publishJob, accepted]
      rfl
  | error failure =>
      rw [answer] at settles
      obtain ⟨code, recorded, valid⟩ := recordedFailure_settles settles
      refine ⟨(JobFailure.permanent code).apply now, _, fun _ => ⟨code, rfl⟩, fun _ => rfl,
        congrArg (storeReceipt queue _) ?_⟩
      rw [recorded, failJob, valid]
      rfl

theorem round_idle (left : queue.unsettledJobs = []) : worker.step queue round = queue := by
  rw [GenerationWorker.step, GenerationWorker.runClaimedOnce]
  split
  · rfl
  · split
    · rfl
    · rename_i queue' claims
      obtain ⟨-, same⟩ | ⟨row, -, attempt, -, some, -⟩ := claimNext_ok claims
      · exact same
      · cases some
    · rename_i job queue' claims
      obtain ⟨none, -⟩ | ⟨row, member, attempt, claimed, -⟩ := claimNext_ok claims
      · cases none
      · have inside := mem_unsettledJobs.mpr ⟨member, claimable_unsettled claimed⟩
        rw [left] at inside
        cases inside

/-- As long as there are unsettled jobs a round settles one of them. -/
theorem round_settles (valid : worker.Valid) (settles : ∀ job, worker.Settles job)
    (inv : QueueInvariant queue) (due : ∀ job ∈ queue.unsettledJobs, job.Due round.now)
    (clock : round.later < round.now + worker.leaseTtl) (left : queue.unsettledJobs ≠ []) :
    QueueInvariant (worker.step queue round) ∧ worker.Works queue (worker.step queue round) ∧
      ∃ row ∈ queue.unsettledJobs, (worker.step queue round).unsettledJobs =
        queue.unsettledJobs.filter fun other => !(other.id == row.id) := by
  obtain ⟨handed, table, claims⟩ := claimNext_some valid inv due left
  obtain ⟨none, -⟩ | ⟨row, member, attempt, claimed, same, rfl⟩ := claimNext_ok claims
  · cases none
  · have unsettled := claimable_unsettled claimed
    have leased : QueueInvariant (leaseJob queue worker.ownerId (round.now + worker.leaseTtl)
        attempt row.id) := leaseJob_invariant inv member claimed
    have owned : handed.id = row.id ∧ handed.leaseOwner = worker.ownerId := by
      cases same
      exact ⟨rfl, rfl⟩
    obtain ⟨set, outcome, reports, kept, finished⟩ := finish_settles (settles handed)
      (leaseJob queue worker.ownerId (round.now + worker.leaseTtl) attempt row.id) round.later
    obtain ⟨queue', stored, inv', rest, rows⟩ := receipt_settles member leased owned clock
      (fun row => reported_terminal ⟨handed, rfl, reports row⟩) kept
    have stepped : worker.step queue round = queue' := by
      rw [GenerationWorker.step, GenerationWorker.runClaimedOnce, valid.ready, claims]
      simp only [Bool.not_true, Bool.false_eq_true, if_false, finished, stored, storeReceipt]
    rw [stepped]
    refine ⟨inv', ?_, row, mem_unsettledJobs.mpr ⟨member, unsettled⟩, rest⟩
    intro old present
    obtain ⟨new, stays, key, same | ⟨named, _, rfl⟩⟩ := rows old present
    · exact ⟨new, stays, key, .inl same⟩
    · obtain rfl := eq_of_key inv.ids present member named
      exact ⟨_, stays, key, .inr ⟨unsettled, handed, owned.1, reports _⟩⟩

theorem rounds_settle (valid : worker.Valid) (settles : ∀ job, worker.Settles job)
    (inv : QueueInvariant queue) (due : ∀ job ∈ queue.unsettledJobs, job.Due horizon)
    (rounds : List Round)
    (clocks : ∀ round ∈ rounds, horizon ≤ round.now ∧ round.later < round.now + worker.leaseTtl) :
    (run worker.step queue rounds).unsettledJobs.length =
      queue.unsettledJobs.length - rounds.length ∧
    worker.Works queue (run worker.step queue rounds) := by
  induction rounds generalizing queue with
  | nil => exact ⟨rfl, works_refl queue⟩
  | cons round rest ih =>
      obtain ⟨clock, clocks⟩ := List.forall_mem_cons.mp clocks
      rw [run_cons, List.length_cons]
      by_cases left : queue.unsettledJobs = []
      · rw [round_idle left]
        obtain ⟨counted, works⟩ := ih inv due clocks
        exact ⟨by simp [counted, left], works⟩
      · obtain ⟨inv', works, row, inside, settled⟩ := round_settles valid settles inv
          (fun job member => And.imp_right (Nat.le_trans · clock.1) (due job member)) clock.2 left
        have single : (queue.unsettledJobs.filter fun other => other.id == row.id) = [row] :=
          filter_of_key (inv.ids.sublist (List.filter_sublist.map _)) inside
            fun _ _ => beq_iff_eq
        have counted := List.length_eq_length_filter_add (l := queue.unsettledJobs)
          fun other => other.id == row.id
        rw [single, ← settled, List.length_singleton] at counted
        obtain ⟨fewer, rests⟩ := ih inv' (fun job member => due job (by
          rw [settled] at member
          exact List.mem_of_mem_filter member)) clocks
        exact ⟨by omega, works.trans rests⟩

end Rounds

section Jobs

variable {sha256 : Bytes → Hash} {cloud : Cloud} {queue queue' : GenerationQueue}

/-- Of the route tables a call writes the topology and the segments, unless it exchanges
    them. -/
def CloudCall.Keeps (call : CloudCall) (route after : RouteStore) : Prop :=
  (∃ topology segments, after = { route with topology, segments }) ∨
    ∃ other, call = .environment other

/-- A call enqueues and retires, or is one call of the queue. -/
theorem cloudStep_cases {P : GenerationQueue → Prop} {call : CloudCall}
    (keep : ∀ queue queueCall, QueueCall.handle queueCall = none ∨ call = .queue queueCall →
      P queue → P (queueStep sha256 queue queueCall)) (start : P cloud.queue) :
    P (cloudStep sha256 cloud call).queue ∧
      call.Keeps cloud.route (cloudStep sha256 cloud call).route := by
  have enqueues : ∀ {queue queue' fresh clock tenantId segmentIds idempotencyHash policyOnly},
      P queue → enqueueGenerations queue fresh clock tenantId segmentIds idempotencyHash
        policyOnly = .ok queue' → P queue' := by
    intro queue queue' fresh clock tenantId segmentIds idempotencyHash policyOnly holds done
    refine updateEach_invariant ?_ holds done
    intro before after segmentId _ holds done
    have kept := keep before
      (.enqueue (fresh segmentId) clock tenantId segmentId idempotencyHash policyOnly) (.inl rfl)
      holds
    rwa [queueStep, queueResult, done] at kept
  have kept : call.Keeps cloud.route cloud.route := .inl ⟨_, _, rfl⟩
  cases call with
  | mutate mutation now fresh clock =>
      refine commit_cases (P := fun after : Cloud => P after.queue ∧ CloudCall.Keeps _ cloud.route
        after.route) ⟨start, kept⟩ ?_
      intro cloud' done
      obtain ⟨⟨outcome, after⟩, result, rfl⟩ := map_ok.mp done
      rcases mutate_ok result with ⟨-, rfl⟩ | ⟨-, previous, resources, queue, applied⟩
      · exact ⟨start, kept⟩
      · have retired : P (mutation.retire cloud).queue ∧
            CloudCall.Keeps (.mutate mutation now fresh clock) cloud.route
              (mutation.retire cloud).route := by
          unfold ResourceMutation.retire
          split
          · exact ⟨keep _ (.retire mutation.tenantId mutation.id) (.inl rfl) start,
              .inl ⟨_, _, rfl⟩⟩
          · exact ⟨start, kept⟩
        have enqueued := applied.enqueued
        rw [applied.result]
        unfold ResourceMutation.enqueue at enqueued
        split at enqueued
        · exact ⟨enqueues retired.1 enqueued, retired.2⟩
        · cases enqueued
          exact retired
  | provision tenant nodeId requestId provisions freshNode freshEndpoint fresh clock =>
      refine commit_cases (P := fun after : Cloud => P after.queue ∧ CloudCall.Keeps _ cloud.route
        after.route) ⟨start, kept⟩ ?_
      intro cloud' done
      obtain ⟨⟨response, after⟩, result, rfl⟩ := map_ok.mp done
      simp only [provisionPrivateTransportIdentity, unit_bind_ok, orElse_bind_ok,
        bind_ok (α := ControlResourceV1)] at result
      obtain ⟨-, -, resource, -, controlNode, -, result⟩ := result
      split at result
      · simp only [unit_bind_ok, pure_ok, Prod.mk.injEq] at result
        obtain ⟨-, -, rfl⟩ := result
        exact ⟨start, kept⟩
      · simp only [applyProvision, orElse_bind_ok, bind_ok (α := Topology),
          bind_ok (α := GenerationQueue), pure_ok, Prod.mk.injEq] at result
        obtain ⟨topology, -, transportRequests, -, queue, enqueued, -, rfl⟩ := result
        exact ⟨enqueues start enqueued, .inl ⟨_, _, rfl⟩⟩
  | withdraw tenant deviceId deviceKeyId fresh clock =>
      refine commit_cases (P := fun after : Cloud => P after.queue ∧ CloudCall.Keeps _ cloud.route
        after.route) ⟨start, kept⟩ ?_
      intro cloud' done
      simp only [withdrawPrivateTransportIdentityForDevice, unit_bind_ok, orElse_bind_ok,
        bind_ok (α := GenerationQueue), pure_ok] at done
      obtain ⟨-, node, -, queue, enqueued, rfl⟩ := done
      exact ⟨enqueues start enqueued, .inl ⟨_, _, rfl⟩⟩
  | queue call => exact ⟨keep _ call (.inr rfl) start, kept⟩
  | environment route => exact ⟨start, .inr ⟨route, rfl⟩⟩

theorem cloudStep_queueInvariant (inv : QueueInvariant cloud.queue) (call : CloudCall) :
    QueueInvariant (cloudStep sha256 cloud call).queue :=
  (cloudStep_cases (P := QueueInvariant) (fun _ call _ inv => queueStep_invariant inv call) inv).1

theorem run_queueInvariant {start : Cloud} (idle : start.queue = .empty) (calls : List CloudCall) :
    QueueInvariant (run (cloudStep sha256) start calls).queue := by
  refine run_invariant (P := fun cloud : Cloud => QueueInvariant cloud.queue)
    (fun _ call inv => cloudStep_queueInvariant inv call) ?_ calls
  rw [idle]
  exact empty_queue_invariant

end Jobs

/-- Whatever any changes and any workers have left in the job table: once the leases and the
    delays are over, a worker that settles its jobs settles one of them a round, as long as
    there are any, and says of each what came of it. -/
theorem worker_drains (sha256 : Bytes → Hash) (start : Cloud) (idle : start.queue = .empty)
    (calls : List CloudCall) (worker : GenerationWorker) (valid : worker.Valid)
    (settles : ∀ job, worker.Settles job) (horizon : Instant)
    (due : ∀ job ∈ (run (cloudStep sha256) start calls).queue.unsettledJobs, job.Due horizon)
    (rounds : List Round)
    (clocks : ∀ round ∈ rounds, horizon ≤ round.now ∧ round.later < round.now + worker.leaseTtl) :
    (run worker.step (run (cloudStep sha256) start calls).queue rounds).unsettledJobs.length =
      (run (cloudStep sha256) start calls).queue.unsettledJobs.length - rounds.length ∧
    worker.Works (run (cloudStep sha256) start calls).queue
      (run worker.step (run (cloudStep sha256) start calls).queue rounds) :=
  rounds_settle valid settles (run_queueInvariant idle calls) due rounds clocks

def lastWorker : GenerationWorker :=
  { ownerId := "worker-c", leaseTtl := 20, ready := true, publish := fun _ => .ok (1, 7) }

/-- The worker takes over the renewed job when its lease ends, and then has the other one. -/
theorem worker_drains_takeover :
    (run (cloudStep fun _ => 0) sampleCloud (takeoverRun.map .queue)).queue.unsettledJobs.length =
      2 ∧
    (run lastWorker.step (run (cloudStep fun _ => 0) sampleCloud (takeoverRun.map .queue)).queue
      [⟨90, 95⟩, ⟨110, 115⟩]).unsettledJobs.length = 0 := by
  have left : (run (cloudStep fun _ => 0) sampleCloud
    (takeoverRun.map .queue)).queue.unsettledJobs.length = 2 := by decide
  have drained := worker_drains (fun _ => 0) sampleCloud rfl (takeoverRun.map .queue) lastWorker
    ⟨rfl, by decide, by decide⟩ (fun _ => ⟨by decide, by decide⟩) 90 (by decide)
    [⟨90, 95⟩, ⟨110, 115⟩] (by decide)
  rw [drained.1, left]
  exact ⟨rfl, rfl⟩

theorem call_republishes {sha256 : Bytes → Hash} {cloud : Cloud}
    (addressed : ∀ tenantId, Addressed tenantId cloud.control) (call : CloudCall)
    (unspent : HashUnspent sha256 cloud call) : Republishes sha256 cloud call := by
  cases call with
  | mutate mutation now fresh clock =>
      exact (mutate_republishes (addressed mutation.tenantId).graph).mpr unspent
  | provision => exact provision_republishes.mpr unspent
  | withdraw => exact withdraw_republishes.mpr unspent
  | queue call | environment route => simp [Republishes, committedChange]

/-- A change under a hash that is not spent leaves each segment it affects with an unsettled job.
    A worker that settles its jobs comes to it, and says in its row what came of it. -/
theorem committed_change_reported (sha256 : Bytes → Hash) (start : Cloud)
    (empty : ∀ tenantId, start.control.EmptyTenant tenantId) (idle : start.queue = .empty)
    (calls : List CloudCall) (call : CloudCall)
    (unspent : HashUnspent sha256 (run (cloudStep sha256) start calls) call)
    (worker : GenerationWorker) (valid : worker.Valid) (settles : ∀ job, worker.Settles job)
    (horizon : Instant)
    (due : ∀ job ∈ (run (cloudStep sha256) start (calls ++ [call])).queue.unsettledJobs,
      job.Due horizon)
    (rounds : List Round)
    (clocks : ∀ round ∈ rounds, horizon ≤ round.now ∧ round.later < round.now + worker.leaseTtl)
    (enough : (run (cloudStep sha256) start (calls ++ [call])).queue.unsettledJobs.length ≤
      rounds.length) :
    ∀ change ∈ committedChange sha256 (run (cloudStep sha256) start calls) call,
      ∀ segmentId ∈ change.segmentIds,
        ∃ owed ∈ (run (cloudStep sha256) start (calls ++ [call])).queue.jobs,
          owed.of change.tenantId segmentId = true ∧ owed.state.terminal = false ∧
          ∃ row ∈ (run worker.step (run (cloudStep sha256) start (calls ++ [call])).queue
            rounds).jobs, row.key = owed.key ∧ worker.Reported owed.id row.state := by
  intro change changed segmentId affected
  have addressed : ∀ tenantId, Addressed tenantId (run (cloudStep sha256) start calls).control :=
    run_invariant (P := fun cloud : Cloud => ∀ tenantId, Addressed tenantId cloud.control)
      (fun _ call addressed tenantId => cloudStep_addressed (addressed tenantId) call)
      (fun tenantId => (empty tenantId).addressed) calls
  have unfinished := call_republishes addressed call unspent change changed segmentId affected
  rw [← (run_concat start calls call : run (cloudStep sha256) start (calls ++ [call]) = _)]
    at unfinished
  obtain ⟨owed, member, here, unsettled⟩ := unfinished_iff.mp unfinished
  obtain ⟨left, works⟩ := rounds_settle valid settles (run_queueInvariant idle (calls ++ [call]))
    due rounds clocks
  rw [Nat.sub_eq_zero_of_le enough, List.length_eq_zero_iff] at left
  obtain ⟨row, present, key, rfl | ⟨-, reported⟩⟩ := works owed member
  · have inside := mem_unsettledJobs.mpr ⟨present, unsettled⟩
    rw [left] at inside
    cases inside
  · exact ⟨owed, member, here, unsettled, row, present, key, reported⟩

/-- The job of a new segment is published in the first round. -/
theorem committed_change_reported_segment : ∃ owed row : JobRow, owed.key = row.key ∧
    owed.state.terminal = false ∧ owed.of 1 3 = true ∧
    row ∈ (run lastWorker.step (run (cloudStep fun _ => 0) sampleCloud
      ([createSample 31 (.site ⟨"site-1", .edge⟩)] ++
        [createSample 3 (.segment ⟨"segment", ⟨0x64400000, 24⟩⟩)])).queue [⟨1, 5⟩]).jobs ∧
    row.state = .published 1 7 := by
  obtain ⟨owed, -, here, unsettled, row, member, key, _, -, published⟩ :=
    committed_change_reported (fun _ => 0) sampleCloud sampleCloud_empty rfl
      [createSample 31 (.site ⟨"site-1", .edge⟩)]
      (createSample 3 (.segment ⟨"segment", ⟨0x64400000, 24⟩⟩))
      (fun _ _ _ _ spent => by
        have absent := spent.symm.trans (rfl : _ = false)
        cases absent)
      lastWorker ⟨rfl, by decide, by decide⟩ (fun _ => ⟨by decide, by decide⟩) 1 (by decide)
      [⟨1, 5⟩] (by decide) (by decide) ⟨1, [3], 1003⟩ (by decide) 3 (by decide)
  exact ⟨owed, row, key.symm, unsettled, here, member, published⟩

end CandyCloud
