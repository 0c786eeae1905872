import Mathlib.Data.List.Induction
import CandyCloud.Queue.System

/-! # Who may finish a job

The lease columns of a job remember its last claim: whoever renews, publishes
or fails a job is the owner of that claim, and at no call since then had the
lease run out.
-/

namespace CandyCloud

open Foundation

/-- The job is leased to the owner beyond the instant. -/
def GenerationQueue.LeasedTo (queue : GenerationQueue) (id : Uuid) (owner : String)
    (now : Instant) : Prop :=
  ∃ row ∈ queue.jobs, row.id = id ∧ row.state.heldBy owner now = true

def queueAfter (sha256 : Bytes → Hash) (calls : List QueueCall) : GenerationQueue :=
  run (queueStep sha256) .empty calls

/-- The last claim of the job in the run was granted to the owner, and at every
    later call of the run the lease had not run out. -/
def HeldSinceClaim (sha256 : Bytes → Hash) (calls : List QueueCall) (id : Uuid)
    (owner : String) : Prop :=
  ∃ before claim after, calls = before ++ claim :: after ∧
    (∃ job, claimed (queueAfter sha256 before) claim = some job ∧ job.id = id ∧
      job.leaseOwner = owner) ∧
    ∀ earlier call rest, after = earlier ++ call :: rest →
      (∀ job, claimed (queueAfter sha256 (before ++ claim :: earlier)) call = some job →
        job.id ≠ id) ∧
      ∀ now, call.now = some now →
        (queueAfter sha256 (before ++ claim :: earlier)).LeasedTo id owner now

/-- The calls read a clock that never goes back. -/
def Chronological (calls : List QueueCall) : Prop :=
  (calls.filterMap QueueCall.now).Pairwise (· ≤ ·)

instance (calls : List QueueCall) : Decidable (Chronological calls) :=
  inferInstanceAs (Decidable ((calls.filterMap QueueCall.now).Pairwise (· ≤ ·)))

variable {α : Type} {queue' : GenerationQueue} {call : QueueCall} {owner : String} {now : Instant}
  {ttl : Nat} {row : JobRow} {job : GenerationJob} {calls before after : List QueueCall}

section Step

variable {sha256 : Bytes → Hash} {queue : GenerationQueue}

theorem map_snd_ok {result : Except ControlStoreError (α × GenerationQueue)}
    (done : result.map Prod.snd = .ok queue') :
    ∃ value, result = .ok (value, queue') := by
  cases result with
  | error error => cases done
  | ok pair => exact ⟨pair.1, congrArg Except.ok (Prod.ext rfl (Except.ok.inj done))⟩

theorem queueStep_invariant (inv : QueueInvariant queue) (call : QueueCall) :
    QueueInvariant (queueStep sha256 queue call) := by
  apply commit_cases inv
  intro queue' done
  cases call with
  | enqueue fresh clock tenantId segmentId hash policyOnly =>
      exact enqueueGeneration_invariant inv done
  | refresh segments publications now refreshBefore limit locked fresh clock =>
      obtain ⟨count, done⟩ := map_snd_ok done
      exact (refreshExpiring_refreshed inv done).inv
  | recover activeSegment segments fresh clock =>
      obtain ⟨count, done⟩ := map_snd_ok done
      exact (recoverRouteInputHeadFailures_recovered inv done).inv
  | retire tenantId segmentId =>
      rw [← Except.ok.inj done]
      exact retireDeletedSegment_invariant inv
  | claim owner now ttl locked =>
      obtain ⟨job, done⟩ := map_snd_ok done
      rcases claimNext_ok done with ⟨-, rfl⟩ | ⟨row, member, attempt, due, -, rfl⟩
      · exact inv
      · exact leaseJob_invariant inv member due
  | renew job now ttl =>
      obtain ⟨until_, done⟩ := map_snd_ok done
      obtain ⟨rfl, -⟩ := renewJob_ok done
      exact updateHeld_invariant inv fun _ => rfl
  | publish job now generation contentHash =>
      simp only [queueResult, publishJob, unit_bind_ok] at done
      obtain ⟨rfl, -⟩ := updateHeld_ok done.2
      exact updateHeld_invariant inv fun _ => rfl
  | fail job now failure =>
      simp only [queueResult, failJob, unit_bind_ok] at done
      obtain ⟨rfl, -⟩ := updateHeld_ok done.2
      exact updateHeld_invariant inv (failure.apply_key now)

/-- What a call does to the rows that are published before it or leased after
    it: the former stay, and the latter are granted by the call or were leased
    to the same owner, with a lease that a renewal found unexpired. -/
structure RowsKept (queue : GenerationQueue) (call : QueueCall) (queue' : GenerationQueue) :
    Prop where
  published : ∀ job ∈ queue.jobs, job.state.isPublished = true → job ∈ queue'.jobs
  leased : ∀ job ∈ queue'.jobs, ∀ owner leaseUntil, job.state = .leased owner leaseUntil →
    (∃ handle, claimed queue call = some handle ∧ handle.id = job.id ∧
      handle.leaseOwner = owner) ∨
    ((∀ handle, claimed queue call = some handle → handle.id ≠ job.id) ∧
      ∃ old ∈ queue.jobs, old.id = job.id ∧ ∃ earlierUntil,
        old.state = .leased owner earlierUntil ∧
        (earlierUntil = leaseUntil ∨ ∃ now, call.now = some now ∧ now < earlierUntil))

theorem Carried.rowsKept (carried : Carried queue queue') (unclaimed : claimed queue call = none) :
    RowsKept queue call queue' := by
  refine ⟨carried.published, ?_⟩
  intro job member owner leaseUntil state
  have present := carried.leased job member (by rw [state]; rfl)
  refine .inr ⟨?_, job, present, rfl, leaseUntil, state, .inl rfl⟩
  intro handle granted
  rw [unclaimed] at granted
  cases granted

theorem leaseJob_rowsKept (inv : QueueInvariant queue) {locked : List Uuid}
    (member : row ∈ queue.jobs) (due : claimable queue now row = true) {handle : GenerationJob}
    (granted : claimed queue (.claim owner now ttl locked) = some handle)
    (sameId : handle.id = row.id) (sameOwner : handle.leaseOwner = owner) (leaseUntil : Instant)
    (attempt : Nat) :
    RowsKept queue (.claim owner now ttl locked)
      (leaseJob queue owner leaseUntil attempt row.id) := by
  constructor
  · intro job present published
    refine updateUnsettled_published ?_ present published
    intro job present same
    rw [eq_of_key inv.ids present member (beq_iff_eq.mp same)]
    exact not_published_of_unsettled (claimable_unsettled due)
  · intro job present leasedOwner until_ state
    obtain ⟨old, oldPresent, rfl⟩ := mem_updateJobs.mp present
    by_cases same : (old.id == row.id) = true
    · rw [if_pos same] at state ⊢
      obtain ⟨rfl, -⟩ := GenerationJobState.leased.inj state
      exact .inl ⟨handle, granted, sameId.trans (beq_iff_eq.mp same).symm, sameOwner⟩
    · rw [if_neg same] at state ⊢
      refine .inr ⟨?_, old, oldPresent, rfl, until_, state, .inl rfl⟩
      intro other grantedOther equal
      rw [granted, Option.some.injEq] at grantedOther
      subst grantedOther
      exact same (beq_iff_eq.mpr (equal.symm.trans sameId))

theorem renewJob_rowsKept (leaseUntil : Instant) :
    RowsKept queue (.renew job now ttl) (queue.updateJobs (held job now) fun row =>
      { row with state := .leased job.leaseOwner leaseUntil }) := by
  constructor
  · intro row present published
    refine updateUnsettled_published ?_ present published
    intro row _ holds
    obtain ⟨-, earlierUntil, state, -⟩ := held_leased holds
    rw [state]
    rfl
  · intro row present leasedOwner until_ state
    obtain ⟨old, oldPresent, rfl⟩ := mem_updateJobs.mp present
    refine .inr ⟨?_, old, oldPresent, ?_⟩
    · intro handle granted
      cases granted
    · by_cases holds : held job now old = true
      · rw [if_pos holds] at state ⊢
        obtain ⟨rfl, -⟩ := GenerationJobState.leased.inj state
        obtain ⟨-, earlierUntil, oldState, unexpired⟩ := held_leased holds
        exact ⟨rfl, earlierUntil, oldState, .inr ⟨now, rfl, unexpired⟩⟩
      · rw [if_neg holds] at state ⊢
        exact ⟨rfl, until_, state, .inl rfl⟩

theorem claimed_error {error : ControlStoreError}
    (failed : queueResult sha256 queue call = .error error) : claimed queue call = none := by
  cases call with
  | claim owner now ttl locked =>
      simp only [claimed]
      split
      · rename_i job queue' done
        simp only [queueResult, done] at failed
        cases failed
      · rfl
  | enqueue | refresh | recover | retire | renew | publish | fail => rfl

theorem queueStep_rowsKept (inv : QueueInvariant queue) (call : QueueCall) :
    RowsKept queue call (queueStep sha256 queue call) := by
  unfold queueStep
  cases result : queueResult sha256 queue call with
  | error error => exact (Carried.refl queue).rowsKept (claimed_error result)
  | ok queue' =>
      simp only [commit]
      cases call with
      | enqueue fresh clock tenantId segmentId hash policyOnly =>
          exact (enqueueGeneration_carried result).rowsKept rfl
      | refresh segments publications now refreshBefore limit locked fresh clock =>
          obtain ⟨count, done⟩ := map_snd_ok result
          exact (refreshExpiring_refreshed inv done).carried.rowsKept rfl
      | recover activeSegment segments fresh clock =>
          obtain ⟨count, done⟩ := map_snd_ok result
          exact (recoverRouteInputHeadFailures_recovered inv done).carried.rowsKept rfl
      | retire tenantId segmentId =>
          rw [← Except.ok.inj result]
          exact (retireDeletedSegment_carried tenantId segmentId).rowsKept rfl
      | claim owner now ttl locked =>
          obtain ⟨job, done⟩ := map_snd_ok result
          rcases claimNext_ok done with ⟨rfl, rfl⟩ | ⟨row, member, attempt, due, granted, rfl⟩
          · exact (Carried.refl _).rowsKept (by simp only [claimed, done])
          · have handed : claimed queue (.claim owner now ttl locked) = job := by
              simp only [claimed, done]
            exact leaseJob_rowsKept inv member due (handed.trans granted) rfl rfl _ attempt
      | renew job now ttl =>
          obtain ⟨until_, done⟩ := map_snd_ok result
          obtain ⟨rfl, -⟩ := renewJob_ok done
          exact renewJob_rowsKept (now + ttl)
      | publish job now generation contentHash =>
          simp only [queueResult, publishJob, unit_bind_ok] at result
          obtain ⟨rfl, -⟩ := updateHeld_ok result.2
          refine Carried.rowsKept ?_ rfl
          exact updateHeld_carried (fun _ => rfl) fun _ => rfl
      | fail job now failure =>
          simp only [queueResult, failJob, unit_bind_ok] at result
          obtain ⟨rfl, -⟩ := updateHeld_ok result.2
          refine Carried.rowsKept ?_ rfl
          exact updateHeld_carried (failure.apply_key now) (failure.apply_released now)

theorem handle_leased (lease : call.handle = some (job, now))
    (done : queueResult sha256 queue call = .ok queue') :
    queue.LeasedTo job.id job.leaseOwner now := by
  have found : ∃ row ∈ queue.jobs, held job now row = true := by
    cases call with
    | renew handle at_ ttl =>
        obtain ⟨rfl, rfl⟩ := Prod.mk.inj (Option.some.inj lease)
        obtain ⟨until_, done⟩ := map_snd_ok done
        exact (renewJob_ok done).2
    | publish handle at_ generation contentHash =>
        obtain ⟨rfl, rfl⟩ := Prod.mk.inj (Option.some.inj lease)
        simp only [queueResult, publishJob, unit_bind_ok] at done
        exact (updateHeld_ok done.2).2
    | fail handle at_ failure =>
        obtain ⟨rfl, rfl⟩ := Prod.mk.inj (Option.some.inj lease)
        simp only [queueResult, failJob, unit_bind_ok] at done
        exact (updateHeld_ok done.2).2
    | enqueue | refresh | recover | retire | claim => cases lease
  obtain ⟨row, member, holds⟩ := found
  simp only [held, Bool.and_eq_true, beq_iff_eq] at holds
  exact ⟨row, member, holds⟩

end Step

section Runs

variable {sha256 : Bytes → Hash}

theorem queueAfter_concat (calls : List QueueCall) (call : QueueCall) :
    queueAfter sha256 (calls ++ [call]) = queueStep sha256 (queueAfter sha256 calls) call :=
  run_concat GenerationQueue.empty calls call

theorem queueAfter_invariant (calls : List QueueCall) :
    QueueInvariant (queueAfter sha256 calls) :=
  run_invariant (P := QueueInvariant) (fun _ call inv => queueStep_invariant inv call)
    empty_queue_invariant calls

theorem published_forever {job : JobRow} (member : job ∈ (queueAfter sha256 calls).jobs)
    (published : job.state.isPublished = true) (later : List QueueCall)
    : job ∈ (queueAfter sha256 (calls ++ later)).jobs := by
  induction later using List.reverseRecOn with
  | nil =>
      rw [List.append_nil]
      exact member
  | append_singleton later call ih =>
      rw [← List.append_assoc, queueAfter_concat]
      exact (queueStep_rowsKept (queueAfter_invariant _) call).published job ih published

theorem chronological_append (chronological : Chronological (before ++ after)) :
    Chronological before ∧ Chronological after ∧
      ∀ a ∈ before.filterMap QueueCall.now, ∀ b ∈ after.filterMap QueueCall.now, a ≤ b := by
  simp only [Chronological, List.filterMap_append, List.pairwise_append] at chronological
  exact chronological

theorem times_after {claim : QueueCall} (during : now ∈ after.filterMap QueueCall.now) :
    now ∈ (before ++ claim :: after).filterMap QueueCall.now := by
  obtain ⟨call, member, at_⟩ := List.mem_filterMap.mp during
  exact List.mem_filterMap.mpr
    ⟨call, List.mem_append_right before (List.mem_cons_of_mem claim member), at_⟩

/-- A lease in force goes back to its last claim, and as long as it covers the
    clock readings since then it was in force at each of them. -/
def LeaseHistory (sha256 : Bytes → Hash) (calls : List QueueCall) (id : Uuid) (owner : String)
    (leaseUntil : Instant) : Prop :=
  ∃ before claim after, calls = before ++ claim :: after ∧
    (∃ job, claimed (queueAfter sha256 before) claim = some job ∧ job.id = id ∧
      job.leaseOwner = owner) ∧
    (∀ earlier call rest, after = earlier ++ call :: rest →
      ∀ job, claimed (queueAfter sha256 (before ++ claim :: earlier)) call = some job →
        job.id ≠ id) ∧
    ((∀ now ∈ after.filterMap QueueCall.now, now < leaseUntil) →
      ∀ earlier call rest, after = earlier ++ call :: rest → ∀ now, call.now = some now →
        (queueAfter sha256 (before ++ claim :: earlier)).LeasedTo id owner now)

theorem split_concat {after earlier rest : List α} {last call : α}
    (split : after ++ [last] = earlier ++ call :: rest) :
    (after = earlier ∧ last = call) ∨ ∃ rest', after = earlier ++ call :: rest' := by
  induction rest using List.reverseRecOn with
  | nil =>
      obtain ⟨same, sameLast⟩ := List.append_inj' split rfl
      exact .inl ⟨same, by simpa using sameLast⟩
  | append_singleton rest final _ =>
      rw [← List.cons_append, ← List.append_assoc] at split
      exact .inr ⟨rest, (List.append_inj' split rfl).1⟩

theorem lease_history (chronological : Chronological calls)
    (member : row ∈ (queueAfter sha256 calls).jobs) {leaseUntil : Instant}
    (leased : row.state = .leased owner leaseUntil) :
    LeaseHistory sha256 calls row.id owner leaseUntil := by
  induction calls using List.reverseRecOn generalizing row owner leaseUntil with
  | nil => cases member
  | append_singleton calls call ih =>
      rw [queueAfter_concat] at member
      obtain ⟨past, -, ordered⟩ := chronological_append chronological
      rcases (queueStep_rowsKept (queueAfter_invariant calls) call).leased row member owner
        leaseUntil leased with granted | ⟨unclaimed, old, present, sameId, earlierUntil, state, kept⟩
      · refine ⟨calls, call, [], rfl, granted, ?_, ?_⟩
        · intro earlier next rest split
          exact absurd split (by simp)
        · intro _ earlier next rest split
          exact absurd split (by simp)
      · obtain ⟨before, claim, after, rfl, granted, latest, unexpired⟩ := ih past present state
        rw [sameId] at granted latest unexpired
        have covered : ∀ now ∈ call.now, (∀ past ∈ (after ++ [call]).filterMap QueueCall.now,
            past < leaseUntil) → now < earlierUntil := by
          intro now at_ inside
          rcases kept with rfl | ⟨renewed, renewedAt, before⟩
          · apply inside
            simp only [List.filterMap_append, List.mem_append]
            exact .inr (List.mem_filterMap.mpr ⟨call, List.mem_singleton_self call, at_⟩)
          · rw [Option.mem_def, renewedAt] at at_
            exact Option.some.inj at_ ▸ before
        have earlierCovered : (∀ past ∈ (after ++ [call]).filterMap QueueCall.now,
            past < leaseUntil) → ∀ past ∈ after.filterMap QueueCall.now, past < earlierUntil := by
          intro inside past during
          rcases kept with rfl | ⟨renewed, renewedAt, before⟩
          · apply inside
            simp only [List.filterMap_append, List.mem_append]
            exact .inl during
          · have order : past ≤ renewed := ordered past (times_after during) renewed
              (List.mem_filterMap.mpr ⟨call, List.mem_singleton_self call, renewedAt⟩)
            exact lt_of_le_of_lt order before
        refine ⟨before, claim, after ++ [call], by simp, granted, ?_, ?_⟩
        · intro earlier next rest split
          rcases split_concat split with ⟨rfl, rfl⟩ | ⟨rest', split⟩
          · exact unclaimed
          · exact latest earlier next rest' split
        · intro inside earlier next rest split now at_
          rcases split_concat split with ⟨rfl, rfl⟩ | ⟨rest', split⟩
          · exact ⟨old, present, sameId, GenerationJobState.heldBy_iff.mpr
              ⟨earlierUntil, state, covered now at_ inside⟩⟩
          · exact unexpired (earlierCovered inside) earlier next rest' split now at_

/-- The rules the queue follows at one point of a run. -/
structure Disciplined (sha256 : Bytes → Hash) (before after : List QueueCall) : Prop where
  revisions : ∀ tenantId segmentId,
    ((queueAfter sha256 before).segmentJobs tenantId segmentId).map (·.desiredRevision) =
      List.range' 1 ((queueAfter sha256 before).desiredRevision tenantId segmentId)
  oneLease : ∀ now, ∀ a ∈ (queueAfter sha256 before).jobs, ∀ b ∈ (queueAfter sha256 before).jobs,
    a.of b.tenantId b.segmentId = true → ∀ ownerA ownerB, a.state.heldBy ownerA now = true →
      b.state.heldBy ownerB now = true → a = b
  claims : ∀ call rest, after = call :: rest → ∀ job,
    claimed (queueAfter sha256 before) call = some job →
      ∀ earlier ∈ (queueAfter sha256 before).segmentJobs job.tenantId job.segmentId,
        earlier.desiredRevision < job.desiredRevision → earlier.state.terminal = true
  owners : ∀ call rest, after = call :: rest → ∀ job now, call.handle = some (job, now) →
    (∃ queue', queueResult sha256 (queueAfter sha256 before) call = .ok queue') →
      HeldSinceClaim sha256 before job.id job.leaseOwner ∧
        (queueAfter sha256 before).LeasedTo job.id job.leaseOwner now
  published : ∀ job ∈ (queueAfter sha256 before).jobs, job.state.isPublished = true →
    job ∈ (queueAfter sha256 (before ++ after)).jobs

theorem heldSinceClaim_of_handle {rest : List QueueCall}
    (chronological : Chronological (before ++ call :: rest)) (lease : call.handle = some (job, now))
    (leased : (queueAfter sha256 before).LeasedTo job.id job.leaseOwner now) :
    HeldSinceClaim sha256 before job.id job.leaseOwner := by
  obtain ⟨past, -, ordered⟩ := chronological_append chronological
  obtain ⟨row, member, sameId, holds⟩ := leased
  obtain ⟨leaseUntil, state, unexpired⟩ := GenerationJobState.heldBy_iff.mp holds
  obtain ⟨earlier, claim, later, rfl, granted, latest, covered⟩ := lease_history past member state
  rw [sameId] at granted latest covered
  have at_ : call.now = some now := by
    cases call with
    | renew | publish | fail =>
        simp only [QueueCall.handle, Option.some.injEq, Prod.mk.injEq] at lease
        simp only [QueueCall.now, lease.2]
    | enqueue | refresh | recover | retire | claim => cases lease
  have inside : ∀ past ∈ later.filterMap QueueCall.now, past < leaseUntil := by
    intro past during
    have order : past ≤ now := ordered past (times_after during) now
      (List.mem_filterMap.mpr ⟨call, List.mem_cons_self, at_⟩)
    exact lt_of_le_of_lt order unexpired
  refine ⟨earlier, claim, later, rfl, granted, ?_⟩
  intro mid next rest' split
  exact ⟨latest mid next rest' split, covered inside mid next rest' split⟩

theorem claimed_fenced {queue : GenerationQueue} (granted : claimed queue call = some job) :
    ∀ earlier ∈ queue.segmentJobs job.tenantId job.segmentId,
      earlier.desiredRevision < job.desiredRevision → earlier.state.terminal = true := by
  cases call with
  | claim owner now ttl locked =>
      simp only [claimed] at granted
      split at granted
      · rename_i handed queue' done
        rcases claimNext_ok done with ⟨rfl, -⟩ | ⟨row, -, attempt, due, rfl, -⟩
        · cases granted
        · obtain rfl := Option.some.inj granted
          intro earlier listed before
          obtain ⟨present, sameSegment⟩ := List.mem_filter.mp listed
          exact claimable_fenced due earlier present sameSegment before
      · cases granted
  | enqueue | refresh | recover | retire | renew | publish | fail => cases granted

/-- Whatever the workers call and in whatever order, the leases of the queue are disciplined. -/
theorem queue_discipline (sha256 : Bytes → Hash) (before after : List QueueCall)
    (chronological : Chronological (before ++ after)) : Disciplined sha256 before after := by
  have inv : QueueInvariant (queueAfter sha256 before) := queueAfter_invariant before
  constructor
  · exact inv.revisions
  · intro now a memberA b memberB sameSegment ownerA ownerB heldA heldB
    obtain ⟨untilA, stateA, -⟩ := GenerationJobState.heldBy_iff.mp heldA
    obtain ⟨untilB, stateB, -⟩ := GenerationJobState.heldBy_iff.mp heldB
    exact inv.leased_unique memberA memberB sameSegment (by rw [stateA]; rfl) (by rw [stateB]; rfl)
  · intro call rest _ job granted
    exact claimed_fenced granted
  · rintro call rest rfl job now lease ⟨queue', done⟩
    have leased := handle_leased lease done
    exact ⟨heldSinceClaim_of_handle chronological lease leased, leased⟩
  · intro job member published
    exact published_forever member published after

end Runs

def takeoverHandle : GenerationJob :=
  { id := 11, tenantId := 1, segmentId := 2, desiredRevision := 1, policyOnly := false
    attemptCount := 2, leaseOwner := "worker-b", leaseUntil := 90 }

/-- Two jobs; the lease of the first runs out and another worker takes it
    over and renews it. -/
def takeoverRun : List QueueCall :=
  [.enqueue 11 0 1 2 101 false, .enqueue 12 0 1 2 102 true, .claim "worker-a" 10 20 [],
    .claim "worker-b" 40 20 [], .renew takeoverHandle 50 40]

theorem queue_discipline_takeover :
    Chronological (takeoverRun ++ [.publish takeoverHandle 80 1 7]) ∧
    (queueResult (fun _ => 0) (queueAfter (fun _ => 0) takeoverRun)
      (.publish takeoverHandle 80 1 7)).isOk = true ∧
    Disciplined (fun _ => 0) takeoverRun [.publish takeoverHandle 80 1 7] :=
  ⟨by decide +kernel, by decide +kernel,
    queue_discipline (fun _ => 0) takeoverRun [.publish takeoverHandle 80 1 7]
      (by decide +kernel)⟩

end CandyCloud
