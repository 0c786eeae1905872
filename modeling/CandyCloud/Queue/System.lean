import CandyCloud.Queue.Discipline

/-! # The queue as a machine

A call carries what the operation reads outside the queue: clocks, fresh identifiers, locked
rows, the segments and publications of the route store and the states of the control segments.
-/

namespace CandyCloud

open Foundation

/-- The calls of the job queue. -/
inductive QueueCall where
  | enqueue (fresh : Uuid) (clock : Instant) (tenantId segmentId : Uuid) (idempotencyHash : Hash)
      (policyOnly : Bool)
  | refresh (segments : List SegmentRow) (publications : List PublicationRow) (now : Instant)
      (refreshBefore limit : Nat) (locked : List Uuid) (fresh : Uuid → Uuid → Uuid)
      (clock : Instant)
  | recover (activeSegment : Uuid → Uuid → Bool) (segments : List SegmentRow)
      (fresh : Uuid → Uuid → Uuid) (clock : Instant)
  | retire (tenantId segmentId : Uuid)
  | claim (owner : String) (now : Instant) (ttl : Nat) (locked : List Uuid)
  | renew (job : GenerationJob) (now : Instant) (ttl : Nat)
  | publish (job : GenerationJob) (now : Instant) (generation : Nat) (contentHash : Hash)
  | fail (job : GenerationJob) (now : Instant) (failure : JobFailure)

/-- The `now` argument of the operations that take one. -/
def QueueCall.now : QueueCall → Option Instant
  | .refresh _ _ now _ _ _ _ _ | .claim _ now _ _ | .renew _ now _ | .publish _ now _ _
  | .fail _ now _ => some now
  | .enqueue _ _ _ _ _ _ | .recover _ _ _ _ | .retire _ _ => none

def QueueCall.handle : QueueCall → Option (GenerationJob × Instant)
  | .renew job now _ | .publish job now _ _ | .fail job now _ => some (job, now)
  | _ => none

def queueResult (sha256 : Bytes → Hash) (queue : GenerationQueue) :
    QueueCall → Except ControlStoreError GenerationQueue
  | .enqueue fresh clock tenantId segmentId idempotencyHash policyOnly =>
      enqueueGeneration queue fresh clock tenantId segmentId idempotencyHash policyOnly
  | .refresh segments publications now refreshBefore limit locked fresh clock =>
      (refreshExpiring sha256 queue segments publications now refreshBefore limit locked fresh
        clock).map Prod.snd
  | .recover activeSegment segments fresh clock =>
      (recoverRouteInputHeadFailures sha256 queue activeSegment segments fresh clock).map Prod.snd
  | .retire tenantId segmentId => .ok (retireDeletedSegment queue tenantId segmentId)
  | .claim owner now ttl locked => (claimNext queue owner now ttl locked).map Prod.snd
  | .renew job now ttl => (renewJob queue job now ttl).map Prod.snd
  | .publish job now generation contentHash => publishJob queue job now generation contentHash
  | .fail job now failure => failJob queue job now failure

def queueStep (sha256 : Bytes → Hash) (queue : GenerationQueue) (call : QueueCall) :
    GenerationQueue :=
  commit queue (queueResult sha256 queue call)

def claimed (queue : GenerationQueue) : QueueCall → Option GenerationJob
  | .claim owner now ttl locked =>
      match claimNext queue owner now ttl locked with
      | .ok (job, _) => job
      | .error _ => none
  | _ => none

variable {clock : Instant} {tenantId segmentId : Uuid} {hash : Hash} {policyOnly : Bool}
  {segments : List SegmentRow} {publications : List PublicationRow} {start : GenerationQueue}
  {fresh : Uuid → Uuid → Uuid} {count ttl : Nat} {locked : List Uuid}
  {activeSegment : Uuid → Uuid → Bool} {state' : Nat × GenerationQueue} {owner : String}
  {row : JobRow} {job : GenerationJob} {set : JobRow → JobRow}

section Enqueueing

variable {sha256 : Bytes → Hash} {queue queue' : GenerationQueue}

variable {fresh : Uuid}

theorem enqueueGeneration_ok
    (done : enqueueGeneration queue fresh clock tenantId segmentId hash policyOnly = .ok queue') :
    (queue.hasJob tenantId segmentId hash = true ∧ queue' = queue.openHead tenantId segmentId) ∨
    (queue.hasJob tenantId segmentId hash = false ∧ ∃ head,
      (queue.openHead tenantId segmentId).head tenantId segmentId = some head ∧
      ((queue.openHead tenantId segmentId).advanceHead tenantId segmentId head.desiredRevision
        (head.desiredRevision + 1)).insertJob fresh clock tenantId segmentId
        (head.desiredRevision + 1) hash (activationMode policyOnly) = .ok queue') := by
  have sameJobs : (queue.openHead tenantId segmentId).hasJob tenantId segmentId hash =
      queue.hasJob tenantId segmentId hash := by
    simp only [GenerationQueue.hasJob, openHead_jobs]
  unfold enqueueGeneration at done
  simp only [sameJobs] at done
  cases known : queue.hasJob tenantId segmentId hash with
  | true =>
      simp only [known, if_true, Except.ok.injEq] at done
      exact .inl ⟨rfl, done.symm⟩
  | false =>
      simp only [known, Bool.false_eq_true, if_false, orElse_bind_ok] at done
      obtain ⟨head, found, desired, sum, done⟩ := done
      obtain rfl := checkedAdd_some sum
      exact .inr ⟨rfl, head, found, done⟩

theorem enqueueGeneration_invariant (inv : QueueInvariant queue)
    (done : enqueueGeneration queue fresh clock tenantId segmentId hash policyOnly = .ok queue') :
    QueueInvariant queue' := by
  have opened := openHead_invariant inv tenantId segmentId
  rcases enqueueGeneration_ok done with ⟨-, rfl⟩ | ⟨-, head, found, appended⟩
  · exact opened
  · obtain ⟨present, rfl, rfl⟩ := head_some found
    exact appendJob_invariant opened present le_rfl appended

theorem advanceHead_carried (tenantId segmentId : Uuid) (current desired : Nat) :
    Carried queue (queue.advanceHead tenantId segmentId current desired) :=
  ⟨fun job member => ⟨job, member, rfl⟩, fun _ member _ => member, fun _ member _ => member⟩

theorem openHead_carried (queue : GenerationQueue) (tenantId segmentId : Uuid) :
    Carried queue (queue.openHead tenantId segmentId) := by
  constructor
  · intro job member
    exact ⟨job, by rw [openHead_jobs]; exact member, rfl⟩
  · intro job member _
    rw [openHead_jobs]
    exact member
  · intro job member _
    rw [openHead_jobs] at member
    exact member

theorem enqueueGeneration_carried
    (done : enqueueGeneration queue fresh clock tenantId segmentId hash policyOnly = .ok queue') :
    Carried queue queue' := by
  have opened := openHead_carried queue tenantId segmentId
  rcases enqueueGeneration_ok done with ⟨-, rfl⟩ | ⟨-, head, -, appended⟩
  · exact opened
  · exact opened.trans ((advanceHead_carried _ _ _ _).trans (insertJob_carried appended))

end Enqueueing

section Refreshing

variable {sha256 : Bytes → Hash} {queue queue' : GenerationQueue}

def HeadsGrow (queue queue' : GenerationQueue) : Prop :=
  ∀ head ∈ queue.heads, ∃ head' ∈ queue'.heads, head'.tenantId = head.tenantId ∧
    head'.segmentId = head.segmentId ∧ head.desiredRevision ≤ head'.desiredRevision

theorem HeadsGrow.trans {first middle last : GenerationQueue} (a : HeadsGrow first middle)
    (b : HeadsGrow middle last) : HeadsGrow first last := by
  intro head member
  obtain ⟨head', present, tenant, segment, grown⟩ := a head member
  obtain ⟨head'', present', tenant', segment', grown'⟩ := b head' present
  exact ⟨head'', present', tenant'.trans tenant, segment'.trans segment, le_trans grown grown'⟩

theorem advanceHead_grows (tenantId segmentId : Uuid) (current : Nat) :
    HeadsGrow queue (queue.advanceHead tenantId segmentId current (current + 1)) := by
  intro head member
  refine ⟨_, mem_updateWhere.mpr ⟨head, member, rfl⟩, ?_⟩
  split
  · rename_i moved
    simp only [Bool.and_eq_true, beq_iff_eq] at moved
    exact ⟨rfl, rfl, by simp only [moved.2]; omega⟩
  · exact ⟨rfl, rfl, le_rfl⟩

variable {row : Expiring}

theorem expiringSegments_head {threshold : Nat}
    (member : row ∈ expiringSegments queue segments publications threshold) :
    ∃ head ∈ queue.heads, head.tenantId = row.tenantId ∧ head.segmentId = row.segmentId ∧
      head.desiredRevision = row.currentRevision := by
  simp only [expiringSegments, List.mem_flatMap, List.mem_map, List.mem_filter] at member
  obtain ⟨segment, -, head, ⟨present, located⟩, publication, -, rfl⟩ := member
  obtain ⟨tenant, segment⟩ := HeadRow.of_iff.mp located
  exact ⟨head, present, tenant, segment, rfl⟩

/-- What every pass of the refresh loop keeps. -/
structure Refreshed (start queue : GenerationQueue) : Prop where
  inv : QueueInvariant queue
  carried : Carried start queue
  heads : HeadsGrow start queue

theorem refreshSegment_refreshed (refreshed : Refreshed start queue)
    (known : ∃ head ∈ start.heads, head.tenantId = row.tenantId ∧
      head.segmentId = row.segmentId ∧ head.desiredRevision = row.currentRevision)
    (done : refreshSegment sha256 fresh clock queue row = .ok queue') :
    Refreshed start queue' := by
  obtain ⟨head, member, tenant, segment, revision⟩ := known
  obtain ⟨head', present, tenant', segment', grown⟩ := refreshed.heads head member
  simp only [refreshSegment, orElse_bind_ok] at done
  obtain ⟨desired, sum, done⟩ := done
  obtain rfl := checkedAdd_some sum
  rw [← tenant, ← segment, ← tenant', ← segment', ← revision] at done
  constructor
  · exact appendJob_invariant refreshed.inv present grown done
  · exact refreshed.carried.trans ((advanceHead_carried _ _ _ _).trans (insertJob_carried done))
  · obtain ⟨job, -, -, -, -, -, rfl⟩ := insertJob_ok done
    exact refreshed.heads.trans (advanceHead_grows _ _ _)

theorem refreshExpiring_refreshed {now : Instant} {refreshBefore limit : Nat}
    (inv : QueueInvariant queue)
    (done : refreshExpiring sha256 queue segments publications now refreshBefore limit locked fresh
      clock = .ok (count, queue')) : Refreshed queue queue' := by
  simp only [refreshExpiring, unit_bind_ok, orElse_bind_ok, bind_ok (α := GenerationQueue),
    pure_ok, Prod.mk.injEq] at done
  obtain ⟨-, margin, -, final, looped, -, rfl⟩ := done
  refine updateEach_invariant (P := Refreshed queue) ?_
    ⟨inv, Carried.refl queue, fun head member => ⟨head, member, rfl, rfl, le_rfl⟩⟩ looped
  intro s s' row member refreshed pass
  have listed := List.mem_of_mem_take member
  rw [List.mem_insertionSort, List.mem_filter] at listed
  exact refreshSegment_refreshed refreshed (expiringSegments_head listed.1) pass

end Refreshing

section Recovery

variable {sha256 : Bytes → Hash} {queue queue' : GenerationQueue}

variable {row : HeadJob}

theorem headJobs_head (member : row ∈ headJobs queue activeSegment segments) :
    row.candidate ∈ queue.jobs ∧ ∃ head ∈ queue.heads,
      head.tenantId = row.candidate.tenantId ∧ head.segmentId = row.candidate.segmentId ∧
      head.desiredRevision = row.candidate.desiredRevision := by
  simp only [headJobs, List.mem_flatMap, List.mem_map, List.mem_filter, Bool.and_eq_true,
    beq_iff_eq, JobRow.of_iff] at member
  obtain ⟨head, present, candidate, ⟨candidatePresent, ⟨⟨tenant, segment⟩, revision⟩, -⟩, rfl⟩ :=
    member
  exact ⟨candidatePresent, head, present, tenant.symm, segment.symm, revision.symm⟩

/-- What every pass of the recovery loop keeps. -/
structure Recovered (start queue : GenerationQueue) : Prop where
  inv : QueueInvariant queue
  carried : Carried start queue

theorem requeueJob_recovered {candidate : JobRow} (startInv : QueueInvariant start)
    (recovered : Recovered start queue) (member : candidate ∈ start.jobs)
    (newest : start.desiredRevision candidate.tenantId candidate.segmentId =
      candidate.desiredRevision) :
    Recovered start (requeueJob queue clock candidate.id) := by
  have kept : ∀ job : JobRow, JobRow.key { job with
      state := .retry "ROUTE_RETRY_AFTER_RUNTIME_UPGRADE", nextAttemptAt := clock } = job.key :=
    fun _ => rfl
  constructor
  · apply updateJobs_invariant recovered.inv kept
    intro job present leased earlier earlierPresent sameSegment before
    split at leased
    · cases leased
    · have settled := recovered.inv.leases job present leased earlier earlierPresent sameSegment
        before
      have unselected : requeued candidate.id earlier = false := by
        by_contra selected
        simp only [requeued, Bool.not_eq_false, Bool.and_eq_true, beq_iff_eq] at selected
        obtain ⟨current, currentPresent, same⟩ := recovered.carried.kept candidate member
        have sameId : current.id = candidate.id := congrArg Prod.fst same
        have located : earlier = current :=
          eq_of_key recovered.inv.ids earlierPresent currentPresent (selected.1.trans sameId.symm)
        subst located
        simp only [JobRow.key, Prod.mk.injEq] at same
        have bound := (startInv.revision_le (recovered.carried.leased job present leased)).2
        obtain ⟨tenant, segment⟩ := JobRow.of_iff.mp sameSegment
        rw [← tenant, ← segment, same.2.1, same.2.2.1, newest] at bound
        omega
      simp only [unselected, Bool.false_eq_true, if_false, settled]
  · refine recovered.carried.trans (updateJobs_carried kept ?_ fun _ => rfl)
    intro job _ selected
    simp only [requeued, Bool.and_eq_true] at selected
    cases state : job.state with
    | permanentFailure code => rfl
    | pending | leased _ _ | retry _ | published _ _ =>
        simp [state, GenerationJobState.isPermanentFailure] at selected

theorem reconcileJob_recovered (recovered : Recovered start queue)
    (done : reconcileJob sha256 fresh clock queue row = .ok queue') : Recovered start queue' := by
  simp only [reconcileJob, orElse_bind_ok, unit_bind_ok, reject_ok, bne_eq_false_iff_eq] at done
  obtain ⟨desired, sum, advanced, done⟩ := done
  obtain rfl := checkedAdd_some sum
  obtain ⟨head, only⟩ := List.length_eq_one_iff.mp advanced
  have member : head ∈ queue.heads.filter fun head =>
      head.of row.candidate.tenantId row.candidate.segmentId &&
        head.desiredRevision == row.candidate.desiredRevision := by
    rw [only]
    exact List.mem_singleton_self head
  simp only [List.mem_filter, Bool.and_eq_true, beq_iff_eq, HeadRow.of_iff] at member
  obtain ⟨present, ⟨tenant, segment⟩, revision⟩ := member
  rw [← tenant, ← segment, ← revision] at done
  constructor
  · exact appendJob_invariant recovered.inv present le_rfl done
  · exact recovered.carried.trans ((advanceHead_carried _ _ _ _).trans (insertJob_carried done))

theorem recoverHeadJob_recovered (startInv : QueueInvariant start)
    (recovered : Recovered start queue) (member : row.candidate ∈ start.jobs)
    (newest : start.desiredRevision row.candidate.tenantId row.candidate.segmentId =
      row.candidate.desiredRevision)
    (done : recoverHeadJob sha256 fresh clock (count, queue) row = .ok state') :
    Recovered start state'.2 := by
  simp only [recoverHeadJob] at done
  split at done
  · split at done
    · rw [← Except.ok.inj done]
      exact requeueJob_recovered startInv recovered member newest
    · rw [← Except.ok.inj done]
      exact recovered
  · split at done
    · rw [← Except.ok.inj done]
      exact recovered
    · simp only [bind_ok, pure_ok] at done
      obtain ⟨final, reconciled, rfl⟩ := done
      exact reconcileJob_recovered recovered reconciled
  · rw [← Except.ok.inj done]
    exact recovered
  · rw [← Except.ok.inj done]
    exact recovered
  · rw [← Except.ok.inj done]
    exact recovered

theorem recoverRouteInputHeadFailures_recovered (inv : QueueInvariant queue)
    (done : recoverRouteInputHeadFailures sha256 queue activeSegment segments fresh clock
      = .ok state') : Recovered queue state'.2 := by
  refine updateEach_invariant (P := fun state => Recovered queue state.2) ?_
    ⟨inv, Carried.refl queue⟩ done
  intro s s' row member recovered pass
  obtain ⟨present, head, headPresent, tenant, segment, revision⟩ := headJobs_head member
  refine recoverHeadJob_recovered inv recovered present ?_ pass
  rw [GenerationQueue.desiredRevision, ← tenant, ← segment, head_of_mem inv headPresent]
  exact revision

end Recovery

section Leasing

variable {queue queue' : GenerationQueue}

theorem retireDeletedSegment_invariant (inv : QueueInvariant queue) :
    QueueInvariant (retireDeletedSegment queue tenantId segmentId) := by
  apply updateUnsettled_invariant inv
  · exact fun _ => rfl
  · intro job _ selected
    simp only [Bool.and_eq_true, Bool.not_eq_true'] at selected
    exact selected.2
  · intro job _ _ leased
    cases leased

theorem retireDeletedSegment_carried (tenantId segmentId : Uuid) :
    Carried queue (retireDeletedSegment queue tenantId segmentId) := by
  apply updateJobs_carried
  · exact fun _ => rfl
  · intro job _ selected
    simp only [Bool.and_eq_true, Bool.not_eq_true'] at selected
    exact not_published_of_unsettled selected.2
  · exact fun _ => rfl

theorem claimNext_ok {now : Instant} {job : Option GenerationJob}
    (done : claimNext queue owner now ttl locked = .ok (job, queue')) :
    (job = none ∧ queue' = queue) ∨
    ∃ row ∈ queue.jobs, ∃ attempt,
      claimable queue now row = true ∧
      job = some
        { id := row.id, tenantId := row.tenantId, segmentId := row.segmentId
          desiredRevision := row.desiredRevision
          policyOnly := row.activationMode == .policyOnly
          attemptCount := attempt, leaseOwner := owner, leaseUntil := now + ttl } ∧
      queue' = leaseJob queue owner (now + ttl) attempt row.id := by
  simp only [claimNext, unit_bind_ok, orElse_bind_ok] at done
  obtain ⟨-, lease, bounded, done⟩ := done
  obtain rfl : ttl = lease := by
    unfold fromStd at bounded
    split at bounded
    · exact Option.some.inj bounded
    · cases bounded
  split at done
  · simp only [pure_ok, Prod.mk.injEq] at done
    exact .inl ⟨done.1.symm, done.2.symm⟩
  · rename_i row found
    simp only [orElse_bind_ok, unit_bind_ok, pure_ok, Prod.mk.injEq] at done
    obtain ⟨attempt, -, -, rfl, rfl⟩ := done
    have member := List.mem_of_mem_head? found
    rw [List.mem_insertionSort, List.mem_filter, Bool.and_eq_true] at member
    exact .inr ⟨row, member.1, attempt, member.2.1, rfl, rfl⟩

theorem claimable_unsettled {now : Instant} (due : claimable queue now row = true)
    : row.state.terminal = false := by
  simp only [claimable, Bool.and_eq_true] at due
  cases state : row.state with
  | pending | leased _ _ | retry _ => rfl
  | published _ _ | permanentFailure _ => simp [state] at due

theorem claimable_fenced {now : Instant} (due : claimable queue now row = true) :
    queue.Fenced row := by
  intro earlier member sameSegment before
  simp only [claimable, Bool.and_eq_true, Bool.not_eq_true'] at due
  by_contra unsettled
  have blocked := due.2
  rw [List.any_eq_false] at blocked
  exact blocked earlier member (by simp [sameSegment, before, unsettled])

theorem leaseJob_invariant (inv : QueueInvariant queue) (member : row ∈ queue.jobs) {now : Instant}
    (due : claimable queue now row = true) {leaseUntil : Instant} {attempt : Nat}
    : QueueInvariant (leaseJob queue owner leaseUntil attempt row.id) := by
  have located : ∀ job ∈ queue.jobs, (job.id == row.id) = true → job = row := by
    intro job present same
    exact eq_of_key inv.ids present member (beq_iff_eq.mp same)
  apply updateUnsettled_invariant inv
  · exact fun _ => rfl
  · intro job present same
    rw [located job present same]
    exact claimable_unsettled due
  · intro job present same _
    rw [located job present same]
    exact claimable_fenced due

theorem updateHeld_ok {now : Instant} (done : updateHeld queue job now set = .ok queue') :
    queue' = queue.updateJobs (held job now) set ∧ ∃ row ∈ queue.jobs, held job now row = true := by
  simp only [updateHeld, unit_bind_ok, reject_ok, bne_eq_false_iff_eq, pure_ok] at done
  obtain ⟨affected, rfl⟩ := done
  obtain ⟨row, only⟩ := List.length_eq_one_iff.mp affected
  have member : row ∈ queue.jobs.filter (held job now) := by
    rw [only]
    exact List.mem_singleton_self row
  exact ⟨rfl, row, List.mem_filter.mp member⟩

theorem held_leased {now : Instant} (holds : held job now row = true)
    : row.id = job.id ∧ ∃ leaseUntil,
      row.state = .leased job.leaseOwner leaseUntil ∧ now < leaseUntil := by
  simp only [held, Bool.and_eq_true, beq_iff_eq, GenerationJobState.heldBy_iff] at holds
  exact holds

theorem updateHeld_invariant (inv : QueueInvariant queue) {now : Instant}
    (kept : ∀ row, (set row).key = row.key) :
    QueueInvariant (queue.updateJobs (held job now) set) := by
  apply updateUnsettled_invariant inv kept
  · intro row _ holds
    obtain ⟨-, leaseUntil, state, -⟩ := held_leased holds
    rw [state]
    rfl
  · intro row member holds _
    obtain ⟨-, leaseUntil, state, -⟩ := held_leased holds
    exact inv.leases row member (by rw [state]; rfl)

theorem updateHeld_carried {now : Instant} (kept : ∀ row, (set row).key = row.key)
    (released : ∀ row, (set row).state.isLeased = false) :
    Carried queue (queue.updateJobs (held job now) set) := by
  apply updateJobs_carried kept ?_ released
  intro row _ holds
  obtain ⟨-, leaseUntil, state, -⟩ := held_leased holds
  rw [state]
  rfl

theorem JobFailure.apply_key (failure : JobFailure) (now : Instant) (row : JobRow) :
    (failure.apply now row).key = row.key := by
  cases failure with
  | retry code retryAt => rfl
  | permanent code => rfl

theorem JobFailure.apply_released (failure : JobFailure) (now : Instant) (row : JobRow) :
    (failure.apply now row).state.isLeased = false := by
  cases failure with
  | retry code retryAt => rfl
  | permanent code => rfl

theorem renewJob_ok {now : Instant} {until_ : Instant}
    (done : renewJob queue job now ttl = .ok (until_, queue')) :
    (queue' = queue.updateJobs (held job now) fun row =>
      { row with state := .leased job.leaseOwner (now + ttl) }) ∧
    ∃ row ∈ queue.jobs, held job now row = true := by
  simp only [renewJob, unit_bind_ok, orElse_bind_ok, bind_ok (α := GenerationQueue), pure_ok,
    Prod.mk.injEq] at done
  obtain ⟨-, lease, bounded, final, updated, -, rfl⟩ := done
  obtain rfl : ttl = lease := by
    unfold fromStd at bounded
    split at bounded
    · exact Option.some.inj bounded
    · cases bounded
  exact updateHeld_ok updated

end Leasing

end CandyCloud
