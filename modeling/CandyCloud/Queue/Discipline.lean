import CandyCloud.Foundation.Machine
import CandyCloud.Queue.Jobs

/-! # Invariant of the generation job queue

Per segment the revisions are consecutive and a leased job has only settled jobs before it.
-/

namespace CandyCloud

open Foundation

variable {job a b : JobRow} {head : HeadRow} {state : GenerationJobState} {id : Uuid}
  {clock : Instant} {desired : Nat} {hash : Hash} {mode : ActivationMode}

namespace JobRow

/-- The columns no statement rewrites. -/
def key (job : JobRow) : Uuid × Uuid × Uuid × Nat :=
  (job.id, job.tenantId, job.segmentId, job.desiredRevision)

theorem of_iff {tenantId segmentId : Uuid} :
    job.of tenantId segmentId = true ↔ job.tenantId = tenantId ∧ job.segmentId = segmentId := by
  simp [JobRow.of]

theorem of_key (same : a.key = b.key) (tenantId segmentId : Uuid) :
    a.of tenantId segmentId = b.of tenantId segmentId := by
  simp only [key, Prod.mk.injEq] at same
  simp only [JobRow.of, same.2.1, same.2.2.1]

end JobRow

theorem HeadRow.of_iff {tenantId segmentId : Uuid} :
    head.of tenantId segmentId = true ↔
      head.tenantId = tenantId ∧ head.segmentId = segmentId := by
  simp [HeadRow.of]

namespace GenerationQueue

def empty : GenerationQueue := ⟨[], []⟩

/-- `segment_generation_heads.desired_revision`, zero without a row. -/
def desiredRevision (queue : GenerationQueue) (tenantId segmentId : Uuid) : Nat :=
  ((queue.head tenantId segmentId).map (·.desiredRevision)).getD 0

/-- Every smaller revision of the job's segment is settled. -/
def Fenced (queue : GenerationQueue) (job : JobRow) : Prop :=
  ∀ earlier ∈ queue.jobs, earlier.of job.tenantId job.segmentId = true →
    earlier.desiredRevision < job.desiredRevision → earlier.state.terminal = true

end GenerationQueue

structure QueueInvariant (queue : GenerationQueue) : Prop where
  headKeys : (queue.heads.map fun head => (head.tenantId, head.segmentId)).Nodup
  ids : (queue.jobs.map (·.id)).Nodup
  revisions : ∀ tenantId segmentId,
    (queue.segmentJobs tenantId segmentId).map (·.desiredRevision) =
      List.range' 1 (queue.desiredRevision tenantId segmentId)
  leases : ∀ job ∈ queue.jobs, job.state.isLeased = true → queue.Fenced job

/-- No job disappears, published jobs stay as they are, and no job is leased
    that was not. -/
structure Carried (queue queue' : GenerationQueue) : Prop where
  kept : ∀ job ∈ queue.jobs, ∃ job' ∈ queue'.jobs, job'.key = job.key
  published : ∀ job ∈ queue.jobs, job.state.isPublished = true → job ∈ queue'.jobs
  leased : ∀ job ∈ queue'.jobs, job.state.isLeased = true → job ∈ queue.jobs

theorem Carried.refl (queue : GenerationQueue) : Carried queue queue :=
  ⟨fun job member => ⟨job, member, rfl⟩, fun _ member _ => member, fun _ member _ => member⟩

theorem Carried.trans {first middle last : GenerationQueue} (a : Carried first middle)
    (b : Carried middle last) : Carried first last := by
  constructor
  · intro job member
    obtain ⟨job', present, same⟩ := a.kept job member
    obtain ⟨job'', present', same'⟩ := b.kept job' present
    exact ⟨job'', present', same'.trans same⟩
  · intro job member published
    exact b.published job (a.published job member published) published
  · intro job member leased
    exact a.leased job (b.leased job member leased) leased

theorem not_published_of_unsettled (unsettled : state.terminal = false)
    : state.isPublished = false := by
  cases state with
  | published generation contentHash => cases unsettled
  | pending | leased _ _ | retry _ | permanentFailure _ => rfl

theorem not_terminal_of_leased (leased : state.isLeased = true) :
    state.terminal = false := by
  cases state with
  | leased owner leaseUntil => rfl
  | pending | retry _ | published _ _ | permanentFailure _ => cases leased

theorem empty_queue_invariant : QueueInvariant .empty := by
  constructor
  · exact List.nodup_nil
  · exact List.nodup_nil
  · intro tenantId segmentId
    rfl
  · intro job member
    cases member

namespace QueueInvariant

variable {queue queue' : GenerationQueue}

theorem revision_le (inv : QueueInvariant queue) (member : job ∈ queue.jobs) :
    0 < job.desiredRevision ∧
      job.desiredRevision ≤ queue.desiredRevision job.tenantId job.segmentId := by
  have listed : job.desiredRevision ∈
      (queue.segmentJobs job.tenantId job.segmentId).map (·.desiredRevision) :=
    List.mem_map_of_mem (List.mem_filter.mpr ⟨member, JobRow.of_iff.mpr ⟨rfl, rfl⟩⟩)
  rw [inv.revisions, List.mem_range'_1] at listed
  omega

theorem leased_unique (inv : QueueInvariant queue) (ha : a ∈ queue.jobs) (hb : b ∈ queue.jobs)
    (same : a.of b.tenantId b.segmentId = true) (leasedA : a.state.isLeased = true)
    (leasedB : b.state.isLeased = true) : a = b := by
  have same' := JobRow.of_iff.mp same
  have notBefore : ¬ a.desiredRevision < b.desiredRevision := by
    intro before
    have settled := inv.leases b hb leasedB a ha same before
    rw [not_terminal_of_leased leasedA] at settled
    cases settled
  have notAfter : ¬ b.desiredRevision < a.desiredRevision := by
    intro before
    have settled := inv.leases a ha leasedA b hb
      (JobRow.of_iff.mpr ⟨same'.1.symm, same'.2.symm⟩) before
    rw [not_terminal_of_leased leasedB] at settled
    cases settled
  have distinct : ((queue.segmentJobs b.tenantId b.segmentId).map (·.desiredRevision)).Nodup := by
    rw [inv.revisions]
    exact List.nodup_range'
  apply eq_of_key distinct
  · exact List.mem_filter.mpr ⟨ha, same⟩
  · exact List.mem_filter.mpr ⟨hb, JobRow.of_iff.mpr ⟨rfl, rfl⟩⟩
  · omega

end QueueInvariant

section Updates

variable {queue : GenerationQueue} {selected : JobRow → Bool} {set : JobRow → JobRow}

theorem mem_updateJobs :
    job ∈ (queue.updateJobs selected set).jobs ↔
      ∃ old ∈ queue.jobs, (if selected old then set old else old) = job :=
  mem_updateWhere

theorem updated_key (selected : JobRow → Bool) (kept : ∀ job, (set job).key = job.key)
    (job : JobRow) :
    (if selected job then set job else job).key = job.key := by
  split
  · exact kept job
  · rfl

theorem updateJobs_invariant (inv : QueueInvariant queue) (kept : ∀ job, (set job).key = job.key)
    (fenced : ∀ job ∈ queue.jobs,
      (if selected job then set job else job).state.isLeased = true →
        ∀ earlier ∈ queue.jobs, earlier.of job.tenantId job.segmentId = true →
          earlier.desiredRevision < job.desiredRevision →
          (if selected earlier then set earlier else earlier).state.terminal = true) :
    QueueInvariant (queue.updateJobs selected set) := by
  constructor
  · exact inv.headKeys
  · have kept_id : ∀ job, (set job).id = job.id := fun job => congrArg Prod.fst (kept job)
    have same : (queue.updateJobs selected set).jobs.map (·.id) = queue.jobs.map (·.id) :=
      map_updateWhere kept_id queue.jobs
    rw [same]
    exact inv.ids
  · intro tenantId segmentId
    have kept_of : ∀ job, (set job).of tenantId segmentId = job.of tenantId segmentId :=
      fun job => JobRow.of_key (kept job) tenantId segmentId
    have kept_revision : ∀ job, (set job).desiredRevision = job.desiredRevision := by
      intro job
      have same := kept job
      simp only [JobRow.key, Prod.mk.injEq] at same
      exact same.2.2.2
    have filtered : (queue.updateJobs selected set).segmentJobs tenantId segmentId =
        updateWhere selected set (queue.segmentJobs tenantId segmentId) :=
      filter_updateWhere kept_of queue.jobs
    rw [filtered, map_updateWhere kept_revision]
    exact inv.revisions tenantId segmentId
  · intro job member leased earlier earlierMember sameSegment before
    obtain ⟨old, present, rfl⟩ := mem_updateJobs.mp member
    obtain ⟨oldEarlier, earlierPresent, rfl⟩ := mem_updateJobs.mp earlierMember
    have key := updated_key selected kept old
    have earlierKey := updated_key selected kept oldEarlier
    simp only [JobRow.key, Prod.mk.injEq] at key earlierKey
    rw [JobRow.of_iff, key.2.1, key.2.2.1, earlierKey.2.1, earlierKey.2.2.1] at sameSegment
    rw [key.2.2.2, earlierKey.2.2.2] at before
    exact fenced old present leased oldEarlier earlierPresent (JobRow.of_iff.mpr sameSegment) before

theorem updateUnsettled_invariant (inv : QueueInvariant queue)
    (kept : ∀ job, (set job).key = job.key)
    (unsettled : ∀ job ∈ queue.jobs, selected job = true → job.state.terminal = false)
    (fenced : ∀ job ∈ queue.jobs, selected job = true → (set job).state.isLeased = true →
      queue.Fenced job) :
    QueueInvariant (queue.updateJobs selected set) := by
  apply updateJobs_invariant inv kept
  intro job member leased earlier earlierMember sameSegment before
  have settled : earlier.state.terminal = true := by
    split at leased
    · rename_i chosen
      exact fenced job member chosen leased earlier earlierMember sameSegment before
    · exact inv.leases job member leased earlier earlierMember sameSegment before
  have unchosen : selected earlier = false := by
    by_contra chosen
    rw [unsettled earlier earlierMember (by simpa using chosen)] at settled
    cases settled
  simp only [unchosen, Bool.false_eq_true, if_false, settled]

theorem updateJobs_kept (kept : ∀ job, (set job).key = job.key) (member : job ∈ queue.jobs)
    : ∃ job' ∈ (queue.updateJobs selected set).jobs,
      job'.key = job.key :=
  ⟨_, mem_updateJobs.mpr ⟨job, member, rfl⟩, updated_key selected kept job⟩

theorem updateUnsettled_published
    (unsettled : ∀ job ∈ queue.jobs, selected job = true → job.state.isPublished = false)
    (member : job ∈ queue.jobs) (published : job.state.isPublished = true) :
    job ∈ (queue.updateJobs selected set).jobs := by
  refine mem_updateJobs.mpr ⟨job, member, ?_⟩
  apply if_neg
  intro chosen
  rw [unsettled job member chosen] at published
  cases published

theorem updateJobs_carried (kept : ∀ job, (set job).key = job.key)
    (unsettled : ∀ job ∈ queue.jobs, selected job = true → job.state.isPublished = false)
    (released : ∀ job, (set job).state.isLeased = false) :
    Carried queue (queue.updateJobs selected set) := by
  constructor
  · exact fun job member => updateJobs_kept kept member
  · exact fun job member published => updateUnsettled_published unsettled member published
  · intro job member leased
    obtain ⟨old, present, rfl⟩ := mem_updateJobs.mp member
    by_cases chosen : selected old = true
    · rw [if_pos chosen, released old] at leased
      cases leased
    · rw [if_neg chosen]
      exact present

end Updates

section Inserts

variable {queue queue' : GenerationQueue} {tenantId segmentId : Uuid}

theorem openHead_jobs : (queue.openHead tenantId segmentId).jobs = queue.jobs := by
  unfold GenerationQueue.openHead
  split
  · rfl
  · rfl

theorem openHead_desired (queue : GenerationQueue) (tenantId segmentId tenant segment : Uuid) :
    (queue.openHead tenantId segmentId).desiredRevision tenant segment =
      queue.desiredRevision tenant segment := by
  unfold GenerationQueue.openHead
  split
  · rfl
  · simp only [GenerationQueue.desiredRevision, GenerationQueue.head, List.find?_append,
      List.find?_singleton]
    cases queue.heads.find? fun head => head.of tenant segment with
    | some head => rfl
    | none =>
        simp only [Option.none_or, Option.map_none, Option.getD_none]
        split
        · rfl
        · rfl

theorem openHead_invariant (inv : QueueInvariant queue) (tenantId segmentId : Uuid) :
    QueueInvariant (queue.openHead tenantId segmentId) := by
  have desired := openHead_desired queue tenantId segmentId
  unfold GenerationQueue.openHead at desired ⊢
  split
  · exact inv
  · rename_i absent
    have absent : ∀ head ∈ queue.heads, head.of tenantId segmentId = false := by
      intro head member
      by_contra selects
      exact absent (List.any_eq_true.mpr ⟨head, member, by simpa using selects⟩)
    constructor
    · apply nodup_concat_key inv.headKeys
      intro old member same
      have := absent old member
      simp only [Prod.mk.injEq] at same
      simp [HeadRow.of, same.1, same.2] at this
    · exact inv.ids
    · intro tenant segment
      have same := desired tenant segment
      split at same
      · rename_i present
        exact absurd present (by simpa using absent)
      · rw [same]
        exact inv.revisions tenant segment
    · exact inv.leases

theorem head_some (found : queue.head tenantId segmentId = some head) :
    head ∈ queue.heads ∧ head.tenantId = tenantId ∧ head.segmentId = segmentId := by
  unfold GenerationQueue.head at found
  have located := List.find?_some found
  exact ⟨List.mem_of_find?_eq_some found, HeadRow.of_iff.mp located⟩

theorem head_of_mem (inv : QueueInvariant queue) (member : head ∈ queue.heads) :
    queue.head head.tenantId head.segmentId = some head := by
  apply find_of_key inv.headKeys member
  intro candidate
  simp only [HeadRow.of_iff, Prod.mk.injEq]

theorem advanceHead_head (current desired : Nat) (tenant segment : Uuid) :
    (queue.advanceHead tenantId segmentId current desired).head tenant segment =
      (queue.head tenant segment).map fun head =>
        if head.of tenantId segmentId && head.desiredRevision == current
        then { head with desiredRevision := desired } else head := by
  unfold GenerationQueue.head GenerationQueue.advanceHead
  rw [find_updateWhere]
  intro head _
  rfl

theorem advanceHead_other (current desired : Nat) {tenant segment : Uuid}
    (other : ¬ (tenantId = tenant ∧ segmentId = segment)) :
    (queue.advanceHead tenantId segmentId current desired).desiredRevision tenant segment =
      queue.desiredRevision tenant segment := by
  simp only [GenerationQueue.desiredRevision, advanceHead_head]
  cases found : queue.head tenant segment with
  | none => rfl
  | some row =>
      obtain ⟨-, located⟩ := head_some found
      have unmoved : (row.of tenantId segmentId && row.desiredRevision == current) = false := by
        by_contra matched
        simp only [Bool.not_eq_false, Bool.and_eq_true, HeadRow.of_iff] at matched
        exact other ⟨matched.1.1.symm.trans located.1, matched.1.2.symm.trans located.2⟩
      simp only [Option.map_some, unmoved, Bool.false_eq_true, if_false]

theorem advanceHead_desired (inv : QueueInvariant queue) (member : head ∈ queue.heads)
    (desired : Nat) (tenant segment : Uuid) :
    (queue.advanceHead head.tenantId head.segmentId head.desiredRevision desired).desiredRevision
        tenant segment =
      if head.of tenant segment then desired else queue.desiredRevision tenant segment := by
  by_cases same : head.of tenant segment = true
  · obtain ⟨rfl, rfl⟩ := HeadRow.of_iff.mp same
    simp [GenerationQueue.desiredRevision, advanceHead_head, head_of_mem inv member, HeadRow.of]
  · rw [if_neg same]
    exact advanceHead_other _ _ fun located => same (HeadRow.of_iff.mpr located)

theorem insertJob_ok
    (done : queue.insertJob id clock tenantId segmentId desired hash mode = .ok queue') :
    ∃ job : JobRow, job.key = (id, tenantId, segmentId, desired) ∧ job.state = .pending ∧
      job.idempotencyHash = hash ∧ job.activationMode = mode ∧
      (∀ old ∈ queue.jobs, job.conflict old = false) ∧
      queue' = { queue with jobs := queue.jobs ++ [job] } := by
  simp only [GenerationQueue.insertJob, orElse_bind_ok, insertRow_some, pure_ok] at done
  obtain ⟨jobs, ⟨free, rfl⟩, rfl⟩ := done
  exact ⟨_, rfl, rfl, rfl, rfl, free, rfl⟩

/-- A job numbered behind a known head: the unique keys admit it only when the
    head had not moved, and then the head moves with it. -/
theorem appendJob_invariant (inv : QueueInvariant queue) (member : head ∈ queue.heads)
    {current : Nat} (reached : current ≤ head.desiredRevision)
    (done : (queue.advanceHead head.tenantId head.segmentId current (current + 1)).insertJob id
      clock head.tenantId head.segmentId (current + 1) hash mode = .ok queue') :
    QueueInvariant queue' := by
  obtain ⟨job, key, pending, -, -, free, rfl⟩ := insertJob_ok done
  simp only [JobRow.key, Prod.mk.injEq] at key
  obtain ⟨-, tenantKey, segmentKey, revisionKey⟩ := key
  have desired : queue.desiredRevision head.tenantId head.segmentId = head.desiredRevision := by
    simp [GenerationQueue.desiredRevision, head_of_mem inv member]
  have exact_ : current = head.desiredRevision := by
    by_contra moved
    have taken : current + 1 ∈ (queue.segmentJobs head.tenantId head.segmentId).map
        (·.desiredRevision) := by
      rw [inv.revisions, desired, List.mem_range'_1]
      omega
    obtain ⟨old, listed, same⟩ := List.mem_map.mp taken
    obtain ⟨present, inSegment⟩ := List.mem_filter.mp listed
    have clash := free old present
    simp [JobRow.conflict, tenantKey, segmentKey, revisionKey, inSegment, same] at clash
  subst exact_
  have fresh : ∀ old ∈ queue.jobs, job.id ≠ old.id := by
    intro old present same
    have clash := free old present
    simp [JobRow.conflict, same] at clash
  constructor
  · have kept : ∀ row : HeadRow, (row.tenantId, row.segmentId) =
        (({ row with desiredRevision := head.desiredRevision + 1 } : HeadRow).tenantId,
          ({ row with desiredRevision := head.desiredRevision + 1 } : HeadRow).segmentId) :=
      fun _ => rfl
    simp only [GenerationQueue.advanceHead]
    rw [map_updateWhere fun row => (kept row).symm]
    exact inv.headKeys
  · exact nodup_concat_key inv.ids fresh
  · intro tenant segment
    have moved := advanceHead_desired inv member (head.desiredRevision + 1) tenant segment
    have sameSegment : job.of tenant segment = head.of tenant segment := by
      simp only [JobRow.of, HeadRow.of, tenantKey, segmentKey]
    simp only [GenerationQueue.segmentJobs, GenerationQueue.desiredRevision, GenerationQueue.head]
      at moved ⊢
    rw [moved, List.filter_append, List.map_append]
    have listed := inv.revisions tenant segment
    simp only [GenerationQueue.segmentJobs] at listed
    simp only [GenerationQueue.advanceHead]
    rw [listed]
    by_cases same : head.of tenant segment = true
    · obtain ⟨rfl, rfl⟩ := HeadRow.of_iff.mp same
      rw [desired]
      simp [sameSegment, same, revisionKey, List.range'_concat, Nat.add_comm]
    · simp [sameSegment, same, GenerationQueue.desiredRevision, GenerationQueue.head]
  · intro leasedJob present leased earlier earlierPresent sameSegment before
    have old : leasedJob ∈ queue.jobs := by
      rcases mem_concat.mp present with old | new
      · exact old
      · rw [new, pending] at leased
        cases leased
    rcases mem_concat.mp earlierPresent with earlierOld | new
    · exact inv.leases leasedJob old leased earlier earlierOld sameSegment before
    · have bound := (inv.revision_le old).2
      obtain ⟨rfl⟩ := new
      obtain ⟨sameTenant, sameSegment⟩ := JobRow.of_iff.mp sameSegment
      rw [← sameTenant, ← sameSegment, tenantKey, segmentKey, desired] at bound
      omega

theorem insertJob_carried
    (done : queue.insertJob id clock tenantId segmentId desired hash mode = .ok queue') :
    Carried queue queue' := by
  obtain ⟨job, -, pending, -, -, -, rfl⟩ := insertJob_ok done
  constructor
  · exact fun old member => ⟨old, List.mem_append_left _ member, rfl⟩
  · intro old member published
    exact List.mem_append_left _ member
  · intro old member leased
    rcases mem_concat.mp member with present | new
    · exact present
    · rw [new, pending] at leased
      cases leased

end Inserts

end CandyCloud
