import Mathlib.Data.List.Sort
import CandyCloud.Foundation.Fallible
import CandyCloud.Route.Store

/-! # The generation job queue

`segment_generation_heads` and `segment_generation_jobs` with the operations of
`GenerationJobRepository` and the enqueue and retire statements of the control transactions.
-/

namespace CandyCloud

open Foundation

/-- `InvalidResource` carries the text of the underlying error. -/
inductive ControlStoreError where
  | invalidResource (message : String)
  | invalidRequest
  | notFound
  | revisionConflict
  | referenceConflict
  | idempotencyConflict
  | idempotencyReplayExpired
  | leaseLost
  | invalidTransition
  | database
deriving DecidableEq, Repr

/-- A job's state together with the columns that the table's `CHECK`
    constraints tie to it: a lease is held exactly while `LEASED`, a
    publication is named exactly when `PUBLISHED`, and a failure has a code. -/
inductive GenerationJobState where
  | pending
  | leased (leaseOwner : String) (leaseUntil : Instant)
  | retry (lastErrorCode : String)
  | published (publishedGeneration : Nat) (publishedContentHash : Hash)
  | permanentFailure (lastErrorCode : String)
deriving DecidableEq, Repr

namespace GenerationJobState

/-- `state IN ('PUBLISHED','PERMANENT_FAILURE')`. -/
def terminal : GenerationJobState → Bool
  | .published _ _ | .permanentFailure _ => true
  | .pending | .leased _ _ | .retry _ => false

def isPublished : GenerationJobState → Bool
  | .published _ _ => true
  | _ => false

def isPermanentFailure : GenerationJobState → Bool
  | .permanentFailure _ => true
  | _ => false

def isLeased : GenerationJobState → Bool
  | .leased _ _ => true
  | _ => false

/-- `state = 'LEASED' AND lease_owner = ? AND lease_until > ?`. -/
def heldBy (owner : String) (now : Instant) : GenerationJobState → Bool
  | .leased leaseOwner leaseUntil => leaseOwner == owner && decide (now < leaseUntil)
  | _ => false

theorem heldBy_iff {owner : String} {now : Instant} {state : GenerationJobState} :
    state.heldBy owner now = true ↔ ∃ leaseUntil, state = .leased owner leaseUntil ∧
      now < leaseUntil := by
  cases state with
  | leased leaseOwner leaseUntil => simp [heldBy]
  | pending | retry _ | published _ _ | permanentFailure _ => simp [heldBy]

end GenerationJobState

/-- `segment_generation_heads`. -/
structure HeadRow where
  tenantId : Uuid
  segmentId : Uuid
  desiredRevision : Nat
deriving DecidableEq, Repr

/-- A job: one desired revision of one segment. -/
structure JobRow where
  id : Uuid
  tenantId : Uuid
  segmentId : Uuid
  desiredRevision : Nat
  idempotencyHash : Hash
  activationMode : ActivationMode
  state : GenerationJobState
  attemptCount : Nat
  nextAttemptAt : Instant
  createdAt : Instant
deriving DecidableEq, Repr

/-- The desired revisions of the segments and the jobs that publish them. -/
structure GenerationQueue where
  heads : List HeadRow
  jobs : List JobRow
deriving DecidableEq, Repr

def HeadRow.of (head : HeadRow) (tenantId segmentId : Uuid) : Bool :=
  head.tenantId == tenantId && head.segmentId == segmentId

def JobRow.of (job : JobRow) (tenantId segmentId : Uuid) : Bool :=
  job.tenantId == tenantId && job.segmentId == segmentId

/-- Primary key, `uq_generation_job_revision` and
    `uq_generation_job_idempotency`. -/
def JobRow.conflict (a b : JobRow) : Bool :=
  a.id == b.id || (b.of a.tenantId a.segmentId &&
    (a.desiredRevision == b.desiredRevision || a.idempotencyHash == b.idempotencyHash))

namespace GenerationQueue

variable (queue : GenerationQueue)

def head (tenantId segmentId : Uuid) : Option HeadRow :=
  queue.heads.find? fun head => head.of tenantId segmentId

def segmentJobs (tenantId segmentId : Uuid) : List JobRow :=
  queue.jobs.filter fun job => job.of tenantId segmentId

/-- Some job of the segment is `PENDING`, `LEASED` or `RETRY`. -/
def unfinished (tenantId segmentId : Uuid) : Bool :=
  queue.jobs.any fun job => job.of tenantId segmentId && !job.state.terminal

/-- `COALESCE(MAX(applied.desired_revision), 0)` over the published jobs. -/
def appliedRevision (tenantId segmentId : Uuid) : Nat :=
  (((queue.segmentJobs tenantId segmentId).filter (·.state.isPublished)).map
    (·.desiredRevision)).foldl max 0

/-- A tunnel job of the segment is newer than its newest published job. -/
def transportChangePending (tenantId segmentId : Uuid) : Bool :=
  queue.jobs.any fun changed =>
    changed.of tenantId segmentId && changed.activationMode == .tunnel &&
      decide (queue.appliedRevision tenantId segmentId < changed.desiredRevision)

/-- Some job of the segment, in whatever state, carries the hash. -/
def hasJob (tenantId segmentId : Uuid) (idempotencyHash : Hash) : Bool :=
  queue.jobs.any fun job => job.of tenantId segmentId && job.idempotencyHash == idempotencyHash

def updateJobs (selected : JobRow → Bool) (set : JobRow → JobRow) : GenerationQueue :=
  { queue with jobs := updateWhere selected set queue.jobs }

/-- `INSERT IGNORE INTO segment_generation_heads … VALUES (?, ?, 0)`. -/
def openHead (tenantId segmentId : Uuid) : GenerationQueue :=
  if queue.heads.any fun head => head.of tenantId segmentId then queue
  else { queue with heads := queue.heads ++ [⟨tenantId, segmentId, 0⟩] }

/-- `UPDATE segment_generation_heads SET desired_revision = ? WHERE … AND
    desired_revision = ?`. -/
def advanceHead (tenantId segmentId : Uuid) (current desired : Nat) : GenerationQueue :=
  { queue with
    heads := updateWhere (fun head => head.of tenantId segmentId && head.desiredRevision == current)
      (fun head => { head with desiredRevision := desired }) queue.heads }

/-- `INSERT INTO segment_generation_jobs` with the column defaults. -/
def insertJob (id : Uuid) (clock : Instant) (tenantId segmentId : Uuid) (desiredRevision : Nat)
    (idempotencyHash : Hash) (activationMode : ActivationMode) :
    Except ControlStoreError GenerationQueue := do
  let jobs ← orElse .database (insertRow JobRow.conflict queue.jobs
    { id, tenantId, segmentId, desiredRevision, idempotencyHash, activationMode
      state := .pending
      attemptCount := 0
      nextAttemptAt := clock
      createdAt := clock })
  return { queue with jobs }

end GenerationQueue

def enqueueGeneration (queue : GenerationQueue) (fresh : Uuid) (clock : Instant)
    (tenantId segmentId : Uuid) (idempotencyHash : Hash) (policyOnly : Bool) :
    Except ControlStoreError GenerationQueue :=
  let queue := queue.openHead tenantId segmentId
  if queue.hasJob tenantId segmentId idempotencyHash then .ok queue
  else do
    let head ← orElse .database (queue.head tenantId segmentId)
    let desired ← orElse .invalidTransition (checkedAdd head.desiredRevision 1)
    (queue.advanceHead tenantId segmentId head.desiredRevision desired).insertJob fresh clock
      tenantId segmentId desired idempotencyHash (activationMode policyOnly)

def retireDeletedSegment (queue : GenerationQueue) (tenantId segmentId : Uuid) : GenerationQueue :=
  queue.updateJobs (fun job => job.of tenantId segmentId && !job.state.terminal)
    fun job => { job with state := .permanentFailure "SEGMENT_DELETED" }

/-- A row of the refresh query. -/
structure Expiring where
  tenantId : Uuid
  segmentId : Uuid
  currentRevision : Nat
  expiresAt : Nat
  transportChangePending : Bool
deriving DecidableEq, Repr

/-- `ORDER BY publication.expires_at, seg.tenant_id, seg.id`. -/
def expiryOrder (a b : Expiring) : Prop :=
  a.expiresAt < b.expiresAt ∨ a.expiresAt = b.expiresAt ∧
    (a.tenantId < b.tenantId ∨ a.tenantId = b.tenantId ∧ a.segmentId ≤ b.segmentId)

instance : DecidableRel expiryOrder := fun a b =>
  inferInstanceAs (Decidable (a.expiresAt < b.expiresAt ∨ a.expiresAt = b.expiresAt ∧
    (a.tenantId < b.tenantId ∨ a.tenantId = b.tenantId ∧ a.segmentId ≤ b.segmentId)))

def expiringSegments (queue : GenerationQueue) (segments : List SegmentRow)
    (publications : List PublicationRow) (thresholdUnix : Nat) : List Expiring :=
  (segments.filter fun segment =>
    segment.state == .active && decide (0 < segment.currentGeneration) &&
      !queue.unfinished segment.tenantId segment.id).flatMap fun segment =>
    (queue.heads.filter fun head => head.of segment.tenantId segment.id).flatMap fun head =>
      (publications.filter fun publication =>
        publication.tenantId == segment.tenantId && publication.segmentId == segment.id &&
          publication.generation == segment.currentGeneration &&
          decide (publication.expiresAt ≤ thresholdUnix)).map fun publication =>
        { tenantId := segment.tenantId
          segmentId := segment.id
          currentRevision := head.desiredRevision
          expiresAt := publication.expiresAt
          transportChangePending := queue.transportChangePending segment.tenantId segment.id }

def refreshHash (sha256 : Bytes → Hash) (tenantId segmentId : Uuid) (desiredRevision : Nat) :
    Hash :=
  sha256 (utf8 "candy/cloud-route-refresh-v1\x00" ++ uuidBytes tenantId ++ uuidBytes segmentId ++
    bigEndian 8 desiredRevision)

def refreshSegment (sha256 : Bytes → Hash) (fresh : Uuid → Uuid → Uuid) (clock : Instant)
    (queue : GenerationQueue) (row : Expiring) : Except ControlStoreError GenerationQueue := do
  let desired ← orElse .invalidTransition (checkedAdd row.currentRevision 1)
  (queue.advanceHead row.tenantId row.segmentId row.currentRevision desired).insertJob
    (fresh row.tenantId row.segmentId) clock row.tenantId row.segmentId desired
    (refreshHash sha256 row.tenantId row.segmentId desired)
    (if row.transportChangePending then .tunnel else .policyOnly)

/-- `chrono::Duration::from_std`: at most `i64::MAX` milliseconds. -/
def fromStd (duration : Nat) : Option Nat :=
  if duration ≤ 9223372036854775807 * 1000 then some duration else none

/-- `locked` are the segments skipped by `SKIP LOCKED`. -/
def refreshExpiring (sha256 : Bytes → Hash) (queue : GenerationQueue) (segments : List SegmentRow)
    (publications : List PublicationRow) (now : Instant) (refreshBefore limit : Nat)
    (locked : List Uuid) (fresh : Uuid → Uuid → Uuid) (clock : Instant) :
    Except ControlStoreError (Nat × GenerationQueue) := do
  reject (refreshBefore == 0 || limit == 0 || decide (128 < limit)) .invalidRequest
  let margin ← orElse .invalidRequest (fromStd refreshBefore)
  let rows := (((expiringSegments queue segments publications (unixTimestamp (now + margin))).filter
    fun row => !locked.contains row.segmentId).insertionSort expiryOrder).take limit
  let queue ← updateEach (refreshSegment sha256 fresh clock) queue rows
  return (rows.length, queue)

/-- What a worker holds after a claim. -/
structure GenerationJob where
  id : Uuid
  tenantId : Uuid
  segmentId : Uuid
  desiredRevision : Nat
  policyOnly : Bool
  attemptCount : Nat
  leaseOwner : String
  leaseUntil : Instant
deriving DecidableEq, Repr

/-- Five minutes. -/
def maxLeaseTtl : Nat := 300000000

def validateLease (owner : String) (ttl : Nat) : Except ControlStoreError Unit :=
  reject ((utf8 owner).isEmpty || decide (120 < (utf8 owner).length) || ttl == 0 ||
    decide (maxLeaseTtl < ttl)) .invalidRequest

/-- Due work whose predecessors are all settled. -/
def claimable (queue : GenerationQueue) (now : Instant) (candidate : JobRow) : Bool :=
  (match candidate.state with
    | .pending | .retry _ => decide (candidate.nextAttemptAt ≤ now)
    | .leased _ leaseUntil => decide (leaseUntil ≤ now)
    | .published _ _ | .permanentFailure _ => false) &&
  !queue.jobs.any fun earlier =>
    earlier.of candidate.tenantId candidate.segmentId &&
      decide (earlier.desiredRevision < candidate.desiredRevision) && !earlier.state.terminal

/-- `ORDER BY candidate.next_attempt_at, candidate.created_at, candidate.id`. -/
def claimOrder (a b : JobRow) : Prop :=
  a.nextAttemptAt < b.nextAttemptAt ∨ a.nextAttemptAt = b.nextAttemptAt ∧
    (a.createdAt < b.createdAt ∨ a.createdAt = b.createdAt ∧ a.id ≤ b.id)

instance : DecidableRel claimOrder := fun a b =>
  inferInstanceAs (Decidable (a.nextAttemptAt < b.nextAttemptAt ∨
    a.nextAttemptAt = b.nextAttemptAt ∧
      (a.createdAt < b.createdAt ∨ a.createdAt = b.createdAt ∧ a.id ≤ b.id)))

def claimCandidate (queue : GenerationQueue) (now : Instant) (locked : List Uuid) :
    Option JobRow :=
  ((queue.jobs.filter fun job => claimable queue now job && !locked.contains job.id).insertionSort
    claimOrder).head?

/-- `u32::checked_add(1)`. -/
def nextAttempt (attemptCount : Nat) : Option Nat :=
  if attemptCount < 4294967295 then some (attemptCount + 1) else none

def leaseJob (queue : GenerationQueue) (owner : String) (leaseUntil : Instant) (attempt : Nat)
    (id : Uuid) : GenerationQueue :=
  queue.updateJobs (fun job => job.id == id)
    fun job => { job with state := .leased owner leaseUntil, attemptCount := attempt }

/-- `locked` are the jobs skipped by `SKIP LOCKED`. -/
def claimNext (queue : GenerationQueue) (owner : String) (now : Instant) (ttl : Nat)
    (locked : List Uuid) : Except ControlStoreError (Option GenerationJob × GenerationQueue) := do
  validateLease owner ttl
  let lease ← orElse .invalidRequest (fromStd ttl)
  match claimCandidate queue now locked with
  | none => return (none, queue)
  | some row =>
      let attempt ← orElse .invalidTransition (nextAttempt row.attemptCount)
      reject ((queue.jobs.filter fun job => job.id == row.id).length != 1) .leaseLost
      return (some
        { id := row.id
          tenantId := row.tenantId
          segmentId := row.segmentId
          desiredRevision := row.desiredRevision
          policyOnly := row.activationMode == .policyOnly
          attemptCount := attempt
          leaseOwner := owner
          leaseUntil := now + lease }, leaseJob queue owner (now + lease) attempt row.id)

/-- The row of a job whose lease the handle's owner holds at `now`. -/
def held (job : GenerationJob) (now : Instant) (row : JobRow) : Bool :=
  row.id == job.id && row.state.heldBy job.leaseOwner now

/-- An update of the leased row; no affected row means the lease is lost. -/
def updateHeld (queue : GenerationQueue) (job : GenerationJob) (now : Instant)
    (set : JobRow → JobRow) : Except ControlStoreError GenerationQueue := do
  reject ((queue.jobs.filter (held job now)).length != 1) .leaseLost
  return queue.updateJobs (held job now) set

def renewJob (queue : GenerationQueue) (job : GenerationJob) (now : Instant) (ttl : Nat) :
    Except ControlStoreError (Instant × GenerationQueue) := do
  validateLease job.leaseOwner ttl
  let lease ← orElse .invalidRequest (fromStd ttl)
  let queue ← updateHeld queue job now fun row =>
    { row with state := .leased job.leaseOwner (now + lease) }
  return (now + lease, queue)

def publishJob (queue : GenerationQueue) (job : GenerationJob) (now : Instant) (generation : Nat)
    (contentHash : Hash) : Except ControlStoreError GenerationQueue := do
  reject (generation == 0 || contentHash == zeroHash) .invalidRequest
  updateHeld queue job now fun row => { row with state := .published generation contentHash }

/-- How a worker reports a job that did not publish. -/
inductive JobFailure where
  | retry (code : String) (retryAt : Instant)
  | permanent (code : String)
deriving DecidableEq, Repr

namespace JobFailure

def code : JobFailure → String
  | .retry code _ | .permanent code => code

def codeByte (byte : UInt8) : Bool :=
  (65 ≤ byte && byte ≤ 90) || (48 ≤ byte && byte ≤ 57) || byte == 95

def validate (failure : JobFailure) (now : Instant) : Except ControlStoreError Unit :=
  reject ((utf8 failure.code).isEmpty || decide (80 < (utf8 failure.code).length) ||
    !(utf8 failure.code).all codeByte ||
    match failure with
      | .retry _ retryAt => decide (retryAt ≤ now)
      | .permanent _ => false) .invalidRequest

/-- The state and the next attempt that a failure writes. -/
def apply (failure : JobFailure) (now : Instant) (row : JobRow) : JobRow :=
  match failure with
  | .retry code retryAt => { row with state := .retry code, nextAttemptAt := retryAt }
  | .permanent code => { row with state := .permanentFailure code, nextAttemptAt := now }

end JobFailure

def failJob (queue : GenerationQueue) (job : GenerationJob) (now : Instant)
    (failure : JobFailure) : Except ControlStoreError GenerationQueue := do
  failure.validate now
  updateHeld queue job now (failure.apply now)

def startsWith (start code : String) : Bool :=
  (utf8 start).isPrefixOf (utf8 code)

def recoverableRouteError (code : String) : Bool :=
  startsWith "ROUTE_INPUT_" code || code == "ROUTE_DB_PRINCIPAL_MISMATCH" ||
    code == "ROUTE_DB_SCOPE_MISMATCH" ||
    startsWith "ROUTE_BUILD_CORE_MODULE_ROUTE_OPERATION_FAILED_CORE_PREPARE_FAILED_WITH_ABI_STAT"
      code

/-- The head job of a segment with the head of its publication chain. -/
structure HeadJob where
  candidate : JobRow
  publication : Option (Nat × Hash)
deriving DecidableEq, Repr

/-- `activeSegment` tells which control segments are `ACTIVE`. -/
def headJobs (queue : GenerationQueue) (activeSegment : Uuid → Uuid → Bool)
    (segments : List SegmentRow) : List HeadJob :=
  queue.heads.flatMap fun head =>
    (queue.jobs.filter fun candidate =>
      candidate.of head.tenantId head.segmentId &&
        candidate.desiredRevision == head.desiredRevision &&
        activeSegment candidate.tenantId candidate.segmentId).map fun candidate =>
      { candidate
        publication := (segments.find? fun segment =>
          segment.of candidate.tenantId candidate.segmentId && segment.state == .active).map
            fun segment => (segment.currentGeneration, segment.currentContentHash) }

def reconciliationHash (sha256 : Bytes → Hash) (tenantId segmentId : Uuid) (revision : Nat)
    (publication : Option (Nat × Hash)) : Hash :=
  sha256 (utf8 "candy/route-reconciliation/v1\x00" ++ uuidBytes tenantId ++ uuidBytes segmentId ++
    bigEndian 8 revision ++
    match publication with
      | some (generation, contentHash) => bigEndian 8 generation ++ hashBytes contentHash
      | none => [])

def requeued (id : Uuid) (job : JobRow) : Bool :=
  job.id == id && job.state.isPermanentFailure

def requeueJob (queue : GenerationQueue) (clock : Instant) (id : Uuid) : GenerationQueue :=
  queue.updateJobs (requeued id) fun job =>
    { job with state := .retry "ROUTE_RETRY_AFTER_RUNTIME_UPGRADE", nextAttemptAt := clock }

/-- The reconciliation revision behind a superseded head job. -/
def reconcileJob (sha256 : Bytes → Hash) (fresh : Uuid → Uuid → Uuid) (clock : Instant)
    (queue : GenerationQueue) (row : HeadJob) : Except ControlStoreError GenerationQueue := do
  let job := row.candidate
  let desired ← orElse .invalidTransition (checkedAdd job.desiredRevision 1)
  reject ((queue.heads.filter fun head => head.of job.tenantId job.segmentId &&
    head.desiredRevision == job.desiredRevision).length != 1) .invalidTransition
  (queue.advanceHead job.tenantId job.segmentId job.desiredRevision desired).insertJob
    (fresh job.tenantId job.segmentId) clock job.tenantId job.segmentId desired
    (reconciliationHash sha256 job.tenantId job.segmentId desired row.publication) .tunnel

/-- One pass of the recovery loop, with the number of recovered jobs. -/
def recoverHeadJob (sha256 : Bytes → Hash) (fresh : Uuid → Uuid → Uuid) (clock : Instant)
    (state : Nat × GenerationQueue) (row : HeadJob) :
    Except ControlStoreError (Nat × GenerationQueue) :=
  let (recovered, queue) := state
  match row.candidate.state with
  | .permanentFailure code =>
      if recoverableRouteError code then
        .ok (recovered + (queue.jobs.filter (requeued row.candidate.id)).length,
          requeueJob queue clock row.candidate.id)
      else .ok (recovered, queue)
  | .published generation contentHash =>
      if row.publication = some (generation, contentHash) then .ok (recovered, queue)
      else do
        let queue ← reconcileJob sha256 fresh clock queue row
        return (recovered + 1, queue)
  | .pending | .leased _ _ | .retry _ => .ok (recovered, queue)

def recoverRouteInputHeadFailures (sha256 : Bytes → Hash) (queue : GenerationQueue)
    (activeSegment : Uuid → Uuid → Bool) (segments : List SegmentRow)
    (fresh : Uuid → Uuid → Uuid) (clock : Instant) :
    Except ControlStoreError (Nat × GenerationQueue) :=
  updateEach (recoverHeadJob sha256 fresh clock) (0, queue)
    (headJobs queue activeSegment segments)

end CandyCloud
