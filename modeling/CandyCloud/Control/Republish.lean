import CandyCloud.Control.Addressing
import CandyCloud.Control.Transport
import CandyCloud.Queue.System

/-! # Generations owed by a change

A committed change owes every segment it affects a generation that still runs.
-/

namespace CandyCloud

open Foundation

variable {segmentId : Uuid} {clock : Instant} {policyOnly : Bool} {fresh : Uuid → Uuid}
  {mutation : ResourceMutation} {cloud : Cloud} {resources : List ResourceRow}
  {sha256 : Bytes → Hash}

section Enqueueing

variable {queue queue' : GenerationQueue} {tenantId : Uuid} {idempotencyHash : Hash}

theorem unfinished_iff : queue.unfinished tenantId segmentId = true ↔
    ∃ job ∈ queue.jobs, job.of tenantId segmentId = true ∧ job.state.terminal = false := by
  simp [GenerationQueue.unfinished, List.any_eq_true]

theorem hasJob_iff :
    queue.hasJob tenantId segmentId idempotencyHash = true ↔
      ∃ job ∈ queue.jobs, job.of tenantId segmentId = true ∧
        job.idempotencyHash = idempotencyHash := by
  simp [GenerationQueue.hasJob, List.any_eq_true]

theorem enqueueGeneration_effect {fresh : Uuid}
    (done : enqueueGeneration queue fresh clock tenantId segmentId idempotencyHash policyOnly
      = .ok queue') (other : Uuid) :
    (queue'.hasJob tenantId other idempotencyHash = true ↔
      other = segmentId ∨ queue.hasJob tenantId other idempotencyHash = true) ∧
    (queue'.unfinished tenantId other = true ↔
      queue.unfinished tenantId other = true ∨
        other = segmentId ∧ queue.hasJob tenantId segmentId idempotencyHash = false) := by
  rcases enqueueGeneration_ok done with ⟨known, rfl⟩ | ⟨unknown, head, -, appended⟩
  · constructor
    · simp only [GenerationQueue.hasJob, openHead_jobs]
      constructor
      · exact Or.inr
      · rintro (rfl | present)
        · exact known
        · exact present
    · simp [GenerationQueue.unfinished, openHead_jobs, known]
  · obtain ⟨job, key, pending, hash, -, -, rfl⟩ := insertJob_ok appended
    simp only [JobRow.key, Prod.mk.injEq] at key
    have own : job.of tenantId other = true ↔ other = segmentId := by
      rw [JobRow.of_iff, key.2.1, key.2.2.1]
      simp [eq_comm]
    constructor
    · simp only [hasJob_iff, List.mem_append, List.mem_singleton, GenerationQueue.advanceHead,
        openHead_jobs]
      constructor
      · rintro ⟨found, old | rfl, here, same⟩
        · exact .inr ⟨found, old, here, same⟩
        · exact .inl (own.mp here)
      · rintro (same | ⟨found, old, here, equal⟩)
        · exact ⟨job, .inr rfl, own.mpr same, hash⟩
        · exact ⟨found, .inl old, here, equal⟩
    · simp only [unfinished_iff, List.mem_append, List.mem_singleton, GenerationQueue.advanceHead,
        openHead_jobs]
      constructor
      · rintro ⟨found, old | rfl, here, open_⟩
        · exact .inl ⟨found, old, here, open_⟩
        · exact .inr ⟨own.mp here, unknown⟩
      · rintro (⟨found, old, here, open_⟩ | ⟨same, -⟩)
        · exact ⟨found, .inl old, here, open_⟩
        · exact ⟨job, .inr rfl, own.mpr same, by rw [pending]; rfl⟩

/-- A list of segments under one hash: a segment of the list is left with an
    unfinished job unless its hash was already used and all its jobs are done. -/
theorem enqueueGenerations_unfinished {segmentIds : List Uuid}
    (done : enqueueGenerations queue fresh clock tenantId segmentIds idempotencyHash policyOnly
      = .ok queue') (segmentId : Uuid) :
    queue'.unfinished tenantId segmentId = true ↔
      queue.unfinished tenantId segmentId = true ∨
        segmentId ∈ segmentIds ∧ queue.hasJob tenantId segmentId idempotencyHash = false := by
  unfold enqueueGenerations at done
  induction segmentIds generalizing queue with
  | nil =>
      simp only [updateEach, Except.ok.injEq] at done
      subst done
      simp
  | cons first rest ih =>
      simp only [updateEach, bind_ok] at done
      obtain ⟨mid, pass, done⟩ := done
      obtain ⟨hashes, open_⟩ := enqueueGeneration_effect pass segmentId
      have spent : mid.hasJob tenantId segmentId idempotencyHash = false ↔
          ¬ (segmentId = first ∨ queue.hasJob tenantId segmentId idempotencyHash = true) := by
        rw [← hashes, Bool.not_eq_true]
      rw [ih done, open_, spent, List.mem_cons]
      by_cases same : segmentId = first
      · subst same
        simp
      · simp [same]

theorem retireDeletedSegment_other {other : Uuid} (different : other ≠ segmentId)
    (idempotencyHash : Hash) :
    (retireDeletedSegment queue tenantId segmentId).unfinished tenantId other =
      queue.unfinished tenantId other ∧
    (retireDeletedSegment queue tenantId segmentId).hasJob tenantId other idempotencyHash =
      queue.hasJob tenantId other idempotencyHash := by
  have elsewhere : ∀ job : JobRow, job.of tenantId other = true →
      (job.of tenantId segmentId && !job.state.terminal) = false := by
    intro job here
    rw [JobRow.of_iff] at here
    simp [JobRow.of, here.2, different]
  have rows : ∀ test : JobRow → Bool,
      (retireDeletedSegment queue tenantId segmentId).jobs.any
        (fun job => job.of tenantId other && test job) =
      queue.jobs.any fun job => job.of tenantId other && test job := by
    intro test
    simp only [retireDeletedSegment, GenerationQueue.updateJobs, updateWhere, List.any_map]
    congr 1
    funext job
    simp only [Function.comp_apply]
    split
    · rename_i selected
      have here : job.of tenantId other = false := by
        by_contra here
        rw [Bool.not_eq_false] at here
        rw [elsewhere job here] at selected
        cases selected
      have kept : JobRow.of { job with state := .permanentFailure "SEGMENT_DELETED" } tenantId
          other = job.of tenantId other := rfl
      rw [kept, here, Bool.false_and, Bool.false_and]
    · rfl
  exact ⟨rows _, rows _⟩

end Enqueueing

/-- What changes the control store, the queue or the Route store. -/
inductive CloudCall where
  | mutate (mutation : ResourceMutation) (now : Instant) (fresh : Uuid → Uuid) (clock : Instant)
  | provision (tenantId controlNodeId : Uuid) (requestId : String)
      (provisions : List TransportIdentityProvision) (freshNode : Uuid)
      (freshEndpoint : SocketAddr → Uuid) (fresh : Uuid → Uuid) (clock : Instant)
  | withdraw (tenantId deviceId deviceKeyId : Uuid) (fresh : Uuid → Uuid) (clock : Instant)
  | queue (call : QueueCall)
  | environment (route : RouteStore)

/-- One call; what fails is rolled back. -/
def cloudStep (sha256 : Bytes → Hash) (cloud : Cloud) : CloudCall → Cloud
  | .mutate mutation now fresh clock =>
      commit cloud ((mutate cloud mutation now fresh clock).map Prod.snd)
  | .provision tenantId controlNodeId requestId provisions freshNode freshEndpoint fresh clock =>
      commit cloud ((provisionPrivateTransportIdentity sha256 cloud tenantId controlNodeId requestId
        provisions freshNode freshEndpoint fresh clock).map Prod.snd)
  | .withdraw tenantId deviceId deviceKeyId fresh clock =>
      commit cloud (withdrawPrivateTransportIdentityForDevice sha256 cloud tenantId deviceId
        deviceKeyId fresh clock)
  | .queue call => { cloud with queue := queueStep sha256 cloud.queue call }
  | .environment route => { cloud with route }

/-- The segments that a committed change affects, and the hash of its jobs. -/
structure TransportChange where
  tenantId : Uuid
  segmentIds : List Uuid
  idempotencyHash : Hash
deriving DecidableEq, Repr

def ResourceMutation.requiresPublication (mutation : ResourceMutation) (store : ControlStore) :
    Bool :=
  match mutation.previous store with
  | .ok previous => mutationRequiresPublication previous mutation.resource
  | .error _ => false

/-- An applied mutation that needs a publication, a provisioning that is not a
    replay and a withdrawal are the changes; the segment that a mutation itself
    deletes is not among those it affects. -/
def committedChange (sha256 : Bytes → Hash) (cloud : Cloud) :
    CloudCall → Option TransportChange
  | .mutate mutation now fresh clock =>
      match mutate cloud mutation now fresh clock with
      | .ok (.applied _, cloud') =>
          if mutation.requiresPublication cloud.control then
            some ⟨mutation.tenantId, mutation.affectedSegments cloud.control cloud'.control,
              mutation.context.requestHash⟩
          else none
      | _ => none
  | .provision tenantId controlNodeId requestId provisions freshNode freshEndpoint fresh clock =>
      match provisionPrivateTransportIdentity sha256 cloud tenantId controlNodeId requestId
        provisions freshNode freshEndpoint fresh clock with
      | .ok (response, _) =>
          if response.replayed then none
          else some ⟨tenantId, cloud.control.dependentSegments tenantId .node controlNodeId,
            provisionHash sha256 (canonicalProvisions provisions)⟩
      | .error _ => none
  | .withdraw tenantId deviceId deviceKeyId fresh clock =>
      match withdrawPrivateTransportIdentityForDevice sha256 cloud tenantId deviceId deviceKeyId
        fresh clock with
      | .ok _ => (cloud.control.nodeOfDevice tenantId deviceId deviceKeyId).map fun node =>
          ⟨tenantId, cloud.control.dependentSegments tenantId .node node.id,
            withdrawHash sha256 deviceId⟩
      | .error _ => none
  | .queue _ | .environment _ => none

/-- Right after the call every affected segment has an unfinished job. -/
def Republishes (sha256 : Bytes → Hash) (cloud : Cloud) (call : CloudCall) : Prop :=
  ∀ change ∈ committedChange sha256 cloud call, ∀ segmentId ∈ change.segmentIds,
    (cloudStep sha256 cloud call).queue.unfinished change.tenantId segmentId = true

/-- No affected segment has, before the call, a job with the change's hash
    while all its jobs are finished. -/
def HashUnspent (sha256 : Bytes → Hash) (cloud : Cloud) (call : CloudCall) : Prop :=
  ∀ change ∈ committedChange sha256 cloud call, ∀ segmentId ∈ change.segmentIds,
    cloud.queue.hasJob change.tenantId segmentId change.idempotencyHash = true →
      cloud.queue.unfinished change.tenantId segmentId = true

theorem segment_referenced {spec : ResourceSpecV1} (inside : spec.segmentId = some segmentId) :
    (.segment, segmentId) ∈ specReferences spec := by
  cases spec with
  | attachment value | prefix_ value | peer value | pathCandidate value | servicePolicy value
  | dnsIntent value =>
      obtain rfl := Option.some.inj inside
      simp [specReferences]
  | node | site | segment | relay | egress => cases inside

theorem mem_affectedSegments {before after : ControlStore} :
    segmentId ∈ mutation.affectedSegments before after ↔
      (segmentId ∈ before.dependentSegments mutation.tenantId mutation.kind mutation.id ∧
        ¬ (mutation.deletingSegment = true ∧ segmentId = mutation.id)) ∨
      segmentId ∈ after.dependentSegments mutation.tenantId mutation.kind mutation.id ∨
      (mutation.deletingSegment = false ∧ affectedSegmentId mutation.resource = some segmentId) := by
  simp only [ResourceMutation.affectedSegments, List.mem_dedup, List.mem_append, List.mem_filter,
    Bool.not_eq_true', Bool.and_eq_false_iff, beq_eq_false_iff_ne, Option.mem_toList,
    Option.filter_eq_some_iff, or_assoc]
  cases mutation.deletingSegment with
  | true => simp
  | false => simp

section

variable (graph : GraphInvariant mutation.tenantId cloud.control)
  (checked : cloud.validateCrossResource mutation.resource = .ok ())
  (done : mutation.writeResource cloud.control.resources = .ok resources)
  (deleting : mutation.deletingSegment = true)

include graph checked done deleting

theorem deleted_not_dependent :
    mutation.id ∉ (mutation.written cloud.control resources).dependentSegments mutation.tenantId
      mutation.kind mutation.id := by
  have table := writeResource_written graph done
  simp only [ResourceMutation.deletingSegment, Bool.and_eq_true, beq_iff_eq] at deleting
  intro affected
  simp only [ControlStore.dependentSegments, List.mem_dedup, List.mem_filterMap,
    List.mem_filter, Bool.and_eq_true, beq_iff_eq, bne_iff_ne] at affected
  obtain ⟨row, ⟨member, ⟨tenant, -⟩, undeleted⟩, segment⟩ := affected
  rcases table.only row member with rfl | ⟨old, elsewhere⟩
  · exact undeleted deleting.1
  · have faithful := graph.rows row old tenant
    rw [← faithful.segmentId] at segment
    cases spec : row.document.resource with
    | segment value =>
        simp only [affectedSegmentId, spec, Option.some.injEq] at segment
        have kind : row.kind = mutation.kind := by
          rw [← faithful.kind, spec, deleting.2]
          rfl
        rw [faithful.id] at segment
        rw [ResourceRow.at_iff.mpr ⟨tenant, kind, segment⟩] at elsewhere
        cases elsewhere
    | node | site | attachment | prefix_ | peer | relay | pathCandidate | egress | servicePolicy
    | dnsIntent =>
        simp only [affectedSegmentId, spec] at segment
        have refers : (.segment, mutation.id) ∈ resourceReferences row.document := by
          rw [resourceReferences, List.mem_dedup, spec]
          exact segment_referenced segment
        have used := graph.referenced old tenant undeleted refers
        have unused := validateCrossResource_deleted checked deleting.1
        rw [show mutation.resource.resource.kind = .segment from deleting.2] at unused
        rw [show cloud.control.referenced mutation.tenantId .segment mutation.id = false
          from unused] at used
        cases used

theorem deleted_not_affected :
    mutation.id ∉ mutation.affectedSegments cloud.control
      (mutation.written cloud.control resources) := by
  intro affected
  rcases mem_affectedSegments.mp affected with ⟨-, kept⟩ | after | ⟨live, -⟩
  · exact kept ⟨deleting, rfl⟩
  · exact deleted_not_dependent graph checked done deleting after
  · rw [deleting] at live
    cases live

end

theorem enqueued_iff {queue queue' : GenerationQueue} (change : TransportChange)
    (done : enqueueGenerations queue fresh clock change.tenantId change.segmentIds
      change.idempotencyHash policyOnly = .ok queue') :
    (∀ segmentId ∈ change.segmentIds, queue'.unfinished change.tenantId segmentId = true) ↔
      ∀ segmentId ∈ change.segmentIds,
        queue.hasJob change.tenantId segmentId change.idempotencyHash = true →
          queue.unfinished change.tenantId segmentId = true := by
  apply forall_congr'
  intro segmentId
  apply imp_congr_right
  intro member
  rw [enqueueGenerations_unfinished done]
  cases queue.hasJob change.tenantId segmentId change.idempotencyHash with
  | true => simp
  | false => simp [member]

theorem retired_queue (cloud : Cloud)
    (apart : mutation.deletingSegment = true → segmentId ≠ mutation.id) :
    (mutation.retire cloud).queue.unfinished mutation.tenantId segmentId =
      cloud.queue.unfinished mutation.tenantId segmentId ∧
    ∀ idempotencyHash, (mutation.retire cloud).queue.hasJob mutation.tenantId segmentId
      idempotencyHash = cloud.queue.hasJob mutation.tenantId segmentId idempotencyHash := by
  unfold ResourceMutation.retire
  split
  · rename_i deleting
    have different := apart deleting
    exact ⟨(retireDeletedSegment_other different zeroHash).1,
      fun idempotencyHash => (retireDeletedSegment_other different idempotencyHash).2⟩
  · exact ⟨rfl, fun _ => rfl⟩

theorem dependentSegments_congr {a b : ControlStore} (resources : a.resources = b.resources)
    (references : a.references = b.references) :
    a.dependentSegments = b.dependentSegments := by
  funext tenantId kind id
  simp only [ControlStore.dependentSegments, ControlStore.dependentEdges, resources, references]

theorem mutate_republishes {now : Instant}
    (graph : GraphInvariant mutation.tenantId cloud.control) :
    Republishes sha256 cloud (.mutate mutation now fresh clock) ↔
      HashUnspent sha256 cloud (.mutate mutation now fresh clock) := by
  unfold Republishes HashUnspent
  cases result : mutate cloud mutation now fresh clock with
  | error error => simp [committedChange, result]
  | ok pair =>
      obtain ⟨outcome, cloud'⟩ := pair
      rcases mutate_ok result with
        ⟨⟨replayed, rfl⟩, rfl⟩ | ⟨rfl, previous, resources, queue, applied⟩
      · simp [committedChange, result]
      · have step : (cloudStep sha256 cloud (.mutate mutation now fresh clock)).queue = queue := by
          simp only [cloudStep, result, Except.map, commit, applied.result]
        have segments : mutation.affectedSegments cloud.control cloud'.control =
            mutation.affectedSegments cloud.control
              (mutation.written cloud.control resources) := by
          have same := dependentSegments_congr (a := cloud'.control)
            (b := mutation.written cloud.control resources) (by rw [applied.result]; rfl)
            (by rw [applied.result]; rfl)
          simp only [ResourceMutation.affectedSegments, same]
        have needed : mutation.requiresPublication cloud.control =
            mutationRequiresPublication previous mutation.resource := by
          simp only [ResourceMutation.requiresPublication, applied.found]
        simp only [committedChange, result, needed, segments, step]
        cases owed : mutationRequiresPublication previous mutation.resource with
        | false => simp
        | true =>
            have enqueued := applied.enqueued
            simp only [ResourceMutation.enqueue, owed, if_true] at enqueued
            simp only [if_true, Option.mem_def, Option.some.injEq, forall_eq']
            rw [enqueued_iff (⟨mutation.tenantId, mutation.affectedSegments cloud.control
              (mutation.written cloud.control resources), mutation.context.requestHash⟩ :
                TransportChange) enqueued]
            apply forall_congr'
            intro segmentId
            apply imp_congr_right
            intro member
            have apart : mutation.deletingSegment = true → segmentId ≠ mutation.id := by
              rintro deleting rfl
              exact deleted_not_affected graph applied.cross applied.written deleting member
            obtain ⟨open_, hashes⟩ := retired_queue cloud apart
            rw [open_, hashes]

theorem provision_republishes {tenantId nodeId : Uuid} {requestId : String}
    {provisions : List TransportIdentityProvision} {freshNode : Uuid}
    {freshEndpoint : SocketAddr → Uuid} :
    Republishes sha256 cloud (.provision tenantId nodeId requestId provisions freshNode
        freshEndpoint fresh clock) ↔
      HashUnspent sha256 cloud (.provision tenantId nodeId requestId provisions freshNode
        freshEndpoint fresh clock) := by
  unfold Republishes HashUnspent
  cases result : provisionPrivateTransportIdentity sha256 cloud tenantId nodeId requestId provisions
    freshNode freshEndpoint fresh clock with
  | error error => simp [committedChange, result]
  | ok pair =>
      obtain ⟨response, cloud'⟩ := pair
      have done := result
      simp only [provisionPrivateTransportIdentity, unit_bind_ok, orElse_bind_ok,
        bind_ok (α := ControlResourceV1)] at done
      obtain ⟨-, -, resource, -, controlNode, -, done⟩ := done
      split at done
      · simp only [unit_bind_ok, pure_ok, Prod.mk.injEq] at done
        obtain ⟨-, rfl, rfl⟩ := done
        simp [committedChange, result]
      · simp only [applyProvision, orElse_bind_ok, bind_ok (α := Topology),
          bind_ok (α := GenerationQueue), pure_ok, Prod.mk.injEq] at done
        obtain ⟨topology, -, transportRequests, -, queue, enqueued, rfl, rfl⟩ := done
        simp only [committedChange, result, cloudStep, Except.map, commit, Bool.false_eq_true,
          if_false, Option.mem_def, Option.some.injEq, forall_eq']
        exact enqueued_iff (⟨tenantId, cloud.control.dependentSegments tenantId .node
          nodeId, provisionHash sha256 (canonicalProvisions provisions)⟩ : TransportChange) enqueued

theorem withdraw_republishes {tenantId deviceId deviceKeyId : Uuid} :
    Republishes sha256 cloud (.withdraw tenantId deviceId deviceKeyId fresh clock) ↔
      HashUnspent sha256 cloud (.withdraw tenantId deviceId deviceKeyId fresh clock) := by
  unfold Republishes HashUnspent
  cases result : withdrawPrivateTransportIdentityForDevice sha256 cloud tenantId deviceId
    deviceKeyId fresh clock with
  | error error => simp [committedChange, result]
  | ok cloud' =>
      have done := result
      simp only [withdrawPrivateTransportIdentityForDevice, unit_bind_ok, orElse_bind_ok,
        bind_ok (α := GenerationQueue), pure_ok] at done
      obtain ⟨-, node, found, queue, enqueued, rfl⟩ := done
      simp only [committedChange, result, found, cloudStep, commit, Option.map_some,
        Option.mem_def, Option.some.injEq, forall_eq']
      exact enqueued_iff (⟨tenantId, cloud.control.dependentSegments tenantId .node
        node.id, withdrawHash sha256 deviceId⟩ : TransportChange) enqueued

theorem cloudStep_addressed {tenantId : Uuid} (addressed : Addressed tenantId cloud.control)
    (call : CloudCall) :
    Addressed tenantId (cloudStep sha256 cloud call).control := by
  cases call with
  | mutate mutation now fresh clock => exact mutate_addressed addressed mutation now fresh clock
  | provision tenant nodeId requestId provisions freshNode freshEndpoint fresh clock =>
      refine commit_cases (P := fun after : Cloud => Addressed tenantId after.control) addressed ?_
      intro cloud' done
      cases result : provisionPrivateTransportIdentity sha256 cloud tenant nodeId requestId
        provisions freshNode freshEndpoint fresh clock with
      | error error =>
          rw [result] at done
          cases done
      | ok pair =>
          rw [result] at done
          obtain rfl : pair.2 = cloud' := Except.ok.inj done
          simp only [provisionPrivateTransportIdentity, unit_bind_ok, orElse_bind_ok,
            bind_ok (α := ControlResourceV1)] at result
          obtain ⟨-, -, resource, -, controlNode, -, result⟩ := result
          split at result
          · simp only [unit_bind_ok, pure_ok] at result
            obtain ⟨-, rfl⟩ := result
            exact addressed
          · simp only [applyProvision, orElse_bind_ok, bind_ok (α := Topology),
              bind_ok (α := GenerationQueue), pure_ok] at result
            obtain ⟨topology, -, transportRequests, -, queue, -, rfl⟩ := result
            exact addressed.congr rfl rfl
  | withdraw tenant deviceId deviceKeyId fresh clock =>
      refine commit_cases (P := fun after : Cloud => Addressed tenantId after.control) addressed ?_
      intro cloud' done
      simp only [withdrawPrivateTransportIdentityForDevice, unit_bind_ok, orElse_bind_ok,
        bind_ok (α := GenerationQueue), pure_ok] at done
      obtain ⟨-, node, -, queue, -, rfl⟩ := done
      exact addressed
  | queue call => exact addressed
  | environment route => exact addressed

/-- In every run that begins without resources, every change leaves its
    segments an unfinished job exactly when no change meets a spent hash. -/
theorem republishes_iff_unspent (sha256 : Bytes → Hash) (start : Cloud)
    (empty : ∀ tenantId, start.control.EmptyTenant tenantId) (calls : List CloudCall) :
    Along (cloudStep sha256) (Republishes sha256) start calls ↔
      Along (cloudStep sha256) (HashUnspent sha256) start calls := by
  apply along_iff (I := fun cloud => ∀ tenantId, Addressed tenantId cloud.control)
  · exact fun _ call addressed tenantId => cloudStep_addressed (addressed tenantId) call
  · intro cloud call addressed
    cases call with
    | mutate mutation now fresh clock =>
        exact mutate_republishes (addressed mutation.tenantId).graph
    | provision => exact provision_republishes
    | withdraw => exact withdraw_republishes
    | queue call => simp [Republishes, HashUnspent, committedChange]
    | environment route => simp [Republishes, HashUnspent, committedChange]
  · exact fun tenantId => (empty tenantId).addressed

def sampleProvision : TransportIdentityProvision :=
  ⟨.v4 0xc000020a 4433,
    0xcccccccccccccccccccccccccccccccccccccccccccccccccccccccccccccccc, .current⟩

def sampleSha256 (bytes : Bytes) : Hash :=
  if bytes = provisionBytes [sampleProvision] then
    0x03f474cd9a2f3a972c859da623df61128635e643e995c573a73301ff5bdc15c6
  else if bytes = withdrawBytes 11 then
    0x796b6b28aad96865a76f7a0d1b095af49d77cf921b5c3e2e33d472cbd37c2df7
  else 0

def provisionSample (requestId : String) (jobId : Uuid) : CloudCall :=
  .provision 1 51 requestId [sampleProvision] 81 (fun _ => 82) (fun _ => jobId) 0

def finishJob (id : Uuid) (now : Instant) : List CloudCall :=
  [.queue (.claim "worker" now 60000000 []),
    .queue (.publish ⟨id, 1, 3, 1, false, 1, "worker", now⟩ now 1 7)]

def createSample (id : Uuid) (spec : ResourceSpecV1) : CloudCall :=
  .mutate (sampleMutation id spec) 0 (sampleFresh id) 0

/-- A segment with one attached node whose endpoint is provisioned and
    withdrawn; every job so far is published. -/
def withdrawnHistory : List CloudCall :=
  [createSample 31 (.site ⟨"site-1", .edge⟩),
    createSample 3 (.segment ⟨"segment", ⟨0x64400000, 24⟩⟩),
    createSample 51 (.node ⟨11, 21, 31, "node-1", .linux, "x86_64"⟩),
    createSample 41 (.attachment ⟨3, 31, 51, 0x64400001, 1⟩)] ++
  finishJob 3003 1 ++ finishJob 41003 2 ++ [provisionSample "request-1" 9001] ++
  finishJob 9001 3 ++ [.withdraw 1 11 21 (fun _ => 9002) 0] ++ finishJob 9002 4

/-- Provisioning the same endpoint again changes it from disabled to active, and
    no job is left to publish it. -/
theorem reprovision_lost :
    ¬ Along (cloudStep sampleSha256) (Republishes sampleSha256) sampleCloud
      (withdrawnHistory ++ [provisionSample "request-2" 9003]) := by
  intro along
  have last := (along_append.mp along).2.1
  have left := last ⟨1, [3], provisionHash sampleSha256 [sampleProvision]⟩ (by decide +kernel) 3
    (by decide +kernel)
  revert left
  decide +kernel

theorem republishes_iff_unspent_sample :
    Along (cloudStep sampleSha256) (Republishes sampleSha256) sampleCloud
        (withdrawnHistory ++ [provisionSample "request-2" 9003]) ↔
      Along (cloudStep sampleSha256) (HashUnspent sampleSha256) sampleCloud
        (withdrawnHistory ++ [provisionSample "request-2" 9003]) :=
  republishes_iff_unspent sampleSha256 sampleCloud sampleCloud_empty
    (withdrawnHistory ++ [provisionSample "request-2" 9003])

end CandyCloud
