import CandyCloud.Control.Rewriting
import CandyCloud.Enrollment.CertificateRows
import CandyCloud.Queue.System

/-! # What replacing the identity of a node writes

The replacement writes the control document, the service nodes with their endpoints, the old
identity and the job queue.
-/

namespace CandyCloud

open Foundation

variable {codec : EnrollmentCodec}

/-- The listed service nodes have lost their endpoints; devices and keys are
    untouched. -/
structure EndpointsClosed (before : RouteStore) (serviceNodes : List Uuid) (after : RouteStore) :
    Prop where
  devices : after.topology.devices = before.topology.devices
  deviceKeys : after.topology.deviceKeys = before.topology.deviceKeys
  closed : ∀ endpoint ∈ after.topology.nodeEndpoints, endpoint.nodeId ∈ serviceNodes →
    endpoint.active = false

variable {deviceId deviceKeyId tenantId : Uuid} {fresh : Uuid → Uuid} {clock : Instant}
  {requestHash : Hash}

theorem rebindServiceNodes_closed {before after : RouteStore} {serviceNodes : List Uuid}
    (done : updateEach (rebindServiceNode deviceId deviceKeyId) before serviceNodes = .ok after) :
    EndpointsClosed before serviceNodes after := by
  refine updateEach_processed (P := fun seen route => EndpointsClosed before seen route) ?_ ?_ done
  · intro seen serviceNodeId route route' _ _ closed step
    simp only [rebindServiceNode, unit_bind_ok, pure_ok] at step
    obtain ⟨-, rfl⟩ := step
    refine ⟨closed.devices, closed.deviceKeys, ?_⟩
    intro endpoint member listed
    obtain ⟨old, stored, rfl⟩ := mem_updateWhere.mp member
    by_cases own : old.nodeId = serviceNodeId
    · simp only [own, beq_self_eq_true, if_true]
    · simp only [beq_false_of_ne own, Bool.false_eq_true, if_false] at listed ⊢
      rcases mem_concat.mp listed with earlier | here
      · exact closed.closed old stored earlier
      · exact absurd (here) own
  · refine ⟨rfl, rfl, ?_⟩
    intro endpoint _ listed
    cases listed

def TunnelJob (before after : GenerationQueue) (tenantId : Uuid) (requestHash : Hash)
    (segmentId : Uuid) : Prop :=
  ∃ job ∈ after.jobs, job ∉ before.jobs ∧ job.of tenantId segmentId = true ∧
    job.desiredRevision = before.desiredRevision tenantId segmentId + 1 ∧
    job.idempotencyHash = requestHash ∧ job.state = .pending ∧ job.activationMode = .tunnel

/-- The jobs of the listed segments are there, every earlier job is kept, and
    the heads of the other segments have not moved. -/
structure TunnelJobs (before : GenerationQueue) (tenantId : Uuid) (requestHash : Hash)
    (segments : List Uuid) (after : GenerationQueue) : Prop where
  enqueued : ∀ segmentId ∈ segments, TunnelJob before after tenantId requestHash segmentId
  kept : ∀ job ∈ before.jobs, job ∈ after.jobs
  heads : ∀ segmentId, segmentId ∉ segments →
    after.desiredRevision tenantId segmentId = before.desiredRevision tenantId segmentId

theorem enqueueReenrollmentGeneration_ok {segmentId : Uuid} {queue queue' : GenerationQueue}
    (done : enqueueReenrollmentGeneration fresh clock tenantId requestHash queue segmentId =
      .ok queue') :
    ∃ job : JobRow,
      job.key = (fresh segmentId, tenantId, segmentId, queue.desiredRevision tenantId segmentId + 1) ∧
      job.state = .pending ∧ job.idempotencyHash = requestHash ∧ job.activationMode = .tunnel ∧
      (∀ old ∈ queue.jobs, job.conflict old = false) ∧ queue'.jobs = queue.jobs ++ [job] ∧
      ∀ other, other ≠ segmentId →
        queue'.desiredRevision tenantId other = queue.desiredRevision tenantId other := by
  simp only [enqueueReenrollmentGeneration, orElse_bind_ok, mapError_ok] at done
  obtain ⟨head, found, desired, sum, inserted⟩ := done
  obtain rfl := checkedAdd_some sum
  obtain ⟨job, key, pending, hash, mode, free, rfl⟩ := insertJob_ok inserted
  have current : head.desiredRevision = queue.desiredRevision tenantId segmentId := by
    rw [← openHead_desired queue tenantId segmentId tenantId segmentId,
      GenerationQueue.desiredRevision, found]
    rfl
  simp only [GenerationQueue.advanceHead, openHead_jobs] at free ⊢
  rw [current] at key
  refine ⟨job, key, pending, hash, mode, free, rfl, ?_⟩
  intro other different
  refine Eq.trans ?_ (openHead_desired queue tenantId segmentId tenantId other)
  refine advanceHead_other head.desiredRevision _ ?_
  intro same
  exact different same.2.symm

theorem enqueueReenrollmentGenerations_jobs {before after : GenerationQueue} {segments : List Uuid}
    (done : updateEach (enqueueReenrollmentGeneration fresh clock tenantId requestHash) before
      segments = .ok after) : TunnelJobs before tenantId requestHash segments after := by
  refine updateEach_processed (P := fun seen queue => TunnelJobs before tenantId requestHash seen
    queue) ?_ ?_ done
  · intro seen segmentId queue queue' _ _ jobs step
    obtain ⟨job, key, pending, hash, mode, free, added, heads⟩ :=
      enqueueReenrollmentGeneration_ok step
    simp only [JobRow.key, Prod.mk.injEq] at key
    have located : job.of tenantId segmentId = true := JobRow.of_iff.mpr ⟨key.2.1, key.2.2.1⟩
    have grown : ∀ old ∈ queue.jobs, old ∈ queue'.jobs := by
      intro old member
      rw [added]
      exact List.mem_append_left _ member
    -- the unique key on the hash admits one job a segment
    have first : segmentId ∉ seen := by
      intro again
      obtain ⟨old, member, -, oldLocated, -, oldHash, -⟩ := jobs.enqueued segmentId again
      have clash := free old member
      obtain ⟨oldTenant, oldSegment⟩ := JobRow.of_iff.mp oldLocated
      simp [JobRow.conflict, JobRow.of, key.2.1, key.2.2.1, oldTenant, oldSegment, oldHash,
        hash] at clash
    constructor
    · intro other listed
      rcases mem_concat.mp listed with earlier | here
      · obtain ⟨old, member, rest⟩ := jobs.enqueued other earlier
        exact ⟨old, grown old member, rest⟩
      · obtain rfl := here
        refine ⟨job, ?_, ?_, located, ?_, hash, pending, mode⟩
        · rw [added]
          exact List.mem_append_right _ (List.mem_singleton_self job)
        · intro old
          have clash := free job (jobs.kept job old)
          simp [JobRow.conflict] at clash
        · rw [key.2.2.2, jobs.heads other first]
    · intro old member
      exact grown old (jobs.kept old member)
    · intro other unlisted
      simp only [List.mem_append, List.mem_singleton, not_or] at unlisted
      rw [heads other unlisted.2]
      exact jobs.heads other unlisted.1
  · refine ⟨?_, fun job member => member, fun segmentId _ => rfl⟩
    intro segmentId listed
    cases listed

/-- The row of the node, its document, and what is in every table afterwards. -/
structure IdentityReplaced (codec : EnrollmentCodec) (store : EnrollmentStore)
    (tenantId controlNodeId newDeviceId newDeviceKeyId : Uuid) (now : Instant) (row : ResourceRow)
    (old : NodeV1) (store' : EnrollmentStore) : Prop where
  found : store.cloud.control.resources.find? (fun row =>
    row.at tenantId .node controlNodeId && row.state == .active) = some row
  document : row.document.resource = .node old
  device : store.topology.activeDevice tenantId (some old.deviceId) = true
  key : store.topology.activeDeviceKey tenantId (some old.deviceId) (some old.deviceKeyId) = true
  control : store'.cloud.control =
    { store.cloud.control with
      resources := updateWhere (fun other => other.at tenantId .node controlNodeId &&
          other.revision == row.revision && other.state == .active)
        (fun other => { other with
          revision := row.document.metadata.revision + 1
          document :=
            { metadata := { row.document.metadata with
                revision := row.document.metadata.revision + 1 }
              resource := .node { old with
                deviceId := newDeviceId, deviceKeyId := newDeviceKeyId } } })
        store.cloud.control.resources }
  devices : store'.topology.devices =
    updateWhere (fun device => device.tenantId == tenantId && device.id == old.deviceId &&
      device.status == .active) (fun device => { device with status := .revoked })
      store.topology.devices
  deviceKeys : store'.topology.deviceKeys =
    updateWhere (fun key => key.tenantId == tenantId && key.id == old.deviceKeyId &&
      key.status == .active) (fun key => { key with status := .revoked }) store.topology.deviceKeys
  endpoints : ∀ serviceNode ∈ store.topology.nodes,
    serviceNode.identity tenantId old.deviceId old.deviceKeyId = true →
    ∀ endpoint ∈ store'.topology.nodeEndpoints, endpoint.nodeId = serviceNode.id →
      endpoint.active = false
  certificates : store'.certificates =
    updateWhere (fun certificate => certificate.tenantId == tenantId &&
      certificate.deviceId == old.deviceId && certificate.status == .active)
      (fun certificate => { certificate with status := .superseded, revokedAt := some now })
      store.certificates
  jobs : TunnelJobs store.cloud.queue tenantId (reenrollmentHash codec controlNodeId newDeviceId)
    (store'.cloud.control.dependentSegments tenantId .node controlNodeId) store'.cloud.queue

theorem reenrolled_ok {resource document : ControlResourceV1} {old : NodeV1}
    (done : resource.reenrolled deviceId deviceKeyId = .ok (old, document)) :
    resource.resource = .node old ∧ document =
      { metadata := { resource.metadata with revision := resource.metadata.revision + 1 }
        resource := .node { old with deviceId, deviceKeyId } } := by
  simp only [ControlResourceV1.reenrolled, orElse_bind_ok, pure_ok, Prod.mk.injEq] at done
  obtain ⟨node, isNode, revision, sum, rfl, rfl⟩ := done
  obtain rfl := checkedAdd_some sum
  refine ⟨?_, rfl⟩
  cases spec : resource.resource with
  | node value =>
      rw [spec] at isNode
      rw [Option.some.inj isNode]
  | site | segment | attachment | prefix_ | peer | relay | pathCandidate | egress | servicePolicy
  | dnsIntent =>
      rw [spec] at isNode
      cases isNode

theorem replaceControlNodeIdentity_replaced {store store' : EnrollmentStore}
    {audit : EnrollmentAuditContext} {controlNodeId newDeviceId newDeviceKeyId : Uuid}
    {now : Instant}
    (done : replaceControlNodeIdentity codec store audit controlNodeId newDeviceId newDeviceKeyId
      now fresh clock = .ok store') :
    ∃ row old, IdentityReplaced codec store audit.tenantId controlNodeId newDeviceId
      newDeviceKeyId now row old store' := by
  simp only [replaceControlNodeIdentity, orElse_bind_ok, bind_ok (α := NodeV1 × ControlResourceV1),
    bind_ok (α := Cloud), unit_bind_ok, reject_ok, pure_ok, Bool.not_eq_false',
    Bool.and_eq_true] at done
  obtain ⟨row, found, ⟨old, document⟩, named, ⟨device, key⟩, cloud, replaced, rfl⟩ := done
  obtain ⟨isNode, rfl⟩ := reenrolled_ok named
  simp only [replaceNodeInCloud, bind_ok, pure_ok] at replaced
  obtain ⟨route, rebound, queue, enqueued, rfl⟩ := replaced
  have closed := rebindServiceNodes_closed rebound
  refine ⟨row, old, found, isNode, device, key, rfl, ?_, ?_, ?_, rfl, ?_⟩
  · exact congrArg (updateWhere _ _) closed.devices
  · exact congrArg (updateWhere _ _) closed.deviceKeys
  · intro serviceNode member identity endpoint listed named
    refine closed.closed endpoint listed ?_
    have moved : serviceNode ∈ store.topology.nodes.filter fun node =>
        node.identity audit.tenantId old.deviceId old.deviceKeyId :=
      List.mem_filter.mpr ⟨member, identity⟩
    rw [named]
    exact List.mem_map_of_mem moved
  · exact enqueueReenrollmentGenerations_jobs enqueued

end CandyCloud
