import CandyCloud.Control.CrossResource

/-! # Mutations of the control graph

`ControlRepository::mutate`: one transaction that replays or writes a document,
its references, the generation jobs of every segment it affects and the
idempotency record.
-/

namespace CandyCloud

open Foundation

structure MutationContext where
  actorId : String
  idempotencyKey : String
  requestMethod : String
  requestPath : String
  requestHash : Hash
  idempotencyReplayUntil : Instant
deriving DecidableEq, Repr

def MutationContext.validate (context : MutationContext) (now : Instant) :
    Except ControlStoreError Unit :=
  reject ((utf8 context.actorId).isEmpty || decide (120 < (utf8 context.actorId).length) ||
    (utf8 context.idempotencyKey).isEmpty || decide (160 < (utf8 context.idempotencyKey).length) ||
    (utf8 context.requestMethod).isEmpty || decide (12 < (utf8 context.requestMethod).length) ||
    (utf8 context.requestPath).isEmpty || decide (500 < (utf8 context.requestPath).length) ||
    context.requestHash == zeroHash || decide (context.idempotencyReplayUntil ≤ now))
    .invalidRequest

/-- A request to write one revision of a resource. -/
structure ResourceMutation where
  context : MutationContext
  resource : ControlResourceV1
  expectedRevision : Option Nat
deriving DecidableEq, Repr

/-- The resource as this call wrote it, or as an earlier one did. -/
inductive MutationOutcome where
  | applied (resource : ControlResourceV1)
  | replayed (resource : ControlResourceV1)
deriving DecidableEq, Repr

/-- `decode_resource` and `validate` report a contract error with its text. -/
def contract (result : Except ContractError Unit) : Except ControlStoreError Unit :=
  match result with
  | .ok _ => .ok ()
  | .error error => .error (.invalidResource error.message)

namespace ResourceMutation

variable (mutation : ResourceMutation)

def tenantId : Uuid := mutation.resource.metadata.tenantId
def id : Uuid := mutation.resource.metadata.id
def kind : ResourceKind := mutation.resource.resource.kind

def checkRevision : Except ControlStoreError Unit :=
  reject (match mutation.expectedRevision with
    | none => mutation.resource.metadata.revision != 1
    | some expected => expected == 0 || mutation.resource.metadata.revision != expected + 1)
    .revisionConflict

/-- The record written under the mutation's idempotency key. -/
def recordedAs (row : IdempotencyRow) : Bool :=
  row.tenantId == mutation.tenantId && row.actorId == mutation.context.actorId &&
    row.idempotencyKey == mutation.context.idempotencyKey

def replayIdempotency (store : ControlStore) (now : Instant) :
    Except ControlStoreError (Option ControlResourceV1) :=
  match store.idempotency.find? mutation.recordedAs with
  | none => .ok none
  | some row => do
      reject (row.requestHash != mutation.context.requestHash ||
        row.requestMethod != mutation.context.requestMethod ||
        row.requestPath != mutation.context.requestPath || row.kind != mutation.kind ||
        row.resourceId != mutation.id ||
        row.resourceRevision != mutation.resource.metadata.revision) .idempotencyConflict
      reject (decide (row.replayUntil ≤ now)) .idempotencyReplayExpired
      let resource ← decodeResource row.response
      return some resource

/-- The undeleted document at the expected revision. -/
def previous (store : ControlStore) : Except ControlStoreError (Option ControlResourceV1) :=
  match mutation.expectedRevision with
  | none => .ok none
  | some expected => do
      let row ← orElse .revisionConflict (store.resources.find? fun row =>
        row.at mutation.tenantId mutation.kind mutation.id && row.revision == expected &&
          row.state != .deleted)
      let resource ← decodeResource row.document
      return some resource

def row : ResourceRow where
  tenantId := mutation.tenantId
  kind := mutation.kind
  id := mutation.id
  revision := mutation.resource.metadata.revision
  state := mutation.resource.metadata.state
  segmentId := affectedSegmentId mutation.resource
  document := mutation.resource

/-- The row an `UPDATE` at the expected revision rewrites. -/
def updates (expected : Nat) (row : ResourceRow) : Bool :=
  row.at mutation.tenantId mutation.kind mutation.id && row.revision == expected

def writeResource (resources : List ResourceRow) :
    Except ControlStoreError (List ResourceRow) :=
  match mutation.expectedRevision with
  | none => orElse .database (insertRow ResourceRow.conflict resources mutation.row)
  | some expected => do
      reject ((resources.filter (mutation.updates expected)).length != 1) .revisionConflict
      return updateWhere (mutation.updates expected) (fun _ => mutation.row) resources

def replaceResourceReferences (references : List ReferenceRow) : List ReferenceRow :=
  let kept := references.filter fun reference =>
    !(reference.tenantId == mutation.tenantId && reference.source == (mutation.kind, mutation.id))
  if mutation.resource.metadata.state = .deleted then kept
  else kept ++ (resourceReferences mutation.resource).map fun target =>
    ⟨mutation.tenantId, (mutation.kind, mutation.id), target⟩

def deletingSegment : Bool :=
  mutation.resource.metadata.state == .deleted && mutation.kind == .segment

def idempotencyRow : IdempotencyRow where
  tenantId := mutation.tenantId
  actorId := mutation.context.actorId
  idempotencyKey := mutation.context.idempotencyKey
  requestMethod := mutation.context.requestMethod
  requestPath := mutation.context.requestPath
  requestHash := mutation.context.requestHash
  kind := mutation.kind
  resourceId := mutation.id
  resourceRevision := mutation.resource.metadata.revision
  response := mutation.resource
  replayUntil := mutation.context.idempotencyReplayUntil

def writeControl (store : ControlStore) : Except ControlStoreError ControlStore := do
  let resources ← mutation.writeResource store.resources
  return { store with
    resources
    references := mutation.replaceResourceReferences store.references }

/-- Segments whose publication depends on the resource before or after the
    write, and the segment the document names. -/
def affectedSegments (before after : ControlStore) : List Uuid :=
  ((before.dependentSegments mutation.tenantId mutation.kind mutation.id).filter (fun id =>
      !(mutation.deletingSegment && id == mutation.id)) ++
    after.dependentSegments mutation.tenantId mutation.kind mutation.id ++
    ((affectedSegmentId mutation.resource).filter fun _ => !mutation.deletingSegment).toList).dedup

end ResourceMutation

/-- The kinds whose change leaves the transport as it is. -/
def policyOnlyActivation (kind : ResourceKind) : Bool :=
  kind == .servicePolicy || kind == .prefix_ || kind == .egress

/-- Whether the change asks for a new publication. -/
def mutationRequiresPublication (previous : Option ControlResourceV1)
    (current : ControlResourceV1) : Bool :=
  match previous with
  | none => true
  | some previous =>
      previous.metadata.state != current.metadata.state ||
        match previous.resource, current.resource with
        | .servicePolicy previous, .servicePolicy current =>
            previous.segmentId != current.segmentId || previous.generation != current.generation ||
              previous.enabled != current.enabled || previous.rules != current.rules
        | _, _ => true

/-- `UPDATE segments SET state = 'DELETED'` of `retire_deleted_segment`. -/
def RouteStore.retireSegment (store : RouteStore) (tenantId segmentId : Uuid) : RouteStore :=
  { store with
    segments := updateWhere (fun row => row.of tenantId segmentId && row.state != .deleted)
      (fun row => { row with state := .deleted }) store.segments }

/-- `retire_deleted_segment`, when a segment is being deleted. -/
def ResourceMutation.retire (mutation : ResourceMutation) (cloud : Cloud) : Cloud :=
  if mutation.deletingSegment then
    { cloud with
      route := cloud.route.retireSegment mutation.tenantId mutation.id
      queue := retireDeletedSegment cloud.queue mutation.tenantId mutation.id }
  else cloud

/-- Generation jobs for a list of segments, all with one hash. -/
def enqueueGenerations (queue : GenerationQueue) (fresh : Uuid → Uuid) (clock : Instant)
    (tenantId : Uuid) (segmentIds : List Uuid) (idempotencyHash : Hash) (policyOnly : Bool) :
    Except ControlStoreError GenerationQueue :=
  updateEach (fun queue segmentId =>
    enqueueGeneration queue (fresh segmentId) clock tenantId segmentId idempotencyHash policyOnly)
    queue segmentIds

def ResourceMutation.enqueue (mutation : ResourceMutation) (fresh : Uuid → Uuid) (clock : Instant)
    (previous : Option ControlResourceV1) (affected : List Uuid) (queue : GenerationQueue) :
    Except ControlStoreError GenerationQueue :=
  if mutationRequiresPublication previous mutation.resource then
    enqueueGenerations queue fresh clock mutation.tenantId affected mutation.context.requestHash
      (policyOnlyActivation mutation.kind)
  else .ok queue

def applyMutation (cloud : Cloud) (mutation : ResourceMutation) (fresh : Uuid → Uuid)
    (clock : Instant) : Except ControlStoreError Cloud := do
  let previous ← mutation.previous cloud.control
  cloud.validateCrossResource mutation.resource
  let control ← mutation.writeControl cloud.control
  let retired := mutation.retire { cloud with control }
  let queue ← mutation.enqueue fresh clock previous
    (mutation.affectedSegments cloud.control control) retired.queue
  let idempotency ← orElse .database (insertRow (fun a b =>
    a.tenantId == b.tenantId && a.actorId == b.actorId && a.idempotencyKey == b.idempotencyKey)
    control.idempotency mutation.idempotencyRow)
  return { retired with control := { control with idempotency }, queue }

/-- One mutation: validated, looked up as a replay, then applied as one transaction. -/
def mutate (cloud : Cloud) (mutation : ResourceMutation) (now : Instant) (fresh : Uuid → Uuid)
    (clock : Instant) : Except ControlStoreError (MutationOutcome × Cloud) := do
  mutation.context.validate now
  contract mutation.resource.validate
  mutation.checkRevision
  match ← mutation.replayIdempotency cloud.control now with
  | some replayed => return (.replayed replayed, cloud)
  | none =>
      let cloud ← applyMutation cloud mutation fresh clock
      return (.applied mutation.resource, cloud)

structure Applied (cloud : Cloud) (mutation : ResourceMutation) (fresh : Uuid → Uuid)
    (clock : Instant) (previous : Option ControlResourceV1) (resources : List ResourceRow)
    (queue : GenerationQueue) (cloud' : Cloud) : Prop where
  valid : mutation.resource.validate = .ok ()
  revision : mutation.checkRevision = .ok ()
  found : mutation.previous cloud.control = .ok previous
  cross : cloud.validateCrossResource mutation.resource = .ok ()
  written : mutation.writeResource cloud.control.resources = .ok resources
  enqueued : mutation.enqueue fresh clock previous
    (mutation.affectedSegments cloud.control
      { cloud.control with
        resources
        references := mutation.replaceResourceReferences cloud.control.references })
    (mutation.retire cloud).queue = .ok queue
  result : cloud' =
    { control :=
        { cloud.control with
          resources
          references := mutation.replaceResourceReferences cloud.control.references
          idempotency := cloud.control.idempotency ++ [mutation.idempotencyRow] }
      queue
      route := (mutation.retire cloud).route }

theorem contract_ok {result : Except ContractError Unit} {u : Unit} :
    contract result = .ok u ↔ result = .ok () := by
  cases result with
  | error error => simp [contract]
  | ok value => simp [contract]

theorem ResourceMutation.retire_control (mutation : ResourceMutation) (cloud : Cloud)
    (control : ControlStore) :
    mutation.retire { cloud with control } = { mutation.retire cloud with control } := by
  unfold ResourceMutation.retire
  split
  · rfl
  · rfl

theorem ResourceMutation.retire_topology (mutation : ResourceMutation) (cloud : Cloud) :
    (mutation.retire cloud).route.topology = cloud.route.topology := by
  unfold ResourceMutation.retire
  split
  · rfl
  · rfl

variable {cloud cloud' : Cloud} {fresh : Uuid → Uuid} {clock : Instant}

theorem Applied.topology {mutation : ResourceMutation} {previous : Option ControlResourceV1}
    {resources : List ResourceRow} {queue : GenerationQueue}
    (applied : Applied cloud mutation fresh clock previous resources queue cloud') :
    cloud'.route.topology = cloud.route.topology := by
  rw [applied.result]
  exact mutation.retire_topology cloud

theorem mutate_ok {mutation : ResourceMutation} {now : Instant} {outcome : MutationOutcome}
    (done : mutate cloud mutation now fresh clock = .ok (outcome, cloud')) :
    ((∃ replayed, outcome = .replayed replayed) ∧ cloud' = cloud) ∨
    (outcome = .applied mutation.resource ∧ ∃ previous resources queue,
      Applied cloud mutation fresh clock previous resources queue cloud') := by
  simp only [mutate, unit_bind_ok, contract_ok, bind_ok (α := Option ControlResourceV1)] at done
  obtain ⟨-, valid, revision, replay, -, done⟩ := done
  cases replay with
  | some replayed =>
      simp only [pure_ok, Prod.mk.injEq] at done
      exact .inl ⟨⟨replayed, done.1.symm⟩, done.2.symm⟩
  | none =>
      simp only [bind_ok, pure_ok, Prod.mk.injEq] at done
      obtain ⟨final, applied, rfl, rfl⟩ := done
      simp only [applyMutation, ResourceMutation.writeControl, unit_bind_ok, orElse_bind_ok,
        bind_ok (α := Option ControlResourceV1), bind_ok (α := ControlStore),
        bind_ok (α := GenerationQueue), bind_ok (α := List ResourceRow), pure_ok,
        insertRow_some] at applied
      obtain ⟨previous, previousFound, cross, control, ⟨resources, written, rfl⟩, queue, enqueued,
        idempotency, ⟨-, rfl⟩, rfl⟩ := applied
      rw [mutation.retire_control] at enqueued ⊢
      exact .inr ⟨rfl, previous, resources, queue, valid, revision, previousFound, cross, written,
        enqueued, rfl⟩

/-- The edit is carried out: it is neither refused nor a replay. -/
def ResourceMutation.carriedOut (mutation : ResourceMutation) (cloud : Cloud) (now : Instant)
    (fresh : Uuid → Uuid) (clock : Instant) : Bool :=
  match mutate cloud mutation now fresh clock with
  | .ok (.applied _, _) => true
  | .ok (.replayed _, _) | .error _ => false

end CandyCloud
