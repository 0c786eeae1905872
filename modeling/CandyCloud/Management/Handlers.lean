import CandyCloud.Control.Integrity
import CandyCloud.Control.Transport

/-! # The management API's writes

`create`, `replace` and `delete`: each checks its request, turns it into a mutation whose
context carries the request's digest, and hands it to `mutate`.
-/

namespace CandyCloud

open Foundation

inductive Role where
  | platformAdmin
  | organizationOwner
  | tenantAdmin
  | operator
  | billingViewer
  | auditor
deriving DecidableEq, Repr

inductive Action where
  | readConfiguration
  | writeConfiguration
  | manageDevices
  | manageBilling
  | readAudit
deriving DecidableEq, Repr

structure TenantContext where
  organizationId : Uuid
  tenantId : Uuid
  role : Role
deriving DecidableEq, Repr

structure AuthenticatedPrincipal where
  actorId : String
  context : TenantContext
deriving DecidableEq, Repr

def Role.permits : Role → Action → Bool
  | .platformAdmin, _ => false
  | .organizationOwner, _ | .tenantAdmin, _ => true
  | .operator, action => [.readConfiguration, .writeConfiguration, .manageDevices].contains action
  | .billingViewer, action => [.readConfiguration, .manageBilling].contains action
  | .auditor, action => [.readConfiguration, .readAudit].contains action

def authorize (context : TenantContext) (organizationId tenantId : Uuid) (action : Action) :
    Except String Unit := do
  reject (context.organizationId != organizationId || context.tenantId != tenantId)
    "cross-tenant access denied"
  reject (!context.role.permits action) "role is not permitted"

structure ApiError where
  status : Nat
  code : String
  message : String
deriving DecidableEq, Repr

namespace ApiError

def unauthorized : ApiError :=
  ⟨401, "AUTHENTICATION_REQUIRED", "management authentication is required"⟩

def forbidden : ApiError := ⟨403, "TENANT_ACCESS_DENIED", "tenant access is denied"⟩

def unknownResource : ApiError :=
  ⟨404, "UNKNOWN_RESOURCE", "resource collection is not supported"⟩

def resourceKindMismatch : ApiError :=
  ⟨400, "RESOURCE_KIND_MISMATCH", "resource body does not match collection"⟩

def missingIdempotencyKey : ApiError :=
  ⟨400, "MISSING_IDEMPOTENCY_KEY", "Idempotency-Key is required"⟩

def ifMatchRequired : ApiError := ⟨428, "IF_MATCH_REQUIRED", "If-Match is required"⟩

def invalidIfMatch : ApiError :=
  ⟨400, "INVALID_IF_MATCH", "If-Match must contain a numeric revision"⟩

def invalidRevision : ApiError := ⟨400, "INVALID_REVISION", "revision is too large"⟩

def unserializable : ApiError := ⟨400, "INVALID_REQUEST", "request cannot be serialized"⟩

def fromStore : ControlStoreError → ApiError
  | .invalidResource _ | .invalidRequest =>
      ⟨400, "INVALID_REQUEST", "request does not satisfy the V1 contract"⟩
  | .notFound => ⟨404, "RESOURCE_NOT_FOUND", "resource was not found"⟩
  | .revisionConflict => ⟨412, "REVISION_CONFLICT", "resource revision does not match If-Match"⟩
  | .referenceConflict =>
      ⟨409, "RESOURCE_REFERENCE_CONFLICT",
        "resource reference is missing, inconsistent, or still in use"⟩
  | .idempotencyConflict =>
      ⟨409, "IDEMPOTENCY_CONFLICT", "idempotency key was reused with a different request"⟩
  | .idempotencyReplayExpired =>
      ⟨409, "IDEMPOTENCY_REPLAY_EXPIRED", "idempotency replay window expired; use a new key"⟩
  | .leaseLost | .invalidTransition =>
      ⟨409, "STATE_CONFLICT", "resource state changed concurrently"⟩
  | .database =>
      ⟨503, "CONTROL_PLANE_UNAVAILABLE", "control plane storage is unavailable"⟩

end ApiError

def authorizeTenant (principal : AuthenticatedPrincipal) (tenantId : Uuid) (action : Action) :
    Except ApiError Unit :=
  reject (principal.context.tenantId != tenantId ||
    (authorize principal.context principal.context.organizationId tenantId action).isOk.not)
    .forbidden

def ResourceKind.apiCollection : ResourceKind → String
  | .node => "nodes"
  | .site => "sites"
  | .segment => "segments"
  | .attachment => "attachments"
  | .prefix_ => "prefixes"
  | .peer => "peers"
  | .relay => "relays"
  | .pathCandidate => "path-candidates"
  | .egress => "egresses"
  | .servicePolicy => "service-policies"
  | .dnsIntent => "dns-intents"

def ResourceKind.databaseValue : ResourceKind → String
  | .node => "NODE"
  | .site => "SITE"
  | .segment => "SEGMENT"
  | .attachment => "ATTACHMENT"
  | .prefix_ => "PREFIX"
  | .peer => "PEER"
  | .relay => "RELAY"
  | .pathCandidate => "PATH_CANDIDATE"
  | .egress => "EGRESS"
  | .servicePolicy => "SERVICE_POLICY"
  | .dnsIntent => "DNS_INTENT"

def ResourceKind.all : List ResourceKind :=
  [.node, .site, .segment, .attachment, .prefix_, .peer, .relay, .pathCandidate, .egress,
    .servicePolicy, .dnsIntent]

def parseApiCollection (value : String) : Option ResourceKind :=
  ResourceKind.all.find? fun kind => kind.apiCollection == value

/-- A POST, PUT or DELETE on a resource. -/
inductive ManagementRequest where
  | create (body : ResourceSpecV1)
  | replace (id : Uuid) (body : ResourceSpecV1)
  | delete (id : Uuid)
deriving DecidableEq, Repr

/-- The two headers a write reads, where their values are text. -/
structure ManagementHeaders where
  idempotencyKey : Option String
  ifMatch : Option String
deriving DecidableEq, Repr

/-- A request with the principal of its session and the two readings of the
    clock: one for the replay window, one handed to `mutate`. -/
structure ManagementCall where
  principal : Option AuthenticatedPrincipal
  tenantId : Uuid
  collection : String
  request : ManagementRequest
  headers : ManagementHeaders
  stamped : Instant
  now : Instant
deriving DecidableEq, Repr

def requiredHeader (value : Option String) : Except ApiError String :=
  orElse .missingIdempotencyKey
    (value.filter fun text => !text.isEmpty && decide ((utf8 text).length ≤ 160))

/-- The text between two quotes, or the whole of it. -/
def unquoted : List Char → List Char
  | '"' :: rest => if rest.getLast? = some '"' then rest.dropLast else '"' :: rest
  | text => text

/-- `u64::from_str`. -/
def parseU64 (text : List Char) : Option Nat :=
  let digits := match text with
    | '+' :: rest => rest
    | other => other
  let value := digits.foldl (fun value digit => 10 * value + (digit.toNat - 48)) 0
  if digits.isEmpty || !digits.all Char.isDigit || u64Max < value then none else some value

def ifMatch (headers : ManagementHeaders) : Except ApiError Nat := do
  let value ← orElse .ifMatchRequired headers.ifMatch
  orElse .invalidIfMatch (parseU64 (unquoted value.toList))

def collectionPath (tenantId : Uuid) (collection : String) : String :=
  "/v1/tenants/" ++ uuidText tenantId ++ "/" ++ collection

def resourcePath (tenantId : Uuid) (collection : String) (id : Uuid) : String :=
  collectionPath tenantId collection ++ "/" ++ uuidText id

section Requests

variable (sha256 : Bytes → Hash) (toVec : ControlResourceV1 → Option Bytes)

/-- The digest of tenant, actor and key with the bits of a version 5 identifier. -/
def idempotentResourceId (tenantId : Uuid) (actorId key : String) : Uuid :=
  let bytes := digestUuid (sha256 (uuidBytes tenantId ++ utf8 actorId ++ utf8 key))
  let versioned := (bytes &&& ~~~ (0xf0#128 <<< 72)) ||| (0x50#128 <<< 72)
  (versioned &&& ~~~ (0xc0#128 <<< 56)) ||| (0x80#128 <<< 56)

/-- Twenty-four hours. -/
def replayWindow : Nat := 24 * 60 * 60 * 1000000

def mutationContext (actorId method path key : String) (resource : ControlResourceV1)
    (stamped : Instant) : Except ApiError MutationContext := do
  let json ← orElse .unserializable (toVec resource)
  return {
    actorId
    idempotencyKey := key
    requestMethod := method
    requestPath := path
    requestHash := sha256 (utf8 method ++ utf8 path ++ json)
    idempotencyReplayUntil := stamped + replayWindow }

def ManagementCall.admission (call : ManagementCall) :
    Except ApiError (AuthenticatedPrincipal × ResourceKind) := do
  let principal ← orElse .unauthorized call.principal
  authorizeTenant principal call.tenantId .writeConfiguration
  let kind ← orElse .unknownResource (parseApiCollection call.collection)
  return (principal, kind)

def ManagementCall.document (call : ManagementCall) (id : Uuid) (revision : Nat)
    (body : ResourceSpecV1) : ControlResourceV1 :=
  ⟨⟨1, id, call.tenantId, revision, .active⟩, body⟩

def createMutation (call : ManagementCall) (body : ResourceSpecV1) :
    Except ApiError ResourceMutation := do
  let (principal, kind) ← call.admission
  reject (body.kind != kind) .resourceKindMismatch
  let key ← requiredHeader call.headers.idempotencyKey
  let resource :=
    call.document (idempotentResourceId sha256 call.tenantId principal.actorId key) 1 body
  let context ← mutationContext sha256 toVec principal.actorId "POST"
    (collectionPath call.tenantId call.collection) key resource call.stamped
  return ⟨context, resource, none⟩

def replaceMutation (call : ManagementCall) (id : Uuid) (body : ResourceSpecV1) :
    Except ApiError ResourceMutation := do
  let (principal, kind) ← call.admission
  reject (body.kind != kind) .resourceKindMismatch
  let expected ← ifMatch call.headers
  let key ← requiredHeader call.headers.idempotencyKey
  let revision ← orElse .invalidRevision (checkedAdd expected 1)
  let resource := call.document id revision body
  let context ← mutationContext sha256 toVec principal.actorId "PUT"
    (resourcePath call.tenantId call.collection id) key resource call.stamped
  return ⟨context, resource, some expected⟩

def ControlStore.get (store : ControlStore) (tenantId : Uuid) (kind : ResourceKind) (id : Uuid) :
    Except ControlStoreError ControlResourceV1 := do
  reject (isNil tenantId || isNil id) .invalidRequest
  let row ← orElse .notFound (store.resources.find? fun row =>
    row.at tenantId kind id && row.state != .deleted)
  decodeResource row.document

def deleteMutation (store : ControlStore) (call : ManagementCall) (id : Uuid) :
    Except ApiError ResourceMutation := do
  let (principal, kind) ← call.admission
  let expected ← ifMatch call.headers
  let key ← requiredHeader call.headers.idempotencyKey
  let current ← (store.get call.tenantId kind id).mapError .fromStore
  reject (current.metadata.revision != expected) (.fromStore .revisionConflict)
  let revision ← orElse .invalidRevision (checkedAdd expected 1)
  let resource :=
    { current with metadata := { current.metadata with revision, state := .deleted } }
  let context ← mutationContext sha256 toVec principal.actorId "DELETE"
    (resourcePath call.tenantId call.collection id) key resource call.stamped
  return ⟨context, resource, some expected⟩

/-- What the handler hands to `mutate`. -/
def ManagementCall.mutation (call : ManagementCall) (store : ControlStore) :
    Except ApiError ResourceMutation :=
  match call.request with
  | .create body => createMutation sha256 toVec call body
  | .replace id body => replaceMutation sha256 toVec call id body
  | .delete id => deleteMutation sha256 toVec store call id

end Requests

structure ResourceReferenceResponse where
  kind : String
  collection : String
  id : Uuid
  resource : ControlResourceV1
deriving DecidableEq, Repr

/-- What an accepted call answers. -/
inductive ManagementResponse where
  | mutation (status : Nat) (replayed : Bool) (resource : ControlResourceV1)
  | referenceConflict (references : List ResourceReferenceResponse)
deriving DecidableEq, Repr

def referenceResponse (resource : ControlResourceV1) : ResourceReferenceResponse :=
  ⟨resource.resource.kind.databaseValue, resource.resource.kind.apiCollection,
    resource.metadata.id, resource⟩

/-- `ControlRepository::references_to`, in the order of kinds and identifiers. -/
def ControlStore.referencesTo (store : ControlStore) (tenantId : Uuid) (kind : ResourceKind)
    (id : Uuid) : Except ControlStoreError (List ControlResourceV1) := do
  reject (isNil tenantId || isNil id) .invalidRequest
  reject (!store.resources.any fun row => row.at tenantId kind id && row.state != .deleted)
    .notFound
  let sources := (store.references.filter fun reference =>
      reference.tenantId == tenantId && reference.target == (kind, id)).flatMap fun reference =>
    store.resources.filter fun row =>
      row.at tenantId reference.source.1 reference.source.2 && row.state != .deleted
  let ordered := sources.mergeSort fun a b =>
    decide (a.kind.ctorIdx < b.kind.ctorIdx ∨ a.kind = b.kind ∧ a.id.toNat ≤ b.id.toNat)
  ordered.mapM fun row => decodeResource row.document

def mutationResponse (outcome : MutationOutcome) (status : Nat) : ManagementResponse :=
  match outcome with
  | .applied resource => .mutation status false resource
  | .replayed resource => .mutation 200 true resource

def ManagementRequest.status : ManagementRequest → Nat
  | .create _ => 201
  | .replace _ _ | .delete _ => 200

/-- How a handler answers an error of `mutate`: a delete lists the blockers. -/
def ManagementCall.failure (call : ManagementCall) (cloud : Cloud) (mutation : ResourceMutation)
    (error : ControlStoreError) : Except ApiError (ManagementResponse × Cloud) :=
  match call.request, error with
  | .delete id, .referenceConflict => do
      let references ←
        (cloud.control.referencesTo call.tenantId mutation.kind id).mapError .fromStore
      return (.referenceConflict (references.map referenceResponse), cloud)
  | _, error => .error (.fromStore error)

/-- `create`, `replace` and `delete`. -/
def serveManagement (sha256 : Bytes → Hash) (toVec : ControlResourceV1 → Option Bytes)
    (cloud : Cloud) (call : ManagementCall) (fresh : Uuid → Uuid) (clock : Instant) :
    Except ApiError (ManagementResponse × Cloud) := do
  let mutation ← call.mutation sha256 toVec cloud.control
  match mutate cloud mutation call.now fresh clock with
  | .ok (outcome, after) => return (mutationResponse outcome call.request.status, after)
  | .error error => call.failure cloud mutation error

/-- A call, or any change made elsewhere to the other tables. -/
inductive ManagementEvent where
  | call (call : ManagementCall) (fresh : Uuid → Uuid) (clock : Instant)
  | environment (transportRequests : List TransportRequestRow) (queue : GenerationQueue)
      (route : RouteStore)

def managementStep (sha256 : Bytes → Hash) (toVec : ControlResourceV1 → Option Bytes)
    (cloud : Cloud) : ManagementEvent → Cloud
  | .call call fresh clock =>
      commit cloud ((serveManagement sha256 toVec cloud call fresh clock).map Prod.snd)
  | .environment transportRequests queue route =>
      controlStep cloud (.environment transportRequests queue route)

end CandyCloud
