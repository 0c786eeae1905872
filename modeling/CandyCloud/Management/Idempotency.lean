import CandyCloud.Management.Handlers

/-! # Repeated requests

An accepted write leaves a record under its tenant, actor and key that no later step removes.
-/

namespace CandyCloud

open Foundation

variable {error : ControlStoreError} {principal : AuthenticatedPrincipal} {kind : ResourceKind}
  {body : ResourceSpecV1} {outcome : MutationOutcome}

section Record

variable {cloud cloud' : Cloud} {mutation : ResourceMutation} {now : Instant}
  {fresh : Uuid → Uuid} {clock : Instant}

/-- The checks `mutate` makes before it looks at the key. -/
structure ResourceMutation.Checked (mutation : ResourceMutation) (now : Instant) : Prop where
  context : mutation.context.validate now = .ok ()
  resource : mutation.resource.validate = .ok ()
  revision : mutation.checkRevision = .ok ()

variable {document : ControlResourceV1}

theorem mutate_replayed (checked : mutation.Checked now)
    (found : mutation.replayIdempotency cloud.control now = .ok (some document)) :
    mutate cloud mutation now fresh clock = .ok (.replayed document, cloud) := by
  simp only [mutate, checked.context, contract_ok (u := ()) |>.mpr checked.resource,
    checked.revision, found]
  rfl

theorem mutate_refused (checked : mutation.Checked now)
    (found : mutation.replayIdempotency cloud.control now = .error error) :
    mutate cloud mutation now fresh clock = .error error := by
  simp only [mutate, checked.context, contract_ok (u := ()) |>.mpr checked.resource,
    checked.revision, found]
  rfl

theorem checked_of_conflict
    (refused : mutate cloud mutation now fresh clock = .error .idempotencyConflict) :
    mutation.Checked now := by
  have validated : mutation.context.validate now = .ok () := by
    cases validity : mutation.context.validate now with
    | ok value => rfl
    | error raised =>
        have other : Avoids .idempotencyConflict (mutation.context.validate now) :=
          avoids_reject (by decide)
        simp only [mutate, validity] at refused
        cases refused
        exact absurd validity other
  have sound : contract mutation.resource.validate = .ok () := by
    cases validity : mutation.resource.validate with
    | ok value => rfl
    | error raised =>
        simp only [mutate, validated, validity] at refused
        cases refused
  have revised : mutation.checkRevision = .ok () := by
    cases validity : mutation.checkRevision with
    | ok value => rfl
    | error raised =>
        have other : Avoids .idempotencyConflict mutation.checkRevision :=
          avoids_reject (by decide)
        simp only [mutate, validated, sound, validity] at refused
        cases refused
        exact absurd validity other
  exact ⟨validated, contract_ok.mp sound, revised⟩

theorem unrecorded_of_fresh {store : ControlStore}
    (found : mutation.replayIdempotency store now = .ok none) :
    store.idempotency.find? mutation.recordedAs = none := by
  cases recorded : store.idempotency.find? mutation.recordedAs with
  | none => rfl
  | some row =>
      simp only [ResourceMutation.replayIdempotency, recorded, unit_bind_ok,
        bind_ok (α := ControlResourceV1), pure_ok, reduceCtorEq, and_false, exists_false] at found

theorem applied_recorded
    (done : mutate cloud mutation now fresh clock = .ok (.applied document, cloud')) :
    mutation.Checked now ∧ document = mutation.resource ∧
      cloud'.control.idempotency.find? mutation.recordedAs = some mutation.idempotencyRow := by
  have outcome := mutate_ok done
  simp only [mutate, unit_bind_ok, contract_ok, bind_ok (α := Option ControlResourceV1)] at done
  obtain ⟨context, resource, revision, replay, found, rest⟩ := done
  refine ⟨⟨context, resource, revision⟩, ?_⟩
  rcases outcome with ⟨⟨replayed, differs⟩, -⟩ | ⟨same, previous, resources, queue, applied⟩
  · cases differs
  · refine ⟨MutationOutcome.applied.inj same, ?_⟩
    cases replay with
    | some replayed => cases rest
    | none =>
        have own : mutation.recordedAs mutation.idempotencyRow = true := by
          simp [ResourceMutation.recordedAs, ResourceMutation.idempotencyRow]
        rw [applied.result, List.find?_append, unrecorded_of_fresh found, Option.none_or,
          List.find?_singleton, if_pos own]

theorem controlStep_recorded {wanted : IdempotencyRow → Bool} {row : IdempotencyRow}
    (recorded : cloud.control.idempotency.find? wanted = some row) (call : ControlCall) :
    (controlStep cloud call).control.idempotency.find? wanted = some row := by
  refine controlStep_keeps (P := fun store => store.idempotency.find? wanted = some row)
    (fun _ before => before) ?_ recorded call
  intro mutation fresh clock previous resources queue after applied
  rw [applied.result, List.find?_append, recorded, Option.some_or]

end Record

section Runs

variable {sha256 : Bytes → Hash} {toVec : ControlResourceV1 → Option Bytes} {cloud : Cloud}

theorem failure_unchanged {call : ManagementCall} {mutation : ResourceMutation}
    {answer : ManagementResponse × Cloud}
    (answered : call.failure cloud mutation error = .ok answer) : answer.2 = cloud := by
  unfold ManagementCall.failure at answered
  split at answered
  · simp only [bind_ok, pure_ok] at answered
    obtain ⟨references, -, rfl⟩ := answered
    rfl
  · cases answered

theorem managementStep_cases (event : ManagementEvent) :
    managementStep sha256 toVec cloud event = cloud ∨
      ∃ call, managementStep sha256 toVec cloud event = controlStep cloud call := by
  cases event with
  | environment transportRequests queue route =>
      exact .inr ⟨.environment transportRequests queue route, rfl⟩
  | call call fresh clock =>
      cases served : serveManagement sha256 toVec cloud call fresh clock with
      | error error =>
          left
          simp only [managementStep, served]
          rfl
      | ok answer =>
          simp only [managementStep, served]
          simp only [serveManagement, bind_ok (α := ResourceMutation)] at served
          obtain ⟨mutation, -, served⟩ := served
          cases done : mutate cloud mutation call.now fresh clock with
          | ok result =>
              right
              refine ⟨.mutate mutation call.now fresh clock, ?_⟩
              rw [done] at served
              cases served
              rw [controlStep, done]
              rfl
          | error error =>
              left
              rw [done] at served
              exact failure_unchanged served

theorem management_run_keeps (sha256 : Bytes → Hash) (toVec : ControlResourceV1 → Option Bytes)
    {P : Cloud → Prop} (keep : ∀ cloud call, P cloud → P (controlStep cloud call))
    (before : P cloud) (events : List ManagementEvent) :
    P (run (managementStep sha256 toVec) cloud events) := by
  refine run_invariant ?_ before events
  intro state event holds
  rcases managementStep_cases event with same | ⟨call, stepped⟩
  · rw [same]
    exact holds
  · rw [stepped]
    exact keep state call holds

end Runs

def ManagementRequest.method : ManagementRequest → String
  | .create _ => "POST"
  | .replace _ _ => "PUT"
  | .delete _ => "DELETE"

/-- The revision a call names; a create names none. -/
def ManagementCall.revision (call : ManagementCall) : Option Nat :=
  match call.request with
  | .create _ => none
  | .replace _ _ | .delete _ => (ifMatch call.headers).toOption

def ManagementCall.asks (call : ManagementCall) : Uuid × String × ManagementRequest × Option Nat :=
  (call.tenantId, call.collection, call.request, call.revision)

section Requests

variable {sha256 : Bytes → Hash} {toVec : ControlResourceV1 → Option Bytes}
  {call : ManagementCall} {mutation : ResourceMutation}

theorem admission_ok :
    call.admission = .ok (principal, kind) ↔
      call.principal = some principal ∧
        authorizeTenant principal call.tenantId .writeConfiguration = .ok () ∧
        parseApiCollection call.collection = some kind := by
  simp only [ManagementCall.admission, orElse_bind_ok, unit_bind_ok, pure_ok, Prod.mk.injEq]
  grind

theorem mutationContext_ok {actorId method path key : String} {resource : ControlResourceV1}
    {stamped : Instant} {context : MutationContext} :
    mutationContext sha256 toVec actorId method path key resource stamped = .ok context ↔
      ∃ json, toVec resource = some json ∧ context = ⟨actorId, key, method, path,
        sha256 (utf8 method ++ utf8 path ++ json), stamped + replayWindow⟩ := by
  simp only [mutationContext, orElse_bind_ok, pure_ok, eq_comm (b := context)]

theorem createMutation_ok :
    createMutation sha256 toVec call body = .ok mutation ↔
      ∃ principal kind key context, call.admission = .ok (principal, kind) ∧ body.kind = kind ∧
        requiredHeader call.headers.idempotencyKey = .ok key ∧
        mutationContext sha256 toVec principal.actorId "POST"
          (collectionPath call.tenantId call.collection) key
          (call.document (idempotentResourceId sha256 call.tenantId principal.actorId key) 1 body)
          call.stamped = .ok context ∧
        mutation = ⟨context, call.document
          (idempotentResourceId sha256 call.tenantId principal.actorId key) 1 body, none⟩ := by
  simp only [createMutation, bind_ok (α := AuthenticatedPrincipal × ResourceKind), unit_bind_ok,
    bind_ok (α := String), bind_ok (α := MutationContext), reject_ok, bne_eq_false_iff_eq, pure_ok,
    Prod.exists, eq_comm (b := mutation), exists_and_left]

theorem replaceMutation_ok {id : Uuid} :
    replaceMutation sha256 toVec call id body = .ok mutation ↔
      ∃ principal kind expected key revision context, call.admission = .ok (principal, kind) ∧
        body.kind = kind ∧ ifMatch call.headers = .ok expected ∧
        requiredHeader call.headers.idempotencyKey = .ok key ∧
        checkedAdd expected 1 = some revision ∧
        mutationContext sha256 toVec principal.actorId "PUT"
          (resourcePath call.tenantId call.collection id) key
          (call.document id revision body) call.stamped = .ok context ∧
        mutation = ⟨context, call.document id revision body, some expected⟩ := by
  simp only [replaceMutation, bind_ok (α := AuthenticatedPrincipal × ResourceKind), unit_bind_ok,
    bind_ok (α := String), bind_ok (α := MutationContext), bind_ok (α := Nat), orElse_ok, reject_ok,
    bne_eq_false_iff_eq, pure_ok, Prod.exists, eq_comm (b := mutation), exists_and_left]

def ControlResourceV1.deleted (current : ControlResourceV1) (revision : Nat) : ControlResourceV1 :=
  { current with metadata := { current.metadata with revision, state := .deleted } }

variable {store : ControlStore} {first again : ManagementCall}

theorem deleteMutation_ok {id : Uuid} :
    deleteMutation sha256 toVec store call id = .ok mutation ↔
      ∃ principal kind expected key current revision context,
        call.admission = .ok (principal, kind) ∧
        ifMatch call.headers = .ok expected ∧
        requiredHeader call.headers.idempotencyKey = .ok key ∧
        store.get call.tenantId kind id = .ok current ∧ current.metadata.revision = expected ∧
        checkedAdd expected 1 = some revision ∧
        mutationContext sha256 toVec principal.actorId "DELETE"
          (resourcePath call.tenantId call.collection id) key (current.deleted revision)
          call.stamped = .ok context ∧
        mutation = ⟨context, current.deleted revision, some expected⟩ := by
  simp only [deleteMutation, ControlResourceV1.deleted,
    bind_ok (α := AuthenticatedPrincipal × ResourceKind), unit_bind_ok,
    bind_ok (α := String), bind_ok (α := MutationContext), bind_ok (α := Nat),
    bind_ok (α := ControlResourceV1), mapError_ok, orElse_ok, reject_ok,
    bne_eq_false_iff_eq, pure_ok, Prod.exists, eq_comm (b := mutation), exists_and_left]

theorem get_ok {tenantId : Uuid} {id : Uuid} {document : ControlResourceV1}
    (found : store.get tenantId kind id = .ok document) :
    ∃ row ∈ store.resources, row.at tenantId kind id = true ∧ row.state ≠ .deleted ∧
      document = row.document := by
  simp only [ControlStore.get, unit_bind_ok, orElse_bind_ok, decodeResource_ok] at found
  obtain ⟨-, row, located, -, rfl⟩ := found
  have selects := List.find?_some located
  simp only [Bool.and_eq_true, bne_iff_ne] at selects
  exact ⟨row, List.mem_of_find?_eq_some located, selects.1, selects.2, rfl⟩

/-- What a mutation takes from its request. -/
structure Prepared (call : ManagementCall) (mutation : ResourceMutation) : Prop where
  actor : ∃ principal, call.principal = some principal ∧
    principal.context.tenantId = call.tenantId ∧ mutation.context.actorId = principal.actorId
  key : requiredHeader call.headers.idempotencyKey = .ok mutation.context.idempotencyKey
  tenantId : mutation.tenantId = call.tenantId
  collection : parseApiCollection call.collection = some mutation.kind
  method : mutation.context.requestMethod = call.request.method
  window : mutation.context.idempotencyReplayUntil = call.stamped + replayWindow
  request :
    match call.request with
    | .create body => mutation.resource.resource = body
    | .replace id body => mutation.resource.resource = body ∧ mutation.id = id ∧
        call.revision = some (mutation.resource.metadata.revision - 1)
    | .delete id => mutation.id = id ∧
        call.revision = some (mutation.resource.metadata.revision - 1)

theorem admission_tenant (admitted : call.admission = .ok (principal, kind)) :
    principal.context.tenantId = call.tenantId := by
  have authorized := (admission_ok.mp admitted).2.1
  simp only [authorizeTenant, reject_ok, Bool.or_eq_false_iff, bne_eq_false_iff_eq] at authorized
  exact authorized.1

theorem mutation_prepared (graph : GraphInvariant call.tenantId store)
    (done : call.mutation sha256 toVec store = .ok mutation) : Prepared call mutation := by
  unfold ManagementCall.mutation at done
  cases request : call.request with
  | create body =>
      rw [request] at done
      obtain ⟨principal, kind, key, context, admitted, same, header, built, rfl⟩ :=
        createMutation_ok.mp done
      obtain ⟨json, -, rfl⟩ := mutationContext_ok.mp built
      exact {
        actor := ⟨principal, (admission_ok.mp admitted).1, admission_tenant admitted, rfl⟩
        key := header
        tenantId := rfl
        collection := (admission_ok.mp admitted).2.2.trans (congrArg some same.symm)
        method := by rw [request]; rfl
        window := rfl
        request := by rw [request]; rfl }
  | replace id body =>
      rw [request] at done
      obtain ⟨principal, kind, expected, key, revision, context, admitted, same, matched, header,
        raised, built, rfl⟩ := replaceMutation_ok.mp done
      obtain ⟨json, -, rfl⟩ := mutationContext_ok.mp built
      exact {
        actor := ⟨principal, (admission_ok.mp admitted).1, admission_tenant admitted, rfl⟩
        key := header
        tenantId := rfl
        collection := (admission_ok.mp admitted).2.2.trans (congrArg some same.symm)
        method := by rw [request]; rfl
        window := rfl
        request := by
          rw [request]
          refine ⟨rfl, rfl, ?_⟩
          rw [ManagementCall.revision, request, matched, checkedAdd_some raised]
          rfl }
  | delete id =>
      rw [request] at done
      obtain ⟨principal, kind, expected, key, current, revision, context, admitted, matched, header,
        found, current, raised, built, rfl⟩ := deleteMutation_ok.mp done
      obtain ⟨json, -, rfl⟩ := mutationContext_ok.mp built
      obtain ⟨row, member, located, -, rfl⟩ := get_ok found
      obtain ⟨tenant, rowKind, rowId⟩ := ResourceRow.at_iff.mp located
      have faithful := graph.rows row member tenant
      exact {
        actor := ⟨principal, (admission_ok.mp admitted).1, admission_tenant admitted, rfl⟩
        key := header
        tenantId := faithful.tenantId.trans tenant
        collection := by
          rw [(admission_ok.mp admitted).2.2, ← rowKind, ← faithful.kind]
          rfl
        method := by rw [request]; rfl
        window := rfl
        request := by
          rw [request]
          refine ⟨faithful.id.trans rowId, ?_⟩
          rw [ManagementCall.revision, request, matched, checkedAdd_some raised]
          rfl }

theorem parseApiCollection_some {collection : String}
    (parsed : parseApiCollection collection = some kind) : collection = kind.apiCollection := by
  have selects := List.find?_some parsed
  exact (beq_iff_eq.mp selects).symm

theorem Prepared.asks_eq {recorded repeated : ResourceMutation} (prepared : Prepared first recorded)
    (preparedAgain : Prepared again repeated)
    (method : recorded.context.requestMethod = repeated.context.requestMethod)
    (document : recorded.resource = repeated.resource) : again.asks = first.asks := by
  have tenant : again.tenantId = first.tenantId := by
    rw [← prepared.tenantId, ← preparedAgain.tenantId, ResourceMutation.tenantId,
      ResourceMutation.tenantId, document]
  have collection : again.collection = first.collection := by
    rw [parseApiCollection_some prepared.collection,
      parseApiCollection_some preparedAgain.collection, ResourceMutation.kind,
      ResourceMutation.kind, document]
  have asked := prepared.request
  have askedAgain := preparedAgain.request
  rw [prepared.method, preparedAgain.method] at method
  simp only [ManagementCall.asks, tenant, collection, Prod.mk.injEq, true_and]
  simp only [ResourceMutation.id, document] at asked askedAgain
  cases wanted : first.request with
  | create body =>
      cases wantedAgain : again.request with
      | create bodyAgain =>
          simp only [wanted, wantedAgain] at asked askedAgain
          simp only [ManagementCall.revision, wanted, wantedAgain, ← asked, ← askedAgain, and_self]
      | replace idAgain bodyAgain => simp [wanted, wantedAgain, ManagementRequest.method] at method
      | delete idAgain => simp [wanted, wantedAgain, ManagementRequest.method] at method
  | replace id body =>
      cases wantedAgain : again.request with
      | create bodyAgain => simp [wanted, wantedAgain, ManagementRequest.method] at method
      | replace idAgain bodyAgain =>
          simp only [wanted, wantedAgain] at asked askedAgain
          refine ⟨?_, askedAgain.2.2.trans asked.2.2.symm⟩
          rw [← asked.1, ← asked.2.1, ← askedAgain.1, ← askedAgain.2.1]
      | delete idAgain => simp [wanted, wantedAgain, ManagementRequest.method] at method
  | delete id =>
      cases wantedAgain : again.request with
      | create bodyAgain => simp [wanted, wantedAgain, ManagementRequest.method] at method
      | replace idAgain bodyAgain => simp [wanted, wantedAgain, ManagementRequest.method] at method
      | delete idAgain =>
          simp only [wanted, wantedAgain] at asked askedAgain
          refine ⟨?_, askedAgain.2.trans asked.2.symm⟩
          rw [← asked.1, ← askedAgain.1]

theorem mutation_again (later : ControlStore)
    (done : first.mutation sha256 toVec store = .ok mutation)
    (bodied : ∀ id, first.request ≠ .delete id) (session : again.principal = first.principal)
    (key : again.headers.idempotencyKey = first.headers.idempotencyKey)
    (asks : again.asks = first.asks) :
    again.mutation sha256 toVec later = .ok { mutation with
      context := { mutation.context with
        idempotencyReplayUntil := again.stamped + replayWindow } } := by
  simp only [ManagementCall.asks, Prod.mk.injEq] at asks
  obtain ⟨tenant, collection, request, revision⟩ := asks
  have admits : again.admission = first.admission := by
    simp only [ManagementCall.admission, session, tenant, collection]
  have documents : ∀ id revision body,
      again.document id revision body = first.document id revision body := by
    intro id revision body
    simp only [ManagementCall.document, tenant]
  unfold ManagementCall.mutation at done ⊢
  rw [request]
  cases wanted : first.request with
  | create body =>
      rw [wanted] at done
      obtain ⟨principal, kind, name, context, admitted, same, header, built, rfl⟩ :=
        createMutation_ok.mp done
      obtain ⟨json, serialized, rfl⟩ := mutationContext_ok.mp built
      refine createMutation_ok.mpr ⟨principal, kind, name, _, admits.trans admitted, same, ?_,
        mutationContext_ok.mpr ⟨json, ?_, rfl⟩, ?_⟩
      · rw [key, header]
      · rw [documents, tenant, serialized]
      · rw [documents, tenant, collection]
  | replace id body =>
      rw [wanted] at done
      obtain ⟨principal, kind, expected, name, raised, context, admitted, same, matched, header,
        sum, built, rfl⟩ := replaceMutation_ok.mp done
      obtain ⟨json, serialized, rfl⟩ := mutationContext_ok.mp built
      have matchedAgain : ifMatch again.headers = .ok expected := by
        simp only [ManagementCall.revision, request, wanted, matched] at revision
        cases value : ifMatch again.headers with
        | error error =>
            rw [value] at revision
            cases revision
        | ok number =>
            rw [value] at revision
            cases revision
            rfl
      refine replaceMutation_ok.mpr ⟨principal, kind, expected, name, raised, _,
        admits.trans admitted, same, matchedAgain, ?_, sum,
        mutationContext_ok.mpr ⟨json, ?_, rfl⟩, ?_⟩
      · rw [key, header]
      · rw [documents, serialized]
      · rw [documents, tenant, collection]
  | delete id => exact absurd wanted (bodied id)

theorem fromStore_conflict (same : ApiError.fromStore error = .fromStore .idempotencyConflict) :
    error = .idempotencyConflict := by
  cases error with
  | idempotencyConflict => rfl
  | _ => simp [ApiError.fromStore] at same

theorem decodeResource_avoids (document : ControlResourceV1) :
    Avoids .idempotencyConflict (decodeResource document) := by
  unfold decodeResource
  split
  · exact avoids_ok document
  · intro failed
    cases failed

theorem mutation_avoids (store : ControlStore) :
    Avoids (.fromStore .idempotencyConflict) (call.mutation sha256 toVec store) := by
  have admits : Avoids (.fromStore .idempotencyConflict) call.admission := by
    refine (avoids_orElse (by decide)).bind fun principal => ?_
    refine (avoids_reject (by decide)).bind fun _ => ?_
    refine (avoids_orElse (by decide)).bind fun kind => ?_
    exact avoids_ok _
  have keyed : Avoids (.fromStore .idempotencyConflict)
      (requiredHeader call.headers.idempotencyKey) := avoids_orElse (by decide)
  have matched : Avoids (.fromStore .idempotencyConflict) (ifMatch call.headers) :=
    (avoids_orElse (by decide)).bind fun value => avoids_orElse (by decide)
  have context : ∀ actorId method path key resource, Avoids (.fromStore .idempotencyConflict)
      (mutationContext sha256 toVec actorId method path key resource call.stamped) :=
    fun _ _ _ _ _ => (avoids_orElse (by decide)).bind fun json => avoids_ok _
  have read : ∀ tenantId kind id, Avoids .idempotencyConflict (store.get tenantId kind id) := by
    intro tenantId kind id
    refine (avoids_reject (by decide)).bind fun _ => ?_
    refine (avoids_orElse (by decide)).bind fun row => ?_
    exact decodeResource_avoids row.document
  unfold ManagementCall.mutation
  split
  · refine admits.bind fun admitted => ?_
    refine (avoids_reject (by decide)).bind fun _ => ?_
    refine keyed.bind fun key => ?_
    exact (context _ _ _ _ _).bind fun _ => avoids_ok _
  · refine admits.bind fun admitted => ?_
    refine (avoids_reject (by decide)).bind fun _ => ?_
    refine matched.bind fun expected => ?_
    refine keyed.bind fun key => ?_
    refine (avoids_orElse (by decide)).bind fun revision => ?_
    exact (context _ _ _ _ _).bind fun _ => avoids_ok _
  · refine admits.bind fun admitted => ?_
    refine matched.bind fun expected => ?_
    refine keyed.bind fun key => ?_
    refine (avoids_mapError ?_).bind fun current => ?_
    · intro raised failed conflict
      rw [fromStore_conflict conflict] at failed
      exact read _ _ _ failed
    · refine (avoids_reject (by decide)).bind fun _ => ?_
      refine (avoids_orElse (by decide)).bind fun revision => ?_
      exact (context _ _ _ _ _).bind fun _ => avoids_ok _

end Requests

section Answers

variable {sha256 : Bytes → Hash} {toVec : ControlResourceV1 → Option Bytes}
  {first again : ManagementCall} {recorded repeated : ResourceMutation} {store : ControlStore}
  {now : Instant}

theorem recordedAs_eq (prepared : Prepared first recorded) (preparedAgain : Prepared again repeated)
    (session : again.principal = first.principal)
    (key : again.headers.idempotencyKey = first.headers.idempotencyKey) :
    repeated.recordedAs = recorded.recordedAs := by
  obtain ⟨principal, present, tenant, actor⟩ := prepared.actor
  obtain ⟨principalAgain, presentAgain, tenantAgain, actorAgain⟩ := preparedAgain.actor
  have same : principalAgain = principal := by
    rw [session, present] at presentAgain
    exact (Option.some.inj presentAgain).symm
  subst same
  have keys : repeated.context.idempotencyKey = recorded.context.idempotencyKey := by
    have header := preparedAgain.key
    rw [key, prepared.key] at header
    exact (Except.ok.inj header).symm
  funext row
  simp only [ResourceMutation.recordedAs, prepared.tenantId, preparedAgain.tenantId, ← tenant,
    ← tenantAgain, actor, actorAgain, keys]

theorem replay_conflict
    (found : store.idempotency.find? repeated.recordedAs = some recorded.idempotencyRow)
    (differs : ¬ (recorded.context.requestHash = repeated.context.requestHash ∧
      recorded.context.requestMethod = repeated.context.requestMethod)) :
    repeated.replayIdempotency store now = .error .idempotencyConflict := by
  have mismatch : (recorded.idempotencyRow.requestHash != repeated.context.requestHash ||
      recorded.idempotencyRow.requestMethod != repeated.context.requestMethod) = true := by
    rw [not_and_or] at differs
    simp only [Bool.or_eq_true, bne_iff_ne]
    exact differs
  simp only [ResourceMutation.replayIdempotency, found, mismatch, Bool.true_or]
  rfl

theorem replay_recorded (limit : Instant) (valid : recorded.resource.validate = .ok ())
    (found : store.idempotency.find? recorded.recordedAs = some recorded.idempotencyRow)
    (window : now < recorded.context.idempotencyReplayUntil) :
    ({ recorded with context := { recorded.context with
      idempotencyReplayUntil := limit } } : ResourceMutation).replayIdempotency store now
        = .ok (some recorded.resource) := by
  have same : ResourceMutation.recordedAs { recorded with context := { recorded.context with
      idempotencyReplayUntil := limit } } = recorded.recordedAs := rfl
  have current : ¬ recorded.idempotencyRow.replayUntil ≤ now := Nat.not_le.mpr window
  have document : decodeResource recorded.idempotencyRow.response = .ok recorded.resource :=
    decodeResource_ok.mpr ⟨valid, rfl⟩
  simp only [ResourceMutation.replayIdempotency, same, found, current, document, decide_false]
  simp [ResourceMutation.idempotencyRow, ResourceMutation.kind, ResourceMutation.id, reject]
  rfl

theorem ResourceMutation.Checked.renewed (limit : Instant) (checked : recorded.Checked now)
    {later : Instant} (before : later < limit) :
    ({ recorded with context := { recorded.context with
      idempotencyReplayUntil := limit } } : ResourceMutation).Checked later := by
  refine ⟨?_, checked.resource, checked.revision⟩
  have valid := checked.context
  simp only [MutationContext.validate, reject_ok, Bool.or_eq_false_iff,
    decide_eq_false_iff_not] at valid ⊢
  exact ⟨valid.1, Nat.not_le.mpr before⟩

variable {cloud : Cloud} {fresh : Uuid → Uuid} {clock : Instant}

theorem failure_avoids (other : error ≠ .idempotencyConflict) :
    Avoids (.fromStore .idempotencyConflict) (again.failure cloud repeated error) := by
  unfold ManagementCall.failure
  split
  · refine (avoids_mapError ?_).bind fun references => avoids_ok _
    intro raised failed conflict
    rw [fromStore_conflict conflict] at failed
    have avoids : ∀ tenantId kind id, Avoids .idempotencyConflict
        (cloud.control.referencesTo tenantId kind id) := by
      intro tenantId kind id
      refine (avoids_reject (by decide)).bind fun _ => ?_
      refine (avoids_reject (by decide)).bind fun _ => ?_
      exact avoids_mapM fun row => decodeResource_avoids row.document
    exact avoids _ _ _ failed
  · intro failed
    exact other (fromStore_conflict (Except.error.inj failed))

theorem serve_done {after : Cloud}
    (prepared : again.mutation sha256 toVec cloud.control = .ok repeated)
    (done : mutate cloud repeated again.now fresh clock = .ok (outcome, after)) :
    serveManagement sha256 toVec cloud again fresh clock =
      .ok (mutationResponse outcome again.request.status, after) := by
  simp only [serveManagement, prepared, bind, Except.bind, done]
  rfl

theorem serve_failed (prepared : again.mutation sha256 toVec cloud.control = .ok repeated)
    (failed : mutate cloud repeated again.now fresh clock = .error error) :
    serveManagement sha256 toVec cloud again fresh clock = again.failure cloud repeated error := by
  simp only [serveManagement, prepared, bind, Except.bind, failed]

theorem serve_unprepared {error : ApiError}
    (failed : again.mutation sha256 toVec cloud.control = .error error) :
    serveManagement sha256 toVec cloud again fresh clock = .error error := by
  simp only [serveManagement, failed, bind, Except.bind]

theorem serve_conflict_iff :
    serveManagement sha256 toVec cloud again fresh clock = .error (.fromStore .idempotencyConflict)
      ↔ ∃ mutation, again.mutation sha256 toVec cloud.control = .ok mutation ∧
        mutate cloud mutation again.now fresh clock = .error .idempotencyConflict := by
  constructor
  · intro refused
    cases prepared : again.mutation sha256 toVec cloud.control with
    | error error =>
        rw [serve_unprepared prepared] at refused
        rw [Except.error.inj refused] at prepared
        exact absurd prepared (mutation_avoids cloud.control)
    | ok mutation =>
        refine ⟨mutation, rfl, ?_⟩
        cases done : mutate cloud mutation again.now fresh clock with
        | ok result =>
            rw [serve_done prepared done] at refused
            cases refused
        | error error =>
            rw [serve_failed prepared done] at refused
            by_contra other
            exact failure_avoids (fun same => other (congrArg Except.error same)) refused
  · rintro ⟨mutation, prepared, refused⟩
    rw [serve_failed prepared refused]
    unfold ManagementCall.failure
    split
    · contradiction
    · rfl

theorem accepted_applied {cloud' : Cloud} {status : Nat} {document : ControlResourceV1}
    (accepted : serveManagement sha256 toVec cloud first fresh clock =
      .ok (.mutation status false document, cloud')) :
    ∃ mutation, first.mutation sha256 toVec cloud.control = .ok mutation ∧
      mutate cloud mutation first.now fresh clock = .ok (.applied document, cloud') := by
  cases prepared : first.mutation sha256 toVec cloud.control with
  | error error =>
      rw [serve_unprepared prepared] at accepted
      cases accepted
  | ok mutation =>
      refine ⟨mutation, rfl, ?_⟩
      cases done : mutate cloud mutation first.now fresh clock with
      | error error =>
          rw [serve_failed prepared done] at accepted
          unfold ManagementCall.failure at accepted
          split at accepted
          · simp only [bind_ok, pure_ok, Prod.mk.injEq, reduceCtorEq, false_and, and_false,
              exists_false] at accepted
          · cases accepted
      | ok result =>
          obtain ⟨outcome, after⟩ := result
          rw [serve_done prepared done] at accepted
          cases outcome with
          | applied resource =>
              cases accepted
              rfl
          | replayed resource => cases accepted

theorem delete_unprepared {id : Uuid} (wanted : again.request = .delete id)
    (graph : GraphInvariant again.tenantId store)
    (collection : parseApiCollection again.collection = some kind) {row : ResourceRow}
    (found : store.resource again.tenantId kind id = some row) (deleted : row.state = .deleted) :
    again.mutation sha256 toVec store ≠ .ok repeated := by
  intro prepared
  unfold ManagementCall.mutation at prepared
  rw [wanted] at prepared
  obtain ⟨principal, other, expected, key, current, revision, context, admitted, -, -, located,
    -⟩ := deleteMutation_ok.mp prepared
  have same : other = kind := by
    have parsed := (admission_ok.mp admitted).2.2
    rw [collection] at parsed
    exact (Option.some.inj parsed).symm
  subst same
  obtain ⟨live, member, at_, undeleted, -⟩ := get_ok located
  have listed := graph.resource_iff.mpr ⟨member, at_⟩
  rw [found] at listed
  exact undeleted (Option.some.inj listed ▸ deleted)

end Answers

/-- The request passes every check made before its key is looked up. A create
    or a replace is checked by itself; a delete must also find its resource,
    undeleted and at the revision it names. -/
def ManagementCall.Passes (sha256 : Bytes → Hash) (toVec : ControlResourceV1 → Option Bytes)
    (store : ControlStore) (call : ManagementCall) : Prop :=
  ∃ mutation, call.mutation sha256 toVec store = .ok mutation ∧ mutation.Checked call.now

/-- The two calls' documents have one digest only if they are equal. -/
def NoCollision (sha256 : Bytes → Hash) (toVec : ControlResourceV1 → Option Bytes)
    (first again : ManagementCall) (store later : ControlStore) : Prop :=
  ∀ recorded repeated, first.mutation sha256 toVec store = .ok recorded →
    again.mutation sha256 toVec later = .ok repeated →
    recorded.context.requestHash = repeated.context.requestHash →
    recorded.resource = repeated.resource

section Later

variable {sha256 : Bytes → Hash} {toVec : ControlResourceV1 → Option Bytes} {start : Cloud}
  {first : ManagementCall} {mutation : ResourceMutation} {fresh : Uuid → Uuid} {clock : Instant}
  {document : ControlResourceV1} {cloud accepted : Cloud}

theorem management_run_referring (sha256 : Bytes → Hash)
    (toVec : ControlResourceV1 → Option Bytes)
    (referring : ∀ tenantId, Referring tenantId cloud.control) (events : List ManagementEvent)
    (tenantId : Uuid) :
    Referring tenantId (run (managementStep sha256 toVec) cloud events).control :=
  management_run_keeps sha256 toVec (P := fun after => Referring tenantId after.control)
    (fun _ call before => controlStep_referring before call) (referring tenantId) events

theorem mutate_referring (referring : ∀ tenantId, Referring tenantId cloud.control) {now : Instant}
    (done : mutate cloud mutation now fresh clock = .ok (outcome, accepted)) (tenantId : Uuid) :
    Referring tenantId accepted.control := by
  rw [← controlStep_ok done]
  exact controlStep_referring (referring tenantId) (.mutate mutation now fresh clock)

theorem deleted_later (referring : ∀ tenantId, Referring tenantId cloud.control) {id : Uuid}
    (wanted : first.request = .delete id)
    (prepared : first.mutation sha256 toVec cloud.control = .ok mutation)
    (done : mutate cloud mutation first.now fresh clock = .ok (.applied document, accepted))
    (later : List ManagementEvent) :
    ∃ row, (run (managementStep sha256 toVec) accepted later).control.resource first.tenantId
      mutation.kind id = some row ∧ row.state = .deleted := by
  have named := mutation_prepared (referring first.tenantId).graph prepared
  have request := named.request
  rw [wanted] at request
  have removed : mutation.row.state = .deleted := by
    rw [ManagementCall.mutation, wanted] at prepared
    obtain ⟨-, -, -, -, -, -, -, -, -, -, -, -, -, -, rfl⟩ := deleteMutation_ok.mp prepared
    rfl
  have found : accepted.control.resource first.tenantId mutation.kind id = some mutation.row := by
    rcases mutate_ok done with ⟨⟨replayed, other⟩, -⟩ | ⟨-, previous, resources, queue, applied⟩
    · cases other
    · have own := applied.resource_own (referring mutation.tenantId).graph
      rw [named.tenantId, request.1] at own
      exact own
  refine ⟨mutation.row, ?_, removed⟩
  have kept := management_run_keeps sha256 toVec
    (P := fun after => Referring first.tenantId after.control ∧
      after.control.resource first.tenantId mutation.kind id = some mutation.row)
    (fun _ call held => ⟨controlStep_referring held.1 call,
      controlStep_deleted held.1.graph held.2 removed call⟩)
    ⟨mutate_referring referring done first.tenantId, found⟩ later
  exact kept.2

end Later

/-- After an accepted call and any later ones, the same call is replayed exactly
    when it is not a delete, and another one under its key is refused as a
    conflict exactly when it passes the checks before the lookup of the key. -/
theorem repeated_request_iff (sha256 : Bytes → Hash) (toVec : ControlResourceV1 → Option Bytes)
    (start : Cloud) (empty : ∀ tenantId, start.control.EmptyTenant tenantId)
    (before later : List ManagementEvent) (first again : ManagementCall)
    (fresh freshAgain : Uuid → Uuid) (clock clockAgain : Instant) (status : Nat)
    (document : ControlResourceV1) (accepted after : Cloud)
    (served : serveManagement sha256 toVec (run (managementStep sha256 toVec) start before) first
      fresh clock = .ok (.mutation status false document, accepted))
    (reached : after = run (managementStep sha256 toVec) accepted later)
    (session : again.principal = first.principal)
    (key : again.headers.idempotencyKey = first.headers.idempotencyKey)
    (distinct : NoCollision sha256 toVec first again
      (run (managementStep sha256 toVec) start before).control after.control) :
    (again.asks = first.asks → first.stamped ≤ again.stamped →
      again.now < first.stamped + replayWindow →
      (serveManagement sha256 toVec after again freshAgain clockAgain =
        .ok (.mutation 200 true document, after) ↔ ∀ id, first.request ≠ .delete id)) ∧
    (again.asks ≠ first.asks →
      ((serveManagement sha256 toVec after again freshAgain clockAgain =
          .error (.fromStore .idempotencyConflict) ∧
        managementStep sha256 toVec after (.call again freshAgain clockAgain) = after) ↔
        again.Passes sha256 toVec after.control)) := by
  have referring := management_run_referring sha256 toVec
    (fun tenantId => (empty tenantId).referring) before
  obtain ⟨mutation, prepared, done⟩ := accepted_applied served
  obtain ⟨checked, rfl, found⟩ := applied_recorded done
  have named := mutation_prepared (referring first.tenantId).graph prepared
  have graph : GraphInvariant again.tenantId after.control := by
    rw [reached]
    exact (management_run_referring sha256 toVec (mutate_referring referring done) later
      again.tenantId).graph
  have recorded : after.control.idempotency.find? mutation.recordedAs
      = some mutation.idempotencyRow := by
    rw [reached]
    exact management_run_keeps sha256 toVec (P := fun cloud => cloud.control.idempotency.find?
      mutation.recordedAs = some mutation.idempotencyRow)
      (fun _ call held => controlStep_recorded held call) found later
  constructor
  · intro asks order window
    constructor
    · intro replayed id wanted
      simp only [ManagementCall.asks, Prod.mk.injEq] at asks
      obtain ⟨tenant, collection, request, -⟩ := asks
      obtain ⟨row, located, removed⟩ := deleted_later referring wanted prepared done later
      rw [← reached, ← tenant] at located
      have parsed : parseApiCollection again.collection = some mutation.kind := by
        rw [collection]
        exact named.collection
      cases preparedAgain : again.mutation sha256 toVec after.control with
      | error error =>
          rw [serve_unprepared preparedAgain] at replayed
          cases replayed
      | ok repeated =>
          exact delete_unprepared (request.trans wanted) graph parsed located removed preparedAgain
    · intro bodied
      have preparedAgain := mutation_again after.control prepared bodied session key asks
      have open_ : again.now < again.stamped + replayWindow :=
        Nat.lt_of_lt_of_le window (Nat.add_le_add_right order _)
      have inside : again.now < mutation.context.idempotencyReplayUntil := by
        rw [named.window]
        exact window
      exact serve_done preparedAgain (mutate_replayed (checked.renewed _ open_)
        (replay_recorded (again.stamped + replayWindow) checked.resource recorded inside))
  · intro differs
    constructor
    · rintro ⟨refused, -⟩
      obtain ⟨repeated, preparedAgain, conflict⟩ := serve_conflict_iff.mp refused
      exact ⟨repeated, preparedAgain, checked_of_conflict conflict⟩
    · rintro ⟨repeated, preparedAgain, checkedAgain⟩
      have namedAgain := mutation_prepared graph preparedAgain
      rw [← recordedAs_eq named namedAgain session key] at recorded
      have mismatch : ¬ (mutation.context.requestHash = repeated.context.requestHash ∧
          mutation.context.requestMethod = repeated.context.requestMethod) := by
        rintro ⟨hash, method⟩
        exact differs (named.asks_eq namedAgain method
          (distinct mutation repeated prepared preparedAgain hash))
      have refused : serveManagement sha256 toVec after again freshAgain clockAgain =
          .error (.fromStore .idempotencyConflict) :=
        serve_conflict_iff.mpr ⟨repeated, preparedAgain,
          mutate_refused checkedAgain (replay_conflict recorded mismatch)⟩
      refine ⟨refused, ?_⟩
      simp only [managementStep, refused]
      rfl

def siteName (resource : ResourceSpecV1) : Option String :=
  match resource with
  | .site value => some value.name
  | _ => none

/-- `serde_json` on edge sites with plain names. -/
def siteJson (resource : ControlResourceV1) : Option Bytes :=
  (siteName resource.resource).map fun name => utf8 (
    "\x7b\"metadata\":\x7b\"schema_version\":1,\"id\":\"" ++ uuidText resource.metadata.id ++
    "\",\"tenant_id\":\"" ++ uuidText resource.metadata.tenantId ++
    "\",\"revision\":" ++ Nat.repr resource.metadata.revision ++
    ",\"state\":\"" ++ (if resource.metadata.state = .active then "ACTIVE" else "DELETED") ++
    "\"\x7d,\"resource\":\x7b\"kind\":\"SITE\",\"spec\":\x7b\"name\":\"" ++ name ++
    "\",\"kind\":\"EDGE\"\x7d\x7d\x7d")

def siteDigest (bytes : Bytes) : Hash :=
  if bytes.take 4 = utf8 "POST" then
    0x1f23c0dfb8f8c878ff32f1fca640d003542ee9582a82d0c97d438165a26874f0
  else if bytes.take 3 = utf8 "PUT" then
    0xd4f32f846e1c9a8ac5604fbf443c1c14c101a52f5a45dca695f103611f335c87
  else if bytes.take 6 = utf8 "DELETE" then
    0x922b478a84fe52e04fcc10ab28a05e790c012eb0bf0d991e28c5b6805d7c2a61
  else
    0x6037b7e3855503d1ed8f0c9787a22538943d2fd63ee5f3968f6084e7ead93c73

def siteId : Uuid := 0x6037b7e3855553d1ad8f0c9787a22538

def siteCall (request : ManagementRequest) (key : String) (ifMatch : Option String)
    (now : Instant) : ManagementCall :=
  ⟨some ⟨"operator", ⟨9, 1, .operator⟩⟩, 1, "sites", request, ⟨some key, ifMatch⟩, now, now⟩

def createSite (now : Instant) : ManagementCall :=
  siteCall (.create (.site ⟨"site-1", .edge⟩)) "key-1" none now

def renameSite (now : Instant) : ManagementCall :=
  siteCall (.replace siteId (.site ⟨"site-2", .edge⟩)) "key-2" (some "\"1\"") now

def deleteSite (now : Instant) : ManagementCall :=
  siteCall (.delete siteId) "key-3" (some "\"2\"") now

def siteEvent (call : ManagementCall) : ManagementEvent := .call call id 0

/-- The repeated delete is answered with `RESOURCE_NOT_FOUND`. -/
theorem repeated_delete_refused :
    ¬ ∀ (sha256 : Bytes → Hash) (toVec : ControlResourceV1 → Option Bytes) (start : Cloud),
      (∀ tenantId, start.control.EmptyTenant tenantId) →
      ∀ (before later : List ManagementEvent) (first again : ManagementCall)
        (fresh freshAgain : Uuid → Uuid) (clock clockAgain : Instant) (status : Nat)
        (document : ControlResourceV1) (accepted after : Cloud),
      serveManagement sha256 toVec (run (managementStep sha256 toVec) start before) first
        fresh clock = .ok (.mutation status false document, accepted) →
      after = run (managementStep sha256 toVec) accepted later →
      again.principal = first.principal →
      again.headers.idempotencyKey = first.headers.idempotencyKey →
      again.asks = first.asks → first.stamped ≤ again.stamped →
      again.now < first.stamped + replayWindow →
      serveManagement sha256 toVec after again freshAgain clockAgain =
        .ok (.mutation 200 true document, after) := by
  intro claim
  have replayed := claim siteDigest siteJson sampleCloud sampleCloud_empty
    [siteEvent (createSite 0), siteEvent (renameSite 1)] [] (deleteSite 2) (deleteSite 3) id id 0 0
    200 ⟨⟨1, siteId, 1, 3, .deleted⟩, .site ⟨"site-2", .edge⟩⟩
    (run (managementStep siteDigest siteJson) sampleCloud
      [siteEvent (createSite 0), siteEvent (renameSite 1), siteEvent (deleteSite 2)])
    _ (by decide +kernel) rfl rfl rfl rfl (by decide) (by decide)
  have refused : serveManagement siteDigest siteJson
      (run (managementStep siteDigest siteJson) sampleCloud
        [siteEvent (createSite 0), siteEvent (renameSite 1), siteEvent (deleteSite 2)])
      (deleteSite 3) id 0 = .error (.fromStore .notFound) := by decide +kernel
  exact absurd (refused.symm.trans replayed) nofun

def siteCreation (now : Instant) : ResourceMutation :=
  ⟨⟨"operator", "key-1", "POST", collectionPath 1 "sites",
    0x1f23c0dfb8f8c878ff32f1fca640d003542ee9582a82d0c97d438165a26874f0, now + replayWindow⟩,
    ⟨⟨1, siteId, 1, 1, .active⟩, .site ⟨"site-1", .edge⟩⟩, none⟩

theorem createSite_distinct (store later : ControlStore) :
    NoCollision siteDigest siteJson (createSite 0) (createSite 3) store later := by
  intro recorded repeated prepared preparedAgain _
  have created : createMutation siteDigest siteJson (createSite 0) (.site ⟨"site-1", .edge⟩)
      = .ok (siteCreation 0) := by decide +kernel
  have createdAgain : createMutation siteDigest siteJson (createSite 3)
      (.site ⟨"site-1", .edge⟩) = .ok (siteCreation 3) := by decide +kernel
  rw [← Except.ok.inj (created.symm.trans prepared),
    ← Except.ok.inj (createdAgain.symm.trans preparedAgain)]
  rfl

/-- The create is replayed after the site was renamed and deleted. -/
theorem repeated_request_iff_create :
    serveManagement siteDigest siteJson
      (run (managementStep siteDigest siteJson) sampleCloud
        [siteEvent (createSite 0), siteEvent (renameSite 1), siteEvent (deleteSite 2)])
      (createSite 3) id 0 =
    .ok (.mutation 200 true ⟨⟨1, siteId, 1, 1, .active⟩, .site ⟨"site-1", .edge⟩⟩,
      run (managementStep siteDigest siteJson) sampleCloud
        [siteEvent (createSite 0), siteEvent (renameSite 1), siteEvent (deleteSite 2)]) :=
  ((repeated_request_iff siteDigest siteJson sampleCloud sampleCloud_empty []
    [siteEvent (renameSite 1), siteEvent (deleteSite 2)] (createSite 0) (createSite 3) id id 0 0
    201 ⟨⟨1, siteId, 1, 1, .active⟩, .site ⟨"site-1", .edge⟩⟩
    (run (managementStep siteDigest siteJson) sampleCloud [siteEvent (createSite 0)]) _
    (by decide +kernel) rfl rfl rfl (createSite_distinct _ _)).1 rfl (by decide) (by decide)).mpr
      nofun

end CandyCloud
