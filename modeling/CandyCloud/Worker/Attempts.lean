import CandyCloud.Worker.Builds
import CandyCloud.Worker.GenerationLoop
import CandyCloud.Worker.Materialised
import CandyCloud.Worker.RemoteRoutes

/-! # One publication for each revision

`publish_snapshot`, and the adapter that calls it for a claimed job. A worker may stop before it
records what it published, another one takes the job over, and the first may still come back.
-/

namespace CandyCloud

open Foundation

/-- The code that `classify_publish_error` gives. -/
def SdwanError.code : SdwanError → String
  | .invalidScope => "ROUTE_DB_INVALID_SCOPE"
  | .scopeMismatch => "ROUTE_DB_SCOPE_MISMATCH"
  | .invalidPrefix => "ROUTE_DB_INVALID_PREFIX"
  | .overlappingPrefix => "ROUTE_DB_OVERLAPPING_PREFIX"
  | .duplicateRouterAddress => "ROUTE_DB_DUPLICATE_ROUTER_ADDRESS"
  | .principalMismatch => "ROUTE_DB_PRINCIPAL_MISMATCH"
  | .unsignedObject => "ROUTE_DB_UNSIGNED_OBJECT"
  | .generationGap => "ROUTE_DB_GENERATION_GAP"
  | .missingProjection => "ROUTE_DB_MISSING_PROJECTION"
  | .duplicateProjection => "ROUTE_DB_DUPLICATE_PROJECTION"
  | .divergentReplay => "ROUTE_DB_DIVERGENT_REPLAY"
  | .invalidContentHash => "ROUTE_DB_INVALID_CONTENT_HASH"
  | .segmentNotFound => "ROUTE_DB_SEGMENT_NOT_FOUND"
  | .rolloutPending => "ROUTE_DB_ROLLOUT_PENDING"
  | .database => "ROUTE_DB_DATABASE"

def classifyPublishError (error : SdwanError) : PublicationFailure :=
  match error with
  | .database | .rolloutPending => .retryable error.code 5000000
  | error => .permanent error.code

def InputReadinessError.code : InputReadinessError → String
  | .pathCandidates => "ROUTE_INPUT_WAITING_FOR_PATHS"
  | .transportIdentity => "ROUTE_INPUT_WAITING_FOR_TRANSPORT"
  | .peerPolicy => "ROUTE_INPUT_WAITING_FOR_PEER_POLICY"
  | .nodeIdentity => "ROUTE_INPUT_WAITING_FOR_NODE"

/-- `control_error_code`. -/
def ControlStoreError.code : ControlStoreError → String
  | .invalidResource _ => "INVALID_RESOURCE"
  | .invalidRequest => "INVALID_REQUEST"
  | .notFound => "NOT_FOUND"
  | .revisionConflict => "REVISION_CONFLICT"
  | .referenceConflict => "REFERENCE_CONFLICT"
  | .idempotencyConflict => "IDEMPOTENCY_CONFLICT"
  | .idempotencyReplayExpired => "IDEMPOTENCY_REPLAY_EXPIRED"
  | .leaseLost => "LEASE_LOST"
  | .invalidTransition => "INVALID_TRANSITION"
  | .database => "DATABASE"

def snapshotFailure (error : ControlStoreError) : PublicationFailure :=
  match error with
  | .invalidResource _ | .invalidRequest | .notFound | .referenceConflict | .invalidTransition =>
      .permanent ("CONTROL_SNAPSHOT_" ++ error.code)
  | error => .retryable ("CONTROL_SNAPSHOT_" ++ error.code) 5000000

/-- The text of an error of the input, and whether a request or a file is among its causes, are
    not kept by `InputError`. -/
structure ControlRoutePublisher where
  encoding : DocumentEncoding
  signer : RouteSigner
  policyIsolation : Bool
  inputText : InputError → String
  interrupted : InputError → Bool

/-- What an attempt reads outside the tables. -/
structure Moment where
  geo : GeoProvider
  now : Nat
  fresh : Uuid
  clock : Instant

/-- Where an attempt at a job stands. The statements and transactions of the attempt lie between
    its stages; `build_input` reads the tables at one moment. -/
inductive PublicationStage where
  | claimed
  | started (reading : SegmentReading)
  | bridged (reading : SegmentReading)
  | loaded (snapshot : SegmentControlSnapshot)
  | ensured (snapshot : SegmentControlSnapshot)
  | missing (snapshot : SegmentControlSnapshot)
  | built (answer : Nat × Hash) (write : SegmentPublicationWrite)
  | answered (answer : Nat × Hash)
  | failed (failure : PublicationFailure)

def PublicationStage.of {ε α : Type} (fail : ε → PublicationFailure)
    (next : α → PublicationStage) : Except ε α → PublicationStage
  | .ok value => next value
  | .error error => .failed (fail error)

def RouteStore.answer (store : RouteStore) (tenantId segmentId publicationId : Uuid) :
    Option (Nat × Hash) :=
  (store.publications.find? fun row => row.id == publicationId && row.tenantId == tenantId &&
    row.segmentId == segmentId).map fun row => (row.generation, row.contentHash)

def publishedGeneration (store : RouteStore) (tenantId segmentId publicationId : Uuid) :
    Except SdwanError (Option (Nat × Hash)) := do
  reject (isNil tenantId || isNil segmentId || isNil publicationId) .invalidScope
  let answer := store.answer tenantId segmentId publicationId
  reject (answer.any fun answer => answer.1 == 0 || answer.2 == zeroHash) .invalidContentHash
  return answer

namespace ControlRoutePublisher

variable (publisher : ControlRoutePublisher)

def classifyInputError (error : InputError) : PublicationFailure :=
  let code := "ROUTE_INPUT_" ++ publisher.inputText error
  match error with
  | .readiness error => .retryable error.code 5000000
  | .geoProviderBusy => .retryable "ROUTE_INPUT_GEO_PROVIDER_BUSY" 1000000
  | .store .database _ => .retryable code 5000000
  | error => if publisher.interrupted error then .retryable code 5000000 else .permanent code

def publicationId (tenantId segmentId : Uuid) (desiredRevision : Nat) : Uuid :=
  stableUuid publisher.encoding.sha256 tenantId segmentId desiredRevision

def build (moment : Moment) (store : RouteStore) (snapshot : SegmentControlSnapshot) :
    Except PublicationFailure ((Nat × Hash) × SegmentPublicationWrite) := do
  let input ← (buildInput ⟨publisher.encoding, moment.geo, moment.now⟩ store snapshot).mapError
    publisher.classifyInputError
  let built ← (buildRoutePublication publisher.signer input).mapError buildFailure
  let write ← built.databaseWrite.mapError fun error =>
    .permanent ("ROUTE_DB_WRITE_" ++ error.message)
  return ((built.segment.source.segmentGeneration, built.segment.contentHash),
    { write with policyOnly := snapshot.policyOnly })

def ensure (moment : Moment) (cloud : Cloud) (tenantId segmentId : Uuid)
    (resources : List ControlResourceV1) (fail : SdwanError → PublicationFailure)
    (next : PublicationStage) : PublicationStage × Cloud :=
  match ensureControlTopology cloud.route moment.fresh moment.clock tenantId segmentId
    resources with
  | .ok route => (next, { cloud with route })
  | .error error => (.failed (fail error), cloud)

/-- `publish` of `SegmentGenerationAdapter`, from one stage to the next. -/
def advance (moment : Moment) (cloud : Cloud) (job : GenerationJob) :
    PublicationStage → PublicationStage × Cloud
  | .claimed => (.of snapshotFailure .started
      (readSegment cloud job.tenantId job.segmentId job.desiredRevision), cloud)
  | .started reading => ensure moment cloud job.tenantId job.segmentId reading.resources
      (fun error => snapshotFailure (bridgeError error)) (.bridged reading)
  | .bridged reading => (.of snapshotFailure .loaded (completeSnapshot cloud.route.topology
      job.tenantId job.segmentId job.desiredRevision reading), cloud)
  -- `publish_snapshot` begins here, and brings the topology in line once more.
  | .loaded snapshot => ensure moment cloud snapshot.tenantId snapshot.segmentId
      snapshot.resources classifyPublishError (.ensured snapshot)
  | .ensured snapshot => (.of classifyPublishError
      (fun published => published.elim (.missing snapshot) .answered)
      (publishedGeneration cloud.route snapshot.tenantId snapshot.segmentId
        (publisher.publicationId snapshot.tenantId snapshot.segmentId snapshot.desiredRevision)),
      cloud)
  | .missing snapshot => (.of id (fun built => .built built.1 built.2)
      (publisher.build moment cloud.route snapshot), cloud)
  | .built answer write =>
      let outcome := publish publisher.encoding.sha256 publisher.policyIsolation write cloud.route
      (.of classifyPublishError (fun _ => .answered answer) outcome.1,
        { cloud with route := outcome.2 })
  | .answered answer => (.answered answer, cloud)
  | .failed failure => (.failed failure, cloud)

end ControlRoutePublisher

/-- The tables, and the attempts of all workers so far. The worker of an attempt may stop, or
    come back at any time. -/
structure PublicationSystem where
  cloud : Cloud
  attempts : List (GenerationJob × PublicationStage)

/-- A change of the database, or a step of one worker's attempt. -/
inductive PublicationEvent where
  | change (call : CloudCall)
  | route (call : RouteCall)
  | start (job : GenerationJob)
  | advance (index : Nat) (moment : Moment)

/-- Nothing but an attempt writes the publications. -/
def PublicationEvent.admitted : PublicationEvent → Bool
  | .change (.environment _) | .route (.publish _ _) => false
  | _ => true

/-- One event of the system of workers. -/
def publicationStep (publisher : ControlRoutePublisher) (system : PublicationSystem)
    (event : PublicationEvent) : PublicationSystem :=
  if event.admitted then
    match event with
    | .change call =>
        { system with cloud := cloudStep publisher.encoding.sha256 system.cloud call }
    | .route call =>
        { system with
          cloud.route := routeStep publisher.encoding.sha256 system.cloud.route call }
    | .start job => { system with attempts := system.attempts ++ [(job, .claimed)] }
    | .advance index moment =>
        match system.attempts[index]? with
        | some (job, stage) =>
            let after := publisher.advance moment system.cloud job stage
            { cloud := after.2, attempts := system.attempts.set index (job, after.1) }
        | none => system
  else system

/-- The tables hold the publication of the revision. -/
def RouteStore.Publishes (publisher : ControlRoutePublisher) (store : RouteStore)
    (job : GenerationJob) (answer : Nat × Hash) : Prop :=
  store.answer job.tenantId job.segmentId
    (publisher.publicationId job.tenantId job.segmentId job.desiredRevision) = some answer

/-- What a stage holds is for its job. -/
def PublicationStage.Fits (publisher : ControlRoutePublisher) (store : RouteStore)
    (job : GenerationJob) : PublicationStage → Prop
  | .loaded snapshot | .ensured snapshot | .missing snapshot =>
      snapshot.tenantId = job.tenantId ∧ snapshot.segmentId = job.segmentId ∧
        snapshot.desiredRevision = job.desiredRevision
  | .built answer write =>
      write.publicationId =
        publisher.publicationId job.tenantId job.segmentId job.desiredRevision ∧
      write.tenantId = job.tenantId ∧ write.segmentId = job.segmentId ∧
      (write.publicationRow.generation, write.publicationRow.contentHash) = answer
  | .answered answer => store.Publishes publisher job answer
  | .claimed | .started _ | .bridged _ | .failed _ => True

section Stages

variable {publisher : ControlRoutePublisher} {store store' : RouteStore} {cloud : Cloud}
  {snapshot : SegmentControlSnapshot} {answer : Nat × Hash} {moment : Moment}
  {job : GenerationJob} {stage : PublicationStage}

theorem RouteStore.Publishes.grows
    (publishes : store.Publishes publisher job answer)
    {rows : List PublicationRow} (grown : store'.publications = store.publications ++ rows) :
    store'.Publishes publisher job answer := by
  simp only [RouteStore.Publishes, RouteStore.answer, Option.map_eq_some_iff] at publishes ⊢
  obtain ⟨row, found, same⟩ := publishes
  exact ⟨row, by rw [grown, List.find?_append, found]; rfl, same⟩

theorem PublicationStage.Fits.grows (fits : stage.Fits publisher store job)
    {rows : List PublicationRow} (grown : store'.publications = store.publications ++ rows) :
    stage.Fits publisher store' job := by
  cases stage with
  | answered answer => exact RouteStore.Publishes.grows fits grown
  | claimed | started | bridged | loaded | ensured | missing | built | failed => exact fits

theorem of_fits {ε α : Type} {fail : ε → PublicationFailure} {next : α → PublicationStage}
    {result : Except ε α}
    (fits : ∀ value, result = .ok value → (next value).Fits publisher store job) :
    (PublicationStage.of fail next result).Fits publisher store job := by
  cases result with
  | ok value => exact fits value rfl
  | error error => exact trivial

theorem build_fits {write : SegmentPublicationWrite}
    (fits : PublicationStage.Fits publisher store job (.missing snapshot))
    (done : publisher.build moment store snapshot = .ok (answer, write)) :
    PublicationStage.Fits publisher store job (.built answer write) := by
  obtain ⟨tenant, segment, revision⟩ := fits
  simp only [ControlRoutePublisher.build, bind_ok, mapError_ok, pure_ok, Prod.mk.injEq] at done
  obtain ⟨input, read, built, made, _, written, rfl, rfl⟩ := done
  obtain ⟨core, frame, parts⟩ := buildInput_builds read
  obtain ⟨routes, whole⟩ := buildRoutePublication_ok made
  simp only [BuiltRoutePublication.databaseWrite, unit_bind_ok, pure_ok] at written
  obtain ⟨-, rfl⟩ := written
  have source := moduleSeal_source whole.segment
  refine ⟨?_, ?_, ?_, rfl⟩
  · rw [← tenant, ← segment, ← revision]
    exact whole.identity.1.trans parts.publicationId
  · rw [source]
    exact parts.scope.1.trans tenant
  · rw [source]
    exact parts.scope.2.trans segment

/-- One stage of an attempt adds at most the publication of its revision, and nothing when the
    tables hold it. -/
structure Advanced (publisher : ControlRoutePublisher) (cloud : Cloud) (job : GenerationJob)
    (after : PublicationStage × Cloud) : Prop where
  grown : ∃ rows, after.2.route.publications = cloud.route.publications ++ rows
  once : ∀ answer, cloud.route.Publishes publisher job answer →
    SamePublications cloud.route after.2.route
  fits : after.1.Fits publisher after.2.route job

theorem Advanced.stays (fits : stage.Fits publisher cloud.route job) :
    Advanced publisher cloud job (stage, cloud) :=
  ⟨⟨[], (List.append_nil _).symm⟩, fun _ _ => .refl cloud.route, fits⟩

theorem ensure_advanced {tenantId segmentId : Uuid} {resources : List ControlResourceV1}
    {fail : SdwanError → PublicationFailure} (fits : stage.Fits publisher cloud.route job) :
    Advanced publisher cloud job (ControlRoutePublisher.ensure moment cloud tenantId segmentId
      resources fail stage) := by
  unfold ControlRoutePublisher.ensure
  split
  · rename_i route bridged
    obtain ⟨topology, segments, rfl⟩ := ensureControlTopology_frame bridged
    have grown := (List.append_nil cloud.route.publications).symm
    exact ⟨⟨[], grown⟩, fun _ _ => ⟨rfl, rfl, rfl⟩, fits.grows grown⟩
  · exact .stays trivial

theorem replayed_stored {sha256 : Bytes → Hash} {policyIsolation : Bool}
    {write : SegmentPublicationWrite}
    (done : publish sha256 policyIsolation write store = (.ok .replayed, store')) :
    store.publications.find? (fun row => row.id == write.publicationId) =
      some write.publicationRow := by
  unfold publish at done
  split at done
  · cases done
  · split at done
    · split at done
      · rename_i matching
        simp only [publicationMatches, Bool.and_eq_true, beq_iff_eq] at matching
        exact matching.1.1.1
      · cases done
    · split at done
      · cases done
      · cases done

theorem publish_advanced {write : SegmentPublicationWrite}
    (fits : PublicationStage.Fits publisher cloud.route job (.built answer write)) :
    Advanced publisher cloud job (publisher.advance moment cloud job (.built answer write)) := by
  obtain ⟨id, tenant, segment, content⟩ := fits
  have named : (write.publicationRow.id ==
        publisher.publicationId job.tenantId job.segmentId job.desiredRevision &&
      write.publicationRow.tenantId == job.tenantId &&
      write.publicationRow.segmentId == job.segmentId) = true := by
    simp only [Bool.and_eq_true, beq_iff_eq]
    exact ⟨⟨id, tenant⟩, segment⟩
  rw [ControlRoutePublisher.advance]
  rcases publish_cases publisher.encoding.sha256 publisher.policyIsolation write cloud.route with
    ⟨store', result, committed⟩ | ⟨result, same, other⟩
  · rw [result]
    -- The unique key of the publication is fresh, so the revision had none before.
    have absent : cloud.route.publications.find? (fun row => row.id ==
        publisher.publicationId job.tenantId job.segmentId job.desiredRevision &&
        row.tenantId == job.tenantId && row.segmentId == job.segmentId) = none := by
      rw [List.find?_eq_none]
      intro old member holds
      simp only [Bool.and_eq_true, beq_iff_eq] at holds
      have fresh := committed.fresh old member
      simp only [PublicationRow.conflict, Bool.or_eq_false_iff, beq_eq_false_iff_ne] at fresh
      exact fresh.1 (id.trans holds.1.1.symm)
    refine ⟨⟨_, committed.publications⟩, ?_, ?_⟩
    · intro earlier publishes
      rw [RouteStore.Publishes, RouteStore.answer, absent] at publishes
      cases publishes
    · have found : store'.Publishes publisher job answer := by
        rw [RouteStore.Publishes, RouteStore.answer, committed.publications, List.find?_append,
          absent, Option.none_or, List.find?_singleton, if_pos named]
        exact congrArg some content
      exact found
  · rw [same]
    refine .stays (of_fits fun outcome done => ?_)
    cases outcome with
    | published => exact absurd done other
    | replayed =>
        have stored := replayed_stored (same.trans (Prod.ext done rfl))
        have found : cloud.route.Publishes publisher job answer := by
          rw [RouteStore.Publishes, RouteStore.answer, Option.map_eq_some_iff]
          refine ⟨write.publicationRow, ?_, content⟩
          obtain ⟨-, before, after, rows, earlier⟩ := List.find?_eq_some_iff_append.mp stored
          refine List.find?_eq_some_iff_append.mpr ⟨named, before, after, rows, ?_⟩
          intro old member
          simp [← id, by simpa using earlier old member]
        exact found

theorem advance_advanced (fits : stage.Fits publisher cloud.route job) (moment : Moment) :
    Advanced publisher cloud job (publisher.advance moment cloud job stage) := by
  cases stage with
  | claimed => exact .stays (of_fits fun _ _ => trivial)
  | started reading => exact ensure_advanced trivial
  | bridged reading =>
      refine .stays (of_fits fun snapshot done => ?_)
      simp only [completeSnapshot, bind_ok, pure_ok] at done
      obtain ⟨bindings, -, _, -, rfl⟩ := done
      exact ⟨rfl, rfl, rfl⟩
  | loaded snapshot => exact ensure_advanced fits
  | ensured snapshot =>
      refine .stays (of_fits fun published done => ?_)
      simp only [publishedGeneration, unit_bind_ok, pure_ok] at done
      cases published with
      | none => exact fits
      | some answer =>
          obtain ⟨tenant, segment, revision⟩ := fits
          rw [tenant, segment, revision] at done
          exact done.2.2
  | missing snapshot => exact .stays (of_fits fun _ done => build_fits fits done)
  | built answer write => exact publish_advanced fits
  | answered answer => exact .stays fits
  | failed failure => exact .stays trivial

end Stages

section Runs

variable {publisher : ControlRoutePublisher} {system : PublicationSystem}

/-- What every attempt holds is for its job. -/
def AttemptsFit (publisher : ControlRoutePublisher) (system : PublicationSystem) : Prop :=
  ∀ attempt ∈ system.attempts, attempt.2.Fits publisher system.cloud.route attempt.1

theorem AttemptsFit.kept (fit : AttemptsFit publisher system) {cloud : Cloud}
    (kept : cloud.route.publications = system.cloud.route.publications) :
    AttemptsFit publisher { system with cloud } :=
  fun attempt member => (fit attempt member).grows (kept.trans (List.append_nil _).symm)

theorem publicationStep_fit (fit : AttemptsFit publisher system) (event : PublicationEvent) :
    AttemptsFit publisher (publicationStep publisher system event) := by
  by_cases admitted : event.admitted = true
  · unfold publicationStep
    rw [if_pos admitted]
    cases event with
    | change call =>
        have kept : call.Keeps system.cloud.route
            (cloudStep publisher.encoding.sha256 system.cloud call).route :=
          (cloudStep_cases (P := fun _ => True) (fun _ _ _ _ => trivial) trivial).2
        rcases kept with ⟨topology, segments, same⟩ | ⟨route, rfl⟩
        · refine fit.kept ?_
          rw [same]
        · cases admitted
    | route call =>
        refine fit.kept ?_
        cases call with
        | publish policyIsolation write => cases admitted
        | report policyIsolation now auditId status =>
            exact (report_frame system.cloud.route now auditId policyIsolation
              status).1.publications
        | environment topology segments => rfl
    | start job =>
        intro attempt member
        rcases mem_concat.mp member with earlier | rfl
        · exact fit attempt earlier
        · exact trivial
    | advance index moment =>
        simp only
        split
        · rename_i job stage found
          have advanced := advance_advanced (fit _ (List.mem_of_getElem? found)) moment
          obtain ⟨rows, grown⟩ := advanced.grown
          intro attempt member
          rcases List.mem_or_eq_of_mem_set member with earlier | rfl
          · exact (fit attempt earlier).grows grown
          · exact advanced.fits
        · exact fit
  · unfold publicationStep
    rw [if_neg admitted]
    exact fit

end Runs

/-- However the attempts of the workers are interleaved with each other, with changes of the
    control plane and of the queue and with the reports of devices: an attempt at a revision is
    answered with its publication in the tables, and once there is one no attempt adds another. -/
theorem attempts_agree (publisher : ControlRoutePublisher) (cloud : Cloud)
    (events : List PublicationEvent) :
    let system := run (publicationStep publisher) ⟨cloud, []⟩ events
    (∀ job answer, (job, PublicationStage.answered answer) ∈ system.attempts →
      system.cloud.route.Publishes publisher job answer) ∧
    ∀ job stage, (job, stage) ∈ system.attempts → ∀ answer,
      system.cloud.route.Publishes publisher job answer →
      ∀ moment, SamePublications system.cloud.route
        (publisher.advance moment system.cloud job stage).2.route := by
  intro system
  have fit : AttemptsFit publisher system :=
    run_invariant (P := AttemptsFit publisher) (fun _ event fit => publicationStep_fit fit event)
      (fun _ member => absurd member List.not_mem_nil) events
  refine ⟨fun job answer member => fit _ member, ?_⟩
  intro job stage member answer publishes moment
  exact (advance_advanced (fit _ member) moment).once answer publishes

end CandyCloud
