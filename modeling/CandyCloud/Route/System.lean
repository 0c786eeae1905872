import CandyCloud.Foundation.Machine
import CandyCloud.Route.Commit
import CandyCloud.Route.Status

/-! # The route store as a machine

A call is a publication, a device report or a change made by the rest of the
system. The last one may replace the topology and reshape the segments, but it
has no access to the publication tables: the control bridge creates segments
with an empty head and never touches a head again.
-/

namespace CandyCloud

open Foundation

/-- A publication, a status report, or a change made elsewhere. -/
inductive RouteCall where
  | publish (policyIsolation : Bool) (write : SegmentPublicationWrite)
  | report (policyIsolation : Bool) (now : Instant) (auditId : Uuid)
      (status : RuntimeConfigurationStatusWrite)
  | environment (topology : Topology) (segments : List SegmentRow)

/-- One row of `INSERT INTO segments … ON DUPLICATE KEY UPDATE …`: neither the
    identity nor the head of an existing row is among the updated columns. -/
def reshapeSegment (segments : List SegmentRow) (row : SegmentRow) : List SegmentRow :=
  upsert (fun old => old.id == row.id)
    { row with currentGeneration := 0, currentContentHash := zeroHash }
    (fun old => { row with
      id := old.id
      tenantId := old.tenantId
      currentGeneration := old.currentGeneration
      currentContentHash := old.currentContentHash }) segments

def RouteStore.reshape (store : RouteStore) (topology : Topology) (segments : List SegmentRow) :
    RouteStore :=
  { store with topology, segments := segments.foldl reshapeSegment store.segments }

/-- One call on the Route store. -/
def routeStep (sha256 : Bytes → Hash) (store : RouteStore) : RouteCall → RouteStore
  | .publish policyIsolation write => (publish sha256 policyIsolation write store).2
  | .report policyIsolation now auditId status =>
      (recordRuntimeConfigurationStatus store now auditId policyIsolation status).2
  | .environment topology segments => store.reshape topology segments

/-- What the store and a committed store both have, the store after a publication
    has. -/
theorem routeStep_publish (sha256 : Bytes → Hash) (policyIsolation : Bool)
    (write : SegmentPublicationWrite) {store : RouteStore} {P : RouteStore → Prop} (kept : P store)
    (commits : ∀ {store'}, publish sha256 policyIsolation write store = (.ok .published, store') →
      Committed policyIsolation write store store' → P store') :
    P (routeStep sha256 store (.publish policyIsolation write)) := by
  rcases publish_cases sha256 policyIsolation write store with
    ⟨store', outcome, committed⟩ | ⟨result, outcome, -⟩
  · simp only [routeStep, outcome]
    exact commits outcome committed
  · simp only [routeStep, outcome]
    exact kept

/-- No publication yet: the publication tables are empty and every segment has
    the default head. Segment ids are the primary key. -/
structure RouteStore.Unpublished (store : RouteStore) : Prop where
  publications : store.publications = []
  projections : store.projections = []
  members : store.members = []
  rollouts : store.rollouts = []
  statuses : store.statuses = []
  segmentIds : (store.segments.map (·.id)).Nodup
  heads : ∀ segment ∈ store.segments,
    segment.currentGeneration = 0 ∧ segment.currentContentHash = zeroHash

/-- The report is for the current configuration and passes every check. -/
structure Acceptable (policyIsolation : Bool) (now : Instant) (auditId : Uuid)
    (status : RuntimeConfigurationStatusWrite) (configuration : RuntimeConfigurationRecord)
    (store : RouteStore) : Prop where
  valid : status.validate = .ok ()
  loaded : loadCurrentRuntimeConfiguration store now policyIsolation status.lookup
    = .ok (.current configuration)
  reported : configuration.projectionPublicationId = status.projectionPublicationId
  content : configuration.projectionContentHash = status.projectionContentHash
  timely : delayedPrepare store status configuration = false
  device : (store.topology.devices.filter (seenDevice status)).length = 1
  audited : statusChanged status configuration (store.statuses.find? status.sameKey) = true →
    ∀ event ∈ store.auditEvents, auditId ≠ event.id

def Accepted (now : Instant) (status : RuntimeConfigurationStatusWrite)
    (configuration : RuntimeConfigurationRecord) (store store' : RouteStore) : Prop :=
  ∃ auditEvents, store' = advanceRollout status.applyState status.lookup.tenantId configuration
    { store with
      topology := store.topology.seen now status
      statuses := writeStatus now status configuration.projectionPublicationId store.statuses
      auditEvents }

/-- A late receipt that moved the running pointer. -/
structure Superseded (policyIsolation : Bool) (now : Instant)
    (status : RuntimeConfigurationStatusWrite) (configuration : RuntimeConfigurationRecord)
    (store store' : RouteStore) : Prop where
  loaded : loadCurrentRuntimeConfiguration store now policyIsolation status.lookup
    = .ok (.current configuration)
  historical : ∃ generation, historicalGeneration store now status configuration = some generation ∧
    (activeGeneration store status).all (fun active => decide (active < generation)) = true
  result : store' = recordReceipt store now status

variable {store store' : RouteStore} {now : Instant} {policyIsolation : Bool}
  {status : RuntimeConfigurationStatusWrite} {configuration : RuntimeConfigurationRecord}
  {auditId : Uuid}

theorem recordSuperseded_ok
    (done : recordSuperseded store now policyIsolation status configuration = .ok store') :
    store' = store ∨ ((∃ generation,
      historicalGeneration store now status configuration = some generation ∧
      (activeGeneration store status).all (fun active => decide (active < generation)) = true) ∧
      store' = recordReceipt store now status) := by
  unfold recordSuperseded at done
  split at done
  · split at done
    · rename_i generation found
      split at done
      · rename_i advances
        exact .inr ⟨⟨generation, found, advances⟩, (Except.ok.inj done).symm⟩
      · exact .inl (Except.ok.inj done).symm
    · cases done
  · cases done

theorem auditReport_ok (deviceName : String) :
    (∃ auditEvents, auditReport store auditId status configuration deviceName = .ok auditEvents) ↔
      (statusChanged status configuration (store.statuses.find? status.sameKey) = true →
        ∀ event ∈ store.auditEvents, auditId ≠ event.id) := by
  unfold auditReport
  simp only
  split
  · rename_i changed
    simp only [orElse_ok, insertRow_some, changed, forall_const, beq_eq_false_iff_ne]
    constructor
    · rintro ⟨auditEvents, fresh, -⟩
      exact fresh
    · intro fresh
      exact ⟨_, fresh, rfl⟩
  · rename_i unchanged
    exact ⟨fun _ changed => absurd changed unchanged, fun _ => ⟨store.auditEvents, rfl⟩⟩

theorem acceptReport_ok (done : acceptReport store now auditId status configuration = .ok store') :
    (store.topology.devices.filter (seenDevice status)).length = 1 ∧
      (statusChanged status configuration (store.statuses.find? status.sameKey) = true →
        ∀ event ∈ store.auditEvents, auditId ≠ event.id) ∧
      Accepted now status configuration store store' := by
  simp only [acceptReport, orElse_bind_ok, unit_bind_ok, bind_ok (α := List AuditEventRow),
    pure_ok, reject_ok, bne_eq_false_iff_eq] at done
  obtain ⟨device, -, only, auditEvents, audited, rfl⟩ := done
  exact ⟨only, (auditReport_ok _).mp ⟨auditEvents, audited⟩, auditEvents, rfl⟩

theorem report_cases (store : RouteStore) (now : Instant) (auditId : Uuid)
    (policyIsolation : Bool) (status : RuntimeConfigurationStatusWrite) :
    (recordRuntimeConfigurationStatus store now auditId policyIsolation status).2 = store ∨
    (∃ configuration, Superseded policyIsolation now status configuration store
      (recordRuntimeConfigurationStatus store now auditId policyIsolation status).2) ∨
    ∃ configuration, Acceptable policyIsolation now auditId status configuration store ∧
      Accepted now status configuration store
        (recordRuntimeConfigurationStatus store now auditId policyIsolation status).2 := by
  unfold recordRuntimeConfigurationStatus
  cases done : recordStatus store now auditId policyIsolation status with
  | error error => exact .inl rfl
  | ok store' =>
      simp only
      simp only [recordStatus, bind_ok] at done
      obtain ⟨_, valid, state, loaded, done⟩ := done
      cases state with
      | unassigned => cases done
      | current configuration =>
          simp only at done
          split at done
          · rcases recordSuperseded_ok done with same | ⟨historical, receipt⟩
            · exact .inl same
            · exact .inr (.inl ⟨configuration, loaded, historical, receipt⟩)
          · rename_i same
            simp only [Bool.or_eq_true, bne_iff_ne, not_or, not_not] at same
            split at done
            · split at done
              · exact .inl (Except.ok.inj done).symm
              · cases done
            · rename_i timely
              obtain ⟨device, audited, result⟩ := acceptReport_ok done
              exact .inr (.inr ⟨configuration, ⟨valid, loaded, same.1, same.2,
                Bool.eq_false_iff.mpr timely, device, audited⟩, result⟩)

theorem Acceptable.recorded
    (acceptable : Acceptable policyIsolation now auditId status configuration store) :
    ∃ store', recordRuntimeConfigurationStatus store now auditId policyIsolation status
      = (.ok (), store') ∧ Accepted now status configuration store store' := by
  obtain ⟨seen, only⟩ := List.length_eq_one_iff.mp acceptable.device
  have member : seen ∈ store.topology.devices.filter (seenDevice status) := by
    rw [only]
    exact List.mem_singleton_self seen
  obtain ⟨device, found⟩ := Option.isSome_iff_exists.mp
    (List.find?_isSome.mpr ⟨seen, List.mem_filter.mp member⟩)
  obtain ⟨auditEvents, audited⟩ := (auditReport_ok device.displayName).mpr acceptable.audited
  have done : ∃ store', acceptReport store now auditId status configuration = .ok store' := by
    simp only [acceptReport, orElse_bind_ok, unit_bind_ok, reject_ok, bne_eq_false_iff_eq,
      bind_ok (α := List AuditEventRow), pure_ok]
    exact ⟨_, device, found, acceptable.device, auditEvents, audited, rfl⟩
  obtain ⟨store', done⟩ := done
  have recorded : recordStatus store now auditId policyIsolation status = .ok store' := by
    simp only [recordStatus, bind_ok]
    refine ⟨(), acceptable.valid, .current configuration, acceptable.loaded, ?_⟩
    simp only [acceptable.reported, acceptable.content, bne_self_eq_false, Bool.or_self,
      Bool.false_eq_true, if_false, acceptable.timely, done]
  refine ⟨store', ?_, (acceptReport_ok done).2.2⟩
  simp only [recordRuntimeConfigurationStatus, recorded]

theorem Acceptable.accepted {policyIsolation : Bool} {now : Instant} {auditId : Uuid}
    {status : RuntimeConfigurationStatusWrite} {configuration : RuntimeConfigurationRecord}
    {store : RouteStore}
    (acceptable : Acceptable policyIsolation now auditId status configuration store) :
    Accepted now status configuration store
      (recordRuntimeConfigurationStatus store now auditId policyIsolation status).2 := by
  obtain ⟨store', recorded, accepted⟩ := acceptable.recorded
  rw [recorded]
  exact accepted

/-- The tables only a publication writes. -/
structure SamePublications (store store' : RouteStore) : Prop where
  publications : store'.publications = store.publications
  projections : store'.projections = store.projections
  members : store'.members = store.members

theorem SamePublications.refl (store : RouteStore) : SamePublications store store :=
  ⟨rfl, rfl, rfl⟩

theorem advanceRollout_frame (applyState : ApplyState) (tenantId : Uuid)
    (configuration : RuntimeConfigurationRecord) (store : RouteStore) :
    ∃ rollouts, advanceRollout applyState tenantId configuration store
      = { store with rollouts } := by
  unfold advanceRollout
  split
  · exact ⟨store.rollouts, rfl⟩
  · split
    · split
      · exact ⟨_, rfl⟩
      · exact ⟨store.rollouts, rfl⟩
    · split
      · exact ⟨_, rfl⟩
      · exact ⟨store.rollouts, rfl⟩
    · exact ⟨_, rfl⟩

/-- A report writes devices, statuses, rollouts and audit events, and no other table. -/
theorem report_writes (store : RouteStore) (now : Instant) (auditId : Uuid)
    (policyIsolation : Bool) (status : RuntimeConfigurationStatusWrite) :
    ∃ devices statuses rollouts auditEvents,
      (recordRuntimeConfigurationStatus store now auditId policyIsolation status).2 =
        { store with
          topology := { store.topology with devices }, statuses, rollouts, auditEvents } := by
  rcases report_cases store now auditId policyIsolation status with
    same | ⟨configuration, superseded⟩ | ⟨configuration, -, auditEvents, result⟩
  · exact ⟨_, _, _, _, same⟩
  · exact ⟨_, _, _, _, superseded.result⟩
  · obtain ⟨rollouts, frame⟩ := advanceRollout_frame status.applyState status.lookup.tenantId
      configuration { store with
        topology := store.topology.seen now status
        statuses := writeStatus now status configuration.projectionPublicationId store.statuses
        auditEvents }
    exact ⟨_, _, _, _, result.trans frame⟩

theorem report_frame (store : RouteStore) (now : Instant) (auditId : Uuid)
    (policyIsolation : Bool) (status : RuntimeConfigurationStatusWrite) :
    let store' := (recordRuntimeConfigurationStatus store now auditId policyIsolation status).2
    SamePublications store store' ∧ store'.segments = store.segments := by
  obtain ⟨devices, statuses, rollouts, auditEvents, writes⟩ :=
    report_writes store now auditId policyIsolation status
  rw [writes]
  exact ⟨⟨rfl, rfl, rfl⟩, rfl⟩

end CandyCloud
