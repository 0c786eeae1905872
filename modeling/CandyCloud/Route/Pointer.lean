import CandyCloud.Route.Barrier

/-! # The running pointer of a device key

Two paths write the status row of a device key.
-/

namespace CandyCloud

open Foundation

/-- `WHERE tenant_id = ? AND device_id = ? AND device_key_id = ?`. -/
def RuntimeConfigurationLookup.selects (lookup : RuntimeConfigurationLookup) (row : StatusRow) :
    Bool :=
  row.of lookup.tenantId lookup.deviceId lookup.deviceKeyId

/-- The projection that `active_projection_publication_id` names. -/
def runningProjection (store : RouteStore) (lookup : RuntimeConfigurationLookup) :
    Option ProjectionRow := do
  let row ← store.statuses.find? lookup.selects
  store.projections.find? fun p =>
    some p.id == row.activeProjectionPublicationId && p.tenantId == row.tenantId

/-- The generation that a device key was last seen to run. -/
def runningGeneration (store : RouteStore) (lookup : RuntimeConfigurationLookup) : Option Nat :=
  (runningProjection store lookup).map (·.segmentGeneration)

/-- Every routed attachment of the device key is in the segment. -/
def AttachedTo (lookup : RuntimeConfigurationLookup) (segmentId : Uuid) (store : RouteStore) :
    Prop :=
  ∀ a ∈ store.topology.attachments, a.tenantId = lookup.tenantId →
    a.deviceId = some lookup.deviceId → a.deviceKeyId = some lookup.deviceKeyId →
    a.routed = true → a.segmentId = segmentId

instance (lookup : RuntimeConfigurationLookup) (segmentId : Uuid) (store : RouteStore) :
    Decidable (AttachedTo lookup segmentId store) :=
  inferInstanceAs (Decidable (∀ a ∈ store.topology.attachments, a.tenantId = lookup.tenantId →
    a.deviceId = some lookup.deviceId → a.deviceKeyId = some lookup.deviceKeyId →
    a.routed = true → a.segmentId = segmentId))

/-- The report is for the publication that is delivered to its device key now. -/
def Delivered (store : RouteStore) (policyIsolation : Bool) (now : Instant)
    (status : RuntimeConfigurationStatusWrite) : Prop :=
  ∃ configuration, loadCurrentRuntimeConfiguration store now policyIsolation status.lookup
      = .ok (.current configuration) ∧
    configuration.projectionPublicationId = status.projectionPublicationId

/-- The columns of a status row that a late receipt must leave alone. -/
def StatusRow.reported (row : StatusRow) : (Uuid × Uuid × Uuid) × Uuid × ApplyState × Option String :=
  (row.key, row.projectionPublicationId, row.applyState, row.errorCode)

variable {row : StatusRow} {generation : Nat} {p : ProjectionRow} {pointer : Uuid}
  {write : SegmentPublicationWrite}

theorem selects_iff {lookup : RuntimeConfigurationLookup} :
    lookup.selects row = true ↔ row.key = lookup.key :=
  StatusRow.of_iff

theorem lookup_of_key {a b : RuntimeConfigurationLookup} (same : a.key = b.key) : a = b := by
  cases a
  cases b
  simpa only [RuntimeConfigurationLookup.key, RuntimeConfigurationLookup.mk.injEq,
    Prod.mk.injEq] using same

theorem activeGeneration_eq (store : RouteStore) (status : RuntimeConfigurationStatusWrite) :
    activeGeneration store status = runningGeneration store status.lookup := by
  unfold activeGeneration runningGeneration runningProjection
  cases found : store.statuses.find? status.sameKey with
  | none =>
      rw [show store.statuses.find? status.lookup.selects = none from found]
      rfl
  | some row =>
      rw [show store.statuses.find? status.lookup.selects = some row from found]
      simp only [Option.bind_eq_bind, Option.bind_some, Option.pure_def, Option.map_eq_bind,
        Function.comp_def]

theorem runningGeneration_some {store : RouteStore} {lookup : RuntimeConfigurationLookup}
    (running : runningGeneration store lookup = some generation) :
    ∃ row ∈ store.statuses, store.statuses.find? lookup.selects = some row ∧
      row.key = lookup.key ∧ ∃ p ∈ store.projections,
        row.activeProjectionPublicationId = some p.id ∧ p.segmentGeneration = generation := by
  obtain ⟨p, projected, rfl⟩ := Option.map_eq_some_iff.mp running
  obtain ⟨row, found, pointed⟩ := Option.bind_eq_some_iff.mp projected
  have matched := List.find?_some pointed
  simp only [Bool.and_eq_true, beq_iff_eq] at matched
  exact ⟨row, List.mem_of_find?_eq_some found, found, selects_iff.mp (List.find?_some found), p,
    List.mem_of_find?_eq_some pointed, matched.1.symm, rfl⟩

section

variable {store : RouteStore} {lookup : RuntimeConfigurationLookup}
  (ids : (store.projections.map (·.id)).Nodup)
  (found : store.statuses.find? lookup.selects = some row) (present : p ∈ store.projections)
  (pointed : row.activeProjectionPublicationId = some p.id) (tenant : p.tenantId = lookup.tenantId)

include ids found present pointed tenant

theorem runningProjection_of : runningProjection store lookup = some p := by
  have rowTenant : row.tenantId = lookup.tenantId :=
    congrArg (·.1) (selects_iff.mp (List.find?_some found))
  obtain ⟨other, located⟩ := Option.isSome_iff_exists.mp (List.find?_isSome (p := fun p =>
    some p.id == row.activeProjectionPublicationId && p.tenantId == row.tenantId)
      |>.mpr ⟨p, present, by simp [pointed, tenant, rowTenant]⟩)
  have matched := List.find?_some located
  simp only [pointed, Bool.and_eq_true, beq_iff_eq, Option.some.injEq] at matched
  have equal : other = p := eq_of_key ids (List.mem_of_find?_eq_some located) present matched.1
  rw [runningProjection, found, Option.bind_eq_bind, Option.bind_some, located, equal]

theorem runningGeneration_of : runningGeneration store lookup = some p.segmentGeneration := by
  rw [runningGeneration, runningProjection_of ids found present pointed tenant, Option.map_some]

end

section Statuses

variable {now : Instant} {status : RuntimeConfigurationStatusWrite} {id : Uuid}
  {statuses : List StatusRow}

theorem find_upsertStatus (now : Instant) (status : RuntimeConfigurationStatusWrite) (id : Uuid)
    (statuses : List StatusRow) :
    ∃ row, (upsertStatus now status id statuses).find? status.lookup.selects = some row ∧
      row.activeProjectionPublicationId =
        (statuses.find? status.lookup.selects).bind (·.activeProjectionPublicationId) := by
  refine ⟨_, find_upsert (selects_iff.mpr rfl) (fun _ same => same), ?_⟩
  cases statuses.find? status.lookup.selects with
  | none => rfl
  | some row => rfl

theorem find_writeStatus (now : Instant) (status : RuntimeConfigurationStatusWrite) (id : Uuid)
    (statuses : List StatusRow) :
    ∃ row, (writeStatus now status id statuses).find? status.lookup.selects = some row ∧
      row.activeProjectionPublicationId = if status.applyState = .active then some id
        else (statuses.find? status.lookup.selects).bind (·.activeProjectionPublicationId) := by
  obtain ⟨row, found, pointer⟩ := find_upsertStatus now status id statuses
  by_cases active : status.applyState = .active
  · rw [writeStatus, if_pos (beq_iff_eq.mpr active), if_pos active]
    refine ⟨{ row with activeProjectionPublicationId := some id }, ?_, rfl⟩
    rw [find_updateWhere, found, Option.map_some]
    · exact congrArg some (if_pos (List.find?_some found))
    · exact fun _ _ => rfl
  · rw [writeStatus, if_neg (fun same => active (beq_iff_eq.mp same)), if_neg active]
    exact ⟨row, found, pointer⟩

theorem find_writeStatus_other {lookup : RuntimeConfigurationLookup}
    (other : status.lookup.key ≠ lookup.key) :
    (writeStatus now status id statuses).find? lookup.selects = statuses.find? lookup.selects := by
  have unselected : ∀ row, lookup.selects row = true → status.sameKey row = false := by
    intro row selected
    by_contra same
    exact other ((sameKey_iff.mp (by simpa using same)).symm.trans (selects_iff.mp selected))
  have upserted : (upsertStatus now status id statuses).find? lookup.selects
      = statuses.find? lookup.selects := by
    refine find_upsert_other ?_ (fun _ _ => rfl) unselected
    rw [Bool.eq_false_iff]
    intro same
    have key := selects_iff.mp same
    exact other key
  unfold writeStatus
  split
  · rw [find_updateWhere, upserted]
    · cases found : statuses.find? lookup.selects with
      | none => rfl
      | some row => simp [unselected row (List.find?_some found)]
    · exact fun _ _ => rfl
  · exact upserted

theorem pointer_writeStatus (member : row ∈ writeStatus now status id statuses)
    (pointed : row.activeProjectionPublicationId = some pointer) :
    (row.key = status.lookup.key ∧ pointer = id) ∨
      ∃ old ∈ statuses, old.key = row.key ∧ old.activeProjectionPublicationId = some pointer := by
  have upserted : ∀ row ∈ upsertStatus now status id statuses,
      row.activeProjectionPublicationId = some pointer →
      ∃ old ∈ statuses, old.key = row.key ∧ old.activeProjectionPublicationId = some pointer := by
    intro row member pointed
    rcases mem_upsert member with rfl | ⟨old, present, rfl⟩
    · cases pointed
    · split at pointed
      · rename_i same
        exact ⟨old, present, by rw [if_pos same]; rfl, pointed⟩
      · rename_i different
        exact ⟨old, present, by rw [if_neg different], pointed⟩
  unfold writeStatus at member
  split at member
  · obtain ⟨old, present, rfl⟩ := mem_updateWhere.mp member
    split at pointed
    · rename_i same
      rw [if_pos same]
      exact .inl ⟨sameKey_iff.mp same, (Option.some.inj pointed).symm⟩
    · rename_i different
      rw [if_neg different]
      exact .inr (upserted old present pointed)
  · exact .inr (upserted row member pointed)

end Statuses

theorem find_recordReceipt (store : RouteStore) (now : Instant)
    (status : RuntimeConfigurationStatusWrite) :
    ∃ row, (recordReceipt store now status).statuses.find? status.lookup.selects = some row ∧
      row.activeProjectionPublicationId = some status.projectionPublicationId := by
  refine ⟨_, find_upsert (selects_iff.mpr rfl) (fun _ same => same), ?_⟩
  cases store.statuses.find? status.lookup.selects with
  | none => rfl
  | some row => rfl

theorem find_recordReceipt_other (store : RouteStore) (now : Instant)
    {status : RuntimeConfigurationStatusWrite} {lookup : RuntimeConfigurationLookup}
    (other : status.lookup.key ≠ lookup.key) :
    (recordReceipt store now status).statuses.find? lookup.selects
      = store.statuses.find? lookup.selects := by
  refine find_upsert_other ?_ (fun _ _ => rfl) (fun row selected => ?_)
  · rw [Bool.eq_false_iff]
    intro same
    have key := selects_iff.mp same
    exact other key
  · by_contra same
    exact other ((sameKey_iff.mp (by simpa using same)).symm.trans (selects_iff.mp selected))

theorem pointer_recordReceipt {store : RouteStore} {now : Instant}
    {status : RuntimeConfigurationStatusWrite}
    (member : row ∈ (recordReceipt store now status).statuses)
    (pointed : row.activeProjectionPublicationId = some pointer) :
    (row.key = status.lookup.key ∧ pointer = status.projectionPublicationId) ∨
      ∃ old ∈ store.statuses, old.key = row.key ∧
        old.activeProjectionPublicationId = some pointer := by
  rcases mem_upsert member with rfl | ⟨old, present, rfl⟩
  · exact .inl ⟨rfl, (Option.some.inj pointed).symm⟩
  · split at pointed
    · rename_i same
      rw [if_pos same]
      exact .inl ⟨sameKey_iff.mp same, (Option.some.inj pointed).symm⟩
    · rename_i different
      rw [if_neg different]
      exact .inr ⟨old, present, rfl, pointed⟩

/-- Running pointers name projections of their own device key, and those of the
    key in question belong to its segment. -/
structure Pointed (lookup : RuntimeConfigurationLookup) (segmentId : Uuid) (store : RouteStore) :
    Prop where
  rollout : RolloutInvariant store
  placed : ∀ p ∈ store.projections, p.deviceKey = lookup.key → p.segmentId = segmentId
  pointers : ∀ row ∈ store.statuses, ∀ pointer, row.activeProjectionPublicationId = some pointer →
    ∃ p ∈ store.projections, p.id = pointer ∧ p.deviceKey = row.key

theorem RouteStore.Unpublished.pointed {store : RouteStore} (empty : store.Unpublished)
    (lookup : RuntimeConfigurationLookup) (segmentId : Uuid) : Pointed lookup segmentId store := by
  refine ⟨empty.rolloutInvariant, ?_, ?_⟩
  · simp [empty.projections]
  · simp [empty.statuses]

section Step

variable {lookup : RuntimeConfigurationLookup} {segmentId : Uuid} {store store' : RouteStore}

theorem Pointed.publish {policyIsolation : Bool} (inv : Pointed lookup segmentId store)
    (attached : AttachedTo lookup segmentId store)
    (committed : Committed policyIsolation write store store')
    : Pointed lookup segmentId store' where
  rollout := committed.rolloutInvariant inv.rollout
  placed := by
    intro p member key
    rcases committed.mem_projections.mp member with old | ⟨projection, written, rfl⟩
    · exact inv.placed p old key
    · obtain ⟨a, routed, owns⟩ := committed.owned projection written
      simp only [ownsProjection, Bool.and_eq_true, beq_iff_eq] at owns
      obtain ⟨⟨⟨⟨⟨⟨⟨⟨⟨-, tenant⟩, segment⟩, -⟩, device⟩, deviceKey⟩, active⟩, -⟩, -⟩, -⟩ := owns
      simp only [ProjectionRow.deviceKey, RuntimeConfigurationLookup.key, Prod.mk.injEq] at key
      obtain ⟨sameTenant, sameDevice, sameKey⟩ := key
      have home := attached a routed (tenant.trans sameTenant)
        (device.trans (congrArg some sameDevice)) (deviceKey.trans (congrArg some sameKey)) active
      exact segment.symm.trans home
  pointers := by
    rw [committed.statuses]
    intro row member pointer pointed
    obtain ⟨p, present, facts⟩ := inv.pointers row member pointer pointed
    exact ⟨p, committed.mem_projections.mpr (.inl present), facts⟩

theorem Pointed.generation_le (inv : Pointed lookup segmentId store) {segment : SegmentRow}
    (present : segment ∈ store.segments) (tenant : segment.tenantId = lookup.tenantId)
    (own : segment.id = segmentId) (running : runningGeneration store lookup = some generation) :
    generation ≤ segment.currentGeneration := by
  obtain ⟨row, member, -, key, p, projected, pointed, rfl⟩ := runningGeneration_some running
  obtain ⟨q, existing, named, owner⟩ := inv.pointers row member p.id pointed
  have equal : q = p := inv.rollout.membership.projection_of_id existing projected named
  subst equal
  have placed := inv.placed q projected (owner.trans key)
  obtain ⟨publication, published, link⟩ := inv.rollout.membership.owned q projected
  have bound := inv.rollout.chain.generation_le published
  have head := congrArg (·.1) (inv.rollout.chain.heads.heads segment present)
  have qTenant : q.tenantId = lookup.tenantId := congrArg (·.1) (owner.trans key)
  simp only at head
  rw [← link.tenant, ← link.segment, ← link.generation, placed, qTenant, ← tenant, ← own,
    ← head] at bound
  exact bound

/-- The pointer of the key, once set, is never unset or moved back. -/
def Advances (lookup : RuntimeConfigurationLookup) (store store' : RouteStore) : Prop :=
  ∀ generation, runningGeneration store lookup = some generation →
    ∃ later, runningGeneration store' lookup = some later ∧ generation ≤ later

theorem Advances.of_eq (same : runningGeneration store' lookup = runningGeneration store lookup) :
    Advances lookup store store' :=
  fun generation running => ⟨generation, same.trans running, Nat.le_refl generation⟩

theorem Advances.trans {store'' : RouteStore} (first : Advances lookup store store')
    (second : Advances lookup store' store'') : Advances lookup store store'' := by
  intro generation running
  obtain ⟨middle, reached, below⟩ := first generation running
  obtain ⟨later, last, above⟩ := second middle reached
  exact ⟨later, last, below.trans above⟩

theorem runningGeneration_congr
    (statuses : store'.statuses.find? lookup.selects = store.statuses.find? lookup.selects)
    (projections : store'.projections = store.projections) :
    runningGeneration store' lookup = runningGeneration store lookup := by
  unfold runningGeneration runningProjection
  rw [statuses, projections]

theorem advances_publish {policyIsolation : Bool}
    (committed : Committed policyIsolation write store store') : Advances lookup store store' := by
  intro generation running
  obtain ⟨p, projected, rfl⟩ := Option.map_eq_some_iff.mp running
  obtain ⟨row, found, pointed⟩ := Option.bind_eq_some_iff.mp projected
  refine ⟨p.segmentGeneration, ?_, Nat.le_refl _⟩
  rw [runningGeneration, runningProjection, committed.statuses, committed.projections, found,
    Option.bind_eq_bind, Option.bind_some, List.find?_append, pointed, Option.some_or,
    Option.map_some]

section Receipt

variable {policyIsolation : Bool} {now : Instant} {auditId : Uuid}
  {status : RuntimeConfigurationStatusWrite} {configuration : RuntimeConfigurationRecord}

theorem Superseded.newer (superseded : Superseded policyIsolation now status configuration store
    store') :
    ∃ p ∈ store.projections, p.id = status.projectionPublicationId ∧
      p.deviceKey = status.lookup.key ∧
      ∀ generation, runningGeneration store status.lookup = some generation →
        generation < p.segmentGeneration := by
  obtain ⟨generation, found, older⟩ := superseded.historical
  obtain ⟨head, -⟩ := Option.filter_eq_some_iff.mp found
  obtain ⟨p, member, rfl⟩ := List.mem_map.mp (List.mem_of_head? head)
  simp only [List.mem_filter, Bool.and_eq_true, beq_iff_eq] at member
  obtain ⟨present, ⟨⟨⟨⟨⟨⟨⟨⟨⟨id, tenant⟩, device⟩, key⟩, -⟩, -⟩, -⟩, -⟩, -⟩, -⟩⟩ := member
  refine ⟨p, present, id, ?_, ?_⟩
  · rw [ProjectionRow.deviceKey, RuntimeConfigurationLookup.key, tenant, device, key]
  · intro generation running
    rw [activeGeneration_eq, running] at older
    exact of_decide_eq_true older

theorem Pointed.receipt (inv : Pointed lookup segmentId store)
    (superseded : Superseded policyIsolation now status configuration store store')
    (rollout : RolloutInvariant store') :
    Pointed lookup segmentId store' ∧ Advances lookup store store' := by
  obtain ⟨p, present, id, owner, newer⟩ := superseded.newer
  have result := superseded.result
  subst result
  refine ⟨⟨rollout, inv.placed, ?_⟩, ?_⟩
  · intro row member pointer pointed
    rcases pointer_recordReceipt member pointed with ⟨key, rfl⟩ | ⟨old, before, key, same⟩
    · exact ⟨p, present, id, owner.trans key.symm⟩
    · rw [← key]
      exact inv.pointers old before pointer same
  · by_cases own : status.lookup.key = lookup.key
    · obtain rfl := lookup_of_key own
      obtain ⟨row, found, pointed⟩ := find_recordReceipt store now status
      intro generation running
      have tenant : p.tenantId = status.lookup.tenantId := congrArg (·.1) owner
      refine ⟨p.segmentGeneration, ?_, (newer generation running).le⟩
      exact runningGeneration_of inv.rollout.membership.projectionIds found present
        (pointed.trans (congrArg some id.symm)) tenant
    · exact .of_eq (runningGeneration_congr (find_recordReceipt_other store now own) rfl)

theorem Pointed.accept (inv : Pointed lookup segmentId store)
    (acceptable : Acceptable policyIsolation now auditId status configuration store)
    (accepted : Accepted now status configuration store store')
    (rollout : RolloutInvariant store') :
    Pointed lookup segmentId store' ∧ Advances lookup store store' := by
  obtain ⟨segment, delivery, current, effect, statuses⟩ :=
    accepted.effect inv.rollout acceptable.loaded
  have projections := effect.same.projections
  refine ⟨⟨rollout, ?_, ?_⟩, ?_⟩
  · rw [projections]
    exact inv.placed
  · rw [projections, statuses]
    intro row member pointer pointed
    rcases pointer_writeStatus member pointed with ⟨key, rfl⟩ | ⟨old, before, key, same⟩
    · exact ⟨delivery.projection, current.projection, rfl, current.lookupKey.trans key.symm⟩
    · rw [← key]
      exact inv.pointers old before pointer same
  · by_cases own : status.lookup.key = lookup.key
    · obtain rfl := lookup_of_key own
      obtain ⟨row, found, pointer⟩ := find_writeStatus now status delivery.projection.id store.statuses
      rw [← statuses] at found
      have ids : (store'.projections.map (·.id)).Nodup := rollout.membership.projectionIds
      intro generation running
      by_cases active : status.applyState = .active
      · rw [if_pos active] at pointer
        have tenant : delivery.projection.tenantId = status.lookup.tenantId :=
          congrArg (·.1) current.lookupKey
        have placed := inv.placed delivery.projection current.projection current.lookupKey
        refine ⟨delivery.projection.segmentGeneration, ?_, ?_⟩
        · exact runningGeneration_of ids found (by rw [projections]; exact current.projection) pointer
            tenant
        · rw [← current.generation]
          exact inv.generation_le current.present (current.tenant.trans tenant)
            (current.segmentId.trans placed) running
      · rw [if_neg active] at pointer
        obtain ⟨old, member, before, key, p, projected, pointed, rfl⟩ := runningGeneration_some running
        rw [before, Option.bind_some, pointed] at pointer
        obtain ⟨q, existing, named, owner⟩ := inv.pointers old member p.id pointed
        have equal : q = p := inv.rollout.membership.projection_of_id existing projected named
        subst equal
        have tenant : q.tenantId = status.lookup.tenantId := congrArg (·.1) (owner.trans key)
        refine ⟨q.segmentGeneration, ?_, Nat.le_refl _⟩
        exact runningGeneration_of ids found (by rw [projections]; exact projected) pointer tenant
    · refine .of_eq (runningGeneration_congr ?_ projections)
      rw [statuses]
      exact find_writeStatus_other own

end Receipt

theorem routeStep_pointed (sha256 : Bytes → Hash) (call : RouteCall)
    (inv : Pointed lookup segmentId store) (attached : AttachedTo lookup segmentId store) :
    Pointed lookup segmentId (routeStep sha256 store call) ∧
      Advances lookup store (routeStep sha256 store call) := by
  have rollout := routeStep_rolloutInvariant sha256 store call inv.rollout
  cases call with
  | publish policyIsolation write =>
      exact routeStep_publish sha256 policyIsolation write
        (P := fun store' => Pointed lookup segmentId store' ∧ Advances lookup store store')
        ⟨inv, .of_eq rfl⟩ fun _ committed =>
          ⟨inv.publish attached committed, advances_publish committed⟩
  | report policyIsolation now auditId status =>
      rcases report_cases store now auditId policyIsolation status with
        same | ⟨configuration, superseded⟩ | ⟨configuration, acceptable, accepted⟩
      · simp only [routeStep, same]
        exact ⟨inv, .of_eq rfl⟩
      · exact inv.receipt superseded rollout
      · exact inv.accept acceptable accepted rollout
  | environment topology segments => exact ⟨⟨rollout, inv.placed, inv.pointers⟩, .of_eq rfl⟩

theorem run_pointed (sha256 : Bytes → Hash) (calls : List RouteCall)
    (inv : Pointed lookup segmentId store)
    (attached : Along (routeStep sha256) (fun store _ => AttachedTo lookup segmentId store) store
      calls) :
    Pointed lookup segmentId (run (routeStep sha256) store calls) ∧
      Advances lookup store (run (routeStep sha256) store calls) := by
  induction calls generalizing store with
  | nil => exact ⟨inv, .of_eq rfl⟩
  | cons call rest ih =>
      obtain ⟨here, later⟩ := attached
      obtain ⟨inv', first⟩ := routeStep_pointed sha256 call inv here
      obtain ⟨last, second⟩ := ih inv' later
      exact ⟨last, first.trans second⟩

end Step

theorem report_undelivered {store : RouteStore} {now : Instant} {auditId : Uuid}
    {policyIsolation : Bool} {status : RuntimeConfigurationStatusWrite}
    (undelivered : ¬ Delivered store policyIsolation now status) :
    let store' := (recordRuntimeConfigurationStatus store now auditId policyIsolation status).2
    store'.rollouts = store.rollouts ∧
      store.statuses.map (·.reported) <+: store'.statuses.map (·.reported) := by
  intro store'
  rcases report_cases store now auditId policyIsolation status with
    same | ⟨configuration, superseded⟩ | ⟨configuration, acceptable, -⟩
  · rw [show store' = store from same]
    exact ⟨rfl, List.prefix_rfl⟩
  · rw [show store' = recordReceipt store now status from superseded.result]
    refine ⟨rfl, map_upsert_grows ?_ store.statuses⟩
    exact fun _ => rfl
  · exact absurd ⟨configuration, acceptable.loaded, acceptable.reported⟩ undelivered

/-- While a device key is attached to one segment, its running pointer only
    goes up over any later calls; in every state reached a report for another
    publication than the delivered one changes no rollout and no reported column
    of a status row, and what is delivered is the current generation. -/
theorem running_pointer_monotone (sha256 : Bytes → Hash) {start : RouteStore}
    (empty : start.Unpublished) (lookup : RuntimeConfigurationLookup) (segmentId : Uuid)
    (calls more : List RouteCall)
    (attached : Along (routeStep sha256) (fun store _ => AttachedTo lookup segmentId store) start
      (calls ++ more)) :
    let store := run (routeStep sha256) start calls
    (∀ generation, runningGeneration store lookup = some generation →
      ∃ later, runningGeneration (run (routeStep sha256) store more) lookup = some later ∧
        generation ≤ later) ∧
    (∀ policyIsolation now auditId status, ¬ Delivered store policyIsolation now status →
      let store' := (recordRuntimeConfigurationStatus store now auditId policyIsolation status).2
      store'.rollouts = store.rollouts ∧
        store.statuses.map (·.reported) <+: store'.statuses.map (·.reported)) ∧
    (∀ now policyIsolation lookup' record,
      loadCurrentRuntimeConfiguration store now policyIsolation lookup' = .ok (.current record) →
      ∃ segment ∈ store.segments, segment.tenantId = record.tenantId ∧
        segment.id = record.segmentId ∧ segment.currentGeneration = record.segmentGeneration) ∧
    ∀ lookup', ∀ position ∈ store.rolloutPositions lookup',
      position.2.member.rolloutOrdinal ≤ position.2.rollout.allowedOrdinal := by
  intro store
  obtain ⟨before, after⟩ := along_append.mp attached
  obtain ⟨inv, -⟩ := run_pointed sha256 calls (empty.pointed lookup segmentId) before
  refine ⟨(run_pointed sha256 more inv after).2, ?_, ?_, ?_⟩
  · intro policyIsolation now auditId status undelivered
    exact report_undelivered undelivered
  · intro now policyIsolation lookup' record loaded
    obtain ⟨segment, delivery, current⟩ := load_current inv.rollout loaded
    refine ⟨segment, current.present, ?_, ?_, ?_⟩
    · rw [current.tenant, current.recordTenant]
    · rw [current.segmentId, current.recordSegment]
    · rw [current.generation, current.recordGeneration]
  · intro lookup' position positioned
    simp only [RouteStore.rolloutPositions, List.mem_flatMap, List.mem_map, List.mem_filter]
      at positioned
    obtain ⟨pair, -, delivery, ⟨joined, -⟩, rfl⟩ := positioned
    exact delivery_allowed inv.rollout joined

def supersededRun : List RouteCall :=
  [.publish false (sampleWrite 2 false), sampleReport 2 1 .prepared, sampleReport 2 2 .prepared,
    sampleReport 1 1 .active, sampleReport 2 1 .active]

theorem running_pointer_monotone_two_sites :
    ∃ later, runningGeneration (run (routeStep fun _ => 0)
      (run (routeStep fun _ => 0) twoSiteStore (preparedRun ++ [sampleReport 1 1 .active]))
      supersededRun) (sampleLookup 1) = some later ∧ 1 ≤ later := by
  refine (running_pointer_monotone (fun _ => 0) twoSiteStore_unpublished (sampleLookup 1) 3
    (preparedRun ++ [sampleReport 1 1 .active]) supersededRun ?_).1 1 ?_
  · decide +kernel
  · decide +kernel

end CandyCloud
