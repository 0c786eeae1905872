import CandyCloud.Upgrade.Jobs

/-! # One open upgrade per node

Every commit of an upgrade session is one of four changes.
-/

namespace CandyCloud

open Foundation

namespace UpgradeState

def moves : UpgradeState → UpgradeState → Bool
  | .pending, .running | .running, .succeeded | .running, .failed | .pending, .expired => true
  | _, _ => false

def terminal (state : UpgradeState) : Bool := !state.active

/-- A job that was once in the first state can be in the second. -/
def reaches (a b : UpgradeState) : Bool :=
  a == b || a == .pending || (a == .running && (b == .succeeded || b == .failed))

theorem moves_of_permits {a b : UpgradeState} (permitted : a.permits b = true) :
    a.moves b = true := by
  cases a <;> cases b <;> trivial

theorem active_of_moves {a b : UpgradeState} (moved : a.moves b = true) : a.active = true := by
  cases a <;> cases b <;> trivial

theorem reaches_refl (a : UpgradeState) : a.reaches a = true := by
  simp only [reaches, beq_self_eq_true, Bool.true_or]

theorem reaches_moves {a b c : UpgradeState} (reached : a.reaches b = true)
    (moved : b.moves c = true) : a.reaches c = true := by
  cases a <;> cases b <;> cases c <;> trivial

theorem not_reaches_of_permits {a b : UpgradeState} (permitted : a.permits b = true) :
    b.reaches a = false := by
  cases a <;> cases b <;> trivial

end UpgradeState

/-- The columns no statement rewrites. -/
structure UpgradeJobRow.Kept (a b : UpgradeJobRow) : Prop where
  id : b.id = a.id
  tenantId : b.tenantId = a.tenantId
  nodeId : b.nodeId = a.nodeId
  deviceId : b.deviceId = a.deviceId
  deviceKeyId : b.deviceKeyId = a.deviceKeyId
  actorId : b.actorId = a.actorId
  requestId : b.requestId = a.requestId
  target : b.target = a.target
  createdAt : b.createdAt = a.createdAt

theorem UpgradeJobRow.Kept.refl (job : UpgradeJobRow) : job.Kept job :=
  ⟨rfl, rfl, rfl, rfl, rfl, rfl, rfl, rfl, rfl⟩

/-- The change a commit makes, with the locks that protect it. -/
inductive UpgradeChange (locks : List (RowLock UpgradeLock)) (store : UpgradeStore) :
    UpgradeStore → Prop where
  | nothing : UpgradeChange locks store store
  | created {request : UpgradeRequest} {identity : Uuid × Uuid} {audits : List UpgradeAuditRow}
      (node : ⟨.node request.tenant request.node, .exclusive⟩ ∈ locks)
      (job : ⟨.job request.id, .exclusive⟩ ∈ locks)
      (named : store.cloud.nodeIdentity request.tenant request.node = .ok identity)
      (free : ∀ old ∈ store.jobs, (request.row identity).conflict old = false) :
      UpgradeChange locks store
        { store with jobs := store.jobs ++ [request.row identity], audits }
  | moved {id : Uuid} {selected : UpgradeJobRow → Bool} {set : UpgradeJobRow → UpgradeJobRow}
      {audits : List UpgradeAuditRow} (job : ⟨.job id, .exclusive⟩ ∈ locks)
      (own : ∀ row ∈ store.jobs, selected row = true → row.id = id)
      (kept : ∀ row : UpgradeJobRow, row.Kept (set row))
      (legal : ∀ row ∈ store.jobs, selected row = true → row.state.moves (set row).state = true) :
      UpgradeChange locks store { store with jobs := updateWhere selected set store.jobs, audits }
  | recorded {inventories : List UpgradeInventoryRow} :
      UpgradeChange locks store { store with inventories }

/-- The unique keys of the table. -/
structure JobsInvariant (jobs : List UpgradeJobRow) : Prop where
  ids : (jobs.map (·.id)).Nodup
  oneActive : ∀ a ∈ jobs, ∀ b ∈ jobs, a.of b.tenantId b.nodeId = true → a.state.active = true →
    b.state.active = true → a = b

section Changes

variable {locks : List (RowLock UpgradeLock)} {store store' : UpgradeStore}

theorem UpgradeJobRow.of_iff {job : UpgradeJobRow} {tenantId nodeId : Uuid} :
    job.of tenantId nodeId = true ↔ job.tenantId = tenantId ∧ job.nodeId = nodeId := by
  simp only [UpgradeJobRow.of, Bool.and_eq_true, beq_iff_eq]

theorem conflict_false {a b : UpgradeJobRow} :
    a.conflict b = false ↔ a.id ≠ b.id ∧
      (b.of a.tenantId a.nodeId = true →
        ¬ (a.actorId = b.actorId ∧ a.requestId = b.requestId) ∧
          ¬ (a.state.active = true ∧ b.state.active = true)) := by
  unfold UpgradeJobRow.conflict
  cases b.of a.tenantId a.nodeId with
  | false => simp
  | true => simp [and_assoc]

section

variable (change : UpgradeChange locks store store')

include change

theorem UpgradeChange.origin {job : UpgradeJobRow} (present : job ∈ store'.jobs) :
    (∃ old ∈ store.jobs, old.Kept job ∧ (job = old ∨ old.state.moves job.state = true)) ∨
    (store'.jobs = store.jobs ++ [job] ∧ job.state = .pending ∧
      ∀ old ∈ store.jobs, job.conflict old = false) := by
  cases change with
  | nothing => exact .inl ⟨job, present, .refl job, .inl rfl⟩
  | recorded => exact .inl ⟨job, present, .refl job, .inl rfl⟩
  | created node lock named free =>
      rcases mem_concat.mp present with old | rfl
      · exact .inl ⟨job, old, .refl job, .inl rfl⟩
      · exact .inr ⟨rfl, rfl, free⟩
  | moved lock own kept legal =>
      obtain ⟨old, member, rfl⟩ := mem_updateWhere.mp present
      refine .inl ⟨old, member, ?_⟩
      split
      · rename_i chosen
        exact ⟨kept old, .inr (legal old member chosen)⟩
      · exact ⟨.refl old, .inl rfl⟩

theorem UpgradeChange.successor {job : UpgradeJobRow} (present : job ∈ store.jobs) :
    ∃ next ∈ store'.jobs, job.Kept next ∧ (next = job ∨ job.state.moves next.state = true) := by
  cases change with
  | nothing => exact ⟨job, present, .refl job, .inl rfl⟩
  | recorded => exact ⟨job, present, .refl job, .inl rfl⟩
  | created node lock named free =>
      exact ⟨job, List.mem_append_left _ present, .refl job, .inl rfl⟩
  | @moved _ selected set _ lock own kept legal =>
      refine ⟨_, mem_updateWhere.mpr ⟨job, present, rfl⟩, ?_⟩
      split
      · rename_i chosen
        exact ⟨kept job, .inr (legal job present chosen)⟩
      · exact ⟨.refl job, .inl rfl⟩

theorem UpgradeChange.unlocked {job : UpgradeJobRow} (present : job ∈ store.jobs)
    (free : ⟨.job job.id, .exclusive⟩ ∉ locks) :
    job ∈ store'.jobs := by
  cases change with
  | nothing => exact present
  | recorded => exact present
  | created node lock named free => exact List.mem_append_left _ present
  | moved lock own kept legal =>
      refine mem_updateWhere.mpr ⟨job, present, if_neg ?_⟩
      intro chosen
      rw [← own job present chosen] at lock
      exact free lock

/-- A row that no stored job is in the way of stays so while its node and its
    own row are not locked by the change. -/
theorem UpgradeChange.stays_free {row : UpgradeJobRow}
    (node : ⟨.node row.tenantId row.nodeId, .exclusive⟩ ∉ locks)
    (job : ⟨.job row.id, .exclusive⟩ ∉ locks)
    (free : ∀ old ∈ store.jobs, row.conflict old = false) :
    ∀ old ∈ store'.jobs, row.conflict old = false := by
  cases change with
  | nothing => exact free
  | recorded => exact free
  | @created request identity audits nodeLock lock named _ =>
      intro old member
      rcases mem_concat.mp member with before | rfl
      · exact free old before
      · refine conflict_false.mpr ⟨?_, ?_⟩
        · intro same
          rw [same] at job
          exact job lock
        · intro here
          obtain ⟨tenant, named⟩ := UpgradeJobRow.of_iff.mp here
          rw [← tenant, ← named] at node
          exact absurd nodeLock node
  | @moved id selected set audits lock own kept legal =>
      intro next member
      obtain ⟨old, before, rfl⟩ := mem_updateWhere.mp member
      split
      · rename_i chosen
        have same := kept old
        obtain ⟨distinct, apart⟩ := conflict_false.mp (free old before)
        refine conflict_false.mpr ⟨?_, ?_⟩
        · rw [same.id]
          exact distinct
        · intro here
          have there : old.of row.tenantId row.nodeId = true := by
            rw [UpgradeJobRow.of_iff, ← same.tenantId, ← same.nodeId]
            exact UpgradeJobRow.of_iff.mp here
          refine ⟨?_, ?_⟩
          · rw [same.actorId, same.requestId]
            exact (apart there).1
          · intro both
            refine (apart there).2 ⟨both.1, ?_⟩
            exact UpgradeState.active_of_moves (legal old before chosen)
      · exact free old before

theorem UpgradeChange.cloud : store'.cloud = store.cloud := by
  cases change <;> rfl

theorem UpgradeChange.ids (unique : (store.jobs.map (·.id)).Nodup) :
    (store'.jobs.map (·.id)).Nodup := by
  cases change with
  | nothing => exact unique
  | recorded => exact unique
  | created node lock named free =>
      refine nodup_concat_key unique ?_
      intro old member same
      exact (conflict_false.mp (free old member)).1 same
  | moved lock own kept legal =>
      simp only
      rw [map_updateWhere (fun row => (kept row).id)]
      exact unique

end

theorem active_of_origin {job old : UpgradeJobRow}
    (change : job = old ∨ old.state.moves job.state = true) (active : job.state.active = true) :
    old.state.active = true := by
  rcases change with rfl | moved
  · exact active
  · exact UpgradeState.active_of_moves moved

theorem UpgradeChange.invariant (change : UpgradeChange locks store store')
    (inv : JobsInvariant store.jobs) : JobsInvariant store'.jobs := by
  have ids := change.ids inv.ids
  refine ⟨ids, ?_⟩
  intro a presentA b presentB node activeA activeB
  obtain ⟨tenantId, nodeId⟩ := UpgradeJobRow.of_iff.mp node
  rcases change.origin presentA with ⟨oldA, memberA, keptA, fromA⟩ | ⟨newA, -, freeA⟩
  · rcases change.origin presentB with ⟨oldB, memberB, keptB, fromB⟩ | ⟨newB, -, freeB⟩
    · have same : oldA = oldB := by
        refine inv.oneActive oldA memberA oldB memberB ?_ (active_of_origin fromA activeA)
          (active_of_origin fromB activeB)
        rw [UpgradeJobRow.of_iff, ← keptA.tenantId, ← keptB.tenantId, ← keptA.nodeId,
          ← keptB.nodeId]
        exact ⟨tenantId, nodeId⟩
      refine eq_of_key ids presentA presentB ?_
      rw [keptA.id, keptB.id, same]
    · have apart := (conflict_false.mp (freeB oldA memberA)).2
      rw [UpgradeJobRow.of_iff, ← keptA.tenantId, ← keptA.nodeId] at apart
      exact absurd ⟨activeB, active_of_origin fromA activeA⟩ (apart ⟨tenantId, nodeId⟩).2
  · rcases change.origin presentB with ⟨oldB, memberB, keptB, fromB⟩ | ⟨newB, -, freeB⟩
    · have apart := (conflict_false.mp (freeA oldB memberB)).2
      rw [UpgradeJobRow.of_iff, ← keptB.tenantId, ← keptB.nodeId] at apart
      exact absurd ⟨activeA, active_of_origin fromB activeB⟩
        (apart ⟨tenantId.symm, nodeId.symm⟩).2
    · rw [newA] at newB
      exact (List.cons.inj (List.append_cancel_left newB)).1

end Changes

/-- The locks and the facts of a creation that has found its node. -/
structure CreationKnows (store : UpgradeStore) (session : UpgradeSession)
    (request : UpgradeRequest) (identity : Uuid × Uuid) : Prop where
  node : ⟨.node request.tenant request.node, .exclusive⟩ ∈ session.locks
  named : store.cloud.nodeIdentity request.tenant request.node = .ok identity

/-- A report that has read its job under the lock and may move it. -/
structure ReportKnows (store : UpgradeStore) (session : UpgradeSession) (report : UpgradeReport)
    (state : UpgradeState) : Prop where
  job : ⟨.job report.id, .exclusive⟩ ∈ session.locks
  permitted : ∃ previous ∈ store.jobs, previous.id = report.id ∧
    previous.state.permits state = true

/-- What holds of a session at each of its stages until it ends. -/
def SessionKnows (store : UpgradeStore) (session : UpgradeSession) : Prop :=
  match session.stage with
  | .create _ | .poll _ | .polled _ _ | .pollIdentified _ _ | .inventory _ _ => session.writes = []
  | .createIdentified request identity | .createUnseen request identity
  | .createIdle request identity | .createOffered request identity =>
      session.writes = [] ∧ CreationKnows store session request identity
  | .createInserted request identity =>
      session.writes = [.insert (request.row identity),
        .audit ⟨request.tenant, request.actor, .requested, request.id⟩] ∧
      CreationKnows store session request identity ∧
      ⟨.job request.id, .exclusive⟩ ∈ session.locks ∧
      ∀ old ∈ store.jobs, (request.row identity).conflict old = false
  | .pollExpired request result =>
      session.writes = [.expire result.id request.now,
        .audit ⟨request.tenant, uuidText request.device, .expired, result.id⟩] ∧
      ⟨.job result.id, .exclusive⟩ ∈ session.locks
  | .report report _ state phase | .reportFound report _ state phase _
  | .reportIdentified report _ state phase =>
      session.writes = [] ∧ report.status.validate = .ok (state, phase)
  | .reportPermitted report _ state phase =>
      session.writes = [] ∧ report.status.validate = .ok (state, phase) ∧
        ReportKnows store session report state
  | .reportWritten report now =>
      ∃ state phase, session.writes =
          [.report report.id state phase report.status.errorCode report.status.errorDetail now,
            .audit ⟨report.tenant, uuidText report.device, UpgradeReport.action state, report.id⟩] ∧
        report.status.validate = .ok (state, phase) ∧ ReportKnows store session report state
  | .inventoryWritten report now => session.writes = [.record (report.row now)]

section Sessions

variable {store store' : UpgradeStore} {session other : UpgradeSession}

theorem opening_knows {call : UpgradeCall} {stage : UpgradeStage}
    (opened : upgradeOpening call = .ok stage) : SessionKnows store ⟨stage, [], []⟩ := by
  cases call with
  | create request =>
      simp only [upgradeOpening] at opened
      split at opened
      · cases opened
      · obtain rfl := Except.ok.inj opened
        exact rfl
  | poll request =>
      obtain rfl := Except.ok.inj opened
      exact rfl
  | report report now =>
      simp only [upgradeOpening] at opened
      split at opened
      · cases opened
      · rename_i state phase valid
        obtain rfl := Except.ok.inj opened
        exact ⟨rfl, valid⟩
  | inventory report now =>
      simp only [upgradeOpening] at opened
      split at opened
      · cases opened
      · obtain rfl := Except.ok.inj opened
        exact rfl

theorem seen_change (unique : (store.jobs.map (·.id)).Nodup) (knows : SessionKnows store session) :
    UpgradeChange session.locks store (upgradeTransactions.seen store session) := by
  obtain ⟨stage, locks, writes⟩ := session
  cases stage with
  | create | poll | polled | pollIdentified | inventory =>
      obtain rfl : writes = [] := knows
      exact .nothing
  | createIdentified | createUnseen | createIdle | createOffered | report | reportFound
  | reportIdentified | reportPermitted =>
      obtain rfl : writes = [] := knows.1
      exact .nothing
  | createInserted request identity =>
      obtain ⟨rfl, creation, job, free⟩ := knows
      exact .created creation.node job creation.named free
  | pollExpired request result =>
      obtain ⟨rfl, job⟩ := knows
      refine .moved job ?_ ?_ ?_
      · intro row _ chosen
        simp only [Bool.and_eq_true, beq_iff_eq] at chosen
        exact chosen.1
      · exact fun row => ⟨rfl, rfl, rfl, rfl, rfl, rfl, rfl, rfl, rfl⟩
      · intro row _ chosen
        simp only [Bool.and_eq_true, beq_iff_eq] at chosen
        rw [chosen.2]
        rfl
  | reportWritten report now =>
      obtain ⟨state, phase, rfl, -, report⟩ := knows
      refine .moved report.job ?_ ?_ ?_
      · intro row _ chosen
        exact beq_iff_eq.mp chosen
      · exact fun row => ⟨rfl, rfl, rfl, rfl, rfl, rfl, rfl, rfl, rfl⟩
      · intro row member chosen
        obtain ⟨previous, present, same, permitted⟩ := report.permitted
        have here : previous = row := by
          refine eq_of_key unique present member ?_
          rw [same, beq_iff_eq.mp chosen]
        rw [← here]
        exact UpgradeState.moves_of_permits permitted
  | inventoryWritten report now =>
      obtain rfl : writes = _ := knows
      exact .recorded

section Statements

variable {stage : UpgradeStage} {writes : List UpgradeWrite}

theorem UpgradeRequest.identify_next {request : UpgradeRequest}
    (outcome : (request.identify store).outcome = .next stage writes) :
    ∃ identity, store.cloud.nodeIdentity request.tenant request.node = .ok identity ∧
      stage = .createIdentified request identity ∧ writes = [] := by
  simp only [UpgradeRequest.identify] at outcome
  split at outcome
  · cases outcome
  · rename_i identity named
    cases outcome
    exact ⟨identity, named, rfl, rfl⟩

theorem UpgradeRequest.replay_next {request : UpgradeRequest} {identity : Uuid × Uuid}
    (outcome : (request.replay store identity).outcome = .next stage writes) :
    stage = .createUnseen request identity ∧ writes = [] := by
  simp only [UpgradeRequest.replay] at outcome
  split at outcome
  · cases outcome
    exact ⟨rfl, rfl⟩
  · split at outcome
    · cases outcome
    · cases outcome

theorem UpgradeRequest.countActive_next {request : UpgradeRequest} {identity : Uuid × Uuid}
    (outcome : (request.countActive store identity).outcome = .next stage writes) :
    stage = .createIdle request identity ∧ writes = [] := by
  simp only [UpgradeRequest.countActive] at outcome
  split at outcome
  · cases outcome
  · cases outcome
    exact ⟨rfl, rfl⟩

theorem UpgradeRequest.offer_next {request : UpgradeRequest} {identity : Uuid × Uuid}
    (outcome : (request.offer store identity).outcome = .next stage writes) :
    stage = .createOffered request identity ∧ writes = [] := by
  simp only [UpgradeRequest.offer] at outcome
  split at outcome
  · cases outcome
  · split at outcome
    · cases outcome
    · cases outcome
      exact ⟨rfl, rfl⟩

theorem UpgradeRequest.insert_next {request : UpgradeRequest} {identity : Uuid × Uuid}
    (outcome : (request.insert store identity).outcome = .next stage writes) :
    (∀ old ∈ store.jobs, (request.row identity).conflict old = false) ∧
      stage = .createInserted request identity ∧ writes = [.insert (request.row identity),
        .audit ⟨request.tenant, request.actor, .requested, request.id⟩] := by
  simp only [UpgradeRequest.insert] at outcome
  split at outcome
  · cases outcome
  · rename_i inserted
    cases outcome
    exact ⟨(insertRow_some.mp inserted).1, rfl, rfl⟩

theorem UpgradePoll.read_next {request : UpgradePoll}
    (outcome : (request.read store).outcome = .next stage writes) :
    ∃ result, stage = .polled request result ∧ writes = [] := by
  simp only [UpgradePoll.read] at outcome
  split at outcome
  · cases outcome
  · rename_i result _
    cases outcome
    exact ⟨result, rfl, rfl⟩

theorem UpgradePoll.identify_next {request : UpgradePoll} {result : UpgradeJobRow}
    (outcome : (request.identify store result).outcome = .next stage writes) :
    stage = .pollIdentified request result ∧ writes = [] := by
  simp only [UpgradePoll.identify] at outcome
  split at outcome
  · cases outcome
  · split at outcome
    · cases outcome
    · cases outcome
      exact ⟨rfl, rfl⟩

theorem UpgradePoll.settle_next {request : UpgradePoll} {result : UpgradeJobRow}
    (outcome : (request.settle result).outcome = .next stage writes) :
    ⟨.job result.id, .exclusive⟩ ∈ (request.settle result).locks ∧
      stage = .pollExpired request result ∧ writes = [.expire result.id request.now,
        .audit ⟨request.tenant, uuidText request.device, .expired, result.id⟩] := by
  unfold UpgradePoll.settle at outcome ⊢
  split at outcome
  · rename_i old
    rw [if_pos old]
    cases outcome
    exact ⟨List.mem_singleton_self _, rfl, rfl⟩
  · cases outcome

variable {report : UpgradeReport} {now : Instant} {state : UpgradeState} {phase : String}

theorem UpgradeReport.find_next
    (outcome : (report.find store now state phase).outcome = .next stage writes) :
    ∃ nodeId, stage = .reportFound report now state phase nodeId ∧ writes = [] := by
  simp only [UpgradeReport.find] at outcome
  split at outcome
  · cases outcome
  · rename_i previous _
    cases outcome
    exact ⟨previous.nodeId, rfl, rfl⟩

theorem UpgradeReport.identify_next {nodeId : Uuid}
    (outcome : (report.identify store now state phase nodeId).outcome = .next stage writes) :
    stage = .reportIdentified report now state phase ∧ writes = [] := by
  simp only [UpgradeReport.identify] at outcome
  split at outcome
  · cases outcome
  · split at outcome
    · cases outcome
    · cases outcome
      exact ⟨rfl, rfl⟩

theorem UpgradeReport.judge_next
    (outcome : (report.judge store now state phase).outcome = .next stage writes) :
    (∃ previous ∈ store.jobs, previous.id = report.id ∧ previous.state.permits state = true) ∧
      stage = .reportPermitted report now state phase ∧ writes = [] := by
  simp only [UpgradeReport.judge] at outcome
  split at outcome
  · cases outcome
  · rename_i previous found
    split at outcome
    · cases outcome
    · split at outcome
      · cases outcome
      · rename_i permitted
        cases outcome
        refine ⟨⟨previous, List.mem_of_find?_eq_some found, ?_, ?_⟩, rfl, rfl⟩
        · simpa using List.find?_some found
        · simpa using permitted

theorem UpgradeReport.write_next
    (outcome : (report.write now state phase).outcome = .next stage writes) :
    stage = .reportWritten report now ∧ writes =
      [.report report.id state phase report.status.errorCode report.status.errorDetail now,
        .audit ⟨report.tenant, uuidText report.device, UpgradeReport.action state, report.id⟩] := by
  simp only [UpgradeReport.write] at outcome
  split at outcome
  · cases outcome
  · cases outcome
    exact ⟨rfl, rfl⟩

theorem next_knows (knows : SessionKnows store session)
    (outcome : (upgradeTransactions.pending store session).outcome = .next stage writes) :
    SessionKnows store ⟨stage,
      session.locks ++ (upgradeTransactions.pending store session).locks,
      session.writes ++ writes⟩ := by
  obtain ⟨current, locks, own⟩ := session
  cases current with
  | create request =>
      obtain rfl : own = [] := knows
      obtain ⟨identity, named, rfl, rfl⟩ := UpgradeRequest.identify_next outcome
      exact ⟨rfl, List.mem_append_right _ (List.mem_singleton_self _), named⟩
  | createIdentified request identity =>
      obtain ⟨rfl, creation⟩ : own = [] ∧ _ := knows
      obtain ⟨rfl, rfl⟩ := UpgradeRequest.replay_next outcome
      exact ⟨rfl, List.mem_append_left _ creation.node, creation.named⟩
  | createUnseen request identity =>
      obtain ⟨rfl, creation⟩ : own = [] ∧ _ := knows
      obtain ⟨rfl, rfl⟩ := UpgradeRequest.countActive_next outcome
      exact ⟨rfl, List.mem_append_left _ creation.node, creation.named⟩
  | createIdle request identity =>
      obtain ⟨rfl, creation⟩ : own = [] ∧ _ := knows
      obtain ⟨rfl, rfl⟩ := UpgradeRequest.offer_next outcome
      exact ⟨rfl, List.mem_append_left _ creation.node, creation.named⟩
  | createOffered request identity =>
      obtain ⟨rfl, creation⟩ : own = [] ∧ _ := knows
      obtain ⟨free, rfl, rfl⟩ := UpgradeRequest.insert_next outcome
      exact ⟨rfl, ⟨List.mem_append_left _ creation.node, creation.named⟩,
        List.mem_append_right _ (List.mem_singleton_self _), free⟩
  | poll request =>
      obtain rfl : own = [] := knows
      obtain ⟨result, rfl, rfl⟩ := UpgradePoll.read_next outcome
      exact rfl
  | polled request result =>
      obtain rfl : own = [] := knows
      obtain ⟨rfl, rfl⟩ := UpgradePoll.identify_next outcome
      exact rfl
  | pollIdentified request result =>
      obtain rfl : own = [] := knows
      obtain ⟨lock, rfl, rfl⟩ := UpgradePoll.settle_next outcome
      exact ⟨rfl, List.mem_append_right _ lock⟩
  | report report now state phase =>
      obtain ⟨rfl, valid⟩ : own = [] ∧ _ := knows
      obtain ⟨nodeId, rfl, rfl⟩ := UpgradeReport.find_next outcome
      exact ⟨rfl, valid⟩
  | reportFound report now state phase nodeId =>
      obtain ⟨rfl, valid⟩ : own = [] ∧ _ := knows
      obtain ⟨rfl, rfl⟩ := UpgradeReport.identify_next outcome
      exact ⟨rfl, valid⟩
  | reportIdentified report now state phase =>
      obtain ⟨rfl, valid⟩ : own = [] ∧ _ := knows
      obtain ⟨permitted, rfl, rfl⟩ := UpgradeReport.judge_next outcome
      exact ⟨rfl, valid, List.mem_append_right _ (List.mem_singleton_self _), permitted⟩
  | reportPermitted report now state phase =>
      obtain ⟨rfl, valid, known⟩ : own = [] ∧ _ := knows
      obtain ⟨rfl, rfl⟩ := UpgradeReport.write_next outcome
      exact ⟨state, phase, rfl, valid, List.mem_append_left _ known.job, known.permitted⟩
  | inventory report now =>
      obtain rfl : own = [] := knows
      cases outcome
      exact rfl
  | createInserted | pollExpired | reportWritten | inventoryWritten => cases outcome

end Statements

theorem CreationKnows.stays {request : UpgradeRequest} {identity : Uuid × Uuid}
    (knows : CreationKnows store session request identity)
    (same : store'.cloud.nodeIdentity request.tenant request.node =
      store.cloud.nodeIdentity request.tenant request.node) :
    CreationKnows store' session request identity :=
  ⟨knows.node, same.trans knows.named⟩

theorem ReportKnows.stays {report : UpgradeReport} {state : UpgradeState}
    (knows : ReportKnows store session report state)
    (kept : ∀ job ∈ store.jobs, job.id = report.id → job ∈ store'.jobs) :
    ReportKnows store' session report state := by
  obtain ⟨previous, present, same, permitted⟩ := knows.permitted
  exact ⟨knows.job, previous, kept previous present same, same, permitted⟩

/-- What a session knows survives a step of the store that leaves alone what
    the session has locked. -/
theorem SessionKnows.stays (knows : SessionKnows store session)
    (identity : ∀ tenantId nodeId, ⟨.node tenantId nodeId, .exclusive⟩ ∈ session.locks →
      store'.cloud.nodeIdentity tenantId nodeId = store.cloud.nodeIdentity tenantId nodeId)
    (kept : ∀ job ∈ store.jobs, ⟨.job job.id, .exclusive⟩ ∈ session.locks → job ∈ store'.jobs)
    (free : ∀ row : UpgradeJobRow, ⟨.node row.tenantId row.nodeId, .exclusive⟩ ∈ session.locks →
      ⟨.job row.id, .exclusive⟩ ∈ session.locks →
      (∀ old ∈ store.jobs, row.conflict old = false) →
      ∀ old ∈ store'.jobs, row.conflict old = false) :
    SessionKnows store' session := by
  obtain ⟨stage, locks, writes⟩ := session
  cases stage with
  | create | poll | polled | pollIdentified | inventory | pollExpired | report | reportFound
  | reportIdentified | inventoryWritten => exact knows
  | createIdentified | createUnseen | createIdle | createOffered =>
      exact ⟨knows.1, knows.2.stays (identity _ _ knows.2.node)⟩
  | createInserted request named =>
      obtain ⟨own, creation, job, before⟩ := knows
      exact ⟨own, creation.stays (identity _ _ creation.node), job,
        free (request.row named) creation.node job before⟩
  | reportPermitted report =>
      obtain ⟨own, valid, known⟩ := knows
      refine ⟨own, valid, known.stays ?_⟩
      intro job present same
      refine kept job present ?_
      rw [same]
      exact known.job
  | reportWritten report =>
      obtain ⟨state, phase, own, valid, known⟩ := knows
      refine ⟨state, phase, own, valid, known.stays ?_⟩
      intro job present same
      refine kept job present ?_
      rw [same]
      exact known.job

theorem apart_knows (change : UpgradeChange other.locks store store') (apart : Apart other session)
    (knows : SessionKnows store session) : SessionKnows store' session := by
  refine knows.stays ?_ ?_ ?_
  · intro tenantId nodeId _
    rw [change.cloud]
  · intro job present held
    exact change.unlocked present fun taken => apart.exclusive taken held
  · intro row node job before
    exact change.stays_free (fun taken => apart.exclusive taken node)
      (fun taken => apart.exclusive taken job) before

end Sessions

theorem writeResource_activeNode {mutation : ResourceMutation} {before after : List ResourceRow}
    (done : mutation.writeResource before = .ok after) {tenantId nodeId : Uuid}
    (other : ¬ (mutation.kind = .node ∧ mutation.tenantId = tenantId ∧ mutation.id = nodeId)) :
    after.find? (ResourceRow.activeNode tenantId nodeId) =
      before.find? (ResourceRow.activeNode tenantId nodeId) := by
  have elsewhere : mutation.row.activeNode tenantId nodeId = false := by
    rw [Bool.eq_false_iff]
    intro here
    simp only [ResourceRow.activeNode, ResourceRow.at, ResourceMutation.row, Bool.and_eq_true,
      beq_iff_eq] at here
    exact other ⟨here.1.1.2, here.1.1.1, here.1.2⟩
  unfold ResourceMutation.writeResource at done
  split at done
  · obtain ⟨-, rfl⟩ := insertRow_some.mp (orElse_ok.mp done)
    rw [List.find?_append, List.find?_singleton, elsewhere]
    simp
  · simp only [unit_bind_ok, pure_ok] at done
    obtain ⟨-, rfl⟩ := done
    simp only [← List.head?_filter]
    rw [filter_updateWhere_unwanted]
    · intro row chosen
      rw [Bool.eq_false_iff]
      intro here
      simp only [ResourceMutation.updates, ResourceRow.activeNode, ResourceRow.at,
        Bool.and_eq_true, beq_iff_eq] at chosen here
      obtain ⟨⟨⟨tenant, kind⟩, id⟩, -⟩ := chosen
      obtain ⟨⟨⟨ofTenant, ofKind⟩, ofId⟩, -⟩ := here
      exact other ⟨kind.symm.trans ofKind, tenant.symm.trans ofTenant, id.symm.trans ofId⟩
    · exact fun _ _ => elsewhere

theorem mutate_applied (cloud : Cloud) (mutation : ResourceMutation) (now : Instant)
    (fresh : Uuid → Uuid) (clock : Instant) :
    controlStep cloud (.mutate mutation now fresh clock) = cloud ∨
      mutation.carriedOut cloud now fresh clock = true ∧
      ∃ previous resources queue, Applied cloud mutation fresh clock previous resources queue
        (controlStep cloud (.mutate mutation now fresh clock)) := by
  simp only [controlStep]
  cases result : mutate cloud mutation now fresh clock with
  | error error => exact .inl rfl
  | ok pair =>
      obtain ⟨outcome, after⟩ := pair
      rcases mutate_ok result with ⟨-, same⟩ | ⟨rfl, applied⟩
      · exact .inl same
      · exact .inr ⟨by rw [ResourceMutation.carriedOut, result], applied⟩

theorem controlStep_nodeIdentity {cloud : Cloud} {call : ControlCall} {tenantId nodeId : Uuid}
    (unlocked : ⟨.node tenantId nodeId, .exclusive⟩ ∉ call.nodeLocks) :
    (controlStep cloud call).nodeIdentity tenantId nodeId = cloud.nodeIdentity tenantId nodeId := by
  cases call with
  | environment => rfl
  | mutate mutation now fresh clock =>
      rcases mutate_applied cloud mutation now fresh clock with
        same | ⟨-, previous, resources, queue, applied⟩
      · rw [same]
      · have other : ¬ (mutation.kind = .node ∧ mutation.tenantId = tenantId ∧
            mutation.id = nodeId) := by
          rintro ⟨kind, rfl, rfl⟩
          simp [ControlCall.nodeLocks, kind] at unlocked
        have found := writeResource_activeNode applied.written other
        rw [applied.result]
        simp only [Cloud.nodeIdentity, found]

/-- The job of the report has been where the report puts it. -/
def ReportAccepted (report : UpgradeReport) (store : UpgradeStore) : Prop :=
  ∃ state phase, report.status.validate = .ok (state, phase) ∧
    ∃ job ∈ store.jobs, job.id = report.id ∧ state.reaches job.state = true

section Reports

variable {store : UpgradeStore} {session : UpgradeSession} {report : UpgradeReport}
  {now : Instant} {answer : UpgradeAnswer}

theorem ReportAccepted.stays {locks : List (RowLock UpgradeLock)} {store' : UpgradeStore}
    (accepted : ReportAccepted report store) (change : UpgradeChange locks store store') :
    ReportAccepted report store' := by
  obtain ⟨state, phase, valid, job, present, same, reached⟩ := accepted
  obtain ⟨next, later, kept, moved⟩ := change.successor present
  refine ⟨state, phase, valid, next, later, kept.id.trans same, ?_⟩
  rcases moved with rfl | moved
  · exact reached
  · exact UpgradeState.reaches_moves reached moved

theorem opening_refused {call : UpgradeCall} (refused : upgradeOpening call = .error answer) :
    answer.reply ≠ .reported (.ok ()) := by
  cases call with
  | create request =>
      simp only [upgradeOpening] at refused
      split at refused
      · cases refused
        nofun
      · cases refused
  | poll request => cases refused
  | report report now =>
      simp only [upgradeOpening] at refused
      split at refused
      · cases refused
        nofun
      · cases refused
  | inventory report now =>
      simp only [upgradeOpening] at refused
      split at refused
      · cases refused
        nofun
      · cases refused

theorem rollback_refused {stage : UpgradeStage}
    (outcome : (upgradeStatement store stage).outcome = .rollback answer) :
    answer.reply ≠ .reported (.ok ()) := by
  cases stage with
  | create | createIdentified | createUnseen | createIdle | createOffered =>
      simp only [upgradeStatement, UpgradeRequest.identify, UpgradeRequest.replay,
        UpgradeRequest.countActive, UpgradeRequest.offer, UpgradeRequest.insert] at outcome
      repeat' split at outcome
      all_goals
        cases outcome
        try nofun
  | poll | polled | pollIdentified =>
      simp only [upgradeStatement, UpgradePoll.read, UpgradePoll.identify, UpgradePoll.settle]
        at outcome
      repeat' split at outcome
      all_goals
        cases outcome
        try nofun
  | report | reportFound | reportIdentified | reportPermitted =>
      simp only [upgradeStatement, UpgradeReport.find, UpgradeReport.identify,
        UpgradeReport.judge, UpgradeReport.write] at outcome
      repeat' split at outcome
      all_goals
        cases outcome
        try nofun
  | createInserted | pollExpired | reportWritten | inventory | inventoryWritten => cases outcome

theorem report_commit {stage : UpgradeStage}
    (outcome : (upgradeStatement store stage).outcome = .commit answer)
    (call : answer.call = .report report now) :
    (∃ state phase previous, stage = .reportIdentified report now state phase ∧
      store.jobs.find? (fun job => job.id == report.id) = some previous ∧
        report.recorded state phase previous = true) ∨
      stage = .reportWritten report now := by
  cases stage with
  | create | createIdentified | createUnseen | createIdle | createOffered | createInserted =>
      simp only [upgradeStatement, UpgradeRequest.identify, UpgradeRequest.replay,
        UpgradeRequest.countActive, UpgradeRequest.offer, UpgradeRequest.insert] at outcome
      repeat' split at outcome
      all_goals
        cases outcome
        try cases call
  | poll | polled | pollIdentified | pollExpired =>
      simp only [upgradeStatement, UpgradePoll.read, UpgradePoll.identify, UpgradePoll.settle]
        at outcome
      repeat' split at outcome
      all_goals
        cases outcome
        try cases call
  | report | reportFound | reportPermitted =>
      simp only [upgradeStatement, UpgradeReport.find, UpgradeReport.identify,
        UpgradeReport.write] at outcome
      repeat' split at outcome
      all_goals cases outcome
  | reportIdentified report now state phase =>
      simp only [upgradeStatement, UpgradeReport.judge] at outcome
      split at outcome
      · cases outcome
      · rename_i previous found
        split at outcome
        · rename_i same
          cases outcome
          cases call
          exact .inl ⟨state, phase, previous, rfl, found, same⟩
        · split at outcome
          · cases outcome
          · cases outcome
  | reportWritten report now =>
      cases outcome
      cases call
      exact .inr rfl
  | inventory => cases outcome
  | inventoryWritten =>
      cases outcome
      cases call

theorem commit_accepted (knows : SessionKnows store session)
    (outcome : (upgradeTransactions.pending store session).outcome = .commit answer)
    (call : answer.call = .report report now) :
    ReportAccepted report (upgradeTransactions.seen store session) := by
  rcases report_commit outcome call with ⟨state, phase, previous, stage, found, same⟩ | stage
  · simp only [SessionKnows, stage] at knows
    obtain ⟨writes, valid⟩ := knows
    refine ⟨state, phase, valid, previous, List.mem_of_find?_eq_some found, ?_, ?_⟩
    · simpa using List.find?_some found
    · simp only [UpgradeReport.recorded, Bool.and_eq_true, beq_iff_eq] at same
      rw [same.1.1.1]
      exact state.reaches_refl
  · simp only [SessionKnows, stage] at knows
    obtain ⟨state, phase, writes, valid, known⟩ := knows
    obtain ⟨previous, present, same, permitted⟩ := known.permitted
    refine ⟨state, phase, valid, ?_⟩
    simp only [Transactions.seen, writes]
    refine ⟨_, mem_updateWhere.mpr ⟨previous, present, rfl⟩, ?_⟩
    rw [if_pos (beq_iff_eq.mpr same)]
    exact ⟨same, state.reaches_refl⟩

theorem commit_repeated (unique : (store.jobs.map (·.id)).Nodup)
    (knows : SessionKnows store session) (accepted : ReportAccepted report store)
    (outcome : (upgradeTransactions.pending store session).outcome = .commit answer)
    (call : answer.call = .report report now) :
    upgradeTransactions.seen store session = store := by
  rcases report_commit outcome call with ⟨state, phase, previous, stage, found, same⟩ | stage
  · simp only [SessionKnows, stage] at knows
    simp only [Transactions.seen, knows.1, List.foldl_nil]
  · simp only [SessionKnows, stage] at knows
    obtain ⟨state, phase, writes, valid, known⟩ := knows
    obtain ⟨previous, present, same, permitted⟩ := known.permitted
    obtain ⟨state', phase', valid', job, there, sameJob, reached⟩ := accepted
    have here : previous = job := eq_of_key unique present there (same.trans sameJob.symm)
    rw [valid] at valid'
    obtain ⟨rfl, rfl⟩ := Prod.mk.inj (Except.ok.inj valid')
    rw [← here, UpgradeState.not_reaches_of_permits permitted] at reached
    cases reached

end Reports

/-- What every run keeps. -/
structure UpgradeInvariant (system : UpgradeSystem) : Prop where
  guarded : Transactions.Guarded (fun store => JobsInvariant store.jobs) SessionKnows system
  accepted : ∀ report now, ⟨.report report now, .reported (.ok ())⟩ ∈ system.answers →
    ReportAccepted report system.store

section Runs

variable {system : UpgradeSystem}

theorem initial_invariant (cloud : Cloud) (inventories : List UpgradeInventoryRow) :
    UpgradeInvariant (UpgradeSystem.initial cloud inventories) := by
  refine ⟨⟨⟨List.nodup_nil, ?_⟩, ?_, List.Pairwise.nil⟩, ?_⟩
  · exact fun _ member => absurd member List.not_mem_nil
  · exact fun _ member => absurd member List.not_mem_nil
  · exact fun _ _ member => absurd member List.not_mem_nil

theorem session_guarded (inv : UpgradeInvariant system) (event : Event UpgradeCall) :
    Transactions.Guarded (fun store => JobsInvariant store.jobs) SessionKnows
      (upgradeTransactions.step system event) := by
  refine Transactions.guarded_step ?_ ?_ ?_ ?_ inv.guarded event
    (Transactions.permits_all system event)
  · intro store call stage _ opened
    exact opening_knows opened
  · intro store session stage writes _ knows _ outcome
    exact next_knows knows outcome
  · intro store session answer jobs knows _
    exact (seen_change jobs.ids knows).invariant jobs
  · intro store session other answer jobs knows known apart _
    exact apart_knows (seen_change jobs.ids knows) apart known

theorem session_change (inv : UpgradeInvariant system) (event : Event UpgradeCall) :
    ∃ locks, UpgradeChange locks system.store (upgradeTransactions.step system event).store := by
  rcases upgradeTransactions.step_store system event with same | ⟨session, member, answer, -, after⟩
  · rw [same]
    exact ⟨[], .nothing⟩
  · rw [after]
    exact ⟨_, seen_change inv.guarded.store.ids (inv.guarded.sessions session member)⟩

theorem session_accepted (inv : UpgradeInvariant system) (event : Event UpgradeCall) :
    ∀ report now, ⟨.report report now, .reported (.ok ())⟩ ∈
        (upgradeTransactions.step system event).answers →
      ReportAccepted report (upgradeTransactions.step system event).store := by
  intro report now answered
  obtain ⟨locks, change⟩ := session_change inv event
  rcases upgradeTransactions.step_cases system event with
    ⟨-, answers⟩ | ⟨answer, -, answers, refused⟩ | ⟨session, member, answer, outcome, after, answers⟩
  · rw [answers] at answered
    exact (inv.accepted report now answered).stays change
  · rw [answers] at answered
    rcases mem_concat.mp answered with before | new
    · exact (inv.accepted report now before).stays change
    · have accepting : answer.reply = .reported (.ok ()) := by
        rw [← new]
      rcases refused with ⟨call, opened⟩ | ⟨session, -, outcome⟩
      · exact absurd accepting (opening_refused opened)
      · exact absurd accepting (rollback_refused outcome)
  · rw [answers] at answered
    rcases mem_concat.mp answered with before | new
    · exact (inv.accepted report now before).stays change
    · have call : answer.call = .report report now := by
        rw [← new]
      rw [after]
      exact commit_accepted (inv.guarded.sessions session member) outcome call

theorem control_invariant (inv : UpgradeInvariant system) {call : ControlCall}
    (free : blocked call.nodeLocks system.sessions = false) :
    UpgradeInvariant { system with
      store := { system.store with cloud := controlStep system.store.cloud call } } := by
  refine ⟨⟨inv.guarded.store, ?_, inv.guarded.apart⟩, inv.accepted⟩
  intro session member
  refine (inv.guarded.sessions session member).stays ?_ ?_ ?_
  · intro tenantId nodeId held
    refine controlStep_nodeIdentity ?_
    intro taken
    have apart := blocked_false free session member _ held _ taken
    simp [RowLock.conflicts] at apart
  · exact fun _ present _ => present
  · exact fun _ _ _ before => before

theorem upgradeStep_invariant (inv : UpgradeInvariant system) (event : UpgradeEvent) :
    UpgradeInvariant (upgradeStep system event) := by
  cases event with
  | upgrade event => exact ⟨session_guarded inv event, session_accepted inv event⟩
  | control call =>
      simp only [upgradeStep]
      split
      · exact inv
      · rename_i free
        exact control_invariant inv (Bool.not_eq_true _ ▸ free)

theorem run_upgrade_invariant (cloud : Cloud) (inventories : List UpgradeInventoryRow)
    (events : List UpgradeEvent) :
    UpgradeInvariant (run upgradeStep (UpgradeSystem.initial cloud inventories) events) :=
  run_invariant (P := UpgradeInvariant) (fun _ event inv => upgradeStep_invariant inv event)
    (initial_invariant cloud inventories) events

theorem upgradeStep_change (inv : UpgradeInvariant system) (event : UpgradeEvent) :
    ∃ locks store, UpgradeChange locks system.store store ∧
      (upgradeStep system event).store.jobs = store.jobs := by
  cases event with
  | upgrade event =>
      obtain ⟨locks, change⟩ := session_change inv event
      exact ⟨locks, _, change, rfl⟩
  | control call =>
      refine ⟨[], system.store, .nothing, ?_⟩
      simp only [upgradeStep]
      split
      · rfl
      · rfl

/-- The report has been accepted before, or says what its job records. -/
def Repeated (system : UpgradeSystem) (report : UpgradeReport) : Prop :=
  (∃ earlier, ⟨.report report earlier, .reported (.ok ())⟩ ∈ system.answers) ∨
    ∃ job ∈ system.store.jobs, job.id = report.id ∧
      ∃ state phase, report.status.validate = .ok (state, phase) ∧
        report.recorded state phase job = true

/-- What holds of the jobs in every state. -/
structure UpgradeDiscipline (system : UpgradeSystem) : Prop where
  ids : (system.store.jobs.map (·.id)).Nodup
  oneActive : ∀ tenantId nodeId, (system.store.jobs.filter fun job =>
    job.of tenantId nodeId && job.state.active).length ≤ 1
  moves : ∀ event, ∀ job ∈ system.store.jobs, ∃ next ∈ (upgradeStep system event).store.jobs,
    job.Kept next ∧ (next = job ∨ job.state.moves next.state = true)
  born : ∀ event, ∀ next ∈ (upgradeStep system event).store.jobs,
    (∃ job ∈ system.store.jobs, job.id = next.id) ∨ next.state = .pending
  final : ∀ later, ∀ job ∈ system.store.jobs, job.state.terminal = true →
    job ∈ (run upgradeStep system later).store.jobs
  repeated : ∀ event report now reply,
    (upgradeStep system event).answers = system.answers ++ [⟨.report report now, reply⟩] →
    Repeated system report → (upgradeStep system event).store = system.store

theorem Repeated.accepted (inv : UpgradeInvariant system) {report : UpgradeReport}
    (repeated : Repeated system report) : ReportAccepted report system.store := by
  rcases repeated with ⟨earlier, answered⟩ | ⟨job, present, same, state, phase, valid, recorded⟩
  · exact inv.accepted report earlier answered
  · refine ⟨state, phase, valid, job, present, same, ?_⟩
    simp only [UpgradeReport.recorded, Bool.and_eq_true, beq_iff_eq] at recorded
    rw [recorded.1.1.1]
    exact state.reaches_refl

theorem oneActive_length (inv : JobsInvariant system.store.jobs) (tenantId nodeId : Uuid) :
    (system.store.jobs.filter fun job => job.of tenantId nodeId && job.state.active).length ≤ 1 := by
  refine length_filter_le_one (List.Nodup.of_map _ inv.ids) ?_
  intro a memberA b memberB openA openB
  simp only [Bool.and_eq_true, UpgradeJobRow.of_iff] at openA openB
  refine inv.oneActive a memberA b memberB ?_ openA.2 openB.2
  rw [UpgradeJobRow.of_iff, openB.1.1, openB.1.2]
  exact openA.1

theorem terminal_stays (inv : UpgradeInvariant system) {job : UpgradeJobRow}
    (present : job ∈ system.store.jobs) (terminal : job.state.terminal = true)
    (event : UpgradeEvent) : job ∈ (upgradeStep system event).store.jobs := by
  obtain ⟨locks, store, change, jobs⟩ := upgradeStep_change inv event
  obtain ⟨next, later, -, moved⟩ := change.successor present
  rw [jobs]
  rcases moved with rfl | moved
  · exact later
  · have active := UpgradeState.active_of_moves moved
    simp [UpgradeState.terminal, active] at terminal

theorem repeated_unchanged (inv : UpgradeInvariant system) {event : UpgradeEvent}
    {report : UpgradeReport} {now : Instant} {reply : UpgradeReply}
    (answered : (upgradeStep system event).answers =
      system.answers ++ [⟨.report report now, reply⟩])
    (accepted : ReportAccepted report system.store) :
    (upgradeStep system event).store = system.store := by
  cases event with
  | control call =>
      simp only [upgradeStep] at answered
      split at answered <;> simp at answered
  | upgrade event =>
      rcases upgradeTransactions.step_cases system event with
        ⟨same, -⟩ | ⟨-, same, -⟩ | ⟨session, member, answer, outcome, after, answers⟩
      · exact same
      · exact same
      · have call : answer.call = .report report now := by
          have last := List.append_cancel_left (answers.symm.trans answered)
          rw [(List.cons.inj last).1]
        exact after.trans (commit_repeated inv.guarded.store.ids
          (inv.guarded.sessions session member) accepted outcome call)

theorem UpgradeInvariant.discipline (inv : UpgradeInvariant system) :
    UpgradeDiscipline system where
  ids := inv.guarded.store.ids
  oneActive := oneActive_length inv.guarded.store
  moves := by
    intro event job present
    obtain ⟨locks, store, change, jobs⟩ := upgradeStep_change inv event
    rw [jobs]
    exact change.successor present
  born := by
    intro event next present
    obtain ⟨locks, store, change, jobs⟩ := upgradeStep_change inv event
    rw [jobs] at present
    rcases change.origin present with ⟨old, member, kept, -⟩ | ⟨-, pending, -⟩
    · exact .inl ⟨old, member, kept.id.symm⟩
    · exact .inr pending
  final := by
    intro later job present terminal
    have kept : UpgradeInvariant (run upgradeStep system later) ∧
        job ∈ (run upgradeStep system later).store.jobs :=
      run_invariant (P := fun system => UpgradeInvariant system ∧ job ∈ system.store.jobs)
        (fun _ event both => ⟨upgradeStep_invariant both.1 event,
          terminal_stays both.1 both.2 terminal event⟩) ⟨inv, present⟩ later
    exact kept.2
  repeated := fun _ _ _ _ answered repeated =>
    repeated_unchanged inv answered (repeated.accepted inv)

/-- In every interleaving, from a store without jobs. -/
theorem upgrade_jobs_disciplined (cloud : Cloud) (inventories : List UpgradeInventoryRow)
    (events : List UpgradeEvent) :
    UpgradeDiscipline (run upgradeStep (UpgradeSystem.initial cloud inventories) events) :=
  (run_upgrade_invariant cloud inventories events).discipline

end Runs

end CandyCloud
