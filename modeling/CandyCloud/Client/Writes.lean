import CandyCloud.Client.Projection

/-! # The writes of issued documents

`write_grant` and `write_projection` on their own refuse the write, find the
request answered, or insert the row. In the last case every check of the
transaction has passed.
-/

namespace CandyCloud

open Foundation

variable {condition : Prop} {stage : ClientStage} {writes : List ClientWrite}
  {answer : ClientAnswer} {statements : Nat}

section Programs

variable {sha256 : Bytes → Hash} {store : ClientStore} {refusal : ClientAnswer → Prop}
  {goal : Option ClientAnswer × ClientStore → Prop}

/-- The call gave one of the answers that leave the store, or reached the goal. -/
def Resolves (store : ClientStore) (refusal : ClientAnswer → Prop)
    (goal : Option ClientAnswer × ClientStore → Prop) (served : Option ClientAnswer × ClientStore) :
    Prop :=
  (∃ answer, refusal answer ∧ served = (some answer, store)) ∨ goal served

/-- The statement goes on when the condition holds, and otherwise rolls back with
    one of the answers. -/
def PassesOr (refusal : ClientAnswer → Prop) (statement : ClientStatement) (condition : Prop)
    (stage : ClientStage) (writes : List ClientWrite) : Prop :=
  (condition ∧ statement.outcome = .next stage writes) ∨
    ∃ answer, refusal answer ∧ statement.outcome = .rollback answer

theorem passesOr_if [Decidable condition] (refused : refusal answer) :
    PassesOr refusal
      (if condition then ⟨[], .next stage writes⟩ else answerRollback answer) condition stage
      writes := by
  by_cases holds : condition
  · exact .inl ⟨holds, by rw [if_pos holds]⟩
  · exact .inr ⟨answer, refused, by rw [if_neg holds]; rfl⟩

theorem Resolves.check {stage' : ClientStage} {more : List ClientWrite} (passes : PassesOr refusal
      (clientStatement sha256 (writes.foldl ClientStore.apply store) stage) condition stage' more)
    (rest : condition → Resolves store refusal goal
      ((clientTransactions sha256).alone store statements stage' (writes ++ more))) :
    Resolves store refusal goal
      ((clientTransactions sha256).alone store (statements + 1) stage writes) := by
  rcases passes with ⟨holds, outcome⟩ | ⟨answer, refused, outcome⟩
  · rw [Transactions.alone_next outcome]
    exact rest holds
  · rw [Transactions.alone_rollback outcome]
    exact .inl ⟨answer, refused, rfl⟩

theorem Resolves.done
    (outcome : (clientStatement sha256 (writes.foldl ClientStore.apply store) stage).outcome =
      .commit answer) (reached : goal (some answer, writes.foldl ClientStore.apply store)) :
    Resolves store refusal goal
      ((clientTransactions sha256).alone store (statements + 1) stage writes) := by
  rw [Transactions.alone_commit outcome]
  exact .inr reached

end Programs

section Grants

variable {sha256 : Bytes → Hash} {store : ClientStore} {grant : ClientGrantWrite}

/-- What the transaction has checked when it inserts the row. -/
structure GrantInsertable (sha256 : Bytes → Hash) (store : ClientStore) (grant : ClientGrantWrite) :
    Prop where
  opened : openGrant grant = .ok (.grantOpened grant)
  device : store.deviceIs .active grant.audience = true
  key : store.keyActive grant.audience = true
  unanswered : store.grantRequest grant.audience.scope.tenantId grant.audience.clientDeviceId
    grant.requestId = none
  next : grant.generation =
    store.grantGeneration grant.audience.scope.tenantId grant.audience.clientDeviceId + 1
  free : ∀ old ∈ store.grants, (grant.row sha256).clashes old = false

/-- An error, or the grant that the request already has. -/
def GrantRefusal (store : ClientStore) (grant : ClientGrantWrite) (answer : ClientAnswer) : Prop :=
  (∃ error, answer = .grant (.error error)) ∨
    ∃ stored, store.grantRequest grant.audience.scope.tenantId grant.audience.clientDeviceId
      grant.requestId = some stored ∧
      answer = .grant (.ok (.issued stored.id stored.generation true))

theorem grantReplay_passesOr (grant : ClientGrantWrite) (view : ClientStore) :
    PassesOr (GrantRefusal store grant) (checkGrantReplay store grant view)
      (store.grantRequest grant.audience.scope.tenantId grant.audience.clientDeviceId
        grant.requestId = none) (.grantReplayChecked grant view) [] := by
  unfold checkGrantReplay
  split
  · rename_i stored found
    split
    · exact .inr ⟨_, .inr ⟨stored, found, rfl⟩, rfl⟩
    · exact .inr ⟨_, .inl ⟨_, rfl⟩, rfl⟩
  · rename_i found
    exact .inl ⟨found, rfl⟩

theorem grantGeneration_passesOr (grant : ClientGrantWrite) (view : ClientStore) :
    PassesOr (GrantRefusal store grant) (checkGrantGeneration store grant view)
      (grant.generation = store.grantGeneration grant.audience.scope.tenantId
        grant.audience.clientDeviceId + 1) (.grantNumbered grant view) [] := by
  unfold checkGrantGeneration
  simp only
  split
  · exact .inr ⟨_, .inl ⟨_, rfl⟩, rfl⟩
  · rename_i expected
    refine .inl ⟨?_, rfl⟩
    simp only [saturatingAdd, maxGrantGeneration, u64Max] at expected
    omega

theorem insertGrant_passesOr (grant : ClientGrantWrite) :
    PassesOr (GrantRefusal store grant) (insertGrant sha256 store grant)
      (∀ old ∈ store.grants, (grant.row sha256).clashes old = false) (.grantInserted grant)
      [.insertGrant (grant.row sha256)] := by
  simp only [insertGrant, locking]
  split
  · exact .inr ⟨_, .inl ⟨_, rfl⟩, rfl⟩
  · rename_i free
    rw [List.any_eq_true, not_exists] at free
    refine .inl ⟨fun old member => ?_, rfl⟩
    exact Bool.eq_false_iff.mpr fun clash => free old ⟨member, clash⟩

theorem resolves_grant (sha256 : Bytes → Hash) (store : ClientStore) (grant : ClientGrantWrite) :
    Resolves store (GrantRefusal store grant)
      (fun served => GrantInsertable sha256 store grant ∧
        served = (some (.grant (.ok (.issued grant.grantId grant.generation false))),
          store.apply (.insertGrant (grant.row sha256))))
      ((clientTransactions sha256).serial longestProgram store (.writeGrant grant)) := by
  simp only [Transactions.serial, clientTransactions, clientOpening]
  cases opened : openGrant grant with
  | error error => exact .inl ⟨_, .inl ⟨error, rfl⟩, rfl⟩
  | ok stage =>
      have stages := opened
      rw [openGrant, unit_bind_ok, unit_bind_ok, pure_ok] at stages
      obtain ⟨-, -, rfl⟩ := stages
      refine .check (passesOr_if (.inl ⟨_, rfl⟩)) fun device => ?_
      refine .check (passesOr_if (.inl ⟨_, rfl⟩)) fun key => ?_
      refine .check (grantReplay_passesOr grant store) fun unanswered => ?_
      refine .check (grantGeneration_passesOr grant store) fun next => ?_
      refine .check (insertGrant_passesOr grant) fun free => ?_
      exact .done rfl ⟨⟨opened, device, key, unanswered, next, free⟩, rfl⟩

theorem writeGrant_cases (sha256 : Bytes → Hash) (store : ClientStore) (grant : ClientGrantWrite) :
    (∃ error, writeGrant sha256 store grant = (.error error, store)) ∨
    (∃ stored, store.grantRequest grant.audience.scope.tenantId grant.audience.clientDeviceId
        grant.requestId = some stored ∧
      writeGrant sha256 store grant = (.ok (.issued stored.id stored.generation true), store)) ∨
    (GrantInsertable sha256 store grant ∧ writeGrant sha256 store grant =
      (.ok (.issued grant.grantId grant.generation false),
        store.apply (.insertGrant (grant.row sha256)))) := by
  rcases resolves_grant sha256 store grant with
    ⟨answer, ⟨error, rfl⟩ | ⟨stored, found, rfl⟩, served⟩ | ⟨insertable, served⟩
  · exact .inl ⟨error, by rw [writeGrant, served]; rfl⟩
  · exact .inr (.inl ⟨stored, found, by rw [writeGrant, served]; rfl⟩)
  · exact .inr (.inr ⟨insertable, by rw [writeGrant, served]; rfl⟩)

end Grants

section Projections

variable {sha256 : Bytes → Hash} {store : ClientStore} {projection : ClientProjectionWrite}

/-- The device of the projection, active and in the mode it was signed for. -/
def ProjectionDevice (store : ClientStore) (projection : ClientProjectionWrite) : Prop :=
  ∃ device ∈ store.devices, device.id = projection.audience.clientDeviceId ∧
    device.scope = projection.audience.scope ∧ device.status = .active ∧
    device.trafficMode = projection.deviceTrafficMode

structure ProjectionInsertable (store : ClientStore) (projection : ClientProjectionWrite) : Prop where
  valid : projection.validate = .ok ()
  grant : store.grantActive projection.grantId projection.audience = true
  device : ProjectionDevice store projection
  unanswered : store.projectionRequest projection.audience.scope.tenantId
    projection.audience.clientDeviceId projection.requestId = none
  next : projection.generation = store.projectionGeneration projection.audience.scope.tenantId
    projection.audience.clientDeviceId + 1
  free : ∀ old ∈ store.projections, projection.row.clashes old = false

def ClientStore.publish (store : ClientStore) (projection : ClientProjectionWrite) : ClientStore :=
  (store.apply (.supersedeProjections projection.audience.scope.tenantId
    projection.audience.clientDeviceId)).apply (.insertProjection projection.row)

/-- An error, or the projection that the request already has. -/
def ProjectionRefusal (store : ClientStore) (projection : ClientProjectionWrite)
    (answer : ClientAnswer) : Prop :=
  (∃ error, answer = .projection (.error error)) ∨
    ∃ stored, store.projectionRequest projection.audience.scope.tenantId
      projection.audience.clientDeviceId projection.requestId = some stored ∧
      answer = .projection (.ok (.published stored.id stored.generation true))

theorem lockProjectionDevice_passesOr (projection : ClientProjectionWrite) :
    PassesOr (ProjectionRefusal store projection) (lockProjectionDevice store projection)
      (ProjectionDevice store projection) (.projectionDeviceLocked projection) [] := by
  unfold lockProjectionDevice
  split
  · exact .inr ⟨_, .inl ⟨_, rfl⟩, rfl⟩
  · rename_i device found
    simp only [locking]
    split
    · rename_i facts
      have named := List.find?_some found
      rw [decide_eq_true_eq] at named
      exact .inl ⟨⟨device, List.mem_of_find?_eq_some found, named, facts⟩, rfl⟩
    · exact .inr ⟨_, .inl ⟨_, rfl⟩, rfl⟩

theorem projectionReplay_passesOr (projection : ClientProjectionWrite) :
    PassesOr (ProjectionRefusal store projection) (checkProjectionReplay store projection)
      (store.projectionRequest projection.audience.scope.tenantId
        projection.audience.clientDeviceId projection.requestId = none)
      (.projectionReplayChecked projection) [] := by
  unfold checkProjectionReplay
  split
  · rename_i stored found
    split
    · exact .inr ⟨_, .inr ⟨stored, found, rfl⟩, rfl⟩
    · exact .inr ⟨_, .inl ⟨_, rfl⟩, rfl⟩
  · rename_i found
    exact .inl ⟨found, rfl⟩

theorem projectionGeneration_passesOr (projection : ClientProjectionWrite) :
    PassesOr (ProjectionRefusal store projection) (checkProjectionGeneration store projection)
      (projection.generation = store.projectionGeneration projection.audience.scope.tenantId
        projection.audience.clientDeviceId + 1) (.projectionNumbered projection) [] := by
  unfold checkProjectionGeneration
  simp only
  split
  · exact .inr ⟨_, .inl ⟨_, rfl⟩, rfl⟩
  · rename_i expected
    refine .inl ⟨?_, rfl⟩
    simp only [saturatingAdd, maxProjectionGeneration, u64Max] at expected
    omega

theorem insertProjection_passesOr (projection : ClientProjectionWrite) :
    PassesOr (ProjectionRefusal store projection)
      (insertClientProjection (store.apply (.supersedeProjections
        projection.audience.scope.tenantId projection.audience.clientDeviceId)) projection)
      (∀ old ∈ store.projections, projection.row.clashes old = false)
      (.projectionInserted projection) [.insertProjection projection.row] := by
  unfold insertClientProjection
  split
  · exact .inr ⟨_, .inl ⟨_, rfl⟩, rfl⟩
  · rename_i free
    rw [List.any_eq_true, not_exists] at free
    refine .inl ⟨fun old member => ?_, rfl⟩
    refine Bool.eq_false_iff.mpr fun clash => ?_
    refine free _ ⟨mem_updateWhere.mpr ⟨old, member, rfl⟩, ?_⟩
    split
    · exact clash
    · exact clash

theorem resolves_projection (sha256 : Bytes → Hash) (store : ClientStore)
    (projection : ClientProjectionWrite) :
    Resolves store (ProjectionRefusal store projection)
      (fun served => ProjectionInsertable store projection ∧
        served = (some (.projection (.ok (.published projection.projectionId projection.generation
          false))), store.publish projection))
      ((clientTransactions sha256).serial longestProgram store (.writeProjection projection)) := by
  simp only [Transactions.serial, clientTransactions, clientOpening]
  cases valid : projection.validate with
  | error error => exact .inl ⟨_, .inl ⟨error, rfl⟩, rfl⟩
  | ok _ =>
      refine .check (passesOr_if (.inl ⟨_, rfl⟩)) fun grant => ?_
      refine .check (lockProjectionDevice_passesOr projection) fun device => ?_
      refine .check (projectionReplay_passesOr projection) fun unanswered => ?_
      refine .check (projectionGeneration_passesOr projection) fun next => ?_
      refine .check (.inl ⟨trivial, rfl⟩) fun _ => ?_
      refine .check (insertProjection_passesOr projection) fun free => ?_
      exact .done rfl ⟨⟨valid, grant, device, unanswered, next, free⟩, rfl⟩

theorem writeProjection_cases (sha256 : Bytes → Hash) (store : ClientStore)
    (projection : ClientProjectionWrite) :
    (∃ error, writeProjection sha256 store projection = (.error error, store)) ∨
    (∃ stored, store.projectionRequest projection.audience.scope.tenantId
        projection.audience.clientDeviceId projection.requestId = some stored ∧
      writeProjection sha256 store projection =
        (.ok (.published stored.id stored.generation true), store)) ∨
    (ProjectionInsertable store projection ∧ writeProjection sha256 store projection =
      (.ok (.published projection.projectionId projection.generation false),
        store.publish projection)) := by
  rcases resolves_projection sha256 store projection with
    ⟨answer, ⟨error, rfl⟩ | ⟨stored, found, rfl⟩, served⟩ | ⟨insertable, served⟩
  · exact .inl ⟨error, by rw [writeProjection, served]; rfl⟩
  · exact .inr (.inl ⟨stored, found, by rw [writeProjection, served]; rfl⟩)
  · exact .inr (.inr ⟨insertable, by rw [writeProjection, served]; rfl⟩)

end Projections

end CandyCloud
