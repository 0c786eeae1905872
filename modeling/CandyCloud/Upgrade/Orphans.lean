import CandyCloud.Control.Integrity
import CandyCloud.Upgrade.Discipline

/-! # Upgrade jobs and the nodes they belong to

An open job can be finished or expired only by the device and the key that its node names now.
-/

namespace CandyCloud

open Foundation

/-- Every open job belongs to an active node that still names its device. -/
def NoOrphan (store : UpgradeStore) : Prop :=
  ∀ job ∈ store.jobs, job.state.active = true →
    ∃ row ∈ store.cloud.control.resources, row.activeNode job.tenantId job.nodeId = true ∧
      row.document.resource.node?.map NodeV1.identity = some (job.deviceId, job.deviceKeyId)

instance (store : UpgradeStore) : Decidable (NoOrphan store) :=
  inferInstanceAs (Decidable (∀ job ∈ store.jobs, _ → ∃ row ∈ _, _ ∧ _))

/-- A mutation of a node with an open job that is carried out leaves it active with the
    device and the key of the job. -/
def SparesJobs (system : UpgradeSystem) : UpgradeEvent → Prop
  | .control (.mutate mutation now fresh clock) =>
      mutation.kind = .node → mutation.carriedOut system.store.cloud now fresh clock = true →
        ∀ job ∈ system.store.jobs,
          job.of mutation.tenantId mutation.id = true → job.state.active = true →
          mutation.resource.metadata.state = .active ∧
            mutation.resource.resource.node?.map NodeV1.identity =
              some (job.deviceId, job.deviceKeyId)
  | .control (.environment _ _ _) | .upgrade _ => True

instance (system : UpgradeSystem) : ∀ event, Decidable (SparesJobs system event)
  | .control (.mutate mutation _ _ _) =>
      inferInstanceAs (Decidable (mutation.kind = .node → _ → ∀ job ∈ system.store.jobs, _))
  | .control (.environment _ _ _) | .upgrade _ => .isTrue trivial

/-- The same in the words of `identity`. -/
def Owned (cloud : Cloud) (job : UpgradeJobRow) : Prop :=
  cloud.nodeIdentity job.tenantId job.nodeId = .ok (job.deviceId, job.deviceKeyId)

variable {cloud : Cloud} {identity : Uuid × Uuid} {mutation : ResourceMutation}
  {fresh : Uuid → Uuid} {clock : Instant}

theorem nodeIdentity_ok {tenantId nodeId : Uuid} :
    cloud.nodeIdentity tenantId nodeId = .ok identity ↔
      ∃ row, cloud.control.resources.find? (ResourceRow.activeNode tenantId nodeId) = some row ∧
        row.document.resource.node?.map NodeV1.identity = some identity := by
  simp only [Cloud.nodeIdentity, orElse_bind_ok, orElse_ok]

theorem applied_nodeIdentity {cloud' : Cloud} {previous : Option ControlResourceV1}
    {resources : List ResourceRow} {queue : GenerationQueue}
    (graph : GraphInvariant mutation.tenantId cloud.control)
    (applied : Applied cloud mutation fresh clock previous resources queue cloud')
    (kind : mutation.kind = .node) (state : mutation.resource.metadata.state = .active)
    (named : mutation.resource.resource.node?.map NodeV1.identity = some identity) :
    cloud'.nodeIdentity mutation.tenantId mutation.id = .ok identity := by
  have table := writeResource_written graph applied.written
  have here : mutation.row.activeNode mutation.tenantId mutation.id = true := by
    simp only [ResourceRow.activeNode, ResourceMutation.row, ResourceRow.at, kind, state,
      beq_self_eq_true, Bool.and_self]
  rw [nodeIdentity_ok, applied.result]
  cases located : resources.find? (ResourceRow.activeNode mutation.tenantId mutation.id) with
  | none => exact absurd here (List.find?_eq_none.mp located _ table.new)
  | some row =>
      refine ⟨row, rfl, ?_⟩
      rcases table.only row (List.mem_of_find?_eq_some located) with rfl | ⟨-, elsewhere⟩
      · exact named
      · have found := List.find?_some located
        simp only [ResourceRow.activeNode, Bool.and_eq_true] at found
        rw [kind, found.1] at elsewhere
        cases elsewhere

theorem UpgradeChange.owned {locks : List (RowLock UpgradeLock)} {store store' : UpgradeStore}
    (change : UpgradeChange locks store store')
    (owned : ∀ job ∈ store.jobs, job.state.active = true → Owned store.cloud job) :
    ∀ job ∈ store'.jobs, job.state.active = true → Owned store'.cloud job := by
  intro job present active
  cases change with
  | nothing => exact owned job present active
  | recorded => exact owned job present active
  | created node lock named free =>
      rcases mem_concat.mp present with old | rfl
      · exact owned job old active
      · exact named
  | moved lock own kept legal =>
      obtain ⟨old, member, rfl⟩ := mem_updateWhere.mp present
      split
      · rename_i chosen
        have same := kept old
        have before := owned old member (UpgradeState.active_of_moves (legal old member chosen))
        rw [Owned, same.tenantId, same.nodeId, same.deviceId, same.deviceKeyId]
        exact before
      · rename_i unchosen
        rw [if_neg unchosen] at active
        exact owned old member active

/-- What a run that spares the jobs keeps. -/
structure OwnedInvariant (system : UpgradeSystem) : Prop where
  upgrade : UpgradeInvariant system
  control : ∀ tenantId, Addressed tenantId system.store.cloud.control
  owned : ∀ job ∈ system.store.jobs, job.state.active = true → Owned system.store.cloud job

section Steps

variable {system : UpgradeSystem}

theorem initial_owned (empty : ∀ tenantId, cloud.control.EmptyTenant tenantId)
    (inventories : List UpgradeInventoryRow) :
    OwnedInvariant (UpgradeSystem.initial cloud inventories) where
  upgrade := initial_invariant cloud inventories
  control := fun tenantId => (empty tenantId).addressed
  owned := fun _ member => absurd member List.not_mem_nil

theorem mutate_owned (inv : OwnedInvariant system) {now : Instant}
    (spares : SparesJobs system (.control (.mutate mutation now fresh clock))) {job : UpgradeJobRow}
    (present : job ∈ system.store.jobs) (active : job.state.active = true) :
    Owned (controlStep system.store.cloud (.mutate mutation now fresh clock)) job := by
  have before := inv.owned job present active
  by_cases here : mutation.kind = .node ∧ mutation.tenantId = job.tenantId ∧
      mutation.id = job.nodeId
  · obtain ⟨kind, tenant, node⟩ := here
    have own : job.of mutation.tenantId mutation.id = true :=
      UpgradeJobRow.of_iff.mpr ⟨tenant.symm, node.symm⟩
    rcases mutate_applied system.store.cloud mutation now fresh clock with
      same | ⟨carried, previous, resources, queue, applied⟩
    · rw [same]
      exact before
    · obtain ⟨state, named⟩ := spares kind carried job present own active
      rw [Owned, ← tenant, ← node]
      exact applied_nodeIdentity (inv.control mutation.tenantId).graph applied kind state named
  · rw [Owned, controlStep_nodeIdentity]
    · exact before
    · intro locked
      simp only [ControlCall.nodeLocks] at locked
      split at locked
      · rename_i kind
        simp only [List.mem_singleton, RowLock.mk.injEq, UpgradeLock.node.injEq, and_true] at locked
        exact here ⟨kind, locked.1.symm, locked.2.symm⟩
      · cases locked

theorem control_owned (inv : OwnedInvariant system) {call : ControlCall}
    (spares : SparesJobs system (.control call)) :
    ∀ job ∈ system.store.jobs, job.state.active = true →
      Owned (controlStep system.store.cloud call) job := by
  intro job present active
  cases call with
  | environment => exact inv.owned job present active
  | mutate mutation now fresh clock => exact mutate_owned inv spares present active

theorem upgradeStep_owned (inv : OwnedInvariant system) (event : UpgradeEvent)
    (spares : SparesJobs system event) : OwnedInvariant (upgradeStep system event) := by
  refine ⟨upgradeStep_invariant inv.upgrade event, ?_, ?_⟩
  · intro tenantId
    cases event with
    | upgrade event =>
        obtain ⟨locks, change⟩ := session_change inv.upgrade event
        simp only [upgradeStep, change.cloud]
        exact inv.control tenantId
    | control call =>
        simp only [upgradeStep]
        split
        · exact inv.control tenantId
        · exact controlStep_addressed (inv.control tenantId) call
  · cases event with
    | upgrade event =>
        obtain ⟨locks, change⟩ := session_change inv.upgrade event
        exact change.owned inv.owned
    | control call =>
        simp only [upgradeStep]
        split
        · exact inv.owned
        · exact control_owned inv spares

theorem OwnedInvariant.noOrphan (inv : OwnedInvariant system) : NoOrphan system.store := by
  intro job present active
  obtain ⟨row, found, named⟩ := nodeIdentity_ok.mp (inv.owned job present active)
  exact ⟨row, List.mem_of_find?_eq_some found, List.find?_some found, named⟩

end Steps

/-- Runs whose mutations spare the nodes with an open job never orphan one. -/
theorem spared_jobs_owned (cloud : Cloud) (empty : ∀ tenantId, cloud.control.EmptyTenant tenantId)
    (inventories : List UpgradeInventoryRow) (events : List UpgradeEvent)
    (spares : Along upgradeStep SparesJobs (UpgradeSystem.initial cloud inventories) events) :
    ∀ before after, events = before ++ after →
      NoOrphan (run upgradeStep (UpgradeSystem.initial cloud inventories) before).store := by
  rintro before after rfl
  have reached : OwnedInvariant
      (run upgradeStep (UpgradeSystem.initial cloud inventories) before) :=
    run_invariant_along (P := OwnedInvariant)
      (fun _ event inv spared => upgradeStep_owned inv event spared) (initial_owned
      empty inventories) before (along_append.mp spares).1
  exact reached.noOrphan

def sampleTarget : UpgradeTarget where
  component := "core"
  currentVersion := "1.0.0"
  version := "1.1.0"
  versionKey := "core-1.1.0"
  digest := String.ofList (List.replicate 64 'a')

def sampleUpgrade : UpgradeRequest where
  tenant := 1
  node := 51
  actor := "operator"
  request := 7
  target := sampleTarget
  id := 91
  checkedAt := 200
  now := 200

def upgradeCall (call : UpgradeCall) (statements : Nat) : List UpgradeEvent :=
  .upgrade (.begin call) :: List.replicate statements (.upgrade (.advance 0))

/-- A node whose device has reported what it can be upgraded to, and a job for it. -/
def sampleUpgrading : List UpgradeEvent :=
  [.control (sampleCreate 31 (.site ⟨"site-1", .edge⟩)),
    .control (sampleCreate 51 (.node ⟨11, 21, 31, "node-1", .linux, "x86_64"⟩))] ++
    upgradeCall (.inventory ⟨1, 11, 21, ⟨1, "linux", "x86_64", [sampleTarget]⟩⟩ 100) 2 ++
    upgradeCall (.create sampleUpgrade) 6

def sampleNodeRewrite (node : NodeV1) : UpgradeEvent :=
  .control (sampleReplace 51 1 .active (.node node))

/-- The node gets another name; giving it to another device is refused, as the revision that
    the edit expects is not the stored one. -/
def sampleRenaming : List UpgradeEvent :=
  sampleUpgrading ++ [sampleNodeRewrite ⟨11, 21, 31, "node-2", .linux, "x86_64"⟩,
    .control (sampleReplace 51 5 .active (.node ⟨12, 22, 31, "node-1", .linux, "x86_64"⟩))]

def sampleHandover : List UpgradeEvent :=
  sampleUpgrading ++ [sampleNodeRewrite ⟨12, 22, 31, "node-1", .linux, "x86_64"⟩]

theorem spared_jobs_owned_renamed :
    ((run upgradeStep (UpgradeSystem.initial sampleCloud []) sampleRenaming).store.jobs.map
      fun job => (job.id, job.state)) = [(91, .pending)] ∧
    NoOrphan (run upgradeStep (UpgradeSystem.initial sampleCloud []) sampleRenaming).store :=
  ⟨by decide +kernel, spared_jobs_owned sampleCloud sampleCloud_empty [] sampleRenaming
    (by decide +kernel) sampleRenaming [] (List.append_nil _).symm⟩

/-- A node given to another device keeps the open job of the first one: no
    device can finish it, and it stands in the way of the next upgrade. -/
theorem replaced_node_orphans_job :
    ¬ (∀ (cloud : Cloud) (inventories : List UpgradeInventoryRow) (events : List UpgradeEvent),
      (∀ tenantId, cloud.control.EmptyTenant tenantId) →
      NoOrphan (run upgradeStep (UpgradeSystem.initial cloud inventories) events).store) := by
  intro always
  have orphaned : ¬ NoOrphan (run upgradeStep (UpgradeSystem.initial sampleCloud [])
      sampleHandover).store := by
    decide +kernel
  exact orphaned (always sampleCloud [] sampleHandover sampleCloud_empty)

end CandyCloud
