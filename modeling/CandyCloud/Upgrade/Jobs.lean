import CandyCloud.Foundation.Sessions
import CandyCloud.Control.Addressing
import CandyCloud.Control.Transport

/-! # Node upgrade jobs

`control/upgrades.rs`. A job copies the identity of its node when it is created;
the device then polls for it and reports how it goes. Every call is a
transaction of the session machine: `identity` locks the node row, `FOR UPDATE`
and the writes lock the job row, and the read that opens a poll or a report
locks nothing. The clock readings of a call are part of it.
-/

namespace CandyCloud

open Foundation

structure UpgradeTarget where
  component : String
  currentVersion : String
  version : String
  versionKey : String
  digest : String
deriving DecidableEq, Repr

def identifier (value : String) : Bool :=
  !(utf8 value).isEmpty && decide ((utf8 value).length ≤ 80) &&
    (utf8 value).all fun byte => asciiAlphanumeric byte || (utf8 "._+-").contains byte

def maxUpgradeErrorDetailChars : Nat := 512

def errorDetail (value : String) : Bool :=
  !(trim value.toList).isEmpty && decide (value.toList.length ≤ maxUpgradeErrorDetailChars) &&
    value.toList.all fun character => !isControl character

def upgradePhase (value : String) : Bool :=
  ["pending", "prepared", "running", "executing", "verifying", "installing", "health_check",
    "runtime_handoff", "succeeded", "failed", "rolled_back", "expired"].contains value

/-- The `CHECK` constraint `upgrade_job_phase_valid`. -/
def upgradeJobPhaseValid (value : String) : Bool :=
  ["pending", "prepared", "running", "executing", "verifying", "installing", "health_check",
    "succeeded", "failed", "rolled_back", "expired"].contains value

def UpgradeTarget.validate (target : UpgradeTarget) : Bool :=
  ["core", "runtime"].contains target.component && identifier target.currentVersion &&
    identifier target.version && identifier target.versionKey &&
    (utf8 target.digest).length == 64 && (utf8 target.digest).all lowerHexDigit

structure UpgradeInventory where
  schemaVersion : Nat
  platform : String
  architecture : String
  targets : List UpgradeTarget
deriving DecidableEq, Repr

def UpgradeInventory.validate (inventory : UpgradeInventory) : Bool :=
  inventory.schemaVersion == 1 && ["linux", "openwrt"].contains inventory.platform &&
    identifier inventory.architecture && decide (inventory.targets.length ≤ 2) &&
    inventory.targets.all fun target => target.validate &&
      (inventory.targets.filter fun other => other.component == target.component).length == 1

inductive UpgradeState where
  | pending
  | running
  | succeeded
  | failed
  | expired
deriving DecidableEq, Repr

namespace UpgradeState

/-- The states of the generated column `active_node_id`. -/
def active : UpgradeState → Bool
  | .pending | .running => true
  | .succeeded | .failed | .expired => false

def reported : String → Option UpgradeState
  | "running" => some .running
  | "succeeded" => some .succeeded
  | "failed" => some .failed
  | _ => none

def defaultPhase : UpgradeState → String
  | .running => "running"
  | .succeeded => "succeeded"
  | .failed => "failed"
  | .pending | .expired => "pending"

def permits : UpgradeState → UpgradeState → Bool
  | .pending, .running | .running, .succeeded | .running, .failed => true
  | _, _ => false

end UpgradeState

/-- `runtime_upgrade_jobs`. -/
structure UpgradeJobRow where
  id : Uuid
  tenantId : Uuid
  nodeId : Uuid
  deviceId : Uuid
  deviceKeyId : Uuid
  actorId : String
  requestId : Uuid
  target : UpgradeTarget
  state : UpgradeState
  phase : String
  errorCode : Option String
  errorDetail : Option String
  createdAt : Instant
  updatedAt : Instant
deriving DecidableEq, Repr

def UpgradeJobRow.of (job : UpgradeJobRow) (tenantId nodeId : Uuid) : Bool :=
  job.tenantId == tenantId && job.nodeId == nodeId

/-- The primary key, `upgrade_idempotency` and `one_active_upgrade`. -/
def UpgradeJobRow.conflict (a b : UpgradeJobRow) : Bool :=
  a.id == b.id ||
    (b.of a.tenantId a.nodeId && a.actorId == b.actorId && a.requestId == b.requestId) ||
    (b.of a.tenantId a.nodeId && a.state.active && b.state.active)

/-- `runtime_upgrade_inventory`. -/
structure UpgradeInventoryRow where
  tenantId : Uuid
  deviceId : Uuid
  deviceKeyId : Uuid
  inventory : UpgradeInventory
  reportedAt : Instant
deriving DecidableEq, Repr

def UpgradeInventoryRow.of (row : UpgradeInventoryRow) (tenantId deviceId deviceKeyId : Uuid) :
    Bool :=
  row.tenantId == tenantId && row.deviceId == deviceId && row.deviceKeyId == deviceKeyId

inductive UpgradeAction where
  | requested
  | expired
  | started
  | succeeded
  | failed
deriving DecidableEq, Repr

/-- The rows of `audit_events` with the actor type `UPGRADE`. -/
structure UpgradeAuditRow where
  tenantId : Uuid
  actorId : String
  action : UpgradeAction
  objectId : Uuid
deriving DecidableEq, Repr

/-- The upgrade jobs and what the nodes report of themselves. -/
structure UpgradeStore where
  cloud : Cloud
  inventories : List UpgradeInventoryRow
  jobs : List UpgradeJobRow
  audits : List UpgradeAuditRow
deriving DecidableEq, Repr

/-- The device and the key that the document of a node names. -/
def NodeV1.identity (node : NodeV1) : Uuid × Uuid := (node.deviceId, node.deviceKeyId)

def ResourceRow.activeNode (tenantId nodeId : Uuid) (row : ResourceRow) : Bool :=
  row.at tenantId .node nodeId && row.state == .active

/-- `identity`: the columns are null in a document of another kind. -/
def Cloud.nodeIdentity (cloud : Cloud) (tenantId nodeId : Uuid) :
    Except ControlStoreError (Uuid × Uuid) := do
  let row ← orElse .notFound
    (cloud.control.resources.find? (ResourceRow.activeNode tenantId nodeId))
  orElse .database (row.document.resource.node?.map NodeV1.identity)

/-- A creation, with the identifier it draws and its two readings of the clock. -/
structure UpgradeRequest where
  tenant : Uuid
  node : Uuid
  actor : String
  request : Uuid
  target : UpgradeTarget
  id : Uuid
  checkedAt : Instant
  now : Instant
deriving DecidableEq, Repr

structure UpgradePoll where
  tenant : Uuid
  device : Uuid
  key : Uuid
  checkedAt : Instant
  now : Instant
deriving DecidableEq, Repr

structure UpgradeStatus where
  state : String
  phase : Option String
  errorCode : Option String
  errorDetail : Option String
deriving DecidableEq, Repr

structure UpgradeReport where
  tenant : Uuid
  device : Uuid
  key : Uuid
  id : Uuid
  status : UpgradeStatus
deriving DecidableEq, Repr

structure UpgradeInventoryReport where
  tenant : Uuid
  device : Uuid
  key : Uuid
  inventory : UpgradeInventory
deriving DecidableEq, Repr

inductive UpgradeCall where
  | create (request : UpgradeRequest)
  | poll (request : UpgradePoll)
  | report (report : UpgradeReport) (now : Instant)
  | inventory (report : UpgradeInventoryReport) (now : Instant)
deriving DecidableEq, Repr

inductive UpgradeReply where
  | created (result : Except ControlStoreError UpgradeJobRow)
  | polled (result : Except ControlStoreError (Option UpgradeJobRow))
  | reported (result : Except ControlStoreError Unit)
  | recorded (result : Except ControlStoreError Unit)

structure UpgradeAnswer where
  call : UpgradeCall
  reply : UpgradeReply

def UpgradeRequest.validate (request : UpgradeRequest) : Except ControlStoreError Unit :=
  reject ((utf8 request.actor).isEmpty || decide (120 < (utf8 request.actor).length) ||
    isNil request.request || !request.target.validate) .invalidRequest

/-- The state and the phase of a well-formed report. -/
def UpgradeStatus.validate (status : UpgradeStatus) :
    Except ControlStoreError (UpgradeState × String) := do
  let state ← orElse .invalidRequest (UpgradeState.reported status.state)
  reject ((state == .failed) != status.errorCode.isSome ||
    status.errorCode.any (fun code => !identifier code) ||
    (state != .failed && status.errorDetail.isSome) ||
    status.errorDetail.any fun value => !CandyCloud.errorDetail value) .invalidRequest
  let phase := status.phase.getD state.defaultPhase
  reject (!upgradePhase phase) .invalidRequest
  return (state, phase)

def UpgradeInventoryReport.validate (report : UpgradeInventoryReport) :
    Except ControlStoreError Unit :=
  reject (!report.inventory.validate || isNil report.tenant || isNil report.device ||
    isNil report.key) .invalidRequest

def UpgradeRequest.row (request : UpgradeRequest) (identity : Uuid × Uuid) : UpgradeJobRow where
  id := request.id
  tenantId := request.tenant
  nodeId := request.node
  deviceId := identity.1
  deviceKeyId := identity.2
  actorId := request.actor
  requestId := request.request
  target := request.target
  state := .pending
  phase := "pending"
  errorCode := none
  errorDetail := none
  createdAt := request.now
  updatedAt := request.now

def UpgradeReport.action : UpgradeState → UpgradeAction
  | .running => .started
  | .succeeded => .succeeded
  | .pending | .failed | .expired => .failed

def UpgradeReport.recorded (report : UpgradeReport) (state : UpgradeState) (phase : String)
    (job : UpgradeJobRow) : Bool :=
  job.state == state && job.phase == phase && job.errorCode == report.status.errorCode &&
    job.errorDetail == report.status.errorDetail

/-- What a session locks. -/
inductive UpgradeLock where
  | node (tenantId nodeId : Uuid)
  | job (id : Uuid)
  | inventory (tenantId deviceId deviceKeyId : Uuid)
deriving DecidableEq, Repr

/-- The statements that change the upgrade tables. -/
inductive UpgradeWrite where
  | insert (job : UpgradeJobRow)
  | report (id : Uuid) (state : UpgradeState) (phase : String) (errorCode errorDetail : Option String)
      (updatedAt : Instant)
  | expire (id : Uuid) (updatedAt : Instant)
  | record (row : UpgradeInventoryRow)
  | audit (row : UpgradeAuditRow)
deriving DecidableEq, Repr

namespace UpgradeStore

/-- `UPDATE … SET state='expired' … WHERE id=? AND state='pending'` looks at the
    state of the row, not at the one that the poll has read. -/
def apply (store : UpgradeStore) : UpgradeWrite → UpgradeStore
  | .insert job => { store with jobs := store.jobs ++ [job] }
  | .report id state phase errorCode errorDetail updatedAt =>
      { store with
        jobs := updateWhere (fun job => job.id == id) (fun job =>
          { job with state, phase, errorCode, errorDetail, updatedAt }) store.jobs }
  | .expire id updatedAt =>
      { store with
        jobs := updateWhere (fun job => job.id == id && job.state == .pending) (fun job =>
          { job with state := .expired, errorCode := some "dispatch_expired", updatedAt })
          store.jobs }
  | .record row =>
      { store with
        inventories := upsert (fun old => old.of row.tenantId row.deviceId row.deviceKeyId) row
          (fun _ => row) store.inventories }
  | .audit row => { store with audits := store.audits ++ [row] }

/-- `ORDER BY created_at LIMIT 1` among the open jobs of a device key. -/
def pendingJob (store : UpgradeStore) (request : UpgradePoll) : Option UpgradeJobRow :=
  ((store.jobs.filter fun job => job.tenantId == request.tenant &&
    job.deviceId == request.device && job.deviceKeyId == request.key &&
    job.state.active).mergeSort fun a b => decide (a.createdAt ≤ b.createdAt)).head?

end UpgradeStore

/-- Where a transaction stands, with what it has read so far. -/
inductive UpgradeStage where
  | create (request : UpgradeRequest)
  | createIdentified (request : UpgradeRequest) (identity : Uuid × Uuid)
  | createUnseen (request : UpgradeRequest) (identity : Uuid × Uuid)
  | createIdle (request : UpgradeRequest) (identity : Uuid × Uuid)
  | createOffered (request : UpgradeRequest) (identity : Uuid × Uuid)
  | createInserted (request : UpgradeRequest) (identity : Uuid × Uuid)
  | poll (request : UpgradePoll)
  | polled (request : UpgradePoll) (result : UpgradeJobRow)
  | pollIdentified (request : UpgradePoll) (result : UpgradeJobRow)
  | pollExpired (request : UpgradePoll) (result : UpgradeJobRow)
  | report (report : UpgradeReport) (now : Instant) (state : UpgradeState) (phase : String)
  | reportFound (report : UpgradeReport) (now : Instant) (state : UpgradeState) (phase : String)
      (nodeId : Uuid)
  | reportIdentified (report : UpgradeReport) (now : Instant) (state : UpgradeState)
      (phase : String)
  | reportPermitted (report : UpgradeReport) (now : Instant) (state : UpgradeState) (phase : String)
  | reportWritten (report : UpgradeReport) (now : Instant)
  | inventory (report : UpgradeInventoryReport) (now : Instant)
  | inventoryWritten (report : UpgradeInventoryReport) (now : Instant)
deriving DecidableEq, Repr

abbrev UpgradeStatement := Statement UpgradeLock UpgradeStage UpgradeWrite UpgradeAnswer

namespace UpgradeRequest

variable (store : UpgradeStore) (request : UpgradeRequest)

def answer (result : Except ControlStoreError UpgradeJobRow) : UpgradeAnswer :=
  ⟨.create request, .created result⟩

def fail (error : ControlStoreError) : Outcome UpgradeStage UpgradeWrite UpgradeAnswer :=
  .rollback (request.answer (.error error))

def identify : UpgradeStatement where
  locks := [⟨.node request.tenant request.node, .exclusive⟩]
  outcome :=
    match store.cloud.nodeIdentity request.tenant request.node with
    | .error error => request.fail error
    | .ok identity => .next (.createIdentified request identity) []

/-- A request that this actor has made before is answered with its job. -/
def replay (identity : Uuid × Uuid) : UpgradeStatement where
  locks := []
  outcome :=
    match store.jobs.find? fun job => job.of request.tenant request.node &&
      job.actorId == request.actor && job.requestId == request.request with
    | none => .next (.createUnseen request identity) []
    | some result =>
        if result.target != request.target then request.fail .idempotencyConflict
        else .commit (request.answer (.ok result))

def countActive (identity : Uuid × Uuid) : UpgradeStatement where
  locks := []
  outcome :=
    if 0 < (store.jobs.filter fun job =>
        job.of request.tenant request.node && job.state.active).length then
      request.fail .invalidTransition
    else .next (.createIdle request identity) []

/-- `Duration::minutes(5)`. -/
def inventoryAge : Nat := 5 * 60 * 1000000

def offer (identity : Uuid × Uuid) : UpgradeStatement where
  locks := []
  outcome :=
    match store.inventories.find? fun row =>
      row.of request.tenant identity.1 identity.2 &&
        decide (request.checkedAt < row.reportedAt + inventoryAge) with
    | none => request.fail .invalidTransition
    | some row =>
        if !row.inventory.targets.contains request.target ||
            request.target.currentVersion == request.target.version then
          request.fail .invalidRequest
        else .next (.createOffered request identity) []

def insert (identity : Uuid × Uuid) : UpgradeStatement where
  locks := [⟨.job request.id, .exclusive⟩]
  outcome :=
    match insertRow UpgradeJobRow.conflict store.jobs (request.row identity) with
    | none => request.fail .database
    | some _ =>
        .next (.createInserted request identity)
          [.insert (request.row identity),
            .audit ⟨request.tenant, request.actor, .requested, request.id⟩]

end UpgradeRequest

namespace UpgradePoll

variable (store : UpgradeStore) (request : UpgradePoll)

def answer (result : Except ControlStoreError (Option UpgradeJobRow)) : UpgradeAnswer :=
  ⟨.poll request, .polled result⟩

def read : UpgradeStatement where
  locks := []
  outcome :=
    match store.pendingJob request with
    | none => .commit (request.answer (.ok none))
    | some result => .next (.polled request result) []

def identify (result : UpgradeJobRow) : UpgradeStatement where
  locks := [⟨.node request.tenant result.nodeId, .exclusive⟩]
  outcome :=
    match store.cloud.nodeIdentity request.tenant result.nodeId with
    | .error error => .rollback (request.answer (.error error))
    | .ok identity =>
        if identity ≠ (request.device, request.key) then
          .rollback (request.answer (.error .notFound))
        else .next (.pollIdentified request result) []

/-- `Duration::hours(24)`. -/
def dispatchAge : Nat := 24 * 60 * 60 * 1000000

def settle (result : UpgradeJobRow) : UpgradeStatement :=
  if result.state = .pending ∧ result.createdAt + dispatchAge < request.checkedAt then
    { locks := [⟨.job result.id, .exclusive⟩]
      outcome := .next (.pollExpired request result)
        [.expire result.id request.now,
          .audit ⟨request.tenant, uuidText request.device, .expired, result.id⟩] }
  else ⟨[], .commit (request.answer (.ok (some result)))⟩

end UpgradePoll

namespace UpgradeReport

variable (store : UpgradeStore) (report : UpgradeReport) (now : Instant) (state : UpgradeState)
  (phase : String)

def answer (result : Except ControlStoreError Unit) : UpgradeAnswer :=
  ⟨.report report now, .reported result⟩

def fail (error : ControlStoreError) : Outcome UpgradeStage UpgradeWrite UpgradeAnswer :=
  .rollback (report.answer now (.error error))

def find : UpgradeStatement where
  locks := []
  outcome :=
    match store.jobs.find? fun job => job.id == report.id && job.tenantId == report.tenant &&
      job.deviceId == report.device && job.deviceKeyId == report.key with
    | none => report.fail now .notFound
    | some previous => .next (.reportFound report now state phase previous.nodeId) []

def identify (nodeId : Uuid) : UpgradeStatement where
  locks := [⟨.node report.tenant nodeId, .exclusive⟩]
  outcome :=
    match store.cloud.nodeIdentity report.tenant nodeId with
    | .error error => report.fail now error
    | .ok identity =>
        if identity ≠ (report.device, report.key) then report.fail now .notFound
        else .next (.reportIdentified report now state phase) []

/-- The job is read again under its lock, and the report is judged by that. -/
def judge : UpgradeStatement where
  locks := [⟨.job report.id, .exclusive⟩]
  outcome :=
    match store.jobs.find? fun job => job.id == report.id with
    | none => report.fail now .database
    | some previous =>
        if report.recorded state phase previous then .commit (report.answer now (.ok ()))
        else if !previous.state.permits state then report.fail now .invalidTransition
        else .next (.reportPermitted report now state phase) []

def write : UpgradeStatement where
  locks := [⟨.job report.id, .exclusive⟩]
  outcome :=
    if !upgradeJobPhaseValid phase then report.fail now .database
    else .next (.reportWritten report now)
      [.report report.id state phase report.status.errorCode report.status.errorDetail now,
        .audit ⟨report.tenant, uuidText report.device, action state, report.id⟩]

end UpgradeReport

def UpgradeInventoryReport.row (report : UpgradeInventoryReport) (now : Instant) :
    UpgradeInventoryRow where
  tenantId := report.tenant
  deviceId := report.device
  deviceKeyId := report.key
  inventory := report.inventory
  reportedAt := now

def UpgradeInventoryReport.answer (report : UpgradeInventoryReport) (now : Instant)
    (result : Except ControlStoreError Unit) : UpgradeAnswer :=
  ⟨.inventory report now, .recorded result⟩

def UpgradeInventoryReport.write (report : UpgradeInventoryReport) (now : Instant) :
    UpgradeStatement where
  locks := [⟨.inventory report.tenant report.device report.key, .exclusive⟩]
  outcome := .next (.inventoryWritten report now) [.record (report.row now)]

def upgradeOpening : UpgradeCall → Except UpgradeAnswer UpgradeStage
  | .create request =>
      match request.validate with
      | .error error => .error (request.answer (.error error))
      | .ok _ => .ok (.create request)
  | .poll request => .ok (.poll request)
  | .report report now =>
      match report.status.validate with
      | .error error => .error (report.answer now (.error error))
      | .ok (state, phase) => .ok (.report report now state phase)
  | .inventory report now =>
      match report.validate with
      | .error error => .error (report.answer now (.error error))
      | .ok _ => .ok (.inventory report now)

def upgradeStatement (store : UpgradeStore) : UpgradeStage → UpgradeStatement
  | .create request => request.identify store
  | .createIdentified request identity => request.replay store identity
  | .createUnseen request identity => request.countActive store identity
  | .createIdle request identity => request.offer store identity
  | .createOffered request identity => request.insert store identity
  | .createInserted request identity =>
      ⟨[], .commit (request.answer (.ok (request.row identity)))⟩
  | .poll request => request.read store
  | .polled request result => request.identify store result
  | .pollIdentified request result => request.settle result
  | .pollExpired request _ => ⟨[], .commit (request.answer (.ok none))⟩
  | .report report now state phase => report.find store now state phase
  | .reportFound report now state phase nodeId => report.identify store now state phase nodeId
  | .reportIdentified report now state phase => report.judge store now state phase
  | .reportPermitted report now state phase => report.write now state phase
  | .reportWritten report now => ⟨[], .commit (report.answer now (.ok ()))⟩
  | .inventory report now => report.write now
  | .inventoryWritten report now => ⟨[], .commit (report.answer now (.ok ()))⟩

def upgradeTransactions :
    Transactions UpgradeStore UpgradeLock UpgradeStage UpgradeWrite UpgradeAnswer UpgradeCall where
  opening := upgradeOpening
  statement := upgradeStatement
  apply := UpgradeStore.apply

abbrev UpgradeSession := Session UpgradeLock UpgradeStage UpgradeWrite

/-- The upgrade tables with their open sessions. -/
abbrev UpgradeSystem := Concurrent UpgradeStore UpgradeLock UpgradeStage UpgradeWrite UpgradeAnswer

/-- An event of the upgrade sessions, or a transaction of the control graph. -/
inductive UpgradeEvent where
  | upgrade (event : Event UpgradeCall)
  | control (call : ControlCall)

/-- The rows of the control graph that upgrade sessions lock too. -/
def ControlCall.nodeLocks : ControlCall → List (RowLock UpgradeLock)
  | .mutate mutation _ _ _ =>
      if mutation.kind = .node then [⟨.node mutation.tenantId mutation.id, .exclusive⟩] else []
  | .environment _ _ _ => []

/-- A mutation that writes a node waits while an upgrade session holds its row. -/
def upgradeStep (system : UpgradeSystem) : UpgradeEvent → UpgradeSystem
  | .upgrade event => upgradeTransactions.step system event
  | .control call =>
      if blocked call.nodeLocks system.sessions then system
      else { system with
        store := { system.store with cloud := controlStep system.store.cloud call } }

def UpgradeSystem.initial (cloud : Cloud) (inventories : List UpgradeInventoryRow) :
    UpgradeSystem where
  store := ⟨cloud, inventories, [], []⟩
  sessions := []
  answers := []

end CandyCloud
