import CandyCloud.Foundation.Machine
import CandyCloud.Route.PublicationChain
import CandyCloud.Telemetry.Report
import Mathlib.Data.List.Chain

/-! # `record_runtime_telemetry`

Cloud keeps one latest report for each device key.
-/

namespace CandyCloud

open Foundation

/-- `runtime_telemetry_latest`. The columns are those of the report but for the
    paths that were authorized and the last inventory of local networks. -/
structure RuntimeTelemetryRow where
  report : RuntimeTelemetryWrite
  paths : List RuntimePathTelemetryWrite
  localNetworks : List RuntimeLocalNetworkTelemetryWrite
  reportedAt : Instant
deriving DecidableEq, Repr

/-- An audit event of a report; its metadata are columns of the replaced row and
    of the report. -/
structure RuntimeTelemetryEvent where
  action : String
  deviceName : String
  previousLifecycle : Option RuntimeLifecycle
  previousDataplanePhase : Option String
  previousErrorCode : Option String
  report : RuntimeTelemetryWrite
deriving DecidableEq, Repr

/-- The reports of the runtimes beside the Route store. -/
structure TelemetryStore where
  route : RouteStore
  latest : List RuntimeTelemetryRow
  events : List RuntimeTelemetryEvent
deriving DecidableEq, Repr

/-- `WHERE tenant_id = ? AND device_id = ? AND device_key_id = ?`. -/
def RuntimeConfigurationLookup.reports (lookup : RuntimeConfigurationLookup)
    (row : RuntimeTelemetryRow) : Bool :=
  row.report.lookup.tenantId == lookup.tenantId && row.report.lookup.deviceId == lookup.deviceId &&
    row.report.lookup.deviceKeyId == lookup.deviceKeyId

def Topology.reporter (topology : Topology) (lookup : RuntimeConfigurationLookup) :
    Option DeviceRow :=
  topology.devices.find? fun device =>
    device.tenantId == lookup.tenantId && device.id == lookup.deviceId &&
      device.status == .active && topology.deviceKeys.any fun key =>
        key.tenantId == device.tenantId && key.deviceId == device.id &&
          key.id == lookup.deviceKeyId && key.status == .active

/-- Publication and attachment of the projection the device key runs. -/
def RouteStore.committedProjection (store : RouteStore) (telemetry : RuntimeTelemetryWrite) :
    Option (Uuid × Uuid) :=
  let lookup := telemetry.lookup
  (store.statuses.flatMap fun status =>
    if status.of lookup.tenantId lookup.deviceId lookup.deviceKeyId then
      store.projections.flatMap fun projection =>
        if projection.tenantId == status.tenantId && projection.deviceId == status.deviceId &&
            projection.deviceKeyId == status.deviceKeyId &&
            some projection.id == status.activeProjectionPublicationId &&
            telemetry.reportedGeneration.all (projection.projectionGeneration == ·) then
          (store.topology.attachments.filter fun attachment =>
            attachment.tenantId == projection.tenantId &&
              attachment.id == projection.attachmentId &&
              attachment.deviceId == some projection.deviceId &&
              attachment.deviceKeyId == some projection.deviceKeyId && attachment.routed).map
            fun attachment => (projection.id, attachment.id)
        else []
    else []).head?

/-- The reported path is in the catalog, by its candidate or, from a Runtime that
    names none, by its peer. -/
def authorizedPath (catalog : List PathCatalogRow) (path : RuntimePathTelemetryWrite) : Bool :=
  match path.candidateId with
  | none =>
      catalog.any fun row =>
        row.destinationAttachmentId == path.peerAttachmentId && row.pathKind == path.pathKind
  | some candidateId =>
      catalog.any fun row =>
        row.candidateId == candidateId && row.destinationAttachmentId == path.peerAttachmentId &&
          row.pathKind == path.pathKind

/-- The paths that are kept: publications from before the path catalog authorize
    none of them. -/
def RouteStore.persistedPaths (store : RouteStore) (telemetry : RuntimeTelemetryWrite) :
    Except RuntimeConfigurationError (List RuntimePathTelemetryWrite) := do
  if telemetry.paths.isEmpty then return telemetry.paths
  let (publicationId, attachmentId) ← orElse .invalidScope (store.committedProjection telemetry)
  let catalog := store.pathCatalog.filter fun row =>
    row.tenantId == telemetry.lookup.tenantId && row.projectionPublicationId == publicationId
  if catalog.isEmpty then return []
  reject (catalog.any fun row => row.sourceAttachmentId != attachmentId) .invalidRecord
  reject (telemetry.paths.any fun path => !authorizedPath catalog path) .invalidScope
  return telemetry.paths

inductive RouteHealth where
  | pending
  | healthy
  | unhealthy
deriving DecidableEq, Repr

def RuntimeRouteDiagnosticsWrite.routeHealth (value : RuntimeRouteDiagnosticsWrite) : RouteHealth :=
  if value.integrity = "consistent" then .healthy
  else if value.integrity = "reconciling" then .pending
  else .unhealthy

def runtimeDiagnosticAuditActions (previous : Option RuntimeRouteDiagnosticsWrite)
    (current : RuntimeRouteDiagnosticsWrite) (bootChanged : Bool) : List String :=
  let previousHealth := previous.map (·.routeHealth)
  let previousProbe := previous.map (·.probeState)
  (if current.routeHealth = .unhealthy ∧ (previousHealth ≠ some .unhealthy ∨ bootChanged) then
      ["RUNTIME_ROUTE_DRIFT_DETECTED"]
    else if current.routeHealth = .healthy ∧ previousHealth = some .unhealthy then
      ["RUNTIME_ROUTE_RECONCILIATION_RECOVERED"]
    else []) ++
  (if !bootChanged ∧ current.routeHealth = .unhealthy ∧ previousHealth = some .unhealthy ∧
        previous.any (fun value =>
          decide (value.reconcileAttempts < current.reconcileAttempts)) then
      ["RUNTIME_ROUTE_RECONCILIATION_ATTEMPTED"]
    else []) ++
  (if current.probeState = "failed" ∧ previousProbe ≠ some "failed" then
      ["RUNTIME_PACKET_PROBE_FAILED"]
    else if current.probeState = "succeeded" ∧ previousProbe = some "failed" then
      ["RUNTIME_PACKET_PROBE_RECOVERED"]
    else [])

section Events

variable (current : Option RuntimeTelemetryRow) (telemetry : RuntimeTelemetryWrite)

def phaseActions : List String :=
  if current.any fun row => row.report.dataplanePhase != telemetry.dataplanePhase then
    ["RUNTIME_DATAPLANE_PHASE_CHANGED"]
  else []

def failOpenAction : String :=
  if telemetry.failOpenRequired then "RUNTIME_FAIL_OPEN_ENTERED" else "RUNTIME_FAIL_OPEN_RECOVERED"

def lifecycleActions : List String :=
  match current with
  | some row =>
      if row.report.failOpenRequired ≠ telemetry.failOpenRequired then [failOpenAction telemetry]
      else if row.report.lifecycle ≠ telemetry.lifecycle ∨
          row.report.lastErrorCode ≠ telemetry.lastErrorCode then
        if telemetry.lifecycle = .active ∧ telemetry.failOpenRequired = false ∧
            telemetry.lastErrorCode = none then
          ["RUNTIME_LIFECYCLE_RECOVERED"]
        else ["RUNTIME_LIFECYCLE_DEGRADED"]
      else []
  | none =>
      if telemetry.failOpenRequired then ["RUNTIME_FAIL_OPEN_ENTERED"]
      else if telemetry.lifecycle ≠ .active then ["RUNTIME_LIFECYCLE_DEGRADED"]
      else []

def diagnosticActions : List String :=
  match telemetry.routeDiagnostics with
  | none => []
  | some diagnostics =>
      runtimeDiagnosticAuditActions (current.bind (·.report.routeDiagnostics)) diagnostics
        (current.any fun row => row.report.bootId != telemetry.bootId)

def telemetryEvents (deviceName : String) : List RuntimeTelemetryEvent :=
  (phaseActions current telemetry ++ lifecycleActions current telemetry ++
    diagnosticActions current telemetry).map fun action =>
      { action, deviceName
        previousLifecycle := current.map (·.report.lifecycle)
        previousDataplanePhase := current.bind (·.report.dataplanePhase)
        previousErrorCode := current.bind (·.report.lastErrorCode)
        report := telemetry }

end Events

def TelemetryStore.current (store : TelemetryStore) (lookup : RuntimeConfigurationLookup) :
    Option RuntimeTelemetryRow :=
  store.latest.find? lookup.reports

/-- The stored report is of the same boot and not older. -/
def RuntimeTelemetryWrite.stale (telemetry : RuntimeTelemetryWrite) (row : RuntimeTelemetryRow) :
    Bool :=
  row.report.bootId == telemetry.bootId && decide (telemetry.sequence ≤ row.report.sequence)

def RuntimeTelemetryWrite.row (telemetry : RuntimeTelemetryWrite)
    (paths : List RuntimePathTelemetryWrite) (kept : List RuntimeLocalNetworkTelemetryWrite)
    (now : Instant) : RuntimeTelemetryRow where
  report := telemetry
  paths
  localNetworks := telemetry.localNetworks.getD kept
  reportedAt := now

/-- `UPDATE devices SET last_seen_at = ? …`. -/
def Topology.heard (topology : Topology) (now : Instant) (lookup : RuntimeConfigurationLookup) :
    Topology :=
  { topology with
    devices := updateWhere
      (fun device => device.tenantId == lookup.tenantId && device.id == lookup.deviceId &&
        device.status == .active)
      (fun device => { device with lastSeenAt := some now }) topology.devices }

def TelemetryStore.replace (store : TelemetryStore) (now : Instant)
    (telemetry : RuntimeTelemetryWrite) (paths : List RuntimePathTelemetryWrite)
    (deviceName : String) : TelemetryStore where
  route := { store.route with topology := store.route.topology.heard now telemetry.lookup }
  latest := upsert telemetry.lookup.reports (telemetry.row paths [] now)
    (fun row => telemetry.row paths row.localNetworks now) store.latest
  events := store.events ++ telemetryEvents (store.current telemetry.lookup) telemetry deviceName

def recordRuntimeTelemetry (store : TelemetryStore) (now : Instant)
    (telemetry : RuntimeTelemetryWrite) : Except RuntimeConfigurationError TelemetryStore := do
  telemetry.validate
  let device ← orElse .invalidScope (store.route.topology.reporter telemetry.lookup)
  let paths ← store.route.persistedPaths telemetry
  if (store.current telemetry.lookup).any telemetry.stale then return store
  return store.replace now telemetry paths device.displayName

/-- A delivered report, or a change anywhere else in the database. -/
inductive TelemetryCall where
  | elsewhere (route : RouteStore)
  | report (now : Instant) (telemetry : RuntimeTelemetryWrite)

def telemetryStep (store : TelemetryStore) : TelemetryCall → TelemetryStore
  | .elsewhere route => { store with route }
  | .report now telemetry => commit store (recordRuntimeTelemetry store now telemetry)

/-- The delivery replaces the latest report of its key. -/
def TelemetryStore.applies (store : TelemetryStore) (now : Instant)
    (telemetry : RuntimeTelemetryWrite) : Bool :=
  (recordRuntimeTelemetry store now telemetry).isOk &&
    !(store.current telemetry.lookup).any telemetry.stale

/-- The reports of a key that reach Cloud, in order of delivery. -/
def delivered (lookup : RuntimeConfigurationLookup) :
    List TelemetryCall → List RuntimeTelemetryWrite
  | [] => []
  | .elsewhere _ :: rest => delivered lookup rest
  | .report _ telemetry :: rest =>
      if telemetry.lookup = lookup then telemetry :: delivered lookup rest
      else delivered lookup rest

def applied (lookup : RuntimeConfigurationLookup) :
    TelemetryStore → List TelemetryCall → List RuntimeTelemetryWrite
  | _, [] => []
  | store, .elsewhere route :: rest => applied lookup { store with route } rest
  | store, .report now telemetry :: rest =>
      let later := applied lookup (telemetryStep store (.report now telemetry)) rest
      if telemetry.lookup = lookup ∧ store.applies now telemetry then telemetry :: later else later

theorem reports_iff {row : RuntimeTelemetryRow} {lookup : RuntimeConfigurationLookup} :
    lookup.reports row = true ↔ row.report.lookup = lookup := by
  cases lookup
  simp only [RuntimeConfigurationLookup.reports, Bool.and_eq_true, beq_iff_eq]
  constructor
  · intro ⟨⟨tenant, device⟩, key⟩
    rw [← tenant, ← device, ← key]
  · intro same
    rw [same]
    exact ⟨⟨rfl, rfl⟩, rfl⟩

section Step

variable {store : TelemetryStore} {now : Instant} {telemetry : RuntimeTelemetryWrite}
  {lookup : RuntimeConfigurationLookup}

theorem recordRuntimeTelemetry_ok {store' : TelemetryStore}
    (done : recordRuntimeTelemetry store now telemetry = .ok store') :
    (store.current telemetry.lookup).any telemetry.stale = true ∧ store' = store ∨
    (store.current telemetry.lookup).any telemetry.stale = false ∧
      ∃ paths deviceName, store' = store.replace now telemetry paths deviceName := by
  rw [recordRuntimeTelemetry, unit_bind_ok, orElse_bind_ok] at done
  obtain ⟨-, device, -, done⟩ := done
  obtain ⟨paths, -, done⟩ := bind_ok.mp done
  split at done
  · rename_i ignored
    exact .inl ⟨ignored, (pure_ok.mp done).symm⟩
  · rename_i fresh
    exact .inr ⟨Bool.eq_false_of_not_eq_true fresh, paths, device.displayName,
      (pure_ok.mp done).symm⟩

theorem replace_current (paths : List RuntimePathTelemetryWrite) (deviceName : String) :
    ((store.replace now telemetry paths deviceName).current telemetry.lookup).map (·.report) =
      some telemetry := by
  have own : ∀ kept, telemetry.lookup.reports (telemetry.row paths kept now) = true :=
    fun _ => reports_iff.mpr rfl
  have found : (store.replace now telemetry paths deviceName).current telemetry.lookup =
      some (((store.current telemetry.lookup).map fun row =>
        telemetry.row paths row.localNetworks now).getD (telemetry.row paths [] now)) :=
    find_upsert (own []) (fun _ _ => own _)
  rw [found]
  cases store.current telemetry.lookup with
  | none => rfl
  | some row => rfl

theorem replace_current_other (paths : List RuntimePathTelemetryWrite) (deviceName : String)
    (other : telemetry.lookup ≠ lookup) :
    (store.replace now telemetry paths deviceName).current lookup = store.current lookup := by
  have new : ∀ kept, lookup.reports (telemetry.row paths kept now) = false := by
    intro kept
    rw [Bool.eq_false_iff]
    exact fun same => other (reports_iff.mp same)
  have apart : ∀ row, lookup.reports row = true → telemetry.lookup.reports row = false := by
    intro row here
    rw [Bool.eq_false_iff]
    intro there
    exact other ((reports_iff.mp there).symm.trans (reports_iff.mp here))
  refine find_upsert_other (new []) ?_ apart
  intro row there
  rw [new, eq_comm, Bool.eq_false_iff]
  intro here
  rw [apart row here] at there
  cases there

theorem current_report (store : TelemetryStore) (now : Instant) (telemetry : RuntimeTelemetryWrite)
    (lookup : RuntimeConfigurationLookup) :
    ((telemetryStep store (.report now telemetry)).current lookup).map (·.report) =
      if telemetry.lookup = lookup ∧ store.applies now telemetry then some telemetry
      else (store.current lookup).map (·.report) := by
  cases done : recordRuntimeTelemetry store now telemetry with
  | error error =>
      simp [telemetryStep, done, commit, TelemetryStore.applies, Except.isOk, Except.toBool]
  | ok store' =>
      rcases recordRuntimeTelemetry_ok done with ⟨ignored, rfl⟩ | ⟨fresh, paths, deviceName, rfl⟩
      · simp [telemetryStep, done, commit, TelemetryStore.applies, ignored]
      · by_cases same : telemetry.lookup = lookup
        · subst same
          simp [telemetryStep, done, commit, TelemetryStore.applies, fresh, Except.isOk,
            Except.toBool, replace_current]
        · simp [telemetryStep, done, commit, same, replace_current_other]

end Step

/-- Within one boot the second report has the larger sequence number. -/
def Succeeds (a b : RuntimeTelemetryWrite) : Prop := a.bootId = b.bootId → a.sequence < b.sequence

theorem applies_succeeds {store : TelemetryStore} {now : Instant}
    {telemetry : RuntimeTelemetryWrite} (applies : store.applies now telemetry = true)
    {row : RuntimeTelemetryRow} (found : store.current telemetry.lookup = some row) :
    Succeeds row.report telemetry := by
  intro boot
  rw [TelemetryStore.applies, found, Bool.and_eq_true] at applies
  have fresh := applies.2
  rw [Option.any_some, RuntimeTelemetryWrite.stale, boot, beq_self_eq_true, Bool.true_and] at fresh
  simpa using fresh

section

variable (lookup : RuntimeConfigurationLookup) (store : TelemetryStore) (calls : List TelemetryCall)

theorem applied_chain :
    (((store.current lookup).map (·.report)).toList ++ applied lookup store calls).IsChain
      Succeeds := by
  induction calls generalizing store with
  | nil =>
      rw [applied, List.append_nil]
      cases (store.current lookup).map (·.report) with
      | none => exact .nil
      | some report => exact .singleton report
  | cons call rest ih =>
      cases call with
      | elsewhere route => exact ih { store with route }
      | report now telemetry =>
          have later := ih (telemetryStep store (.report now telemetry))
          rw [current_report] at later
          rw [applied]
          split
          · rename_i own
            rw [if_pos own] at later
            obtain ⟨rfl, applies⟩ := own
            cases found : store.current telemetry.lookup with
            | none => exact later
            | some row => exact .cons_cons (applies_succeeds applies found) later
          · rename_i other
            rwa [if_neg other] at later

theorem latest_applied :
    ((run telemetryStep store calls).current lookup).map (·.report) =
      (applied lookup store calls).getLast?.or ((store.current lookup).map (·.report)) := by
  induction calls generalizing store with
  | nil => rfl
  | cons call rest ih =>
      rw [run_cons, ih]
      cases call with
      | elsewhere route => rfl
      | report now telemetry =>
          rw [current_report, applied]
          split
          · rw [List.getLast?_cons, Option.some_or]
            cases (applied lookup (telemetryStep store (.report now telemetry)) rest).getLast? with
            | none => rfl
            | some report => rfl
          · rfl

theorem applied_sublist : (applied lookup store calls).Sublist (delivered lookup calls) := by
  induction calls generalizing store with
  | nil => exact .slnil
  | cons call rest ih =>
      cases call with
      | elsewhere route => exact ih { store with route }
      | report now telemetry =>
          have later := ih (telemetryStep store (.report now telemetry))
          rw [applied, delivered]
          by_cases own : telemetry.lookup = lookup
          · rw [if_pos own]
            split
            · exact later.cons_cons telemetry
            · exact later.cons telemetry
          · rw [if_neg own, if_neg fun both => own both.1]
            exact later

end

/-- Every report is applied at most once, and none of an earlier boot after one of
    a later boot. `started` is the order in which the device booted. -/
structure ForwardOnly (started : Uuid → Nat) (history : List RuntimeTelemetryWrite) : Prop where
  once : (history.map fun report => (report.bootId, report.sequence)).Nodup
  forward : history.Pairwise fun a b => started a.bootId ≤ started b.bootId

/-- What holds of the reports of a key in any order of delivery. -/
structure TelemetryLaw (start : TelemetryStore) (calls : List TelemetryCall)
    (lookup : RuntimeConfigurationLookup) : Prop where
  sameBoot : ∀ block boot, block <:+: applied lookup start calls →
    (∀ report ∈ block, report.bootId = boot) →
    block.Pairwise fun a b => a.sequence < b.sequence
  latest : ((run telemetryStep start calls).current lookup).map (·.report) =
    (applied lookup start calls).getLast?.or ((start.current lookup).map (·.report))
  stale : ∀ before now report after, calls = before ++ .report now report :: after →
    ((run telemetryStep start before).current report.lookup).any report.stale = true →
    telemetryStep (run telemetryStep start before) (.report now report) =
      run telemetryStep start before
  ordered : ∀ started : Uuid → Nat, Function.Injective started →
    (delivered lookup calls).Pairwise (fun a b => started a.bootId ≤ started b.bootId) →
    ForwardOnly started (applied lookup start calls)

def Precedes (started : Uuid → Nat) (a b : RuntimeTelemetryWrite) : Prop :=
  started a.bootId < started b.bootId ∨ a.bootId = b.bootId ∧ a.sequence < b.sequence

variable {started : Uuid → Nat} {a b : RuntimeTelemetryWrite}

theorem Precedes.trans {c : RuntimeTelemetryWrite} (first : Precedes started a b)
    (second : Precedes started b c) : Precedes started a c := by
  unfold Precedes at *
  rcases first with earlier | ⟨boot, less⟩
  · rcases second with later | ⟨boot, -⟩
    · exact .inl (earlier.trans later)
    · rw [← boot]
      exact .inl earlier
  · rw [boot]
    rcases second with later | ⟨boot, more⟩
    · exact .inl later
    · exact .inr ⟨boot, less.trans more⟩

theorem Precedes.ne (precedes : Precedes started a b)
    : (a.bootId, a.sequence) ≠ (b.bootId, b.sequence) := by
  intro same
  obtain ⟨boot, sequence⟩ := Prod.mk.inj same
  unfold Precedes at precedes
  rw [boot, sequence] at precedes
  omega

theorem forwardOnly_of_ordered (distinct : Function.Injective started)
    {history : List RuntimeTelemetryWrite} (chain : history.IsChain Succeeds)
    (forward : history.Pairwise fun a b => started a.bootId ≤ started b.bootId) :
    ForwardOnly started history where
  once := by
    have step : history.IsChain (Precedes started) := by
      rw [List.isChain_iff_getElem] at chain ⊢
      intro i bound
      have order := List.isChain_iff_getElem.mp forward.isChain i bound
      rcases order.lt_or_eq with later | same
      · exact .inl later
      · exact .inr ⟨distinct same, chain i bound (distinct same)⟩
    have transitive : Trans (Precedes started) (Precedes started) (Precedes started) :=
      ⟨Precedes.trans⟩
    exact List.pairwise_map.mpr (step.pairwise.imp Precedes.ne)
  forward := forward

/-- Within a boot the applied reports only advance; across boots this is so when
    they are delivered boot after boot. -/
theorem telemetry_advances (start : TelemetryStore) (calls : List TelemetryCall)
    (lookup : RuntimeConfigurationLookup) : TelemetryLaw start calls lookup := by
  have chain : (applied lookup start calls).IsChain Succeeds :=
    (applied_chain lookup start calls).right_of_append
  constructor
  · intro block boot within same
    have advance : block.IsChain fun a b => a.sequence < b.sequence := by
      refine ( List.IsChain.infix chain within).imp_of_mem_imp ?_
      intro a b left right succeeds
      exact succeeds ((same a left).trans (same b right).symm)
    have increasing : (block.map (·.sequence)).IsChain (· < ·) := List.isChain_map _ |>.mpr advance
    exact List.pairwise_map.mp increasing.pairwise
  · exact latest_applied lookup start calls
  · intro before now report after _ stale
    refine commit_cases (P := fun store' => store' = run telemetryStep start before) rfl ?_
    intro store' done
    rcases recordRuntimeTelemetry_ok done with ⟨-, rfl⟩ | ⟨fresh, -⟩
    · rfl
    · rw [stale] at fresh
      cases fresh
  · intro started distinct order
    exact forwardOnly_of_ordered distinct chain (order.sublist (applied_sublist lookup start calls))

def sampleTelemetry (boot : Uuid) (sequence : Nat) : RuntimeTelemetryWrite where
  lookup := ⟨1, 11, 21⟩
  bootId := boot
  sequence
  lifecycle := .active
  dataplanePhase := some "data_plane_active"
  configuredPeers := 1
  activePeers := 1
  requiredRouteOwners := 1
  readyRouteOwners := 1
  failedRoutePrefixes := []
  routeDiagnostics := none
  failOpenRequired := false
  lastErrorCode := none
  lastErrorDetail := none
  rttMs := some 40
  jitterMs := some 2
  packetLossPpm := some 0
  rxBps := some 1000
  txBps := some 2000
  reconnects := some 0
  pathChanges := some 0
  transportMode := some "stream_primary"
  runtimeGeneration := some 1
  tunnelGeneration := some 1
  policyGeneration := some 1
  paths := []
  localNetworks := none

def lateTelemetry : List TelemetryCall :=
  [.report 1 (sampleTelemetry 1 1), .report 2 (sampleTelemetry 2 1),
    .report 3 (sampleTelemetry 1 1)]

/-- A late report of an earlier boot is applied over that of the later boot. -/
theorem late_telemetry_applied_twice :
    ¬ ∀ (start : TelemetryStore) (calls : List TelemetryCall) (lookup : RuntimeConfigurationLookup)
      (started : Uuid → Nat), Function.Injective started →
        ForwardOnly started (applied lookup start calls) := by
  intro claimed
  have history : applied ⟨1, 11, 21⟩ ⟨twoSiteStore, [], []⟩ lateTelemetry =
      [sampleTelemetry 1 1, sampleTelemetry 2 1, sampleTelemetry 1 1] := by
    decide +kernel
  have law := claimed ⟨twoSiteStore, [], []⟩ lateTelemetry ⟨1, 11, 21⟩ BitVec.toNat
    (fun _ _ => BitVec.eq_of_toNat_eq)
  rw [history] at law
  have twice := law.once
  revert twice
  decide

end CandyCloud
