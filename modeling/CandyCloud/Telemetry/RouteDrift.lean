import CandyCloud.Foundation.Edges
import CandyCloud.Telemetry.Latest

/-! # The audit of route drift

The audit actions of a report come from it and from the report that it replaces.
-/

namespace CandyCloud

open Foundation

/-- An applied report with the actions of the audit events it caused. -/
structure AuditedReport where
  report : RuntimeTelemetryWrite
  actions : List String
deriving DecidableEq, Repr

def TelemetryStore.emitted (store : TelemetryStore) (call : TelemetryCall) : List String :=
  ((telemetryStep store call).events.drop store.events.length).map (·.action)

/-- The applied reports of a key, with their actions. -/
def audited (lookup : RuntimeConfigurationLookup) :
    TelemetryStore → List TelemetryCall → List AuditedReport
  | _, [] => []
  | store, .elsewhere route :: rest => audited lookup { store with route } rest
  | store, .report now telemetry :: rest =>
      let later := audited lookup (telemetryStep store (.report now telemetry)) rest
      if telemetry.lookup = lookup ∧ store.applies now telemetry then
        ⟨telemetry, store.emitted (.report now telemetry)⟩ :: later
      else later

namespace AuditedReport

variable (entry : AuditedReport)

def health : Option RouteHealth := entry.report.routeDiagnostics.map (·.routeHealth)

def Drifted : Prop := entry.health = some .unhealthy

def Consistent : Prop := entry.health = some .healthy

def Detected : Prop := "RUNTIME_ROUTE_DRIFT_DETECTED" ∈ entry.actions

def Recovered : Prop := "RUNTIME_ROUTE_RECONCILIATION_RECOVERED" ∈ entry.actions

/-- What the actions say, given the report that was replaced. -/
structure Follows (previous : Option RuntimeTelemetryWrite) : Prop where
  detects : entry.Detected ↔ entry.Drifted ∧
    (previous.bind (·.routeDiagnostics.map (·.routeHealth)) ≠ some .unhealthy ∨
      previous.any (·.bootId != entry.report.bootId))
  recovers : entry.Recovered ↔ entry.Consistent ∧
    previous.bind (·.routeDiagnostics.map (·.routeHealth)) = some .unhealthy

end AuditedReport

section Diagnostics

variable {previous : Option RuntimeRouteDiagnosticsWrite} {current : RuntimeRouteDiagnosticsWrite}
  {bootChanged : Bool}

theorem mem_diagnosticActions {action : String}
    (named : action ∈ ["RUNTIME_ROUTE_DRIFT_DETECTED", "RUNTIME_ROUTE_RECONCILIATION_RECOVERED"]) :
    action ∈ runtimeDiagnosticAuditActions previous current bootChanged ↔
      action ∈ (if current.routeHealth = .unhealthy ∧
          (previous.map (·.routeHealth) ≠ some .unhealthy ∨ bootChanged) then
        ["RUNTIME_ROUTE_DRIFT_DETECTED"]
      else if current.routeHealth = .healthy ∧ previous.map (·.routeHealth) = some .unhealthy then
        ["RUNTIME_ROUTE_RECONCILIATION_RECOVERED"]
      else []) := by
  have absent : ∀ names : List String, names ⊆ ["RUNTIME_ROUTE_RECONCILIATION_ATTEMPTED",
      "RUNTIME_PACKET_PROBE_FAILED", "RUNTIME_PACKET_PROBE_RECOVERED"] → action ∉ names := by
    intro names within member
    have other := within member
    simp only [List.mem_cons, List.not_mem_nil, or_false] at named other
    rcases named with rfl | rfl <;> simp at other
  simp only [runtimeDiagnosticAuditActions, List.mem_append]
  rw [or_iff_left (absent _ ?_), or_iff_left (absent _ ?_)]
  · split <;> simp
  · split
    · simp
    · split <;> simp

theorem driftDetected_iff :
    "RUNTIME_ROUTE_DRIFT_DETECTED" ∈ runtimeDiagnosticAuditActions previous current bootChanged ↔
      current.routeHealth = .unhealthy ∧
        (previous.map (·.routeHealth) ≠ some .unhealthy ∨ bootChanged) := by
  rw [mem_diagnosticActions (by simp)]
  split
  · next detected => simpa using detected
  · next quiet =>
      refine iff_of_false ?_ quiet
      split <;> simp

theorem driftRecovered_iff :
    "RUNTIME_ROUTE_RECONCILIATION_RECOVERED" ∈
        runtimeDiagnosticAuditActions previous current bootChanged ↔
      current.routeHealth = .healthy ∧ previous.map (·.routeHealth) = some .unhealthy := by
  rw [mem_diagnosticActions (by simp)]
  split
  · next detected => simp [detected.1]
  · next quiet =>
      split
      · next recovered => simpa using recovered
      · next silent => exact iff_of_false (by simp) silent

end Diagnostics

section Actions

variable {store : TelemetryStore} {now : Instant} {telemetry : RuntimeTelemetryWrite}

theorem emitted_applied (applies : store.applies now telemetry = true) :
    store.emitted (.report now telemetry) =
      phaseActions (store.current telemetry.lookup) telemetry ++
        lifecycleActions (store.current telemetry.lookup) telemetry ++
        diagnosticActions (store.current telemetry.lookup) telemetry := by
  rw [TelemetryStore.applies, Bool.and_eq_true] at applies
  obtain ⟨accepted, fresh⟩ := applies
  cases done : recordRuntimeTelemetry store now telemetry with
  | error error => simp [done, Except.isOk, Except.toBool] at accepted
  | ok store' =>
      cases recordRuntimeTelemetry_ok done with
      | inl ignored => simp [ignored.1] at fresh
      | inr replaced =>
          obtain ⟨-, paths, deviceName, rfl⟩ := replaced
          simp [TelemetryStore.emitted, telemetryStep, done, commit, TelemetryStore.replace,
            telemetryEvents, Function.comp_def]

def lifecycleNames : List String :=
  ["RUNTIME_DATAPLANE_PHASE_CHANGED", "RUNTIME_FAIL_OPEN_ENTERED", "RUNTIME_FAIL_OPEN_RECOVERED",
    "RUNTIME_LIFECYCLE_RECOVERED", "RUNTIME_LIFECYCLE_DEGRADED"]

theorem lifecycle_names {action : String} (current : Option RuntimeTelemetryRow)
    (member : action ∈ phaseActions current telemetry ++ lifecycleActions current telemetry) :
    action ∈ lifecycleNames := by
  rw [List.mem_append] at member
  cases member with
  | inl phase =>
      unfold phaseActions at phase
      split at phase <;> simp_all [lifecycleNames]
  | inr lifecycle =>
      unfold lifecycleActions failOpenAction at lifecycle
      cases current with
      | none => grind [lifecycleNames]
      | some row => grind [lifecycleNames]

theorem emitted_diagnostic (applies : store.applies now telemetry = true) {action : String}
    (apart : action ∉ lifecycleNames) :
    action ∈ store.emitted (.report now telemetry) ↔
      action ∈ diagnosticActions (store.current telemetry.lookup) telemetry := by
  rw [emitted_applied applies, List.mem_append]
  exact or_iff_right fun member => apart (lifecycle_names _ member)

theorem emitted_follows (applies : store.applies now telemetry = true) :
    AuditedReport.Follows ⟨telemetry, store.emitted (.report now telemetry)⟩
      ((store.current telemetry.lookup).map (·.report)) := by
  constructor
  · rw [AuditedReport.Detected, emitted_diagnostic applies (by decide)]
    simp only [AuditedReport.Drifted, AuditedReport.health, diagnosticActions]
    cases telemetry.routeDiagnostics with
    | none => simp
    | some diagnostics =>
        rw [driftDetected_iff]
        cases store.current telemetry.lookup <;> simp
  · rw [AuditedReport.Recovered, emitted_diagnostic applies (by decide)]
    simp only [AuditedReport.Consistent, AuditedReport.health, diagnosticActions]
    cases telemetry.routeDiagnostics with
    | none => simp
    | some diagnostics =>
        rw [driftRecovered_iff]
        cases store.current telemetry.lookup <;> simp

end Actions

/-- Each report follows the one before it, the first the given one. -/
def Audits : Option RuntimeTelemetryWrite → List AuditedReport → Prop
  | _, [] => True
  | previous, entry :: rest => entry.Follows previous ∧ Audits (some entry.report) rest

theorem audited_audits (lookup : RuntimeConfigurationLookup) (store : TelemetryStore)
    (calls : List TelemetryCall) :
    Audits ((store.current lookup).map (·.report)) (audited lookup store calls) := by
  induction calls generalizing store with
  | nil => trivial
  | cons call rest ih =>
      cases call with
      | elsewhere route => exact ih { store with route }
      | report now telemetry =>
          have later := ih (telemetryStep store (.report now telemetry))
          rw [current_report] at later
          rw [audited]
          split
          · next own =>
              rw [if_pos own] at later
              obtain ⟨rfl, applies⟩ := own
              exact ⟨emitted_follows applies, later⟩
          · next other => rwa [if_neg other] at later

theorem Audits.after {previous : Option RuntimeTelemetryWrite} {before block : List AuditedReport}
    (audits : Audits previous (before ++ block)) :
    Audits ((before.getLast?.map (·.report)).or previous) block := by
  induction before generalizing previous with
  | nil => exact audits
  | cons entry rest ih =>
      have later := ih audits.2
      rw [List.getLast?_cons]
      cases last : rest.getLast? with
      | none => simpa [last] using later
      | some value => simpa [last] using later

theorem Audits.monitor {previous : Option RuntimeTelemetryWrite} {boot : Uuid}
    {block after : List AuditedReport} (audits : Audits previous (block ++ after))
    (same : ∀ entry ∈ block, entry.report.bootId = boot)
    (opens : ∀ report ∈ previous, report.bootId ≠ boot) :
    EdgeMonitor AuditedReport.Drifted AuditedReport.Consistent AuditedReport.Detected
      AuditedReport.Recovered block := by
  have neighbours : ∀ {entry rest}, Audits (some entry.report) (rest ++ after) →
      (∀ other ∈ entry :: rest, other.report.bootId = boot) →
      (entry :: rest).IsChain (EdgeStep AuditedReport.Drifted AuditedReport.Consistent
        AuditedReport.Detected AuditedReport.Recovered) := by
    intro entry rest
    induction rest generalizing entry with
    | nil => intro _ _; exact .singleton entry
    | cons next rest ih =>
        intro audits same
        have boots : entry.report.bootId = next.report.bootId := by
          rw [same entry (by simp), same next (by simp)]
        refine .cons_cons ⟨?_, ?_⟩
          (ih audits.2 fun other member => same other (List.mem_cons_of_mem entry member))
        · rw [audits.1.detects]
          simp [boots, AuditedReport.Drifted, AuditedReport.health]
        · rw [audits.1.recovers]
          simp [AuditedReport.Drifted, AuditedReport.health]
  cases block with
  | nil => exact ⟨by simp, .nil⟩
  | cons entry rest =>
      refine ⟨?_, neighbours audits.2 same⟩
      intro first member
      obtain rfl : entry = first := by simpa using member
      rw [audits.1.detects, and_iff_left_iff_imp]
      intro drifted
      cases previous with
      | none => exact .inl (by simp)
      | some report =>
          have other := opens report (by simp)
          rw [← same entry (by simp)] at other
          exact .inr (by simpa using other)

theorem Audits.names {previous : Option RuntimeTelemetryWrite} {entries : List AuditedReport}
    (audits : Audits previous entries) : ∀ entry ∈ entries,
      (entry.Detected → entry.Drifted) ∧ (entry.Recovered → entry.Consistent) := by
  induction entries generalizing previous with
  | nil => simp
  | cons first rest ih =>
      intro entry member
      rw [List.mem_cons] at member
      cases member with
      | inl same =>
          rw [same]
          exact ⟨fun detected => (audits.1.detects.mp detected).1,
            fun recovered => (audits.1.recovers.mp recovered).1⟩
      | inr later => exact ih audits.2 entry later

/-- In every run from a store that holds no report of a key, the drift audit of each
    boot of the key alternates exactly when the report right after a drifted one is
    itself drifted or consistent, unless no later report of that boot is. -/
theorem route_drift_alternates_iff (lookup : RuntimeConfigurationLookup) (start : TelemetryStore)
    (calls : List TelemetryCall) (boot : Uuid) (before block after : List AuditedReport)
    (unreported : start.current lookup = none)
    (whole : audited lookup start calls = before ++ block ++ after)
    (same : ∀ entry ∈ block, entry.report.bootId = boot)
    (opens : ∀ entry ∈ before.getLast?, entry.report.bootId ≠ boot) :
    Alternates AuditedReport.Drifted AuditedReport.Consistent AuditedReport.Detected
        AuditedReport.Recovered block ↔
      Settles AuditedReport.Drifted AuditedReport.Consistent block := by
  have audits := audited_audits lookup start calls
  rw [whole, unreported, Option.map_none, List.append_assoc] at audits
  have names := audits.names
  have monitor := (audits.after).monitor same (by
    intro report found
    rw [Option.or_none] at found
    obtain ⟨entry, last, rfl⟩ := Option.map_eq_some_iff.mp found
    exact opens entry last)
  have listed : ∀ entry ∈ block, entry ∈ before ++ (block ++ after) := by
    intro entry member
    simp [member]
  have apart : ∀ entry : AuditedReport, entry.Consistent → ¬ entry.Drifted := by
    intro entry consistent drifted
    cases consistent.symm.trans drifted
  constructor
  · intro alternates
    exact alternates.settles monitor (fun entry member => (names entry (listed entry member)).2) apart
  · intro settles
    exact settles.alternates monitor fun entry member => (names entry (listed entry member)).1

def sampleDiagnostics (integrity : String) : RuntimeRouteDiagnosticsWrite where
  schemaVersion := 1
  integrity
  expectedSnapshotSha256 := "0123456789abcdef0123456789abcdef0123456789abcdef0123456789abcdef"
  observedSnapshotSha256 := "0123456789abcdef0123456789abcdef0123456789abcdef0123456789abcdef"
  expectedRoutes := 1
  observedRoutes := 1
  orphanedRoutes := 0
  reconcileAttempts := 0
  reconcileSuccesses := 0
  lastCheckedAtUnix := 1
  lastReconciledAtUnix := none
  lastRecoveredAtUnix := none
  lastRecoveryDurationMs := none
  lastErrorCode := none
  probeState := "unreported"
  probeTargets := 0
  probeSuccesses := 0
  probeRttMs := none
  probeCheckedAtUnix := none
  activeIssues := []
  lastRecoveredIssues := []

def integrityReports (integrities : List String) : List TelemetryCall :=
  integrities.zipIdx.map fun (integrity, index) =>
    .report 1 { sampleTelemetry 1 (index + 1) with
      routeDiagnostics := some (sampleDiagnostics integrity) }

/-- The recovery is not audited, nor is it between two drifts. -/
theorem reconciled_drift_unaudited :
    (audited ⟨1, 11, 21⟩ ⟨twoSiteStore, [], []⟩
        (integrityReports ["drifted", "reconciling", "consistent"])).map (·.actions) =
      [["RUNTIME_ROUTE_DRIFT_DETECTED"], [], []] ∧
    (audited ⟨1, 11, 21⟩ ⟨twoSiteStore, [], []⟩
        (integrityReports ["drifted", "reconciling", "drifted"])).map (·.actions) =
      [["RUNTIME_ROUTE_DRIFT_DETECTED"], [], ["RUNTIME_ROUTE_DRIFT_DETECTED"]] ∧
    ¬ ∀ (lookup : RuntimeConfigurationLookup) (start : TelemetryStore) (calls : List TelemetryCall)
      (boot : Uuid), start.current lookup = none →
        (∀ entry ∈ audited lookup start calls, entry.report.bootId = boot) →
        Alternates AuditedReport.Drifted AuditedReport.Consistent AuditedReport.Detected
          AuditedReport.Recovered (audited lookup start calls) := by
  refine ⟨by decide +kernel, by decide +kernel, fun claimed => ?_⟩
  have entries : ∃ drifted reconciling consistent,
      audited ⟨1, 11, 21⟩ ⟨twoSiteStore, [], []⟩
          (integrityReports ["drifted", "reconciling", "consistent"]) =
        [drifted, reconciling, consistent] ∧ drifted.report.bootId = 1 ∧
      reconciling.report.bootId = 1 ∧ consistent.report.bootId = 1 ∧ drifted.Drifted ∧
      consistent.Consistent ∧ ¬ reconciling.Recovered ∧ ¬ consistent.Recovered := by
    refine ⟨_, _, _, by rfl, ?_⟩
    unfold AuditedReport.Drifted AuditedReport.Consistent AuditedReport.Recovered
    decide +kernel
  obtain ⟨drifted, reconciling, consistent, run, one, two, three, drift, well, quiet, silent⟩ :=
    entries
  have alternates := claimed ⟨1, 11, 21⟩ ⟨twoSiteStore, [], []⟩
    (integrityReports ["drifted", "reconciling", "consistent"]) 1 (by decide +kernel)
    (by rw [run]; simp [one, two, three])
  rw [run] at alternates
  obtain ⟨entry, member, recovered⟩ :=
    alternates.recovered [] drifted [reconciling] consistent [] rfl drift well
  simp only [List.singleton_append, List.mem_cons, List.not_mem_nil, or_false] at member
  cases member with
  | inl same => exact quiet (same ▸ recovered)
  | inr same => exact silent (same ▸ recovered)

/-- The recovery that follows at once is audited. -/
theorem direct_recovery_audited :
    Alternates AuditedReport.Drifted AuditedReport.Consistent AuditedReport.Detected
      AuditedReport.Recovered (audited ⟨1, 11, 21⟩ ⟨twoSiteStore, [], []⟩
        (integrityReports ["drifted", "consistent"])) := by
  have size : (audited ⟨1, 11, 21⟩ ⟨twoSiteStore, [], []⟩
      (integrityReports ["drifted", "consistent"])).length = 2 := by
    decide +kernel
  refine (route_drift_alternates_iff ⟨1, 11, 21⟩ ⟨twoSiteStore, [], []⟩
    (integrityReports ["drifted", "consistent"]) 1 [] _ [] (by decide +kernel) (by simp)
    (by decide +kernel) (by simp)).mpr ?_
  intro a drift next c split _ _ _ later member
  have count := congrArg List.length split
  rw [size] at count
  have nothing : c = [] := by
    simp only [List.length_append, List.length_cons] at count
    exact List.length_eq_zero_iff.mp (by omega)
  simp [nothing] at member

end CandyCloud
