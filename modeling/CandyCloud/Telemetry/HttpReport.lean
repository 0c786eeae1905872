import CandyCloud.Control.Stability
import CandyCloud.Enrollment.RenewalRequests
import CandyCloud.Route.Admission
import CandyCloud.Telemetry.Report

/-! # Reports at the HTTP interface

The handler of a report checks it before the service hands it to the repository, which checks it
again.
-/

namespace CandyCloud

open Foundation

/-- The forms of the request, the command and the write have the same fields for a path, a
    stream, a network and the diagnostics, and are copied field by field. -/
structure RuntimeTelemetryHttpRequest where
  schemaVersion : Nat
  bootId : Uuid
  sequence : Nat
  lifecycle : RuntimeLifecycle
  dataplanePhase : Option String
  configuredPeers : Nat
  activePeers : Nat
  requiredRouteOwners : Nat
  readyRouteOwners : Nat
  failedRoutePrefixes : List String
  routeDiagnostics : Option RuntimeRouteDiagnosticsWrite
  failOpenRequired : Bool
  lastErrorCode : Option String
  lastErrorDetail : Option String
  rttMs : Option Nat
  jitterMs : Option Nat
  packetLossPpm : Option Nat
  rxBps : Option Nat
  txBps : Option Nat
  reconnects : Option Nat
  pathChanges : Option Nat
  transportMode : Option String
  runtimeGeneration : Option Nat
  tunnelGeneration : Option Nat
  policyGeneration : Option Nat
  paths : List RuntimePathTelemetryWrite
  localNetworks : Option (List RuntimeLocalNetworkTelemetryWrite)

def maxRuntimeRoutePrefixes : Nat := 65536

namespace HttpReport

def validRuntimeErrorCode (value : String) : Bool :=
  RuntimeConfigurationStatusWrite.validErrorCode value

def validRuntimePrefix (value : String) : Bool :=
  match splitOnce 47 (utf8 value) with
  | none => false
  | some (network, length) =>
      match parseIpv4 network, parseUnsigned 255 length with
      | some address, some len =>
          if decide (32 < len) || length.isEmpty || decide (2 < length.length) then false
          else address &&& ~~~(Ipv4PrefixV1.mask len) == 0
      | _, _ => false

def validIssue (issue : RuntimeRouteIssueWrite) : Bool :=
  validRuntimePrefix issue.routePrefix && decide (20000 ≤ issue.tableId ∧ issue.tableId ≤ 20999) &&
    ["absent", "link", "throw"].contains issue.expectedKind &&
    ["missing", "link", "throw", "unrecognized"].contains issue.observedKind &&
    ["missing_route", "stale_failed_prefix_throw", "stale_active_route", "route_metrics_mismatch",
      "route_attributes_mismatch", "undeclared_route"].contains issue.reason &&
    ["restore_signed_route", "suspend_steering_and_require_review"].contains issue.action

def issuesValid (value : RuntimeRouteDiagnosticsWrite) : Bool :=
  decide (value.activeIssues.length ≤ 64) && decide (value.lastRecoveredIssues.length ≤ 64) &&
    value.activeIssues.all validIssue && value.lastRecoveredIssues.all validIssue &&
    (value.schemaVersion != 1 ||
      (value.activeIssues.isEmpty && value.lastRecoveredIssues.isEmpty)) &&
    (value.activeIssues.isEmpty || value.integrity != "consistent") &&
    (value.lastRecoveredIssues.isEmpty || value.lastRecoveredAtUnix.isSome)

/-- `valid_route_diagnostics`; a consistent state and the probe are checked as in the
    repository, but for the list of the probe's states. -/
def validRouteDiagnostics (value : RuntimeRouteDiagnosticsWrite) : Bool :=
  (value.schemaVersion == 1 || value.schemaVersion == 2) &&
    ["consistent", "drifted", "reconciling", "failed"].contains value.integrity &&
    lowerHexDigest value.expectedSnapshotSha256 && lowerHexDigest value.observedSnapshotSha256 &&
    decide (value.expectedRoutes ≤ 8192) && decide (value.observedRoutes ≤ 8192) &&
    decide (value.orphanedRoutes ≤ value.observedRoutes) &&
    decide (value.reconcileSuccesses ≤ value.reconcileAttempts) &&
    decide (0 < value.lastCheckedAtUnix) && value.lastReconciledAtUnix.all value.checkedBy &&
    value.lastRecoveredAtUnix.all value.checkedBy &&
    value.lastRecoveryDurationMs.all (fun millis => decide (millis ≤ 300000)) &&
    value.lastErrorCode.all validRuntimeErrorCode && decide (value.probeTargets ≤ 4096) &&
    decide (value.probeSuccesses ≤ value.probeTargets) &&
    value.probeRttMs.all (fun rtt => decide (rtt ≤ 60000)) &&
    value.probeCheckedAtUnix.all (fun timestamp => decide (0 < timestamp)) &&
    issuesValid value && value.routeStateIsTruthful && value.probeStateIsTruthful

def validRuntimeNetwork (cidr address : String) : Bool :=
  if (utf8 cidr).isEmpty || decide (18 < (utf8 cidr).length) || (utf8 address).isEmpty ||
      decide (15 < (utf8 address).length) then
    false
  else
    match splitOnce 47 (utf8 cidr) with
    | none => false
    | some (network, length) =>
        if length.isEmpty || length.any (fun byte => !asciiDigit byte) then false
        else
          match parseIpv4 network, parseIpv4 (utf8 address), parseUnsigned 255 length with
          | some network, some address, some length =>
              decide (length ≤ 32) && network == address &&& Ipv4PrefixV1.mask length &&
                network == network &&& Ipv4PrefixV1.mask length
          | _, _, _ => false

/-- `valid_runtime_stream_path`, the body both crates give the check of the streams. -/
def validRuntimeStreamPath (path : RuntimePathTelemetryWrite) : Bool := path.validStreams

def malformedPath (path : RuntimePathTelemetryWrite) : Bool :=
  isNil path.peerAttachmentId || path.candidateId.any isNil || path.transport != "quic_stream" ||
    path.connectionEpoch == 0 || path.packetLossPpm.any (fun value => decide (1000000 < value)) ||
    !validRuntimeStreamPath path

def malformedNetwork (network : RuntimeLocalNetworkTelemetryWrite) : Bool :=
  !lowerHexDigest network.networkId || !validRuntimeToken network.interfaceName 64 (utf8 "_.:-@") ||
    network.kind != "direct_ipv4" || !validRuntimeNetwork network.cidr network.address

end HttpReport

namespace RuntimeTelemetryHttpRequest

open HttpReport
open RuntimeTelemetryWrite (validErrorDetail generationsDiffer)

variable (request : RuntimeTelemetryHttpRequest)

/-- What `record_runtime_telemetry` answers with an invalid report. -/
def malformed : Bool :=
  request.schemaVersion != 1 || isNil request.bootId || request.sequence == 0 ||
    decide (request.configuredPeers < request.activePeers) ||
    decide (request.requiredRouteOwners < request.readyRouteOwners) ||
    decide (request.activePeers < request.readyRouteOwners) ||
    request.packetLossPpm.any (fun value => decide (1000000 < value)) ||
    request.lastErrorCode.any (fun value => !validRuntimeErrorCode value) ||
    request.lastErrorDetail.any (fun value => !validErrorDetail value) ||
    ((request.lifecycle == .failOpen) != request.failOpenRequired) ||
    request.transportMode.any (· != "stream_primary") || request.runtimeGeneration == some 0 ||
    request.tunnelGeneration == some 0 || request.policyGeneration == some 0 ||
    generationsDiffer request.runtimeGeneration request.policyGeneration ||
    decide (256 < request.paths.length) ||
    decide (maxRuntimeRoutePrefixes < request.failedRoutePrefixes.length) ||
    request.failedRoutePrefixes.any (fun value => !validRuntimePrefix value) ||
    request.routeDiagnostics.any (fun value => !validRouteDiagnostics value) ||
    request.localNetworks.any (fun networks => decide (64 < networks.length)) ||
    malformedOrRepeated malformedPath (·.peerAttachmentId) request.paths ||
    request.localNetworks.any (malformedOrRepeated malformedNetwork (·.networkId))

/-- What `record_telemetry` hands to the repository. -/
def write (actor : AuthenticatedDevice) : RuntimeTelemetryWrite where
  lookup := ⟨actor.record.scope.tenantId, actor.record.scope.deviceId,
    actor.record.scope.deviceKeyId⟩
  bootId := request.bootId
  sequence := request.sequence
  lifecycle := request.lifecycle
  dataplanePhase := request.dataplanePhase
  configuredPeers := request.configuredPeers
  activePeers := request.activePeers
  requiredRouteOwners := request.requiredRouteOwners
  readyRouteOwners := request.readyRouteOwners
  failedRoutePrefixes := request.failedRoutePrefixes
  routeDiagnostics := request.routeDiagnostics
  failOpenRequired := request.failOpenRequired
  lastErrorCode := request.lastErrorCode
  lastErrorDetail := request.lastErrorDetail
  rttMs := request.rttMs
  jitterMs := request.jitterMs
  packetLossPpm := request.packetLossPpm
  rxBps := request.rxBps
  txBps := request.txBps
  reconnects := request.reconnects
  pathChanges := request.pathChanges
  transportMode := request.transportMode
  runtimeGeneration := request.runtimeGeneration
  tunnelGeneration := request.tunnelGeneration
  policyGeneration := request.policyGeneration
  paths := request.paths
  localNetworks := request.localNetworks

end RuntimeTelemetryHttpRequest

theorem canonicalPrefix_of_valid {value : String}
    (valid : HttpReport.validRuntimePrefix value = true) : canonicalPrefix value = true := by
  rw [HttpReport.validRuntimePrefix] at valid
  rw [canonicalPrefix]
  cases divided : splitOnce 47 (utf8 value) with
  | none =>
      rw [divided] at valid
      cases valid
  | some parts =>
      simp only [divided] at valid ⊢
      cases read : parseIpv4 parts.1 with
      | none =>
          rw [read] at valid
          cases valid
      | some address =>
          cases readLength : parseUnsigned 255 parts.2 with
          | none =>
              rw [read, readLength] at valid
              cases valid
          | some len =>
              simp only [read, readLength] at valid ⊢
              split at valid
              · cases valid
              · rename_i short
                simp only [Bool.or_eq_true, decide_eq_true_eq, not_or, not_lt] at short
                have masked := Ipv4PrefixV1.unmasked_iff.mp (beq_iff_eq.mp valid)
                rw [Bool.and_eq_true, decide_eq_true_eq, beq_iff_eq]
                exact ⟨short.1.1, masked.symm⟩

theorem validIssue_valid {issue : RuntimeRouteIssueWrite}
    (valid : HttpReport.validIssue issue = true) : issue.valid = true := by
  simp only [HttpReport.validIssue, RuntimeRouteIssueWrite.valid, Bool.and_eq_true] at valid ⊢
  exact ⟨⟨⟨⟨⟨canonicalPrefix_of_valid valid.1.1.1.1.1, valid.1.1.1.1.2⟩, valid.1.1.1.2⟩,
    valid.1.1.2⟩, valid.1.2⟩, valid.2⟩

theorem probeState_listed {value : RuntimeRouteDiagnosticsWrite}
    (truthful : value.probeStateIsTruthful = true) :
    ["unreported", "pending", "succeeded", "failed"].contains value.probeState = true := by
  rw [RuntimeRouteDiagnosticsWrite.probeStateIsTruthful] at truthful
  by_cases unreported : value.probeState = "unreported"
  · simp [unreported]
  · by_cases pending : value.probeState = "pending"
    · simp [pending]
    · by_cases succeeded : value.probeState = "succeeded"
      · simp [succeeded]
      · by_cases failed : value.probeState = "failed"
        · simp [failed]
        · simp [unreported, pending, succeeded, failed] at truthful

theorem validRouteDiagnostics_valid {value : RuntimeRouteDiagnosticsWrite}
    (valid : HttpReport.validRouteDiagnostics value = true) : value.valid = true := by
  have issues : ∀ listed : List RuntimeRouteIssueWrite,
      listed.all HttpReport.validIssue = true → listed.all RuntimeRouteIssueWrite.valid = true := by
    intro listed each
    rw [List.all_eq_true] at each ⊢
    exact fun issue inside => validIssue_valid (each issue inside)
  simp only [HttpReport.validRouteDiagnostics, HttpReport.issuesValid, Bool.and_eq_true] at valid
  simp only [RuntimeRouteDiagnosticsWrite.valid, RuntimeRouteDiagnosticsWrite.issuesAreValid,
    Bool.and_eq_true]
  have listed := probeState_listed valid.2
  have error : HttpReport.validRuntimeErrorCode =
      RuntimeConfigurationStatusWrite.validErrorCode := rfl
  rw [error] at valid
  grind

theorem validRuntimeNetwork_valid {cidr address : String}
    (valid : HttpReport.validRuntimeNetwork cidr address = true) :
    validRuntimeNetwork cidr address = true := by
  rw [HttpReport.validRuntimeNetwork] at valid
  split at valid
  · cases valid
  · rename_i short
    simp only [Bool.or_eq_true, decide_eq_true_eq, not_or, not_lt] at short
    rw [validRuntimeNetwork, if_neg]
    · exact valid
    · simp only [Bool.or_eq_true, decide_eq_true_eq, not_or, not_lt]
      exact ⟨⟨⟨short.1.1.1, by omega⟩, short.1.2⟩, by omega⟩

theorem malformedNetwork_malformed {network : RuntimeLocalNetworkTelemetryWrite}
    (checked : HttpReport.malformedNetwork network = false) : network.malformed = false := by
  simp only [HttpReport.malformedNetwork, RuntimeLocalNetworkTelemetryWrite.malformed,
    Bool.or_eq_false_iff, Bool.not_eq_false'] at checked ⊢
  exact ⟨checked.1, validRuntimeNetwork_valid checked.2⟩

theorem validateRuntimeLocalNetworks_valid {networks : List RuntimeLocalNetworkTelemetryWrite}
    (short : networks.length ≤ maxRuntimeLocalNetworks)
    (checked : malformedOrRepeated HttpReport.malformedNetwork (·.networkId) networks = false) :
    validateRuntimeLocalNetworks networks = true := by
  rw [malformedOrRepeated_eq_false] at checked
  have sound : malformedOrRepeated RuntimeLocalNetworkTelemetryWrite.malformed (·.networkId)
      networks = false :=
    malformedOrRepeated_eq_false.mpr
      ⟨fun network inside => malformedNetwork_malformed (checked.1 network inside), checked.2⟩
  simp [validateRuntimeLocalNetworks, short, sound]

theorem AuthenticatedDevice.validate_lookup (actor : AuthenticatedDevice) :
    (⟨actor.record.scope.tenantId, actor.record.scope.deviceId,
      actor.record.scope.deviceKeyId⟩ : RuntimeConfigurationLookup).validate = .ok () := by
  have valid := actor.valid
  simp only [DeviceCertificateIdentityRecord.malformed, CertificateRenewalScope.nil,
    Bool.or_eq_false_iff] at valid
  simp [RuntimeConfigurationLookup.validate, reject_ok, valid]

/-- The handlers ask whether a reported value fails its check, the repository whether an
    absent or reported one passes it. -/
theorem all_of_reported {α : Type} {check sound : α → Bool} {reported : Option α}
    (sufficient : ∀ value, check value = true → sound value = true)
    (checked : reported.any (fun value => !check value) = false) :
    reported.all sound = true := by
  cases reported with
  | none => rfl
  | some value => exact sufficient value (by simpa using checked)

theorem validLocalNetworks {reported : Option (List RuntimeLocalNetworkTelemetryWrite)}
    (short : reported.any (fun networks => decide (64 < networks.length)) = false)
    (checked : reported.any (malformedOrRepeated HttpReport.malformedNetwork (·.networkId)) =
      false) : reported.all validateRuntimeLocalNetworks = true := by
  cases reported with
  | none => rfl
  | some networks =>
      exact validateRuntimeLocalNetworks_valid (not_lt.mp (of_decide_eq_false short)) checked

/-- An accepted report passes the check of the repository exactly when its phase of the
    data plane, which the handler does not look at, is one of the listed ones. -/
theorem reports_agree {request : RuntimeTelemetryHttpRequest} {actor : AuthenticatedDevice}
    (accepted : request.malformed = false) : (request.write actor).validate = .ok () ↔
      request.dataplanePhase.all runtimeDataplanePhaseIsValid = true := by
  have owner : (request.write actor).lookup.validate = .ok () := actor.validate_lookup
  simp only [RuntimeTelemetryHttpRequest.malformed, Bool.or_eq_false_iff] at accepted
  obtain ⟨⟨⟨⟨⟨⟨⟨head, short⟩, _⟩, _⟩, diagnostics⟩, few⟩, paths⟩, networks⟩ := accepted
  obtain ⟨⟨⟨⟨⟨⟨⟨⟨head, code⟩, detail⟩, lifecycle⟩, mode⟩, runtime⟩, tunnel⟩, policy⟩, differ⟩ := head
  obtain ⟨⟨⟨⟨⟨⟨_, boot⟩, sequence⟩, peers⟩, owners⟩, ready⟩, loss⟩ := head
  have codes := all_of_reported (fun _ valid => valid) code
  have details := all_of_reported (fun _ valid => valid) detail
  have routes := all_of_reported (fun _ valid => validRouteDiagnostics_valid valid) diagnostics
  have locals := validLocalNetworks few networks
  simp only [RuntimeTelemetryWrite.validate, unit_bind_ok, reject_ok, Bool.or_eq_false_iff,
    Bool.not_eq_false', owner, true_and]
  constructor
  · intro passed
    obtain ⟨⟨⟨⟨⟨⟨⟨⟨⟨⟨_, phase⟩, _⟩, _⟩, _⟩, _⟩, _⟩, _⟩, _⟩, _⟩, _⟩ := passed
    exact phase
  · intro phase
    exact ⟨⟨⟨⟨⟨⟨⟨⟨⟨⟨⟨⟨⟨⟨⟨⟨⟨⟨boot, sequence⟩, peers⟩, owners⟩, ready⟩, loss⟩, lifecycle⟩, codes⟩, details⟩,
      phase⟩, mode⟩, runtime⟩, tunnel⟩, policy⟩, differ⟩, short⟩, routes⟩, few⟩, paths, locals⟩

def reportOf (phase : Option String) : RuntimeTelemetryHttpRequest :=
  { schemaVersion := 1, bootId := 7, sequence := 1, lifecycle := .degraded,
    dataplanePhase := phase, configuredPeers := 0, activePeers := 0, requiredRouteOwners := 0,
    readyRouteOwners := 0, failedRoutePrefixes := [], routeDiagnostics := none,
    failOpenRequired := false, lastErrorCode := none, lastErrorDetail := none, rttMs := none,
    jitterMs := none, packetLossPpm := none, rxBps := none, txBps := none, reconnects := none,
    pathChanges := none, transportMode := none, runtimeGeneration := none,
    tunnelGeneration := none, policyGeneration := none, paths := [], localNetworks := none }

def reportingDevice : AuthenticatedDevice := ⟨⟨⟨1, 2, 3, 4⟩, 5, 1⟩, by decide⟩

theorem reports_agree_degraded :
    (reportOf (some "degraded")).malformed = false ∧
      ((reportOf (some "degraded")).write reportingDevice).validate = .ok () :=
  have accepted : (reportOf (some "degraded")).malformed = false := by decide
  ⟨accepted, (reports_agree accepted).mpr (by decide)⟩

/-- The handler accepts a phase the repository does not know, and the report is answered
    with a conflict. -/
theorem report_phase_unknown :
    (reportOf (some "warming_up")).malformed = false ∧
      ((reportOf (some "warming_up")).write reportingDevice).validate = .error .invalidScope := by
  decide

end CandyCloud
