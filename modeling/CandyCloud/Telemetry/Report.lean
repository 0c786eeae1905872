import CandyCloud.Control.Contract
import CandyCloud.Route.Status

/-! # Telemetry reports

What a Runtime tells Cloud about itself on every synchronisation cycle, and the checks a report
passes before anything is read from the database.
-/

namespace CandyCloud

open Foundation
open RuntimeConfigurationStatusWrite (validErrorCode)

inductive RuntimeLifecycle where
  | starting
  | active
  | degraded
  | failOpen
  | stopped
  | unknown
deriving DecidableEq, Repr

structure RuntimeRouteIssueWrite where
  routePrefix : String
  tableId : Nat
  expectedKind : String
  observedKind : String
  reason : String
  action : String
deriving DecidableEq, Repr

structure RuntimeRouteDiagnosticsWrite where
  schemaVersion : Nat
  integrity : String
  expectedSnapshotSha256 : String
  observedSnapshotSha256 : String
  expectedRoutes : Nat
  observedRoutes : Nat
  orphanedRoutes : Nat
  reconcileAttempts : Nat
  reconcileSuccesses : Nat
  lastCheckedAtUnix : Nat
  lastReconciledAtUnix : Option Nat
  lastRecoveredAtUnix : Option Nat
  lastRecoveryDurationMs : Option Nat
  lastErrorCode : Option String
  probeState : String
  probeTargets : Nat
  probeSuccesses : Nat
  probeRttMs : Option Nat
  probeCheckedAtUnix : Option Nat
  activeIssues : List RuntimeRouteIssueWrite
  lastRecoveredIssues : List RuntimeRouteIssueWrite
deriving DecidableEq, Repr

structure RuntimeLocalNetworkTelemetryWrite where
  networkId : String
  interfaceName : String
  cidr : String
  address : String
  kind : String
deriving DecidableEq, Repr

structure RuntimeStreamTelemetryWrite where
  slot : Nat
  streamId : Nat
  state : String
  generation : Nat
  txPackets : Nat
  rxPackets : Nat
  txBytes : Nat
  rxBytes : Nat
  txFrames : Nat
  rxFrames : Nat
  activeFlows : Nat
  queueDepth : Nat
  queueLimit : Nat
  queuePeak : Nat
  lastAckSeq : Option Nat
  ackRttMs : Option Nat
  rxBps : Option Nat
  txBps : Option Nat
  resetCount : Nat
  decodeErrors : Nat
  highWatermarkHits : Nat
  lowWatermarkHits : Nat
  blockedMs : Nat
  sendWindowBytes : Nat
  lastTxMonotonicMs : Option Nat
  lastRxMonotonicMs : Option Nat
  lastErrorCode : Option String
deriving DecidableEq, Repr

structure RuntimePathTelemetryWrite where
  peerAttachmentId : Uuid
  candidateId : Option Uuid
  pathKind : RuntimePathKind
  transport : String
  connectionEpoch : Nat
  rttMs : Option Nat
  jitterMs : Option Nat
  packetLossPpm : Option Nat
  rxBps : Option Nat
  txBps : Option Nat
  reconnects : Nat
  pathChanges : Nat
  transportMode : Option String
  routeGeneration : Option Nat
  congestionState : Option String
  streamCount : Option Nat
  readyStreams : Option Nat
  probeMisses : Option Nat
  queueDepth : Option Nat
  queueLimit : Option Nat
  lastAckSeq : Option Nat
  streams : List RuntimeStreamTelemetryWrite
deriving DecidableEq, Repr

structure RuntimeTelemetryWrite where
  lookup : RuntimeConfigurationLookup
  bootId : Uuid
  sequence : Nat
  lifecycle : RuntimeLifecycle
  dataplanePhase : Option String
  configuredPeers : Nat
  activePeers : Nat
  requiredRouteOwners : Nat
  readyRouteOwners : Nat
  failedRoutePrefixes : List String
  routeDiagnostics : Option RuntimeRouteDiagnosticsWrite
  failOpenRequired : Bool
  lastErrorCode : Option String
  lastErrorDetail : Option String
  rttMs : Option Nat
  jitterMs : Option Nat
  packetLossPpm : Option Nat
  rxBps : Option Nat
  txBps : Option Nat
  reconnects : Option Nat
  pathChanges : Option Nat
  transportMode : Option String
  runtimeGeneration : Option Nat
  tunnelGeneration : Option Nat
  policyGeneration : Option Nat
  paths : List RuntimePathTelemetryWrite
  localNetworks : Option (List RuntimeLocalNetworkTelemetryWrite)
deriving DecidableEq, Repr

def maxRuntimeLocalNetworks : Nat := 64

def runtimeDataplanePhaseIsValid (phase : String) : Bool :=
  ["control_received", "control_verified", "config_compiled", "netd_prepared",
    "core_policy_staged", "peer_connecting", "peer_authenticated", "stream_opening",
    "stream_ready", "route_owners_ready", "packet_path_probing", "steering_committed",
    "data_plane_active", "degraded", "recovering", "failed", "stopping", "stopped"].contains phase

/-- The prefix of an issue has no bits outside its mask. -/
def canonicalPrefix (text : String) : Bool :=
  match splitOnce 47 (utf8 text) with
  | none => false
  | some (address, length) =>
      match parseIpv4 address, parseUnsigned 255 length with
      | some address, some length =>
          decide (length ≤ 32) && address == address &&& Ipv4PrefixV1.mask length
      | _, _ => false

def RuntimeRouteIssueWrite.valid (issue : RuntimeRouteIssueWrite) : Bool :=
  canonicalPrefix issue.routePrefix && decide (20000 ≤ issue.tableId ∧ issue.tableId ≤ 20999) &&
    ["absent", "link", "throw"].contains issue.expectedKind &&
    ["missing", "link", "throw", "unrecognized"].contains issue.observedKind &&
    ["missing_route", "stale_failed_prefix_throw", "stale_active_route", "route_metrics_mismatch",
      "route_attributes_mismatch", "undeclared_route"].contains issue.reason &&
    ["restore_signed_route", "suspend_steering_and_require_review"].contains issue.action

def lowerHexDigest (text : String) : Bool :=
  (utf8 text).length == 64 && (utf8 text).all lowerHexDigit

namespace RuntimeRouteDiagnosticsWrite

variable (value : RuntimeRouteDiagnosticsWrite)

def issuesAreValid : Bool :=
  decide (value.activeIssues.length ≤ 64) && decide (value.lastRecoveredIssues.length ≤ 64) &&
    value.activeIssues.all RuntimeRouteIssueWrite.valid &&
    value.lastRecoveredIssues.all RuntimeRouteIssueWrite.valid &&
    (value.schemaVersion != 1 ||
      (value.activeIssues.isEmpty && value.lastRecoveredIssues.isEmpty)) &&
    (value.activeIssues.isEmpty || value.integrity != "consistent") &&
    (value.lastRecoveredIssues.isEmpty || value.lastRecoveredAtUnix.isSome)

def routeStateIsTruthful : Bool :=
  value.integrity != "consistent" ||
    (value.expectedSnapshotSha256 == value.observedSnapshotSha256 &&
      value.expectedRoutes == value.observedRoutes && value.orphanedRoutes == 0 &&
      value.activeIssues.isEmpty && value.lastErrorCode.isNone)

def probeStateIsTruthful : Bool :=
  if value.probeState = "unreported" then
    value.probeTargets == 0 && value.probeSuccesses == 0 && value.probeRttMs.isNone &&
      value.probeCheckedAtUnix.isNone
  else if value.probeState = "pending" then
    decide (value.probeSuccesses ≤ value.probeTargets) && value.probeCheckedAtUnix.isNone
  else if value.probeState = "succeeded" then
    decide (0 < value.probeTargets) && value.probeSuccesses == value.probeTargets &&
      value.probeCheckedAtUnix.isSome
  else if value.probeState = "failed" then
    decide (0 < value.probeTargets) && decide (value.probeSuccesses < value.probeTargets) &&
      value.probeCheckedAtUnix.isSome
  else false

def checkedBy (timestamp : Nat) : Bool :=
  decide (0 < timestamp) && decide (timestamp ≤ value.lastCheckedAtUnix)

/-- `validate_runtime_route_diagnostics`. -/
def valid : Bool :=
  (value.schemaVersion == 1 || value.schemaVersion == 2) &&
    ["consistent", "drifted", "reconciling", "failed"].contains value.integrity &&
    lowerHexDigest value.expectedSnapshotSha256 && lowerHexDigest value.observedSnapshotSha256 &&
    decide (value.observedRoutes ≤ 8192) && decide (value.expectedRoutes ≤ 8192) &&
    decide (value.orphanedRoutes ≤ value.observedRoutes) &&
    decide (value.reconcileSuccesses ≤ value.reconcileAttempts) &&
    decide (0 < value.lastCheckedAtUnix) && value.lastReconciledAtUnix.all value.checkedBy &&
    value.lastRecoveredAtUnix.all value.checkedBy &&
    value.lastRecoveryDurationMs.all (fun millis => decide (millis ≤ 300000)) &&
    value.lastErrorCode.all validErrorCode &&
    ["unreported", "pending", "succeeded", "failed"].contains value.probeState &&
    decide (value.probeTargets ≤ 4096) && decide (value.probeSuccesses ≤ value.probeTargets) &&
    value.probeRttMs.all (fun rtt => decide (rtt ≤ 60000)) &&
    value.probeCheckedAtUnix.all (fun timestamp => decide (0 < timestamp)) &&
    value.routeStateIsTruthful && value.probeStateIsTruthful && value.issuesAreValid

end RuntimeRouteDiagnosticsWrite

/-- Both values are reported and the first exceeds the second. -/
def exceeds (value limit : Option Nat) : Bool :=
  value.any fun value => limit.any fun limit => decide (limit < value)

def RuntimeStreamTelemetryWrite.valid (routeGeneration : Option Nat)
    (stream : RuntimeStreamTelemetryWrite) : Bool :=
  ["starting", "opening", "ready", "draining", "congested", "resetting", "failed",
      "closed"].contains stream.state &&
    stream.streamId != 0 && stream.generation != 0 &&
    routeGeneration.all (· == stream.generation) && decide (0 < stream.queueLimit) &&
    decide (stream.queueDepth ≤ stream.queueLimit) &&
    decide (stream.queueDepth ≤ stream.queuePeak) && stream.lastErrorCode.all validErrorCode

def RuntimePathTelemetryWrite.validStreams (path : RuntimePathTelemetryWrite) : Bool :=
  !(path.transportMode.any (· != "stream_primary") || path.routeGeneration == some 0 ||
    path.congestionState.any (fun state =>
      !(["normal", "congested", "recovering"].contains state)) ||
    path.streamCount.any (fun count => decide (8 < count)) ||
    exceeds path.readyStreams path.streamCount || exceeds path.queueDepth path.queueLimit ||
    decide (8 < path.streams.length) || path.streamCount.any (· != path.streams.length)) &&
  (path.streams.all (RuntimeStreamTelemetryWrite.valid path.routeGeneration) &&
    decide (path.streams.map (·.slot)).Nodup && decide (path.streams.map (·.streamId)).Nodup)

def RuntimePathTelemetryWrite.malformed (path : RuntimePathTelemetryWrite) : Bool :=
  isNil path.peerAttachmentId || path.candidateId.any isNil || path.transport != "quic_stream" ||
    path.connectionEpoch == 0 || path.packetLossPpm.any (fun value => decide (1000000 < value)) ||
    !path.validStreams

def validRuntimeToken (value : String) (maximum : Nat) (punctuation : Bytes) : Bool :=
  !(utf8 value).isEmpty && decide ((utf8 value).length ≤ maximum) &&
    (utf8 value).all fun byte => asciiAlphanumeric byte || punctuation.contains byte

/-- The network of a local address, in its canonical form. -/
def validRuntimeNetwork (cidr address : String) : Bool :=
  if (utf8 cidr).isEmpty || decide (64 < (utf8 cidr).length) || (utf8 address).isEmpty ||
      decide (45 < (utf8 address).length) then
    false
  else
    match splitOnce 47 (utf8 cidr) with
    | none => false
    | some (network, length) =>
        if length.isEmpty || length.any (fun byte => !asciiDigit byte) then false
        else
          match parseIpv4 network, parseIpv4 (utf8 address), parseUnsigned 255 length with
          | some network, some address, some length =>
              decide (length ≤ 32) && network == address &&& Ipv4PrefixV1.mask length &&
                network == network &&& Ipv4PrefixV1.mask length
          | _, _, _ => false

def RuntimeLocalNetworkTelemetryWrite.malformed (network : RuntimeLocalNetworkTelemetryWrite) :
    Bool :=
  !lowerHexDigest network.networkId || !validRuntimeToken network.interfaceName 64 (utf8 "_.:-@") ||
    network.kind != "direct_ipv4" || !validRuntimeNetwork network.cidr network.address

def validateRuntimeLocalNetworks (networks : List RuntimeLocalNetworkTelemetryWrite) : Bool :=
  decide (networks.length ≤ maxRuntimeLocalNetworks) &&
    !malformedOrRepeated RuntimeLocalNetworkTelemetryWrite.malformed (·.networkId) networks

namespace RuntimeTelemetryWrite

variable (telemetry : RuntimeTelemetryWrite)

def validErrorDetail (value : String) : Bool :=
  !value.isEmpty && decide ((utf8 value).length ≤ 1024) && !value.toList.any isControl

def generationsDiffer (runtime policy : Option Nat) : Bool :=
  runtime.any fun runtime => policy.any fun policy => runtime != policy

def validate : Except RuntimeConfigurationError Unit := do
  telemetry.lookup.validate
  reject (isNil telemetry.bootId || telemetry.sequence == 0 ||
    decide (telemetry.configuredPeers < telemetry.activePeers) ||
    decide (telemetry.requiredRouteOwners < telemetry.readyRouteOwners) ||
    decide (telemetry.activePeers < telemetry.readyRouteOwners) ||
    telemetry.packetLossPpm.any (fun value => decide (1000000 < value)) ||
    ((telemetry.lifecycle == .failOpen) != telemetry.failOpenRequired) ||
    !telemetry.lastErrorCode.all validErrorCode ||
    !telemetry.lastErrorDetail.all validErrorDetail ||
    !telemetry.dataplanePhase.all runtimeDataplanePhaseIsValid ||
    telemetry.transportMode.any (· != "stream_primary") || telemetry.runtimeGeneration == some 0 ||
    telemetry.tunnelGeneration == some 0 || telemetry.policyGeneration == some 0 ||
    generationsDiffer telemetry.runtimeGeneration telemetry.policyGeneration ||
    decide (maxRuntimePaths < telemetry.paths.length) ||
    !telemetry.routeDiagnostics.all RuntimeRouteDiagnosticsWrite.valid ||
    telemetry.localNetworks.any (fun networks =>
      decide (maxRuntimeLocalNetworks < networks.length))) .invalidScope
  reject (malformedOrRepeated RuntimePathTelemetryWrite.malformed (·.peerAttachmentId)
    telemetry.paths) .invalidScope
  reject (!telemetry.localNetworks.all validateRuntimeLocalNetworks) .invalidScope

/-- The generation a path report refers to: `policy_generation` of newer
    Runtimes, else `runtime_generation`. -/
def reportedGeneration : Option Nat :=
  match telemetry.policyGeneration with
  | some generation => some generation
  | none => telemetry.runtimeGeneration

end RuntimeTelemetryWrite

end CandyCloud
