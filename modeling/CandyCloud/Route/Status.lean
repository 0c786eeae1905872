import CandyCloud.Route.Configuration

/-! # `record_runtime_configuration_status`

A device reports what it did with the configuration it was given.
-/

namespace CandyCloud

open Foundation

/-- What a device reports of the configuration it was given. -/
structure RuntimeConfigurationStatusWrite where
  lookup : RuntimeConfigurationLookup
  projectionPublicationId : Uuid
  projectionContentHash : Hash
  envelopeSha256 : Hash
  applyState : ApplyState
  errorCode : Option String
deriving DecidableEq, Repr

namespace RuntimeConfigurationStatusWrite

variable (status : RuntimeConfigurationStatusWrite)

def validErrorCode (value : String) : Bool :=
  !value.isEmpty && decide (value.utf8ByteSize ≤ 80) &&
    value.toList.all fun c => c.isAlphanum || c == '_' || c == '-' || c == '.'

def validate : Except RuntimeConfigurationError Unit := do
  status.lookup.validate
  reject (isNil status.projectionPublicationId || status.projectionContentHash == zeroHash ||
    status.envelopeSha256 == zeroHash || !status.errorCode.all validErrorCode ||
    ((status.applyState == .rejected) == status.errorCode.isNone)) .invalidScope

/-- `UPDATE … WHERE tenant_id = ? AND device_id = ? AND device_key_id = ?`. -/
def sameKey (row : StatusRow) : Bool :=
  row.of status.lookup.tenantId status.lookup.deviceId status.lookup.deviceKeyId

def action : String :=
  match status.applyState with
  | .prepared => "RUNTIME_CONFIGURATION_PREPARED"
  | .active => "RUNTIME_CONFIGURATION_ACTIVATED"
  | .rejected => "RUNTIME_CONFIGURATION_REJECTED"

end RuntimeConfigurationStatusWrite

/-- Generation of the reported projection when it is an unexpired predecessor
    of the current one with no transport change in between. -/
def historicalGeneration (store : RouteStore) (now : Instant)
    (status : RuntimeConfigurationStatusWrite) (configuration : RuntimeConfigurationRecord) :
    Option Nat :=
  ((store.projections.filter fun p =>
    p.id == status.projectionPublicationId && p.tenantId == status.lookup.tenantId &&
      p.deviceId == status.lookup.deviceId && p.deviceKeyId == status.lookup.deviceKeyId &&
      p.attachmentId == configuration.attachmentId &&
      p.projectionId == configuration.projectionId &&
      p.contentHash == status.projectionContentHash &&
      decide (p.segmentGeneration < configuration.segmentGeneration) &&
      store.publications.any (fun publication =>
        publication.id == p.publicationId && publication.tenantId == p.tenantId &&
          publication.segmentId == p.segmentId && publication.generation == p.segmentGeneration &&
          publication.contentHash == p.segmentContentHash &&
          decide (unixTimestamp now ≤ publication.staleUntil)) &&
      store.onlyPolicySince p configuration.segmentGeneration).map
        (·.segmentGeneration)).head?.filter fun generation =>
          decide (configuration.segmentGeneration - generation ≤ maxCompatibilityGenerations)

/-- Generation of the projection the device key last reported as active. -/
def activeGeneration (store : RouteStore) (status : RuntimeConfigurationStatusWrite) :
    Option Nat := do
  let row ← store.statuses.find? status.sameKey
  let p ← store.projections.find? fun p =>
    some p.id == row.activeProjectionPublicationId && p.tenantId == row.tenantId
  return p.segmentGeneration

/-- The late receipt: a new row, or only the running pointer of the old one. -/
def recordReceipt (store : RouteStore) (now : Instant) (status : RuntimeConfigurationStatusWrite) :
    RouteStore :=
  { store with
    statuses := upsert status.sameKey
      { tenantId := status.lookup.tenantId
        deviceId := status.lookup.deviceId
        deviceKeyId := status.lookup.deviceKeyId
        projectionPublicationId := status.projectionPublicationId
        activeProjectionPublicationId := some status.projectionPublicationId
        envelopeSha256 := status.envelopeSha256
        applyState := .active
        errorCode := none
        reportedAt := now }
      (fun row =>
        { row with activeProjectionPublicationId := some status.projectionPublicationId })
      store.statuses }

def recordSuperseded (store : RouteStore) (now : Instant) (policyIsolation : Bool)
    (status : RuntimeConfigurationStatusWrite) (configuration : RuntimeConfigurationRecord) :
    Except RuntimeConfigurationError RouteStore :=
  if policyIsolation && status.applyState == .active then
    match historicalGeneration store now status configuration with
    | some generation =>
        if (activeGeneration store status).all fun active => decide (active < generation) then
          .ok (recordReceipt store now status)
        else .ok store
    | none => .error .staleConfiguration
  else .error .staleConfiguration

/-- A delayed Prepare after the same publication became active. -/
def delayedPrepare (store : RouteStore) (status : RuntimeConfigurationStatusWrite)
    (configuration : RuntimeConfigurationRecord) : Bool :=
  status.applyState == .prepared && (store.statuses.find? status.sameKey).any fun previous =>
    previous.projectionPublicationId == configuration.projectionPublicationId &&
      previous.applyState == .active

/-- `INSERT INTO runtime_configuration_status … ON DUPLICATE KEY UPDATE …`. -/
def upsertStatus (now : Instant) (status : RuntimeConfigurationStatusWrite) (publicationId : Uuid)
    (statuses : List StatusRow) : List StatusRow :=
  upsert status.sameKey
    { tenantId := status.lookup.tenantId
      deviceId := status.lookup.deviceId
      deviceKeyId := status.lookup.deviceKeyId
      projectionPublicationId := publicationId
      activeProjectionPublicationId := none
      envelopeSha256 := status.envelopeSha256
      applyState := status.applyState
      errorCode := status.errorCode
      reportedAt := now }
    (fun row => { row with
      projectionPublicationId := publicationId
      envelopeSha256 := status.envelopeSha256
      applyState := status.applyState
      errorCode := status.errorCode
      reportedAt := now }) statuses

/-- The status row and, for `Active`, the running pointer. -/
def writeStatus (now : Instant) (status : RuntimeConfigurationStatusWrite) (publicationId : Uuid)
    (statuses : List StatusRow) : List StatusRow :=
  if status.applyState == .active then
    updateWhere status.sameKey
      (fun row => { row with activeProjectionPublicationId := some publicationId })
      (upsertStatus now status publicationId statuses)
  else upsertStatus now status publicationId statuses

def reportEvent (auditId : Uuid) (status : RuntimeConfigurationStatusWrite)
    (configuration : RuntimeConfigurationRecord) (deviceName : String)
    (previous : Option StatusRow) : AuditEventRow where
  id := auditId
  tenantId := status.lookup.tenantId
  actorType := .device
  actorId := toString status.lookup.deviceId
  action := status.action
  objectType := "DEVICE"
  objectId := status.lookup.deviceId
  metadata := .statusReported deviceName configuration.projectionPublicationId
    configuration.segmentGeneration configuration.projectionGeneration
    (previous.map (·.applyState)) status.applyState status.errorCode

def statusChanged (status : RuntimeConfigurationStatusWrite)
    (configuration : RuntimeConfigurationRecord) (previous : Option StatusRow) : Bool :=
  previous.all fun row =>
    row.projectionPublicationId != configuration.projectionPublicationId ||
      row.applyState != status.applyState || row.errorCode != status.errorCode

/-- The status row of the member's device key names its projection and has the
    given state. -/
def memberReported (store : RouteStore) (state : ApplyState) (member : MemberRow) : Bool :=
  store.projections.any fun p => p.id == member.projectionPublicationId &&
    store.statuses.any fun status =>
      status.of p.tenantId p.deviceId p.deviceKeyId && status.projectionPublicationId == p.id &&
        status.applyState == state

/-- Members of the publication with the given generation. -/
def publicationMembers (store : RouteStore) (tenantId segmentId : Uuid) (generation : Nat) :
    List MemberRow :=
  store.members.filter fun member => member.tenantId == tenantId &&
    (store.publicationOf tenantId segmentId generation).map (·.id)
      == some member.segmentPublicationId

/-- The `COUNT(*)` behind both barriers. -/
def reportedCount (store : RouteStore) (tenantId segmentId : Uuid) (generation : Nat)
    (state : ApplyState) : Nat :=
  ((publicationMembers store tenantId segmentId generation).filter
    (memberReported store state)).length

/-- `UPDATE runtime_configuration_rollouts SET state = ? … AND state IN (…)`. -/
def setRollout (tenantId segmentId : Uuid) (generation : Nat) (allowed : RolloutState → Bool)
    (state : RolloutState) (store : RouteStore) : RouteStore :=
  { store with
    rollouts := updateWhere
      (fun rollout => rollout.of tenantId segmentId generation && allowed rollout.state)
      (fun rollout => { rollout with state }) store.rollouts }

/-- The rollout of the reported generation when the report is from a member. -/
def rolloutMember (store : RouteStore) (tenantId : Uuid)
    (configuration : RuntimeConfigurationRecord) : Option RolloutRow :=
  if store.members.any fun member => member.tenantId == tenantId &&
      member.projectionPublicationId == configuration.projectionPublicationId then
    store.rollout tenantId configuration.segmentId configuration.segmentGeneration
  else none

def advanceRollout (applyState : ApplyState) (tenantId : Uuid)
    (configuration : RuntimeConfigurationRecord) (store : RouteStore) : RouteStore :=
  match rolloutMember store tenantId configuration with
  | none => store
  | some rollout =>
      match applyState with
      | .prepared =>
          if (rollout.state == .preparing || rollout.state == .blocked) &&
            reportedCount store tenantId configuration.segmentId configuration.segmentGeneration
              .prepared == rollout.memberCount then
            setRollout tenantId configuration.segmentId configuration.segmentGeneration
              (fun state => state == .preparing || state == .blocked) .committing store
          else store
      | .active =>
          if (rollout.state == .committing || rollout.state == .blocked) &&
            reportedCount store tenantId configuration.segmentId configuration.segmentGeneration
              .active == rollout.memberCount then
            setRollout tenantId configuration.segmentId configuration.segmentGeneration
              (fun state => state == .committing || state == .blocked) .complete store
          else store
      | .rejected =>
          setRollout tenantId configuration.segmentId configuration.segmentGeneration
            (fun state => state == .preparing) .blocked store

def seenDevice (status : RuntimeConfigurationStatusWrite) (device : DeviceRow) : Bool :=
  device.tenantId == status.lookup.tenantId && device.id == status.lookup.deviceId &&
    device.status == .active

/-- `UPDATE devices SET last_seen_at = ? …`. -/
def Topology.seen (topology : Topology) (now : Instant) (status : RuntimeConfigurationStatusWrite) :
    Topology :=
  { topology with
    devices := updateWhere (seenDevice status)
      (fun device => { device with lastSeenAt := some now }) topology.devices }

/-- The audit event of a report that changed the status row. -/
def auditReport (store : RouteStore) (auditId : Uuid) (status : RuntimeConfigurationStatusWrite)
    (configuration : RuntimeConfigurationRecord) (deviceName : String) :
    Except RuntimeConfigurationError (List AuditEventRow) :=
  let previous := store.statuses.find? status.sameKey
  if statusChanged status configuration previous then
    orElse .database (insertRow (fun a b => a.id == b.id) store.auditEvents
      (reportEvent auditId status configuration deviceName previous))
  else .ok store.auditEvents

/-- Status row, last-seen time, audit event and rollout of an accepted report. -/
def acceptReport (store : RouteStore) (now : Instant) (auditId : Uuid)
    (status : RuntimeConfigurationStatusWrite) (configuration : RuntimeConfigurationRecord) :
    Except RuntimeConfigurationError RouteStore := do
  let device ← orElse .database (store.topology.devices.find? (seenDevice status))
  reject ((store.topology.devices.filter (seenDevice status)).length != 1) .staleConfiguration
  let auditEvents ← auditReport store auditId status configuration device.displayName
  return advanceRollout status.applyState status.lookup.tenantId configuration { store with
    topology := store.topology.seen now status
    statuses := writeStatus now status configuration.projectionPublicationId store.statuses
    auditEvents }

def recordStatus (store : RouteStore) (now : Instant) (auditId : Uuid) (policyIsolation : Bool)
    (status : RuntimeConfigurationStatusWrite) : Except RuntimeConfigurationError RouteStore := do
  status.validate
  match ← loadCurrentRuntimeConfiguration store now policyIsolation status.lookup with
  | .unassigned => .error .staleConfiguration
  | .current configuration =>
      if configuration.projectionPublicationId != status.projectionPublicationId ||
          configuration.projectionContentHash != status.projectionContentHash then
        recordSuperseded store now policyIsolation status configuration
      else if delayedPrepare store status configuration then
        if store.topology.devices.any (seenDevice status) then .ok store else .error .database
      else acceptReport store now auditId status configuration

/-- A status report; a refused one leaves the store as it was. -/
def recordRuntimeConfigurationStatus (store : RouteStore) (now : Instant) (auditId : Uuid)
    (policyIsolation : Bool) (status : RuntimeConfigurationStatusWrite) :
    Except RuntimeConfigurationError Unit × RouteStore :=
  match recordStatus store now auditId policyIsolation status with
  | .ok store' => (.ok (), store')
  | .error error => (.error error, store)

end CandyCloud
