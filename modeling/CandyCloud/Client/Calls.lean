import CandyCloud.Client.Tables
import CandyCloud.Foundation.Sessions

/-! # The transactions of the terminal client plane

Each repository call is a program of single statements. A stage is a program
point with the locals the rest of the call reads; `clientStatement` is the
statement found there. The first plain `SELECT` of a transaction fixes its read
view, and later plain reads see the same view; `FOR UPDATE` reads, updates and
inserts work on the committed rows.

Only locks on `client_devices` rows are taken: exclusive ones by `FOR UPDATE`,
shared ones by the foreign keys of an insert. Locks on index ranges of the
other tables only delay or abort a session, so leaving them out adds orders of
statements and removes none.
-/

namespace CandyCloud

open Foundation

/-- The calls that are transactions on the client tables. -/
inductive ClientCall where
  | writeGrant (grant : ClientGrantWrite)
  | writeProjection (projection : ClientProjectionWrite)
  | revokeDevice (revocation : ClientDeviceRevocation)
  | setDeviceStatus (scope : SetDeviceStatus)
  | rotateDeviceKey (rotation : ClientDeviceKeyRotation) (clock : Instant)
  | revokeProjections (audience : ClientAudience)

inductive ClientGrantWriteOutcome where
  | issued (grantId : Uuid) (generation : Nat) (replayed : Bool)
deriving DecidableEq, Repr

inductive ClientProjectionWriteOutcome where
  | published (projectionId : Uuid) (generation : Nat) (replayed : Bool)
deriving DecidableEq, Repr

inductive ClientDeviceStatusOutcome where
  | suspended (deviceId : Uuid) (replayed : Bool)
  | activated (deviceId : Uuid) (replayed : Bool)
deriving DecidableEq, Repr

inductive ClientDeviceKeyRotationOutcome where
  | rotated (deviceId previousDeviceKeyId deviceKeyId : Uuid)
      (revokedGrants revokedProjections : Nat) (replayed : Bool)
deriving DecidableEq, Repr

/-- What a transaction answers. -/
inductive ClientAnswer where
  | grant (result : Except ClientControlError ClientGrantWriteOutcome)
  | projection (result : Except ClientProjectionError ClientProjectionWriteOutcome)
  | revoked (result : Except ClientControlError Nat)
  | status (result : Except ClientControlError ClientDeviceStatusOutcome)
  | rotated (result : Except ClientControlError ClientDeviceKeyRotationOutcome)
  | projectionsRevoked (result : Except ClientProjectionError Nat)

/-- Where a transaction stands between two statements. -/
inductive ClientStage where
  | grantOpened (grant : ClientGrantWrite)
  | grantDeviceChecked (grant : ClientGrantWrite) (view : ClientStore)
  | grantKeyChecked (grant : ClientGrantWrite) (view : ClientStore)
  | grantReplayChecked (grant : ClientGrantWrite) (view : ClientStore)
  | grantNumbered (grant : ClientGrantWrite) (view : ClientStore)
  | grantInserted (grant : ClientGrantWrite)
  | projectionOpened (projection : ClientProjectionWrite)
  | projectionGrantChecked (projection : ClientProjectionWrite) (view : ClientStore)
  | projectionDeviceLocked (projection : ClientProjectionWrite)
  | projectionReplayChecked (projection : ClientProjectionWrite)
  | projectionNumbered (projection : ClientProjectionWrite)
  | projectionSuperseded (projection : ClientProjectionWrite)
  | projectionInserted (projection : ClientProjectionWrite)
  | revokeOpened (revocation : ClientDeviceRevocation)
  | revokeDeviceLocked (revocation : ClientDeviceRevocation) (recordId : Uuid)
  | revokeKeyChecked (revocation : ClientDeviceRevocation) (recordId : Uuid)
  | revokeDeviceSet (revocation : ClientDeviceRevocation) (recordId : Uuid)
  | revokeKeysSet (revocation : ClientDeviceRevocation) (recordId : Uuid)
  | revokeGrantsSet (revocation : ClientDeviceRevocation) (recordId : Uuid)
  | statusOpened (scope : SetDeviceStatus)
  | statusPlanned (scope : SetDeviceStatus) (recordId : Uuid) (planned : ClientDeviceStatus)
  | statusSet (scope : SetDeviceStatus) (recordId : Uuid) (planned : ClientDeviceStatus)
  | statusGrantsSet (scope : SetDeviceStatus) (recordId : Uuid)
  | statusProjectionsSet (scope : SetDeviceStatus) (recordId : Uuid)
  | rotateOpened (rotation : ClientDeviceKeyRotation) (clock : Instant)
  | rotateDeviceLocked (rotation : ClientDeviceKeyRotation) (clock : Instant)
      (device : ClientDeviceRow)
  | rotatePlanned (rotation : ClientDeviceKeyRotation) (clock : Instant) (device : ClientDeviceRow)
  | rotateKeyLocked (rotation : ClientDeviceKeyRotation) (clock : Instant)
      (device : ClientDeviceRow) (previous : Uuid)
  | rotateRetired (rotation : ClientDeviceKeyRotation) (clock : Instant) (device : ClientDeviceRow)
      (previous : Uuid)
  | rotateInserted (rotation : ClientDeviceKeyRotation) (clock : Instant)
      (device : ClientDeviceRow) (previous : Uuid)
  | rotateGrantsSet (rotation : ClientDeviceKeyRotation) (clock : Instant)
      (device : ClientDeviceRow) (previous : Uuid) (revokedGrants : Nat)
  | rotateProjectionsSet (rotation : ClientDeviceKeyRotation) (clock : Instant)
      (device : ClientDeviceRow) (previous : Uuid) (revokedGrants revokedProjections : Nat)
  | sweepOpened (audience : ClientAudience)
  | sweepSet (audience : ClientAudience) (revoked : Nat)

abbrev ClientStatement := Statement Uuid ClientStage ClientWrite ClientAnswer

def proceed (stage : ClientStage) : ClientStatement := ⟨[], .next stage []⟩

def proceedWith (write : ClientWrite) (stage : ClientStage) : ClientStatement :=
  ⟨[], .next stage [write]⟩

def answerCommit (answer : ClientAnswer) : ClientStatement := ⟨[], .commit answer⟩

def answerRollback (answer : ClientAnswer) : ClientStatement := ⟨[], .rollback answer⟩

/-- A statement that first locks the given device row, when there is one. -/
def locking (recordId : Option Uuid) (mode : LockMode) (statement : ClientStatement) :
    ClientStatement :=
  { statement with locks := recordId.toList.map fun id => ⟨id, mode⟩ }

def ClientGrantWrite.row (sha256 : Bytes → Hash) (grant : ClientGrantWrite) : ClientGrantRow where
  id := grant.grantId
  audience := grant.audience
  generation := grant.generation
  requestId := grant.requestId
  requestHash := grant.requestHash
  signingKeyId := grant.signingKeyId
  grantDigest := sha256 grant.grantEnvelope
  grantEnvelope := grant.grantEnvelope
  issuedAt := databaseTimestamp grant.issuedAt
  expiresAt := databaseTimestamp grant.expiresAt
  assignmentLeaseUntil := some (databaseTimestamp grant.assignmentLeaseUntil)
  status := .active

/-- The unique keys of `client_grants`. -/
def ClientGrantRow.clashes (new old : ClientGrantRow) : Bool :=
  decide (new.id = old.id) ||
    decide (new.audience.scope.tenantId = old.audience.scope.tenantId) &&
      (decide (new.audience.clientDeviceId = old.audience.clientDeviceId) &&
          decide (new.requestId = old.requestId) ||
        decide (new.grantDigest = old.grantDigest))

def openGrant (grant : ClientGrantWrite) : Except ClientControlError ClientStage := do
  grant.validate
  let issuedAt := databaseTimestamp grant.issuedAt
  reject (decide (databaseTimestamp grant.expiresAt ≤ issuedAt)
    || decide (databaseTimestamp grant.assignmentLeaseUntil ≤ issuedAt)) .invalidRecord
  return .grantOpened grant

def checkGrantDevice (store : ClientStore) (grant : ClientGrantWrite) : ClientStatement :=
  if store.deviceIs .active grant.audience then proceed (.grantDeviceChecked grant store)
  else answerRollback (.grant (.error .bindingConflict))

def checkGrantKey (grant : ClientGrantWrite) (view : ClientStore) : ClientStatement :=
  if view.keyActive grant.audience then proceed (.grantKeyChecked grant view)
  else answerRollback (.grant (.error .bindingConflict))

def checkGrantReplay (store : ClientStore) (grant : ClientGrantWrite) (view : ClientStore) :
    ClientStatement :=
  match store.grantRequest grant.audience.scope.tenantId grant.audience.clientDeviceId
      grant.requestId with
  | some stored =>
      if stored.requestHash = grant.requestHash then
        answerRollback (.grant (.ok (.issued stored.id stored.generation true)))
      else answerRollback (.grant (.error .bindingConflict))
  | none => proceed (.grantReplayChecked grant view)

def checkGrantGeneration (store : ClientStore) (grant : ClientGrantWrite) (view : ClientStore) :
    ClientStatement :=
  let expected := saturatingAdd
    (store.grantGeneration grant.audience.scope.tenantId grant.audience.clientDeviceId) 1
  if grant.generation ≠ expected ∨ expected = 0 ∨ expected > maxGrantGeneration then
    answerRollback (.grant (.error .generationConflict))
  else proceed (.grantNumbered grant view)

def insertGrant (sha256 : Bytes → Hash) (store : ClientStore) (grant : ClientGrantWrite) :
    ClientStatement :=
  let row := grant.row sha256
  locking (some grant.audience.clientDeviceId) .shared <|
    if store.grants.any row.clashes then answerRollback (.grant (.error .invalidRecord))
    else proceedWith (.insertGrant row) (.grantInserted grant)

def ClientProjectionWrite.row (projection : ClientProjectionWrite) : ClientProjectionRow where
  id := projection.projectionId
  audience := projection.audience
  grantId := projection.grantId
  policyGeneration := projection.policyGeneration
  settingsGeneration := projection.settingsGeneration
  deviceTrafficMode := projection.deviceTrafficMode
  generation := projection.generation
  requestId := projection.requestId
  requestHash := projection.requestHash
  contentHash := projection.contentHash
  inputsHash := projection.inputsHash
  projectionEnvelope := projection.projectionEnvelope
  issuedAt := projection.issuedAt
  staleUntil := projection.staleUntil
  status := .published

/-- The unique keys of `client_projections`. -/
def ClientProjectionRow.clashes (new old : ClientProjectionRow) : Bool :=
  decide (new.id = old.id) ||
    decide (new.audience.scope.tenantId = old.audience.scope.tenantId) &&
      decide (new.audience.clientDeviceId = old.audience.clientDeviceId) &&
      (decide (new.generation = old.generation) || decide (new.contentHash = old.contentHash))

def checkProjectionGrant (store : ClientStore) (projection : ClientProjectionWrite) :
    ClientStatement :=
  if store.grantActive projection.grantId projection.audience then
    proceed (.projectionGrantChecked projection store)
  else answerRollback (.projection (.error .bindingConflict))

/-- The device row is found by its primary key and locked before the other
    conditions of the query are looked at. -/
def lockProjectionDevice (store : ClientStore) (projection : ClientProjectionWrite) :
    ClientStatement :=
  match store.devices.find? fun device =>
      decide (device.id = projection.audience.clientDeviceId) with
  | none => answerRollback (.projection (.error .bindingConflict))
  | some device =>
      locking (some device.id) .exclusive <|
        if device.scope = projection.audience.scope ∧ device.status = .active ∧
            device.trafficMode = projection.deviceTrafficMode then
          proceed (.projectionDeviceLocked projection)
        else answerRollback (.projection (.error .bindingConflict))

def checkProjectionReplay (store : ClientStore) (projection : ClientProjectionWrite) :
    ClientStatement :=
  match store.projectionRequest projection.audience.scope.tenantId
      projection.audience.clientDeviceId projection.requestId with
  | some stored =>
      if stored.requestHash = projection.requestHash then
        answerRollback (.projection (.ok (.published stored.id stored.generation true)))
      else answerRollback (.projection (.error .bindingConflict))
  | none => proceed (.projectionReplayChecked projection)

def checkProjectionGeneration (store : ClientStore) (projection : ClientProjectionWrite) :
    ClientStatement :=
  let expected := saturatingAdd (store.projectionGeneration projection.audience.scope.tenantId
    projection.audience.clientDeviceId) 1
  if projection.generation ≠ expected ∨ expected = 0 ∨ expected > maxProjectionGeneration then
    answerRollback (.projection (.error .generationConflict))
  else proceed (.projectionNumbered projection)

def insertClientProjection (store : ClientStore) (projection : ClientProjectionWrite) :
    ClientStatement :=
  if store.projections.any projection.row.clashes then
    answerRollback (.projection (.error .invalidRecord))
  else proceedWith (.insertProjection projection.row) (.projectionInserted projection)

def ClientDeviceRevocation.reach (revocation : ClientDeviceRevocation) (recordId : Uuid) :
    ClientReach :=
  ⟨recordId, revocation.scope.organizationId, revocation.scope.tenantId,
    some revocation.scope.userId⟩

def lockRevokedDevice (store : ClientStore) (revocation : ClientDeviceRevocation) :
    ClientStatement :=
  match store.devices.find? fun device =>
      decide (device.scope = revocation.scope) && decide (device.deviceId = revocation.deviceId) with
  | none => answerRollback (.revoked (.ok 0))
  | some device =>
      locking (some device.id) .exclusive <|
        if device.status = .active then proceed (.revokeDeviceLocked revocation device.id)
        else answerRollback (.revoked (.ok 0))

def checkRevokedKey (store : ClientStore) (revocation : ClientDeviceRevocation) (recordId : Uuid) :
    ClientStatement :=
  if store.keyActive ⟨revocation.scope, recordId, revocation.deviceKeyId⟩ then
    proceed (.revokeKeyChecked revocation recordId)
  else answerRollback (.revoked (.ok 0))

def SetDeviceStatus.reach (scope : SetDeviceStatus) (recordId : Uuid) : ClientReach :=
  ⟨recordId, scope.organizationId, scope.tenantId, none⟩

def SetDeviceStatus.outcome (scope : SetDeviceStatus) (replayed : Bool) : ClientAnswer :=
  match scope.newStatus with
  | .suspended => .status (.ok (.suspended scope.deviceId replayed))
  | _ => .status (.ok (.activated scope.deviceId replayed))

def lockManagedDevice (store : ClientStore) (scope : SetDeviceStatus) : ClientStatement :=
  match store.managedDevice scope.organizationId scope.tenantId scope.deviceId with
  | none => answerRollback (.status (.error .notFound))
  | some device =>
      locking (some device.id) .exclusive <|
        match planDeviceStatusChange device.status scope.newStatus with
        | .error error => answerRollback (.status (.error error))
        | .ok none => answerRollback (scope.outcome true)
        | .ok (some planned) => proceed (.statusPlanned scope device.id planned)

def ClientDeviceKeyRotation.reach (rotation : ClientDeviceKeyRotation) (recordId : Uuid) :
    ClientReach :=
  ⟨recordId, rotation.organizationId, rotation.tenantId, none⟩

def ClientDeviceKeyRotation.row (rotation : ClientDeviceKeyRotation) (clock : Instant)
    (device : ClientDeviceRow) : ClientDeviceKeyRow where
  scope := ⟨rotation.organizationId, rotation.tenantId, device.scope.userId⟩
  clientDeviceId := device.id
  deviceKeyId := rotation.deviceKeyId
  publicKey := rotation.publicKey
  status := .active
  createdAt := clock

def lockRotatedDevice (store : ClientStore) (rotation : ClientDeviceKeyRotation) (clock : Instant) :
    ClientStatement :=
  match store.managedDevice rotation.organizationId rotation.tenantId rotation.deviceId with
  | none => answerRollback (.rotated (.error .notFound))
  | some device =>
      locking (some device.id) .exclusive (proceed (.rotateDeviceLocked rotation clock device))

def checkRotation (store : ClientStore) (rotation : ClientDeviceKeyRotation) (clock : Instant)
    (device : ClientDeviceRow) : ClientStatement :=
  match planDeviceKeyRotation device.status
      (store.keyIdExists rotation.tenantId rotation.deviceKeyId) with
  | .error error => answerRollback (.rotated (.error error))
  | .ok () => proceed (.rotatePlanned rotation clock device)

def lockPreviousKey (store : ClientStore) (rotation : ClientDeviceKeyRotation) (clock : Instant)
    (device : ClientDeviceRow) : ClientStatement :=
  match store.previousKey device.id rotation.organizationId rotation.tenantId with
  | none => answerRollback (.rotated (.error .invalidRecord))
  | some key => proceed (.rotateKeyLocked rotation clock device key.deviceKeyId)

def insertRotatedKey (store : ClientStore) (rotation : ClientDeviceKeyRotation) (clock : Instant)
    (device : ClientDeviceRow) (previous : Uuid) : ClientStatement :=
  if store.keyIdExists rotation.tenantId rotation.deviceKeyId then
    answerRollback (.rotated (.error .invalidRecord))
  else
    proceedWith (.insertKey (rotation.row clock device))
      (.rotateInserted rotation clock device previous)

def revokeRotatedGrants (store : ClientStore) (rotation : ClientDeviceKeyRotation)
    (clock : Instant) (device : ClientDeviceRow) (previous : Uuid) : ClientStatement :=
  let reach := rotation.reach device.id
  proceedWith (.revokeGrants reach)
    (.rotateGrantsSet rotation clock device previous (store.grants.countP reach.liveGrant))

def revokeRotatedProjections (store : ClientStore) (rotation : ClientDeviceKeyRotation)
    (clock : Instant) (device : ClientDeviceRow) (previous : Uuid) (revokedGrants : Nat) :
    ClientStatement :=
  let reach := rotation.reach device.id
  proceedWith (.revokeProjections reach none)
    (.rotateProjectionsSet rotation clock device previous revokedGrants
      (store.projections.countP (reach.liveProjection none)))

def ClientAudience.reach (audience : ClientAudience) : ClientReach :=
  ⟨audience.clientDeviceId, audience.scope.organizationId, audience.scope.tenantId,
    some audience.scope.userId⟩

def revokeProjections (store : ClientStore) (audience : ClientAudience) : ClientStatement :=
  proceedWith (.revokeProjections audience.reach (some audience.deviceKeyId))
    (.sweepSet audience
      (store.projections.countP (audience.reach.liveProjection (some audience.deviceKeyId))))

def clientOpening : ClientCall → Except ClientAnswer ClientStage
  | .writeGrant grant => (openGrant grant).mapError fun error => .grant (.error error)
  | .writeProjection projection =>
      (projection.validate.map fun _ => .projectionOpened projection).mapError fun error =>
        .projection (.error error)
  | .revokeDevice revocation =>
      (revocation.validate.map fun _ => .revokeOpened revocation).mapError fun error =>
        .revoked (.error error)
  | .setDeviceStatus scope =>
      (scope.validate.map fun _ => .statusOpened scope).mapError fun error =>
        .status (.error error)
  | .rotateDeviceKey rotation clock =>
      (rotation.validate.map fun _ => .rotateOpened rotation clock).mapError fun error =>
        .rotated (.error error)
  | .revokeProjections audience =>
      if audience.ids.any isNil then .error (.projectionsRevoked (.error .invalidScope))
      else .ok (.sweepOpened audience)

def clientStatement (sha256 : Bytes → Hash) (store : ClientStore) : ClientStage → ClientStatement
  | .grantOpened grant => checkGrantDevice store grant
  | .grantDeviceChecked grant view => checkGrantKey grant view
  | .grantKeyChecked grant view => checkGrantReplay store grant view
  | .grantReplayChecked grant view => checkGrantGeneration store grant view
  | .grantNumbered grant _ => insertGrant sha256 store grant
  | .grantInserted grant =>
      answerCommit (.grant (.ok (.issued grant.grantId grant.generation false)))
  | .projectionOpened projection => checkProjectionGrant store projection
  | .projectionGrantChecked projection _ => lockProjectionDevice store projection
  | .projectionDeviceLocked projection => checkProjectionReplay store projection
  | .projectionReplayChecked projection => checkProjectionGeneration store projection
  | .projectionNumbered projection =>
      proceedWith (.supersedeProjections projection.audience.scope.tenantId
        projection.audience.clientDeviceId) (.projectionSuperseded projection)
  | .projectionSuperseded projection => insertClientProjection store projection
  | .projectionInserted projection =>
      answerCommit (.projection (.ok (.published projection.projectionId projection.generation
        false)))
  | .revokeOpened revocation => lockRevokedDevice store revocation
  | .revokeDeviceLocked revocation recordId => checkRevokedKey store revocation recordId
  | .revokeKeyChecked revocation recordId =>
      proceedWith (.setDeviceStatus (revocation.reach recordId) .revoked)
        (.revokeDeviceSet revocation recordId)
  | .revokeDeviceSet revocation recordId =>
      proceedWith (.revokeKeys (revocation.reach recordId)) (.revokeKeysSet revocation recordId)
  | .revokeKeysSet revocation recordId =>
      proceedWith (.revokeGrants (revocation.reach recordId)) (.revokeGrantsSet revocation recordId)
  | .revokeGrantsSet _ _ => answerCommit (.revoked (.ok 1))
  | .statusOpened scope => lockManagedDevice store scope
  | .statusPlanned scope recordId planned =>
      proceedWith (.setDeviceStatus (scope.reach recordId) planned)
        (.statusSet scope recordId planned)
  | .statusSet scope recordId planned =>
      if planned = .suspended then
        proceedWith (.revokeGrants (scope.reach recordId)) (.statusGrantsSet scope recordId)
      else answerCommit (scope.outcome false)
  | .statusGrantsSet scope recordId =>
      proceedWith (.revokeProjections (scope.reach recordId) none)
        (.statusProjectionsSet scope recordId)
  | .statusProjectionsSet scope _ => answerCommit (scope.outcome false)
  | .rotateOpened rotation clock => lockRotatedDevice store rotation clock
  | .rotateDeviceLocked rotation clock device => checkRotation store rotation clock device
  | .rotatePlanned rotation clock device => lockPreviousKey store rotation clock device
  | .rotateKeyLocked rotation clock device previous =>
      proceedWith (.retireKey (rotation.reach device.id) previous)
        (.rotateRetired rotation clock device previous)
  | .rotateRetired rotation clock device previous =>
      insertRotatedKey store rotation clock device previous
  | .rotateInserted rotation clock device previous =>
      revokeRotatedGrants store rotation clock device previous
  | .rotateGrantsSet rotation clock device previous revokedGrants =>
      revokeRotatedProjections store rotation clock device previous revokedGrants
  | .rotateProjectionsSet rotation _ _ previous revokedGrants revokedProjections =>
      answerCommit (.rotated (.ok (.rotated rotation.deviceId previous rotation.deviceKeyId
        revokedGrants revokedProjections false)))
  | .sweepOpened audience => revokeProjections store audience
  | .sweepSet _ revoked => answerCommit (.projectionsRevoked (.ok revoked))

def clientTransactions (sha256 : Bytes → Hash) :
    Transactions ClientStore Uuid ClientStage ClientWrite ClientAnswer ClientCall where
  opening := clientOpening
  statement := clientStatement sha256
  apply := ClientStore.apply

abbrev ClientSession := Session Uuid ClientStage ClientWrite

/-- The client tables with the transactions that are open on them. -/
abbrev ClientSystem := Concurrent ClientStore Uuid ClientStage ClientWrite ClientAnswer

/-- One event: a call opens, a statement runs, or a transaction commits. -/
def clientStep (sha256 : Bytes → Hash) : ClientSystem → Event ClientCall → ClientSystem :=
  (clientTransactions sha256).step

end CandyCloud
