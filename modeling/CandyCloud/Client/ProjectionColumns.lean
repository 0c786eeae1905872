import CandyCloud.Foundation.Columns
import CandyCloud.Client.Revocation
import CandyCloud.Client.Writes

/-! # Projections by their columns

The statements of `write_projection` and of the two reads of a stored projection name the
columns they use; the migrations 0038 and 0046 create the columns there are.
-/

namespace CandyCloud

open Foundation

/-- What a column of `client_projections` holds. -/
inductive ProjectionValue where
  | id (value : Uuid)
  | number (value : Nat)
  | hash (value : Hash)
  | text (value : String)
  | blob (value : Bytes)
  | moment (value : ClientTime)
  | null
deriving DecidableEq, Repr

/-- `<` in a condition; only moments are compared. -/
def ProjectionValue.before : ProjectionValue → ProjectionValue → Bool
  | .moment a, .moment b => decide (a < b)
  | _, _ => false

/-- The columns of `0038_terminal_client_control.sql`. -/
def createdProjectionColumns : List (Column ProjectionValue) :=
  [⟨"id", none⟩, ⟨"organization_id", none⟩, ⟨"tenant_id", none⟩, ⟨"user_id", none⟩,
    ⟨"client_device_id", none⟩, ⟨"device_key_id", none⟩, ⟨"grant_id", none⟩, ⟨"generation", none⟩,
    ⟨"content_hash", none⟩, ⟨"projection_envelope", none⟩, ⟨"issued_at", none⟩,
    ⟨"stale_until", none⟩, ⟨"status", some (.text "PUBLISHED")⟩, ⟨"revoked_at", some .null⟩]

/-- The columns of `0046_terminal_client_projection_inputs.sql`. -/
def addedProjectionColumns : List (Column ProjectionValue) :=
  [⟨"policy_generation", none⟩, ⟨"settings_generation", none⟩, ⟨"device_traffic_mode", none⟩,
    ⟨"inputs_hash", none⟩]

/-- No other migration changes the table. -/
def migratedProjectionColumns : List (Column ProjectionValue) :=
  createdProjectionColumns ++ addedProjectionColumns

/-- The unique keys of `client_projections`; the two that contain the primary key
    add nothing. -/
def projectionKeys : List (List String) :=
  [["id"], ["tenant_id", "client_device_id", "generation"],
    ["tenant_id", "client_device_id", "content_hash"]]

def ClientTrafficMode.fromDatabaseValue : String → Option ClientTrafficMode
  | "POLICY" => some .policy
  | "GLOBAL" => some .global
  | _ => none

namespace ProjectionValue

def asId : ProjectionValue → Option Uuid
  | .id value => some value
  | _ => none

def asNumber : ProjectionValue → Option Nat
  | .number value => some value
  | _ => none

def asHash : ProjectionValue → Option Hash
  | .hash value => some value
  | _ => none

def asText : ProjectionValue → Option String
  | .text value => some value
  | _ => none

def asBlob : ProjectionValue → Option Bytes
  | .blob value => some value
  | _ => none

def asMoment : ProjectionValue → Option ClientTime
  | .moment value => some value
  | _ => none

end ProjectionValue

/-- `row.try_get` at the type that is read, for hashes `bytes32`. -/
def tryGet {α : Type} (read : ProjectionValue → Option α) (row : Cells ProjectionValue)
    (column : String) : Except ClientProjectionError α :=
  orElse .invalidRecord ((row.lookup column).bind read)

def projectionRecordFromRow (row : Cells ProjectionValue) :
    Except ClientProjectionError ClientProjectionRecord := do
  let projectionId ← tryGet ProjectionValue.asId row "id"
  let organizationId ← tryGet ProjectionValue.asId row "organization_id"
  let tenantId ← tryGet ProjectionValue.asId row "tenant_id"
  let userId ← tryGet ProjectionValue.asId row "user_id"
  let clientDeviceId ← tryGet ProjectionValue.asId row "client_device_id"
  let deviceKeyId ← tryGet ProjectionValue.asId row "device_key_id"
  let grantId ← tryGet ProjectionValue.asId row "grant_id"
  let policyGeneration ← tryGet ProjectionValue.asNumber row "policy_generation"
  let settingsGeneration ← tryGet ProjectionValue.asNumber row "settings_generation"
  let mode ← tryGet ProjectionValue.asText row "device_traffic_mode"
  let deviceTrafficMode ← orElse .invalidRecord (ClientTrafficMode.fromDatabaseValue mode)
  let generation ← tryGet ProjectionValue.asNumber row "generation"
  let requestHash ← tryGet ProjectionValue.asHash row "request_hash"
  let contentHash ← tryGet ProjectionValue.asHash row "content_hash"
  let inputsHash ← tryGet ProjectionValue.asHash row "inputs_hash"
  let signingKeyId ← tryGet ProjectionValue.asText row "signing_key_id"
  let projectionEnvelope ← tryGet ProjectionValue.asBlob row "projection_envelope"
  let issuedAt ← tryGet ProjectionValue.asMoment row "issued_at"
  let staleUntil ← tryGet ProjectionValue.asMoment row "stale_until"
  let record : ClientProjectionRecord :=
    { projectionId
      audience := ⟨⟨organizationId, tenantId, userId⟩, clientDeviceId, deviceKeyId⟩
      grantId, policyGeneration, settingsGeneration, deviceTrafficMode, generation, requestHash
      contentHash, inputsHash, signingKeyId, projectionEnvelope, issuedAt, staleUntil }
  record.validate
  return record

/-- The columns of `SELECT_PROJECTION`. -/
def selectProjection : List String :=
  ["id", "organization_id", "tenant_id", "user_id", "client_device_id", "device_key_id", "grant_id",
    "policy_generation", "settings_generation", "device_traffic_mode", "generation",
    "request_hash", "content_hash", "inputs_hash", "signing_key_id", "projection_envelope",
    "issued_at", "stale_until"]

def deviceConditions (tenantId clientDeviceId : Uuid) : List (Condition ProjectionValue) :=
  [.equals "tenant_id" (.id tenantId), .equals "client_device_id" (.id clientDeviceId)]

def requestConditions (tenantId clientDeviceId requestId : Uuid) :
    List (Condition ProjectionValue) :=
  deviceConditions tenantId clientDeviceId ++ [.equals "request_id" (.id requestId)]

structure ProjectionDatabase where
  clients : ClientStore
  projections : Sheet ProjectionValue
deriving DecidableEq, Repr

namespace ProjectionDatabase

variable (db : ProjectionDatabase)

/-- The rows of a query on `client_projections`. -/
def query (names : List String) (conditions : List (Condition ProjectionValue)) :
    Except ClientProjectionError (List (Cells ProjectionValue)) :=
  orElse .invalidRecord (db.projections.select ProjectionValue.before names conditions)

def projectionByRequest (tenantId clientDeviceId requestId : Uuid) :
    Except ClientProjectionError (Option ClientProjectionRecord) := do
  reject ([tenantId, clientDeviceId, requestId].any isNil) .invalidScope
  let rows ← db.query selectProjection (requestConditions tenantId clientDeviceId requestId)
  match rows with
  | [] => return none
  | row :: _ => return some (← projectionRecordFromRow row)

def generationOf (row : Cells ProjectionValue) : Nat :=
  (tryGet ProjectionValue.asNumber row "generation").toOption.getD 0

/-- `ORDER BY generation DESC LIMIT 1`. -/
def newest (rows : List (Cells ProjectionValue)) : Option (Cells ProjectionValue) :=
  rows.foldl
    (fun best row =>
      match best with
      | none => some row
      | some best => if generationOf best < generationOf row then some row else some best)
    none

def currentProjection (tenantId clientDeviceId deviceKeyId : Uuid) (now : ClientTime) :
    Except ClientProjectionError (Option ClientProjectionRecord) := do
  reject ([tenantId, clientDeviceId, deviceKeyId].any isNil) .invalidScope
  let rows ← db.query selectProjection (deviceConditions tenantId clientDeviceId ++
    [.equals "device_key_id" (.id deviceKeyId), .equals "status" (.text "PUBLISHED"),
      .exceeds "stale_until" (.moment (databaseTimestamp now))])
  match newest rows with
  | none => return none
  | some row => return some (← projectionRecordFromRow row)

/-- The mode of the active device an audience names. -/
def lockedMode (audience : ClientAudience) : Option ClientTrafficMode :=
  (db.clients.devices.find? fun device =>
    decide (device.id = audience.clientDeviceId) && decide (device.scope = audience.scope) &&
      decide (device.status = .active)).map (·.trafficMode)

end ProjectionDatabase

/-- The columns of the `INSERT` with the values that are bound to them. -/
def ClientProjectionWrite.cells (projection : ClientProjectionWrite) : Cells ProjectionValue :=
  [("id", .id projection.projectionId),
    ("organization_id", .id projection.audience.scope.organizationId),
    ("tenant_id", .id projection.audience.scope.tenantId),
    ("user_id", .id projection.audience.scope.userId),
    ("client_device_id", .id projection.audience.clientDeviceId),
    ("device_key_id", .id projection.audience.deviceKeyId), ("grant_id", .id projection.grantId),
    ("policy_generation", .number projection.policyGeneration),
    ("settings_generation", .number projection.settingsGeneration),
    ("device_traffic_mode", .text projection.deviceTrafficMode.toDatabaseValue),
    ("generation", .number projection.generation), ("request_id", .id projection.requestId),
    ("request_hash", .hash projection.requestHash), ("content_hash", .hash projection.contentHash),
    ("inputs_hash", .hash projection.inputsHash),
    ("projection_envelope", .blob projection.projectionEnvelope),
    ("issued_at", .moment (databaseTimestamp projection.issuedAt)),
    ("stale_until", .moment (databaseTimestamp projection.staleUntil)),
    ("status", .text "PUBLISHED")]

def replayColumns : List String := ["id", "request_hash", "generation"]

def replayedProjection (projection : ClientProjectionWrite) (row : Cells ProjectionValue) :
    Except ClientProjectionError ClientProjectionWriteOutcome := do
  let storedHash ← tryGet ProjectionValue.asHash row "request_hash"
  let storedId ← tryGet ProjectionValue.asId row "id"
  let storedGeneration ← tryGet ProjectionValue.asNumber row "generation"
  reject (decide (storedHash ≠ projection.requestHash)) .bindingConflict
  return .published storedId storedGeneration true

namespace ProjectionDatabase

variable (db : ProjectionDatabase)

def insertNext (projection : ClientProjectionWrite) :
    Except ClientProjectionError (Sheet ProjectionValue) := do
  let ofDevice := deviceConditions projection.audience.scope.tenantId
    projection.audience.clientDeviceId
  let rows ← db.query ["generation"] ofDevice
  let expected := saturatingAdd ((rows.map generationOf).foldl max 0) 1
  reject (decide (projection.generation ≠ expected) || decide (expected = 0) ||
    decide (expected > maxProjectionGeneration)) .generationConflict
  let superseded ← orElse .invalidRecord (db.projections.update ProjectionValue.before
    [("status", .text "SUPERSEDED")] (ofDevice ++ [.equals "status" (.text "PUBLISHED")]))
  orElse .invalidRecord (superseded.insert projection.cells)

def writeProjection (projection : ClientProjectionWrite) :
    Except ClientProjectionError (ClientProjectionWriteOutcome × ProjectionDatabase) := do
  projection.validate
  reject (!db.clients.grantActive projection.grantId projection.audience) .bindingConflict
  reject (decide (db.lockedMode projection.audience ≠ some projection.deviceTrafficMode))
    .bindingConflict
  let existing ← db.query replayColumns (requestConditions projection.audience.scope.tenantId
    projection.audience.clientDeviceId projection.requestId)
  match existing with
  | row :: _ => return (← replayedProjection projection row, db)
  | [] =>
      let projections ← db.insertNext projection
      return (.published projection.projectionId projection.generation false,
        { db with projections })

end ProjectionDatabase

/-- The record of a write, with its times as the columns keep them. -/
def ClientProjectionWrite.storedRecord (projection : ClientProjectionWrite) :
    ClientProjectionRecord where
  projectionId := projection.projectionId
  audience := projection.audience
  grantId := projection.grantId
  policyGeneration := projection.policyGeneration
  settingsGeneration := projection.settingsGeneration
  deviceTrafficMode := projection.deviceTrafficMode
  generation := projection.generation
  requestHash := projection.requestHash
  contentHash := projection.contentHash
  inputsHash := projection.inputsHash
  signingKeyId := projection.signingKeyId
  projectionEnvelope := projection.projectionEnvelope
  issuedAt := databaseTimestamp projection.issuedAt
  staleUntil := databaseTimestamp projection.staleUntil

/-- The write succeeds and both reads then return its record. -/
def ProjectionDatabase.RoundTrips (db : ProjectionDatabase) (projection : ClientProjectionWrite) :
    Prop :=
  ∃ db', db.writeProjection projection =
      .ok (.published projection.projectionId projection.generation false, db') ∧
    db'.projectionByRequest projection.audience.scope.tenantId projection.audience.clientDeviceId
      projection.requestId = .ok (some projection.storedRecord) ∧
    ∀ now, databaseTimestamp now < databaseTimestamp projection.staleUntil →
      db'.currentProjection projection.audience.scope.tenantId projection.audience.clientDeviceId
        projection.audience.deviceKeyId now = .ok (some projection.storedRecord)

variable {names : List String} {conditions : List (Condition ProjectionValue)} {name : String}

section Migrated

variable {db : ProjectionDatabase}

theorem query_unknown (named : name ∈ names ++ conditions.map (·.column))
    (unknown : db.projections.knows name = false) :
    db.query names conditions = .error .invalidRecord := by
  rw [ProjectionDatabase.query, Sheet.select_unknown named unknown]
  rfl

theorem migrated_unknown (migrated : db.projections.columns = migratedProjectionColumns)
    (missing : name ∈ ["request_id", "request_hash", "signing_key_id"]) :
    db.projections.knows name = false := by
  simp only [List.mem_cons, List.not_mem_nil, or_false] at missing
  rw [Sheet.knows, migrated]
  rcases missing with rfl | rfl | rfl
  · decide
  · decide
  · decide

/-- On the columns of the migrations every write that reaches the table fails, and so
    does every read. -/
theorem migrated_projection_fails (db : ProjectionDatabase) (projection : ClientProjectionWrite)
    (migrated : db.projections.columns = migratedProjectionColumns)
    (valid : projection.validate = .ok ())
    (granted : db.clients.grantActive projection.grantId projection.audience = true)
    (device : db.lockedMode projection.audience = some projection.deviceTrafficMode) :
    db.writeProjection projection = .error .invalidRecord ∧ ¬ db.RoundTrips projection := by
  have missing : db.projections.knows "request_id" = false :=
    migrated_unknown migrated (by simp)
  have failed : db.writeProjection projection = .error .invalidRecord := by
    rw [ProjectionDatabase.writeProjection, valid, granted, device, query_unknown ?_ missing]
    · simp only [ne_eq, not_true_eq_false, decide_false, reject]
      rfl
    · simp [requestConditions, Condition.column]
  refine ⟨failed, ?_⟩
  rintro ⟨db', written, -⟩
  rw [failed] at written
  cases written

end Migrated

def sampleProjections (columns : List (Column ProjectionValue)) : ProjectionDatabase :=
  ⟨sampleClients, ⟨columns, projectionKeys, []⟩⟩

theorem sample_projection_fails :
    (sampleProjections migratedProjectionColumns).writeProjection sampleProjectionWrite =
      .error .invalidRecord :=
  (migrated_projection_fails (sampleProjections migratedProjectionColumns) sampleProjectionWrite rfl
    (by decide) (by decide) (by decide)).1

/-- A valid first projection that the migrated columns do not take. -/
theorem sample_projection_lost :
    sampleProjectionWrite.validate = .ok () ∧
    sampleClients.grantActive sampleProjectionWrite.grantId sampleProjectionWrite.audience = true ∧
    (sampleProjections migratedProjectionColumns).lockedMode sampleProjectionWrite.audience =
      some sampleProjectionWrite.deviceTrafficMode ∧
    (sampleProjections migratedProjectionColumns).projections.rows = [] ∧
    sampleProjectionWrite.generation = 1 ∧
    ¬ (sampleProjections migratedProjectionColumns).RoundTrips sampleProjectionWrite := by
  refine ⟨by decide, by decide, by decide, rfl, rfl, ?_⟩
  rintro ⟨db', written, -⟩
  have failed : (sampleProjections migratedProjectionColumns).writeProjection
      sampleProjectionWrite = .error .invalidRecord := by decide
  rw [failed] at written
  cases written

/-- With the missing columns and a default signing key the same write is stored. -/
example : ((sampleProjections (migratedProjectionColumns ++ [⟨"request_id", none⟩,
    ⟨"request_hash", none⟩, ⟨"signing_key_id", some (.text "signer")⟩])).writeProjection
    sampleProjectionWrite >>= fun (_, db) => db.projectionByRequest 2 7 51) =
      .ok (some sampleProjectionWrite.storedRecord) := by
  decide

end CandyCloud
