import CandyCloud.Foundation.Fallible
import CandyCloud.Foundation.Machine
import CandyCloud.Foundation.Table
import CandyCloud.Primitives
import Mathlib.Algebra.GroupWithZero.Nat

/-! # Accounting records

A session is open until it is closed, and a record of an open session is stored once for
its idempotency key. Times are given in nanoseconds and stored in microseconds.
-/

namespace CandyCloud

open Foundation

inductive AccountingError where
  | database
  | invalidScope
  | idempotencyConflict
  | sessionClosed
deriving DecidableEq

inductive AccountingTrustLevel where
  | customerReported
  | trustedCandy
deriving DecidableEq

/-- Nanoseconds since the epoch, as a caller gives them. -/
abbrev Nanos := Nat

/-- The value of a `TIMESTAMP(6)` column. -/
def stored (time : Nanos) : Instant := time / 1000

def readBack (column : Instant) : Nanos := column * 1000

structure AccountingSessionWrite where
  id : Uuid
  tenantId : Uuid
  deviceId : Option Uuid
  nodeId : Option Uuid
  trustLevel : AccountingTrustLevel
  startedAt : Nanos
deriving DecidableEq

/-- `accounting_sessions`. -/
structure AccountingSessionRow where
  id : Uuid
  tenantId : Uuid
  deviceId : Option Uuid
  nodeId : Option Uuid
  trustLevel : AccountingTrustLevel
  startedAt : Instant
  endedAt : Option Instant
deriving DecidableEq

structure AccountingRecordWrite where
  id : Uuid
  tenantId : Uuid
  sessionId : Uuid
  idempotencyKey : String
  bytesUp : Nat
  bytesDown : Nat
  recordedAt : Nanos
deriving DecidableEq

/-- `accounting_records`. -/
structure AccountingRecordRow where
  id : Uuid
  tenantId : Uuid
  sessionId : Uuid
  idempotencyKey : String
  bytesUp : Nat
  bytesDown : Nat
  recordedAt : Instant
deriving DecidableEq

inductive AccountingRecordOutcome where
  | inserted
  | replayed (id : Uuid)
deriving DecidableEq

/-- `tenants` are the rows the foreign keys refer to. -/
structure AccountingStore where
  tenants : List Uuid
  sessions : List AccountingSessionRow
  records : List AccountingRecordRow

def maxIdempotencyKeyLen : Nat := 160

def AccountingSessionWrite.validate (session : AccountingSessionWrite) :
    Except AccountingError Unit :=
  let validPrincipal := match session.trustLevel with
    | .customerReported => session.deviceId.isSome && session.nodeId.isNone
    | .trustedCandy => session.nodeId.isSome && session.deviceId.isNone
  reject (isNil session.id || isNil session.tenantId || session.deviceId.any isNil ||
    session.nodeId.any isNil || !validPrincipal) .invalidScope

def AccountingRecordWrite.validate (record : AccountingRecordWrite) :
    Except AccountingError Unit :=
  reject (isNil record.id || isNil record.tenantId || isNil record.sessionId ||
    record.idempotencyKey.isEmpty ||
    decide (maxIdempotencyKeyLen < record.idempotencyKey.utf8ByteSize)) .invalidScope

def AccountingSessionWrite.row (session : AccountingSessionWrite) : AccountingSessionRow where
  id := session.id
  tenantId := session.tenantId
  deviceId := session.deviceId
  nodeId := session.nodeId
  trustLevel := session.trustLevel
  startedAt := stored session.startedAt
  endedAt := none

def AccountingRecordWrite.row (record : AccountingRecordWrite) : AccountingRecordRow where
  id := record.id
  tenantId := record.tenantId
  sessionId := record.sessionId
  idempotencyKey := record.idempotencyKey
  bytesUp := record.bytesUp
  bytesDown := record.bytesDown
  recordedAt := stored record.recordedAt

def AccountingRecordRow.sameAs (row : AccountingRecordRow) (record : AccountingRecordWrite) : Bool :=
  row.id == record.id && row.sessionId == record.sessionId && row.bytesUp == record.bytesUp &&
    row.bytesDown == record.bytesDown && readBack row.recordedAt == record.recordedAt

/-- The unique key; `collate` is the sort key of the database's collation. -/
def AccountingRecordRow.key (collate : String → List Nat) (row : AccountingRecordRow) :
    Uuid × List Nat :=
  (row.tenantId, collate row.idempotencyKey)

def AccountingRecordWrite.key (collate : String → List Nat) (record : AccountingRecordWrite) :
    Uuid × List Nat :=
  (record.tenantId, collate record.idempotencyKey)

namespace AccountingStore

variable (collate : String → List Nat) (store : AccountingStore)

def openSession (session : AccountingSessionWrite) : Except AccountingError AccountingStore := do
  session.validate
  reject (!store.tenants.contains session.tenantId) .database
  let sessions ← orElse .database
    (insertRow (fun new old => new.id == old.id) store.sessions session.row)
  return { store with sessions }

/-- `WHERE tenant_id = ? AND id = ? AND ended_at IS NULL` -/
def isOpen (tenantId sessionId : Uuid) (row : AccountingSessionRow) : Bool :=
  row.tenantId == tenantId && row.id == sessionId && row.endedAt.isNone

def closeSession (tenantId sessionId : Uuid) (endedAt : Nanos) :
    Except AccountingError AccountingStore := do
  reject (isNil tenantId || isNil sessionId) .invalidScope
  let closes := fun row =>
    isOpen tenantId sessionId row && decide (row.startedAt ≤ stored endedAt)
  reject (decide ((store.sessions.filter closes).length ≠ 1)) .sessionClosed
  return { store with
    sessions := updateWhere closes (fun row => { row with endedAt := some (stored endedAt) })
      store.sessions }

/-- `fetch_one`: a session that is not open is a row that is not found. -/
def fetchOpen (tenantId sessionId : Uuid) : Except AccountingError AccountingSessionRow :=
  orElse .database (store.sessions.find? (isOpen tenantId sessionId))

/-- Five minutes after the clock are still accepted. -/
def inTime (session : AccountingSessionRow) (recordedAt clock : Nanos) : Bool :=
  decide (readBack session.startedAt ≤ recordedAt) && decide (recordedAt ≤ clock + 300000000000)

def record (record : AccountingRecordWrite) (clock : Nanos) :
    Except AccountingError (AccountingRecordOutcome × AccountingStore) := do
  record.validate
  let session ← store.fetchOpen record.tenantId record.sessionId
  reject (!inTime session record.recordedAt clock) .invalidScope
  match store.records.find? fun row => row.key collate == record.key collate with
  | some existing =>
      if existing.sameAs record then return (.replayed existing.id, store)
      else .error .idempotencyConflict
  | none =>
      let records ← orElse .database
        (insertRow (fun new old => new.id == old.id || new.key collate == old.key collate)
          store.records record.row)
      return (.inserted, { store with records })

end AccountingStore

/-- The calls of usage accounting. -/
inductive AccountingCall where
  | openSession (session : AccountingSessionWrite)
  | closeSession (tenantId sessionId : Uuid) (endedAt : Nanos)
  | record (record : AccountingRecordWrite) (clock : Nanos)

/-- The answer of a call, which has an outcome when it is about a record, and the store. -/
def AccountingCall.perform (collate : String → List Nat) (store : AccountingStore) :
    AccountingCall → Except AccountingError (Option AccountingRecordOutcome × AccountingStore)
  | .openSession session => (store.openSession session).map fun store => (none, store)
  | .closeSession tenantId sessionId endedAt =>
      (store.closeSession tenantId sessionId endedAt).map fun store => (none, store)
  | .record write clock =>
      (store.record collate write clock).map fun done => (some done.1, done.2)

/-- One call; a refused one changes nothing. -/
def accountingStep (collate : String → List Nat) (store : AccountingStore)
    (call : AccountingCall) : AccountingStore :=
  ((call.perform collate store).toOption.map Prod.snd).getD store

def AccountingCall.accepts (collate : String → List Nat) (store : AccountingStore)
    (call : AccountingCall) : Option AccountingRecordWrite :=
  match call, (call.perform collate store).toOption.bind Prod.fst with
  | .record write _, some .inserted => some write
  | _, _ => none

def acceptedRecords (collate : String → List Nat) : AccountingStore → List AccountingCall →
    List AccountingRecordWrite
  | _, [] => []
  | store, call :: rest =>
      (call.accepts collate store).toList ++
        acceptedRecords collate (accountingStep collate store call) rest

section Calls

variable {collate : String → List Nat} {store store' : AccountingStore} {call : AccountingCall}
  {session : AccountingSessionWrite} {row : AccountingSessionRow} {write : AccountingRecordWrite}
  {clock : Nanos} {tenantId sessionId : Uuid} {endedAt : Nanos} {outcome : AccountingRecordOutcome}
  {accepted : List AccountingRecordWrite}

theorem openSession_ok (done : store.openSession session = .ok store') :
    (∀ old ∈ store.sessions, (session.row.id == old.id) = false) ∧
      store' = { store with sessions := store.sessions ++ [session.row] } := by
  simp only [AccountingStore.openSession, unit_bind_ok, orElse_bind_ok, insertRow_some,
    pure_ok] at done
  obtain ⟨-, -, sessions, ⟨free, rfl⟩, rfl⟩ := done
  exact ⟨free, rfl⟩

/-- The columns of a session that are never written again. -/
def AccountingSessionRow.opening (row : AccountingSessionRow) : Uuid × Uuid × Instant :=
  (row.id, row.tenantId, row.startedAt)

theorem closeSession_ok (done : store.closeSession tenantId sessionId endedAt = .ok store') :
    store'.records = store.records ∧
      store'.sessions.map (·.opening) = store.sessions.map (·.opening) := by
  simp only [AccountingStore.closeSession, unit_bind_ok, pure_ok] at done
  obtain ⟨-, -, rfl⟩ := done
  refine ⟨rfl, ?_⟩
  apply map_updateWhere
  intro row
  rfl

/-- A record that gets as far as the lookup of its key. -/
structure LookedUp (store : AccountingStore) (write : AccountingRecordWrite) (clock : Nanos)
    (row : AccountingSessionRow) : Prop where
  valid : write.validate = .ok ()
  session : store.fetchOpen write.tenantId write.sessionId = .ok row
  inTime : AccountingStore.inTime row write.recordedAt clock = true

def AccountingStore.existing (collate : String → List Nat) (store : AccountingStore)
    (write : AccountingRecordWrite) : Option AccountingRecordRow :=
  store.records.find? fun row => row.key collate == write.key collate

theorem record_found {old : AccountingRecordRow} (looked : LookedUp store write clock row)
    (found : store.existing collate write = some old) :
    store.record collate write clock =
      if old.sameAs write then .ok (.replayed old.id, store) else .error .idempotencyConflict := by
  rw [AccountingStore.existing] at found
  rw [AccountingStore.record, looked.valid]
  simp only [bind, Except.bind, looked.session, looked.inTime, found]
  rfl

theorem record_ok (done : store.record collate write clock = .ok (outcome, store')) :
    ∃ row, LookedUp store write clock row ∧
      ((∃ old, store.existing collate write = some old ∧ outcome = .replayed old.id ∧
          store' = store) ∨
        store.existing collate write = none ∧ outcome = .inserted ∧
          store' = { store with records := store.records ++ [write.row] }) := by
  simp only [AccountingStore.record, bind_ok, reject_ok, Bool.not_eq_false'] at done
  obtain ⟨_, valid, row, session, _, inTime, done⟩ := done
  refine ⟨row, ⟨valid, session, inTime⟩, ?_⟩
  rw [AccountingStore.existing]
  split at done
  · rename_i old found
    obtain ⟨-, ⟨⟩⟩ := ite_ok.mp done
    exact .inl ⟨old, found, rfl, rfl⟩
  · rename_i found
    simp only [orElse_bind_ok, insertRow_some, pure_ok, Prod.mk.injEq] at done
    obtain ⟨records, ⟨-, rfl⟩, rfl, rfl⟩ := done
    exact .inr ⟨found, rfl, rfl⟩

theorem fetchOpen_ok (session : store.fetchOpen tenantId sessionId = .ok row) :
    row ∈ store.sessions ∧ row.tenantId = tenantId ∧ row.id = sessionId := by
  rw [AccountingStore.fetchOpen, orElse_ok] at session
  have found := List.find?_some session
  simp only [AccountingStore.isOpen, Bool.and_eq_true, beq_iff_eq] at found
  exact ⟨List.mem_of_find?_eq_some session, found.1.1, found.1.2⟩

/-- The records are the accepted ones, and each was recorded in its session. -/
structure Accounted (collate : String → List Nat) (accepted : List AccountingRecordWrite)
    (store : AccountingStore) : Prop where
  records : store.records = accepted.map (·.row)
  keys : (accepted.map (·.key collate)).Nodup
  sessions : (store.sessions.map (·.id)).Nodup
  started : ∀ write ∈ accepted, ∃ opening ∈ store.sessions.map (·.opening),
    opening.1 = write.sessionId ∧ readBack opening.2.2 ≤ write.recordedAt

/-- What a call does to the store, and the record it stores. -/
inductive AccountingChange (collate : String → List Nat) (store : AccountingStore) :
    Option AccountingRecordWrite → AccountingStore → Prop where
  | same : AccountingChange collate store none store
  | opened (session : AccountingSessionWrite)
      (free : ∀ old ∈ store.sessions, (session.row.id == old.id) = false) :
      AccountingChange collate store none
        { store with sessions := store.sessions ++ [session.row] }
  | closed (after : AccountingStore) (records : after.records = store.records)
      (openings : after.sessions.map (·.opening) = store.sessions.map (·.opening)) :
      AccountingChange collate store none after
  | inserted (write : AccountingRecordWrite) (clock : Nanos) (row : AccountingSessionRow)
      (looked : LookedUp store write clock row) (new : store.existing collate write = none) :
      AccountingChange collate store (some write)
        { store with records := store.records ++ [write.row] }

theorem accountingStep_change (collate : String → List Nat) (store : AccountingStore)
    (call : AccountingCall) :
    AccountingChange collate store (call.accepts collate store)
      (accountingStep collate store call) := by
  rw [AccountingCall.accepts.eq_def, accountingStep]
  cases call with
  | openSession session =>
      rw [AccountingCall.perform]
      cases done : store.openSession session with
      | error error => exact .same
      | ok after =>
          obtain ⟨free, rfl⟩ := openSession_ok done
          exact .opened session free
  | closeSession tenantId sessionId endedAt =>
      rw [AccountingCall.perform]
      cases done : store.closeSession tenantId sessionId endedAt with
      | error error => exact .same
      | ok after =>
          obtain ⟨records, openings⟩ := closeSession_ok done
          exact .closed after records openings
  | record write clock =>
      rw [AccountingCall.perform]
      cases done : store.record collate write clock with
      | error error => exact .same
      | ok answer =>
          obtain ⟨outcome, after⟩ := answer
          obtain ⟨row, looked, change⟩ := record_ok done
          rcases change with ⟨old, -, rfl, rfl⟩ | ⟨new, rfl, rfl⟩
          · exact .same
          · exact .inserted write clock row looked new

theorem Accounted.change {write : Option AccountingRecordWrite}
    (accounted : Accounted collate accepted store)
    (change : AccountingChange collate store write store') :
    Accounted collate (accepted ++ write.toList) store' := by
  obtain ⟨records, keys, sessions, started⟩ := accounted
  cases change with
  | same =>
      rw [Option.toList_none, List.append_nil]
      exact ⟨records, keys, sessions, started⟩
  | opened session free =>
      rw [Option.toList_none, List.append_nil]
      refine ⟨records, keys, ?_, ?_⟩
      · refine nodup_concat_key sessions fun old member same => ?_
        have other := free old member
        rw [same, beq_self_eq_true] at other
        cases other
      · intro write member
        obtain ⟨opening, present, rest⟩ := started write member
        rw [List.map_append]
        exact ⟨opening, List.mem_append_left _ present, rest⟩
  | closed after sameRecords openings =>
      rw [Option.toList_none, List.append_nil]
      have ids : ∀ rows : List AccountingSessionRow,
          rows.map (·.id) = (rows.map (·.opening)).map Prod.fst := by
        intro rows
        rw [List.map_map]
        rfl
      refine ⟨sameRecords.trans records, keys, ?_, ?_⟩
      · rw [ids, openings, ← ids]
        exact sessions
      · rwa [openings]
  | inserted write clock row looked new =>
      rw [Option.toList_some]
      refine ⟨?_, ?_, sessions, ?_⟩
      · rw [List.map_append, ← records]
        rfl
      · refine nodup_concat_key keys fun old member same => ?_
        have stored : old.row ∈ store.records := records ▸ List.mem_map_of_mem member
        rw [AccountingStore.existing, List.find?_eq_none] at new
        exact new old.row stored (beq_iff_eq.mpr same.symm)
      · intro other member
        cases List.mem_append.mp member with
        | inl before => exact started other before
        | inr now =>
            rw [List.mem_singleton.mp now]
            obtain ⟨present, -, id⟩ := fetchOpen_ok looked.session
            have bounds := looked.inTime
            simp only [AccountingStore.inTime, Bool.and_eq_true, decide_eq_true_eq] at bounds
            exact ⟨row.opening, List.mem_map_of_mem present, id, bounds.1⟩

theorem accounted_run (accounted : Accounted collate accepted store)
    (calls : List AccountingCall) :
    Accounted collate (accepted ++ acceptedRecords collate store calls)
      (run (accountingStep collate) store calls) := by
  induction calls generalizing accepted store with
  | nil =>
      rw [acceptedRecords, List.append_nil]
      exact accounted
  | cons call rest ih =>
      rw [acceptedRecords, ← List.append_assoc]
      exact ih (accounted.change (accountingStep_change collate store call))

structure SameContent (old write : AccountingRecordWrite) : Prop where
  id : old.id = write.id
  sessionId : old.sessionId = write.sessionId
  bytesUp : old.bytesUp = write.bytesUp
  bytesDown : old.bytesDown = write.bytesDown
  recordedAt : old.recordedAt = write.recordedAt

def AccountingRecordWrite.cut (write : AccountingRecordWrite) : AccountingRecordWrite :=
  { write with recordedAt := readBack (stored write.recordedAt) }

theorem sameAs_iff (old write : AccountingRecordWrite) :
    old.row.sameAs write = true ↔ SameContent old.cut write := by
  simp only [AccountingRecordRow.sameAs, Bool.and_eq_true, beq_iff_eq]
  exact ⟨fun ⟨⟨⟨⟨id, session⟩, up⟩, down⟩, time⟩ => ⟨id, session, up, down, time⟩,
    fun ⟨id, session, up, down, time⟩ => ⟨⟨⟨⟨id, session⟩, up⟩, down⟩, time⟩⟩

theorem Accounted.existing (accounted : Accounted collate accepted store)
    {old : AccountingRecordWrite} (member : old ∈ accepted)
    (key : old.key collate = write.key collate) :
    store.existing collate write = some old.row := by
  have unique : (store.records.map (·.key collate)).Nodup := by
    rw [accounted.records, List.map_map]
    exact accounted.keys
  refine find_of_key unique (accounted.records ▸ List.mem_map_of_mem member) ?_
  intro candidate
  rw [beq_iff_eq]
  exact ⟨fun same => same.trans key.symm, fun same => same.trans key⟩

/-- The records are stored once for each accepted key, with the bytes that were accepted. -/
structure StoredOnce (collate : String → List Nat) (accepted : List AccountingRecordWrite)
    (store : AccountingStore) : Prop where
  distinct : (store.records.map (·.key collate)).Nodup
  once : (accepted.map (·.key collate)).Nodup
  records : store.records = accepted.map (·.row)
  bytesUp : ∀ tenantId, ((store.records.filter (·.tenantId == tenantId)).map (·.bytesUp)).sum =
    ((accepted.filter (·.tenantId == tenantId)).map (·.bytesUp)).sum
  bytesDown : ∀ tenantId,
    ((store.records.filter (·.tenantId == tenantId)).map (·.bytesDown)).sum =
      ((accepted.filter (·.tenantId == tenantId)).map (·.bytesDown)).sum
  -- a repeat is not too early for its session
  started : ∀ write ∈ accepted, ∀ row,
    store.fetchOpen write.tenantId write.sessionId = .ok row →
    readBack row.startedAt ≤ write.recordedAt

theorem Accounted.storedOnce (accounted : Accounted collate accepted store) :
    StoredOnce collate accepted store := by
  have totals : ∀ (up : AccountingRecordRow → Nat) (tenantId : Uuid),
      ((store.records.filter (·.tenantId == tenantId)).map up).sum =
        ((accepted.filter (·.tenantId == tenantId)).map fun write => up write.row).sum := by
    intro up tenantId
    rw [accounted.records, List.filter_map, List.map_map]
    rfl
  refine ⟨?_, accounted.keys, accounted.records, totals (·.bytesUp), totals (·.bytesDown), ?_⟩
  · rw [accounted.records, List.map_map]
    exact accounted.keys
  · intro write member row session
    obtain ⟨opening, listed, id, early⟩ := accounted.started write member
    obtain ⟨first, present, rfl⟩ := List.mem_map.mp listed
    obtain ⟨open_, -, named⟩ := fetchOpen_ok session
    rwa [← eq_of_key accounted.sessions present open_ (id.trans named.symm)]

def SessionOpen (store : AccountingStore) (write : AccountingRecordWrite) : Prop :=
  ∃ row, store.fetchOpen write.tenantId write.sessionId = .ok row

/-- The record is well formed and not outside the time of an open session. -/
structure InBounds (store : AccountingStore) (write : AccountingRecordWrite) (clock : Nanos) :
    Prop where
  valid : write.validate = .ok ()
  inTime : ∀ row, store.fetchOpen write.tenantId write.sessionId = .ok row →
    AccountingStore.inTime row write.recordedAt clock = true

/-- What a record is to be answered, given the records accepted before it. -/
structure Promised (collate : String → List Nat) (accepted : List AccountingRecordWrite)
    (store : AccountingStore) (write : AccountingRecordWrite)
    (answer : Except AccountingError AccountingRecordOutcome) : Prop where
  closed : ¬ SessionOpen store write → answer = .error .sessionClosed
  repeated : SessionOpen store write → ∀ old ∈ accepted, old.key collate = write.key collate →
    SameContent old write → answer = .ok (.replayed old.id)
  other : SessionOpen store write → ∀ old ∈ accepted, old.key collate = write.key collate →
    ¬ SameContent old write → answer = .error .idempotencyConflict

/-- The session is open, and the cut of an accepted time to microseconds does not change
    whether the record is the accepted one. -/
structure Undisturbed (collate : String → List Nat) (accepted : List AccountingRecordWrite)
    (store : AccountingStore) (write : AccountingRecordWrite) : Prop where
  session : SessionOpen store write
  whole : ∀ old ∈ accepted, old.key collate = write.key collate →
    (SameContent old.cut write ↔ SameContent old write)

def AccountingStore.answer (collate : String → List Nat) (store : AccountingStore)
    (write : AccountingRecordWrite) (clock : Nanos) :
    Except AccountingError AccountingRecordOutcome :=
  (store.record collate write clock).map Prod.fst

theorem answer_closed (valid : write.validate = .ok ()) (closed : ¬ SessionOpen store write) :
    store.answer collate write clock = .error .database := by
  have absent : store.fetchOpen write.tenantId write.sessionId = .error .database := by
    rw [AccountingStore.fetchOpen]
    cases found : store.sessions.find?
        (AccountingStore.isOpen write.tenantId write.sessionId) with
    | none => rfl
    | some row => exact absurd ⟨row, orElse_ok.mpr found⟩ closed
  rw [AccountingStore.answer, AccountingStore.record, valid]
  simp only [bind, Except.bind, absent]
  rfl

theorem answer_existing (accounted : Accounted collate accepted store)
    (looked : LookedUp store write clock row) {old : AccountingRecordWrite}
    (member : old ∈ accepted) (key : old.key collate = write.key collate) :
    (SameContent old.cut write → store.answer collate write clock = .ok (.replayed old.id)) ∧
      (¬ SameContent old.cut write →
        store.answer collate write clock = .error .idempotencyConflict) := by
  have found := accounted.existing member key
  rw [AccountingStore.answer, record_found looked found]
  constructor
  · intro same
    rw [if_pos ((sameAs_iff old write).mpr same)]
    rfl
  · intro different
    rw [if_neg fun same => different ((sameAs_iff old write).mp same)]
    rfl

theorem promised_iff (accounted : Accounted collate accepted store)
    (bounds : InBounds store write clock) :
    Promised collate accepted store write (store.answer collate write clock) ↔
      Undisturbed collate accepted store write := by
  by_cases isOpen : SessionOpen store write
  · obtain ⟨row, session⟩ := isOpen
    have looked : LookedUp store write clock row := ⟨bounds.valid, session, bounds.inTime row session⟩
    constructor
    · intro promised
      refine ⟨⟨row, session⟩, fun old member key => ?_⟩
      have answers := answer_existing accounted looked member key
      constructor
      · intro same
        by_contra different
        have conflict := promised.other ⟨row, session⟩ old member key different
        rw [answers.1 same] at conflict
        cases conflict
      · intro same
        by_contra different
        have replayed := promised.repeated ⟨row, session⟩ old member key same
        rw [answers.2 different] at replayed
        cases replayed
    · intro undisturbed
      refine ⟨fun closed => absurd ⟨row, session⟩ closed, ?_, ?_⟩
      · intro _ old member key same
        exact (answer_existing accounted looked member key).1
          ((undisturbed.whole old member key).mpr same)
      · intro _ old member key different
        exact (answer_existing accounted looked member key).2
          (mt (undisturbed.whole old member key).mp different)
  · constructor
    · intro promised
      have claimed := promised.closed isOpen
      rw [answer_closed bounds.valid isOpen] at claimed
      cases claimed
    · intro undisturbed
      exact absurd undisturbed.session isOpen

/-- A call that is not accepted: it fails, or it is a repeated record. -/
def Unaccepted (collate : String → List Nat) (store : AccountingStore) (call : AccountingCall) :
    Prop :=
  ∀ outcome after, call.perform collate store = .ok (outcome, after) →
    ∃ id, outcome = some (.replayed id)

theorem unaccepted_same (unaccepted : Unaccepted collate store call) :
    accountingStep collate store call = store := by
  rw [accountingStep]
  cases done : call.perform collate store with
  | error error => rfl
  | ok answer =>
      obtain ⟨outcome, after⟩ := answer
      obtain ⟨id, rfl⟩ := unaccepted outcome after done
      cases call with
      | openSession session =>
          simp [AccountingCall.perform, map_ok] at done
      | closeSession tenantId sessionId endedAt =>
          simp [AccountingCall.perform, map_ok] at done
      | record write clock =>
          rw [AccountingCall.perform, map_ok] at done
          obtain ⟨⟨outcome, after'⟩, recorded, same⟩ := done
          cases same
          obtain ⟨row, -, change⟩ := record_ok recorded
          rcases change with ⟨old, -, -, rfl⟩ | ⟨-, replayed, -⟩
          · rfl
          · cases replayed

end Calls

def AccountingStore.reached (collate : String → List Nat) (tenants : List Uuid)
    (calls : List AccountingCall) : AccountingStore :=
  run (accountingStep collate) ⟨tenants, [], []⟩ calls

/-- In every run the records are stored once for each accepted key and no other call changes
    anything. A record is answered as promised exactly when its session is open and no part
    of a microsecond decides whether it is the accepted one. -/
theorem accounting_once (collate : String → List Nat) (tenants : List Uuid)
    (calls : List AccountingCall) :
    let store := AccountingStore.reached collate tenants calls
    let accepted := acceptedRecords collate ⟨tenants, [], []⟩ calls
    StoredOnce collate accepted store ∧
    (∀ call, Unaccepted collate store call → accountingStep collate store call = store) ∧
    ∀ write clock, InBounds store write clock →
      (Promised collate accepted store write (store.answer collate write clock) ↔
        Undisturbed collate accepted store write) := by
  have empty : Accounted collate [] ⟨tenants, [], []⟩ :=
    ⟨rfl, List.nodup_nil, List.nodup_nil, fun _ member => absurd member List.not_mem_nil⟩
  have accounted := accounted_run empty calls
  rw [List.nil_append] at accounted
  exact ⟨accounted.storedOnce, fun _ => unaccepted_same, fun _ _ => promised_iff accounted⟩

def sampleSession : AccountingSessionWrite := ⟨3, 1, some 5, none, .customerReported, 1000⟩

def sampleRecord : AccountingRecordWrite := ⟨7, 1, 3, "event", 10, 20, 2500⟩

/-- The record of an unknown session fails in the database, and the repeat of a record whose
    time is cut conflicts with itself. -/
theorem accounting_disturbed :
    ¬ (∀ collate tenants calls write clock,
      let store := AccountingStore.reached collate tenants calls
      InBounds store write clock →
      Promised collate (acceptedRecords collate ⟨tenants, [], []⟩ calls) store write
        (store.answer collate write clock)) ∧
    (AccountingStore.reached (fun _ => []) [1] []).answer (fun _ => []) sampleRecord 2500 =
      .error .database ∧
    (AccountingStore.reached (fun _ => []) [1]
        [.openSession sampleSession, .record sampleRecord 2500]).answer (fun _ => [])
      sampleRecord 2500 = .error .idempotencyConflict := by
  have unknown : (AccountingStore.reached (fun _ => []) [1] []).answer (fun _ => []) sampleRecord
      2500 = .error .database := by
    decide +kernel
  refine ⟨fun promised => ?_, unknown, by decide +kernel⟩
  have absent : ∀ row, (AccountingStore.reached (fun _ => []) [1] []).fetchOpen
      sampleRecord.tenantId sampleRecord.sessionId ≠ .ok row := by
    intro row found
    cases found
  have claimed := (promised (fun _ => []) [1] [] sampleRecord 2500
    ⟨by decide +kernel, fun row found => absurd found (absent row)⟩).closed
      fun ⟨row, found⟩ => absent row found
  rw [unknown] at claimed
  cases claimed

end CandyCloud
