import CandyCloud.Client.Tables
import CandyCloud.Encoding
import CandyCloud.Text
import CandyCloud.Foundation.Machine
import Mathlib.Data.List.Chain

/-! # Projection receipts

`ClientProjectionRepository::record_receipt`.
-/

namespace CandyCloud

open Foundation

inductive ClientProjectionReceiptState where
  | received
  | verified
  | staged
  | committed
  | rejected
deriving DecidableEq, Repr

namespace ClientProjectionReceiptState

def toDatabaseValue : ClientProjectionReceiptState → String
  | .received => "RECEIVED"
  | .verified => "VERIFIED"
  | .staged => "STAGED"
  | .committed => "COMMITTED"
  | .rejected => "REJECTED"

def next : ClientProjectionReceiptState → Option ClientProjectionReceiptState
  | .received => some .verified
  | .verified => some .staged
  | .staged => some .committed
  | .committed | .rejected => none

def permits (state next : ClientProjectionReceiptState) : Bool :=
  if next = .rejected then decide (state ≠ .rejected)
  else decide (state = next) || decide (state.next = some next)

end ClientProjectionReceiptState

structure ClientProjectionReceiptWrite where
  audience : ClientAudience
  projectionId : Uuid
  generation : Nat
  contentHash : Hash
  requestId : Uuid
  requestHash : Hash
  state : ClientProjectionReceiptState
  errorCode : Option String
deriving DecidableEq, Repr

/-- `client_projection_receipts`. -/
structure ClientProjectionReceiptRow where
  id : Uuid
  audience : ClientAudience
  projectionId : Uuid
  generation : Nat
  contentHash : Hash
  requestId : Uuid
  requestHash : Hash
  state : ClientProjectionReceiptState
  errorCode : Option String
  reportedAt : Instant
deriving DecidableEq, Repr

structure ClientReceiptOutcome where
  state : ClientProjectionReceiptState
  replayed : Bool
deriving DecidableEq, Repr

/-- The receipts, and the projections with their primary key. -/
structure ReceiptStore where
  projections : List ClientProjectionRow
  primary : (projections.map (·.id)).Nodup
  receipts : List ClientProjectionReceiptRow

def maxErrorCodeLen : Nat := 80

/-- Not of the form `^[a-z][a-z0-9_.-]{2,79}$`. -/
def malformedErrorCode (errorCode : String) : Bool :=
  decide ((utf8 errorCode).length < 3) || decide (maxErrorCodeLen < (utf8 errorCode).length) ||
    !(utf8 errorCode).head?.any asciiLower ||
    !(utf8 errorCode).all fun byte =>
      asciiLower byte || asciiDigit byte || (utf8 "_.-").contains byte

namespace ClientProjectionReceiptWrite

variable (receipt : ClientProjectionReceiptWrite)

/-- What `request_fingerprint` hashes. -/
def fingerprintBytes : Bytes :=
  utf8 "candy/terminal-client-projection-receipt/v1\x00" ++
    uuidBytes receipt.audience.scope.organizationId ++ uuidBytes receipt.audience.scope.tenantId ++
    uuidBytes receipt.audience.scope.userId ++ uuidBytes receipt.audience.clientDeviceId ++
    uuidBytes receipt.audience.deviceKeyId ++ uuidBytes receipt.projectionId ++
    bigEndian 8 receipt.generation ++ hashBytes receipt.contentHash ++
    utf8 receipt.state.toDatabaseValue ++
    bigEndian 4 (receipt.errorCode.elim 0 fun errorCode => (utf8 errorCode).length) ++
    receipt.errorCode.elim [] utf8

def requestFingerprint (sha256 : Bytes → Hash) : Hash := sha256 receipt.fingerprintBytes

def validate : Except ClientProjectionError Unit := do
  reject ((receipt.audience.ids ++ [receipt.projectionId, receipt.requestId]).any isNil ||
    decide (receipt.generation = 0) || decide (maxProjectionGeneration < receipt.generation) ||
    decide (receipt.contentHash = zeroHash) || decide (receipt.requestHash = zeroHash))
    .invalidReceipt
  reject (receipt.errorCode.any malformedErrorCode) .invalidReceipt

def row (id : Uuid) (reportedAt : Instant) : ClientProjectionReceiptRow where
  id
  audience := receipt.audience
  projectionId := receipt.projectionId
  generation := receipt.generation
  contentHash := receipt.contentHash
  requestId := receipt.requestId
  requestHash := receipt.requestHash
  state := receipt.state
  errorCode := receipt.errorCode
  reportedAt

def requested (row : ClientProjectionReceiptRow) : Bool :=
  row.audience.scope.tenantId == receipt.audience.scope.tenantId &&
    row.audience.clientDeviceId == receipt.audience.clientDeviceId &&
    row.requestId == receipt.requestId

/-- The row is about the projection of the receipt. -/
def concerns (row : ClientProjectionReceiptRow) : Bool :=
  row.audience.scope.tenantId == receipt.audience.scope.tenantId &&
    row.audience.clientDeviceId == receipt.audience.clientDeviceId &&
    row.projectionId == receipt.projectionId

def names (projection : ClientProjectionRow) : Bool :=
  projection.id == receipt.projectionId && decide (projection.audience = receipt.audience)

end ClientProjectionReceiptWrite

/-- The primary key and `uq_client_projection_receipt_request`. -/
def ClientProjectionReceiptRow.clashes (new old : ClientProjectionReceiptRow) : Bool :=
  new.id == old.id || (new.audience.scope.tenantId == old.audience.scope.tenantId &&
    new.audience.clientDeviceId == old.audience.clientDeviceId && new.requestId == old.requestId)

/-- The later of two receipts, by `reported_at` and then by `id`. -/
def laterReceipt (best : Option ClientProjectionReceiptRow) (row : ClientProjectionReceiptRow) :
    Option ClientProjectionReceiptRow :=
  match best with
  | none => some row
  | some best =>
      if best.reportedAt < row.reportedAt ∨
          (best.reportedAt = row.reportedAt ∧ best.id < row.id) then some row
      else some best

/-- `ORDER BY reported_at DESC, id DESC LIMIT 1`. -/
def newestReceipt (rows : List ClientProjectionReceiptRow) : Option ClientProjectionReceiptRow :=
  rows.foldl laterReceipt none

/-- The receipt must name a projection published for its device and key, with
    the generation and the content that was signed. -/
def bindReceipt (store : ReceiptStore) (receipt : ClientProjectionReceiptWrite) :
    Except ClientProjectionError Unit := do
  let projection ← orElse .bindingConflict (store.projections.find? receipt.names)
  reject (decide (projection.generation ≠ receipt.generation) ||
    decide (projection.contentHash ≠ receipt.contentHash)) .bindingConflict

/-- The state may follow the last accepted one, or opens the progression. -/
def checkProgression (store : ReceiptStore) (receipt : ClientProjectionReceiptWrite) :
    Except ClientProjectionError Unit :=
  match newestReceipt (store.receipts.filter receipt.concerns) with
  | some latest => reject (!latest.state.permits receipt.state) .invalidReceipt
  | none => reject (decide (receipt.state ≠ .received)) .invalidReceipt

def ReceiptStore.recordReceipt (store : ReceiptStore) (receipt : ClientProjectionReceiptWrite)
    (id : Uuid) (reportedAt : Instant) :
    Except ClientProjectionError (ClientReceiptOutcome × ReceiptStore) := do
  receipt.validate
  bindReceipt store receipt
  match store.receipts.find? receipt.requested with
  | some stored =>
      if stored.requestHash = receipt.requestHash then return (⟨stored.state, true⟩, store)
      else throw .bindingConflict
  | none =>
      checkProgression store receipt
      let receipts ← orElse .invalidRecord
        (insertRow ClientProjectionReceiptRow.clashes store.receipts (receipt.row id reportedAt))
      return (⟨receipt.state, false⟩, { store with receipts })

/-- A report as it arrives, with the row identifier it draws and the time of its
    insert. -/
structure ReceiptCall where
  receipt : ClientProjectionReceiptWrite
  id : Uuid
  reportedAt : Instant

/-- One receipt; a refused one changes nothing. -/
def receiptReportStep (store : ReceiptStore) (call : ReceiptCall) : ReceiptStore :=
  commit store ((store.recordReceipt call.receipt call.id call.reportedAt).map Prod.snd)

def installOrder : List ClientProjectionReceiptState := [.received, .verified, .staged, .committed]

/-- What may come directly after an accepted state. -/
def Follows (a b : ClientProjectionReceiptState) : Prop :=
  a ≠ .rejected ∧
    (b = a ∨ (∃ i, installOrder[i]? = some a ∧ installOrder[i + 1]? = some b) ∨ b = .rejected)

/-- The accepted states of one projection, in the order of their acceptance. -/
structure Progression (states : List ClientProjectionReceiptState) : Prop where
  opens : ∀ first ∈ states.head?, first = .received
  follows : states.IsChain Follows

theorem follows_of_permits {a b : ClientProjectionReceiptState} (permitted : a.permits b = true) :
    Follows a b := by
  unfold ClientProjectionReceiptState.permits at permitted
  split at permitted
  · rename_i rejected
    exact ⟨of_decide_eq_true permitted, .inr (.inr rejected)⟩
  · rename_i open_
    simp only [Bool.or_eq_true, decide_eq_true_eq] at permitted
    rcases permitted with rfl | next
    · exact ⟨open_, .inl rfl⟩
    · cases a with
      | received =>
          obtain rfl := Option.some.inj next
          exact ⟨nofun, .inr (.inl ⟨0, rfl, rfl⟩)⟩
      | verified =>
          obtain rfl := Option.some.inj next
          exact ⟨nofun, .inr (.inl ⟨1, rfl, rfl⟩)⟩
      | staged =>
          obtain rfl := Option.some.inj next
          exact ⟨nofun, .inr (.inl ⟨2, rfl, rfl⟩)⟩
      | committed => cases next
      | rejected => cases next

theorem Progression.opened : Progression [.received] where
  opens := by
    intro first opening
    exact (Option.some.inj opening).symm
  follows := .singleton _

theorem Progression.extend {states : List ClientProjectionReceiptState}
    {last next : ClientProjectionReceiptState} (progression : Progression (states ++ [last]))
    (permitted : last.permits next = true) : Progression (states ++ [last] ++ [next]) where
  opens := by
    intro first opening
    refine progression.opens first ?_
    cases states with
    | nil => exact opening
    | cons head rest => exact opening
  follows := by
    rw [List.isChain_append]
    refine ⟨progression.follows, .singleton _, ?_⟩
    intro x final y initial
    rw [List.getLast?_append, Option.mem_def] at final
    obtain rfl : last = x := Option.some.inj final
    obtain rfl : next = y := Option.some.inj initial
    exact follows_of_permits permitted

theorem newestReceipt_concat (rows : List ClientProjectionReceiptRow)
    (row : ClientProjectionReceiptRow) :
    newestReceipt (rows ++ [row]) = laterReceipt (newestReceipt rows) row := by
  simp only [newestReceipt, List.foldl_append, List.foldl_cons, List.foldl_nil]

variable {rows : List ClientProjectionReceiptRow} {u : Unit} {projection : ClientProjectionRow}

theorem newestReceipt_mem {newest : ClientProjectionReceiptRow}
    (found : newestReceipt rows = some newest) :
    newest ∈ rows := by
  induction rows using List.reverseRecOn with
  | nil => cases found
  | append_singleton rows row ih =>
      rw [newestReceipt_concat] at found
      cases before : newestReceipt rows with
      | none =>
          rw [before] at found
          obtain rfl := Option.some.inj found
          exact List.mem_append_right rows (List.mem_singleton_self row)
      | some best =>
          simp only [before, laterReceipt] at found
          split at found
          · obtain rfl := Option.some.inj found
            exact List.mem_append_right rows (List.mem_singleton_self row)
          · exact List.mem_append_left [row] (ih (before.trans found))

theorem newestReceipt_last {row : ClientProjectionReceiptRow}
    (later : ∀ old ∈ rows, old.reportedAt < row.reportedAt) :
    newestReceipt (rows ++ [row]) = some row := by
  rw [newestReceipt_concat]
  cases before : newestReceipt rows with
  | none => rfl
  | some best => exact if_pos (.inl (later best (newestReceipt_mem before)))

theorem newestReceipt_getLast (ordered : rows.Pairwise fun a b => a.reportedAt < b.reportedAt) :
    newestReceipt rows = rows.getLast? := by
  cases rows using List.reverseRecOn with
  | nil => rfl
  | append_singleton rows row =>
      rw [List.pairwise_append] at ordered
      rw [List.getLast?_append]
      exact newestReceipt_last fun old member =>
        ordered.2.2 old member row (List.mem_singleton_self row)

namespace ReceiptStore

def accepted (store : ReceiptStore) (projectionId : Uuid) : List ClientProjectionReceiptState :=
  (store.receipts.filter fun row => row.projectionId == projectionId).map (·.state)

end ReceiptStore

def ClientProjectionReceiptRow.write (row : ClientProjectionReceiptRow) :
    ClientProjectionReceiptWrite :=
  ⟨row.audience, row.projectionId, row.generation, row.contentHash, row.requestId,
    row.requestHash, row.state, row.errorCode⟩

/-- The projection that a receipt has been checked against. -/
structure Binds (receipt : ClientProjectionReceiptWrite) (projection : ClientProjectionRow) :
    Prop where
  id : projection.id = receipt.projectionId
  audience : projection.audience = receipt.audience
  generation : projection.generation = receipt.generation
  contentHash : projection.contentHash = receipt.contentHash

/-- What every history of receipts keeps. -/
structure ReceiptInvariant (store : ReceiptStore) : Prop where
  valid : ∀ row ∈ store.receipts, row.write.validate = .ok ()
  bound : ∀ row ∈ store.receipts, ∃ projection ∈ store.projections, Binds row.write projection
  requests : ∀ a ∈ store.receipts, ∀ b ∈ store.receipts, a.write.requested b = true → a = b
  ordered : store.receipts.Pairwise fun a b => a.reportedAt < b.reportedAt
  progression : ∀ projectionId, Progression (store.accepted projectionId)

section Calls

variable {store : ReceiptStore} {receipt : ClientProjectionReceiptWrite} {id : Uuid}
  {reportedAt : Instant}

theorem bindReceipt_ok (bound : bindReceipt store receipt = .ok u) :
    ∃ projection ∈ store.projections, Binds receipt projection := by
  simp only [bindReceipt, orElse_bind_ok, reject_ok, Bool.or_eq_false_iff, decide_eq_false_iff_not,
    not_not] at bound
  obtain ⟨projection, found, generation, contentHash⟩ := bound
  have named := List.find?_some found
  simp only [ClientProjectionReceiptWrite.names, Bool.and_eq_true, beq_iff_eq,
    decide_eq_true_eq] at named
  exact ⟨projection, List.mem_of_find?_eq_some found, named.1, named.2, generation, contentHash⟩

theorem Binds.checked (binds : Binds receipt projection) (present : projection ∈ store.projections)
    : bindReceipt store receipt = .ok () := by
  have found : store.projections.find? receipt.names = some projection := by
    refine find_keyed store.primary present
      (by simp [ClientProjectionReceiptWrite.names, binds.id, binds.audience]) ?_
    intro other named
    simp only [ClientProjectionReceiptWrite.names, Bool.and_eq_true, beq_iff_eq] at named
    exact named.1.trans binds.id.symm
  simp only [bindReceipt, orElse_bind_ok, reject_ok, Bool.or_eq_false_iff, decide_eq_false_iff_not,
    not_not]
  exact ⟨projection, found, binds.generation, binds.contentHash⟩

theorem recordReceipt_ok {outcome : ClientReceiptOutcome} {store' : ReceiptStore}
    (done : store.recordReceipt receipt id reportedAt = .ok (outcome, store')) :
    receipt.validate = .ok () ∧ (∃ projection ∈ store.projections, Binds receipt projection) ∧
    ((∃ stored ∈ store.receipts, receipt.requested stored = true ∧
        stored.requestHash = receipt.requestHash ∧ outcome = ⟨stored.state, true⟩ ∧
        store' = store) ∨
      (checkProgression store receipt = .ok () ∧
        (∀ old ∈ store.receipts, (receipt.row id reportedAt).clashes old = false) ∧
        outcome = ⟨receipt.state, false⟩ ∧
        store' = { store with receipts := store.receipts ++ [receipt.row id reportedAt] })) := by
  simp only [ReceiptStore.recordReceipt, unit_bind_ok] at done
  obtain ⟨valid, bound, done⟩ := done
  refine ⟨valid, bindReceipt_ok bound, ?_⟩
  split at done
  · rename_i stored found
    obtain ⟨same, ⟨⟩⟩ := ite_ok.mp done
    exact .inl ⟨stored, List.mem_of_find?_eq_some found, List.find?_some found, same, rfl, rfl⟩
  · simp only [unit_bind_ok, orElse_bind_ok, insertRow_some, pure_ok, Prod.mk.injEq] at done
    obtain ⟨checked, receipts, ⟨free, rfl⟩, rfl, rfl⟩ := done
    exact .inr ⟨checked, free, rfl, rfl⟩

theorem concerns_iff (inv : ReceiptInvariant store) (present : projection ∈ store.projections)
    (binds : Binds receipt projection) {row : ClientProjectionReceiptRow}
    (member : row ∈ store.receipts) :
    receipt.concerns row = (row.projectionId == receipt.projectionId) := by
  rw [Bool.eq_iff_iff]
  simp only [ClientProjectionReceiptWrite.concerns, Bool.and_eq_true, beq_iff_eq]
  constructor
  · exact fun concerned => concerned.2
  · intro same
    obtain ⟨other, there, bound⟩ := inv.bound row member
    have shared : other = projection :=
      eq_of_key store.primary there present (bound.id.trans (same.trans binds.id.symm))
    have audience : row.audience = receipt.audience := by
      rw [← binds.audience, ← shared, bound.audience]
      rfl
    rw [audience]
    exact ⟨⟨rfl, rfl⟩, same⟩

theorem checkProgression_extends (inv : ReceiptInvariant store)
    (present : projection ∈ store.projections) (binds : Binds receipt projection)
    (checked : checkProgression store receipt = .ok u) :
    Progression (store.accepted receipt.projectionId ++ [receipt.state]) := by
  have selected : store.receipts.filter receipt.concerns =
      store.receipts.filter fun row => row.projectionId == receipt.projectionId :=
    List.filter_congr fun row member => concerns_iff inv present binds member
  have ordered := inv.ordered.filter fun row => row.projectionId == receipt.projectionId
  have before := inv.progression receipt.projectionId
  simp only [checkProgression, selected, newestReceipt_getLast ordered] at checked
  unfold ReceiptStore.accepted at before ⊢
  generalize store.receipts.filter (fun row => row.projectionId == receipt.projectionId) = rows
    at checked before ⊢
  cases rows using List.reverseRecOn with
  | nil =>
      simp only [List.getLast?_nil, reject_ok, decide_eq_false_iff_not, not_not] at checked
      rw [checked]
      exact Progression.opened
  | append_singleton rows latest =>
      simp only [List.getLast?_append, List.getLast?_singleton, Option.some_or, reject_ok,
        Bool.not_eq_false'] at checked
      rw [List.map_append] at before ⊢
      exact before.extend checked

theorem accepted_concat (row : ClientProjectionReceiptRow) (projectionId : Uuid) :
    ReceiptStore.accepted { store with receipts := store.receipts ++ [row] } projectionId =
      store.accepted projectionId ++
        if row.projectionId = projectionId then [row.state] else [] := by
  simp only [ReceiptStore.accepted, List.filter_append, List.map_append]
  congr 1
  by_cases same : row.projectionId = projectionId
  · simp [same]
  · simp [same]

theorem inserted_invariant (inv : ReceiptInvariant store) (valid : receipt.validate = .ok ())
    (present : projection ∈ store.projections) (binds : Binds receipt projection)
    (checked : checkProgression store receipt = .ok u)
    (free : ∀ old ∈ store.receipts, (receipt.row id reportedAt).clashes old = false)
    (later : ∀ old ∈ store.receipts, old.reportedAt < reportedAt) :
    ReceiptInvariant { store with receipts := store.receipts ++ [receipt.row id reportedAt] } := by
  have apart : ∀ old ∈ store.receipts, ¬ receipt.requested old = true ∧
      ¬ old.write.requested (receipt.row id reportedAt) = true := by
    intro old member
    have distinct := (Bool.or_eq_false_iff.mp (free old member)).2
    simp only [ClientProjectionReceiptWrite.row, Bool.eq_false_iff, ne_eq, Bool.and_eq_true,
      beq_iff_eq] at distinct
    constructor
    · intro same
      simp only [ClientProjectionReceiptWrite.requested, Bool.and_eq_true, beq_iff_eq] at same
      exact distinct ⟨⟨same.1.1.symm, same.1.2.symm⟩, same.2.symm⟩
    · intro same
      simp only [ClientProjectionReceiptWrite.requested, ClientProjectionReceiptRow.write,
        ClientProjectionReceiptWrite.row, Bool.and_eq_true, beq_iff_eq] at same
      exact distinct same
  constructor
  · intro row member
    rcases mem_concat.mp member with old | new
    · exact inv.valid row old
    · rw [new]
      exact valid
  · intro row member
    rcases mem_concat.mp member with old | new
    · exact inv.bound row old
    · rw [new]
      exact ⟨projection, present, binds⟩
  · intro a memberA b memberB same
    rcases List.mem_append.mp memberA with oldA | newA
    · rcases mem_concat.mp memberB with oldB | newB
      · exact inv.requests a oldA b oldB same
      · rw [newB] at same
        exact absurd same (apart a oldA).2
    · rcases mem_concat.mp memberB with oldB | newB
      · rw [List.mem_singleton.mp newA] at same
        exact absurd same (apart b oldB).1
      · rw [List.mem_singleton.mp newA, newB]
  · refine List.pairwise_append.mpr ⟨inv.ordered, List.pairwise_singleton _ _, ?_⟩
    intro old member row new
    rw [List.mem_singleton.mp new]
    exact later old member
  · intro projectionId
    rw [accepted_concat]
    by_cases same : (receipt.row id reportedAt).projectionId = projectionId
    · rw [if_pos same, ← same]
      exact checkProgression_extends inv present binds checked
    · rw [if_neg same, List.append_nil]
      exact inv.progression projectionId

theorem repeated_receipt (inv : ReceiptInvariant store) (valid : receipt.validate = .ok ())
    {row : ClientProjectionReceiptRow} (member : row ∈ store.receipts)
    (request : receipt.requested row = true) (present : projection ∈ store.projections)
    (binds : Binds receipt projection) :
    store.recordReceipt receipt id reportedAt =
      if row.requestHash = receipt.requestHash then .ok (⟨row.state, true⟩, store)
      else .error .bindingConflict := by
  have found : store.receipts.find? receipt.requested = some row := by
    rw [find_sole member, if_pos request]
    intro other present requested
    have same : row.write.requested other = true := by
      simp only [ClientProjectionReceiptWrite.requested, ClientProjectionReceiptRow.write,
        Bool.and_eq_true, beq_iff_eq] at request requested ⊢
      rw [request.1.1, request.1.2, request.2]
      exact requested
    rw [inv.requests row member other present same]
  simp only [ReceiptStore.recordReceipt, valid, binds.checked present, found]
  rfl

end Calls

theorem validate_generation {receipt : ClientProjectionReceiptWrite}
    (valid : receipt.validate = .ok ()) : receipt.generation < 256 ^ 8 := by
  simp only [ClientProjectionReceiptWrite.validate, unit_bind_ok, reject_ok, Bool.or_eq_false_iff,
    decide_eq_false_iff_not, not_lt] at valid
  have bound := valid.1.1.1.2
  unfold maxProjectionGeneration at bound
  omega

/-- The fields a fingerprint covers. -/
structure SameReport (a b : ClientProjectionReceiptWrite) : Prop where
  audience : a.audience = b.audience
  projectionId : a.projectionId = b.projectionId
  generation : a.generation = b.generation
  contentHash : a.contentHash = b.contentHash
  state : a.state = b.state
  errorCode : a.errorCode = b.errorCode

theorem state_readsBack {state state' : ClientProjectionReceiptState} {rest rest' : Bytes}
    (same : utf8 state.toDatabaseValue ++ rest = utf8 state'.toDatabaseValue ++ rest') :
    state = state' ∧ rest = rest' := by
  have heads : ∀ state : ClientProjectionReceiptState, ∀ rest : Bytes,
      (utf8 state.toDatabaseValue ++ rest).take 3 = (utf8 state.toDatabaseValue).take 3 := by
    intro state rest
    apply List.take_append_of_le_length
    cases state with
    | received | verified | staged | committed | rejected => decide
  have starts := congrArg (List.take 3) same
  rw [heads, heads] at starts
  have states : state = state' := by
    cases state with
    | received | verified | staged | committed | rejected =>
        cases state' with
        | received | verified | staged | committed | rejected =>
            first | rfl | (revert starts; decide)
  subst states
  exact ⟨rfl, List.append_cancel_left same⟩

theorem validate_errorCode {receipt : ClientProjectionReceiptWrite}
    (valid : receipt.validate = .ok ()) : ∀ errorCode, receipt.errorCode = some errorCode →
      3 ≤ (utf8 errorCode).length ∧ (utf8 errorCode).length ≤ maxErrorCodeLen := by
  intro errorCode given
  simp only [ClientProjectionReceiptWrite.validate, unit_bind_ok, reject_ok, given, Option.any_some,
    malformedErrorCode, Bool.or_eq_false_iff, decide_eq_false_iff_not, not_lt] at valid
  exact ⟨valid.2.1.1.1, valid.2.1.1.2⟩

theorem errorCode_inj {a b : ClientProjectionReceiptWrite} (validA : a.validate = .ok ())
    (validB : b.validate = .ok ())
    (same : a.errorCode.elim [] utf8 = b.errorCode.elim [] utf8) : a.errorCode = b.errorCode := by
  have filled := validate_errorCode validA
  have filled' := validate_errorCode validB
  cases given : a.errorCode with
  | none =>
      cases given' : b.errorCode with
      | none => rfl
      | some other =>
          have long := filled' other given'
          rw [given, given', Option.elim_none, Option.elim_some] at same
          rw [← same] at long
          exact absurd long.1 (by decide)
  | some errorCode =>
      cases given' : b.errorCode with
      | none =>
          have long := filled errorCode given
          rw [given, given', Option.elim_none, Option.elim_some] at same
          rw [same] at long
          exact absurd long.1 (by decide)
      | some other =>
          rw [given, given', Option.elim_some, Option.elim_some] at same
          rw [utf8_inj same]

theorem fingerprintBytes_inj {a b : ClientProjectionReceiptWrite} (validA : a.validate = .ok ())
    (validB : b.validate = .ok ()) (same : a.fingerprintBytes = b.fingerprintBytes) :
    SameReport a b := by
  simp only [ClientProjectionReceiptWrite.fingerprintBytes, List.append_assoc] at same
  obtain ⟨-, same⟩ := List.append_inj same rfl
  obtain ⟨organization, same⟩ := List.append_inj same (by simp only [uuidBytes_length])
  obtain ⟨tenant, same⟩ := List.append_inj same (by simp only [uuidBytes_length])
  obtain ⟨user, same⟩ := List.append_inj same (by simp only [uuidBytes_length])
  obtain ⟨device, same⟩ := List.append_inj same (by simp only [uuidBytes_length])
  obtain ⟨key, same⟩ := List.append_inj same (by simp only [uuidBytes_length])
  obtain ⟨id, same⟩ := List.append_inj same (by simp only [uuidBytes_length])
  obtain ⟨generation, same⟩ := List.append_inj same (by simp only [bigEndian_length])
  obtain ⟨contentHash, same⟩ := List.append_inj same (by simp only [hashBytes_length])
  obtain ⟨state, same⟩ := state_readsBack same
  obtain ⟨-, same⟩ := List.append_inj same (by simp only [bigEndian_length])
  have scope : a.audience.scope = b.audience.scope := by
    change ClientScope.mk a.audience.scope.organizationId a.audience.scope.tenantId
      a.audience.scope.userId = _
    rw [uuidBytes_inj organization, uuidBytes_inj tenant, uuidBytes_inj user]
  have audience : a.audience = b.audience := by
    change ClientAudience.mk a.audience.scope a.audience.clientDeviceId a.audience.deviceKeyId = _
    rw [scope, uuidBytes_inj device, uuidBytes_inj key]
  constructor
  · exact audience
  · exact uuidBytes_inj id
  · exact bigEndian_inj (validate_generation validA) (validate_generation validB) generation
  · exact hashBytes_inj contentHash
  · exact state
  · exact errorCode_inj validA validB same

theorem fingerprintBytes_binds {a b : ClientProjectionReceiptWrite} (validA : a.validate = .ok ())
    (validB : b.validate = .ok ()) (same : a.fingerprintBytes = b.fingerprintBytes)
    (binds : Binds a projection) : Binds b projection := by
  have report := fingerprintBytes_inj validA validB same
  constructor
  · exact binds.id.trans report.projectionId
  · exact binds.audience.trans report.audience
  · exact binds.generation.trans report.generation
  · exact binds.contentHash.trans report.contentHash

/-- Every insert is stamped later than all inserts before it. -/
def ReportedInOrder (store : ReceiptStore) (call : ReceiptCall) : Prop :=
  ∀ row ∈ store.receipts, row.reportedAt < call.reportedAt

instance (store : ReceiptStore) (call : ReceiptCall) : Decidable (ReportedInOrder store call) :=
  inferInstanceAs (Decidable (∀ row ∈ store.receipts, row.reportedAt < call.reportedAt))

/-- What holds of the receipts in every state. -/
structure ReceiptLaw (sha256 : Bytes → Hash) (store : ReceiptStore) : Prop where
  progression : ∀ projection ∈ store.projections, Progression (store.accepted projection.id)
  recorded : ∀ receipt id reportedAt outcome store',
    store.recordReceipt receipt id reportedAt = .ok (outcome, store') →
    (outcome.replayed = true ∧ store' = store) ∨
      (outcome = ⟨receipt.state, false⟩ ∧ store'.projections = store.projections ∧
        store'.receipts = store.receipts ++ [receipt.row id reportedAt])
  -- Both requests carry the fingerprint of their receipt, and the two do not collide.
  repeated : ∀ receipt id reportedAt, receipt.validate = .ok () →
    receipt.requestHash = receipt.requestFingerprint sha256 → ∀ row ∈ store.receipts,
    receipt.requested row = true → row.requestHash = row.write.requestFingerprint sha256 →
    (sha256 row.write.fingerprintBytes = sha256 receipt.fingerprintBytes →
      row.write.fingerprintBytes = receipt.fingerprintBytes) →
    row.requestHash = receipt.requestHash →
    store.recordReceipt receipt id reportedAt = .ok (⟨row.state, true⟩, store)
  conflicting : ∀ receipt id reportedAt, receipt.validate = .ok () → ∀ row ∈ store.receipts,
    receipt.requested row = true → row.requestHash ≠ receipt.requestHash →
    store.recordReceipt receipt id reportedAt = .error .bindingConflict
  failed : ∀ call error, store.recordReceipt call.receipt call.id call.reportedAt = .error error →
    receiptReportStep store call = store

section Histories

variable {store : ReceiptStore}

theorem receiptReportStep_invariant (inv : ReceiptInvariant store) (call : ReceiptCall)
    (later : ReportedInOrder store call) : ReceiptInvariant (receiptReportStep store call) := by
  refine commit_cases inv ?_
  intro store' finished
  obtain ⟨⟨outcome, after⟩, done, rfl⟩ := map_ok.mp finished
  obtain ⟨valid, ⟨projection, present, binds⟩, effect⟩ := recordReceipt_ok done
  rcases effect with ⟨-, -, -, -, -, rfl⟩ | ⟨checked, free, -, rfl⟩
  · exact inv
  · exact inserted_invariant inv valid present binds checked free later

/-- A binding conflict is the answer to a request recorded with another hash,
    whether or not its projection is bound. -/
theorem conflicting_receipt (inv : ReceiptInvariant store)
    {receipt : ClientProjectionReceiptWrite} {id : Uuid} {reportedAt : Instant}
    (valid : receipt.validate = .ok ()) {row : ClientProjectionReceiptRow}
    (member : row ∈ store.receipts) (request : receipt.requested row = true)
    (other : row.requestHash ≠ receipt.requestHash) :
    store.recordReceipt receipt id reportedAt = .error .bindingConflict := by
  cases checked : bindReceipt store receipt with
  | ok u =>
      obtain ⟨projection, present, binds⟩ := bindReceipt_ok checked
      rw [repeated_receipt inv valid member request present binds, if_neg other]
  | error error =>
      have conflict : error = .bindingConflict := by
        simp only [bindReceipt] at checked
        cases found : store.projections.find? receipt.names with
        | none =>
            rw [found] at checked
            exact (Except.error.inj checked).symm
        | some projection =>
            rw [found] at checked
            simp only [orElse, bind, Except.bind, reject] at checked
            split at checked
            · exact (Except.error.inj checked).symm
            · cases checked
      rw [ReceiptStore.recordReceipt, valid, checked, conflict]
      rfl

theorem ReceiptInvariant.law (inv : ReceiptInvariant store) (sha256 : Bytes → Hash) :
    ReceiptLaw sha256 store where
  progression := fun projection _ => inv.progression projection.id
  recorded := by
    intro receipt id reportedAt outcome store' done
    rcases (recordReceipt_ok done).2.2 with ⟨stored, -, -, -, rfl, same⟩ | ⟨-, -, rfl, rfl⟩
    · exact .inl ⟨rfl, same⟩
    · exact .inr ⟨rfl, rfl, rfl⟩
  repeated := by
    intro receipt id reportedAt valid stamped row member request recorded collision same
    have bytes := collision (recorded.symm.trans (same.trans stamped))
    obtain ⟨projection, present, binds⟩ := inv.bound row member
    rw [repeated_receipt inv valid member request present
      (fingerprintBytes_binds (inv.valid row member) valid bytes binds), if_pos same]
  conflicting := fun _ _ _ valid _ member request other =>
    conflicting_receipt inv valid member request other
  failed := by
    intro call error failed
    rw [receiptReportStep, failed]
    rfl

/-- In every history of receipts for a table of projections. -/
theorem receipts_progress (sha256 : Bytes → Hash) (projections : List ClientProjectionRow)
    (primary : (projections.map (·.id)).Nodup) (calls : List ReceiptCall)
    (ordered : Along receiptReportStep ReportedInOrder ⟨projections, primary, []⟩ calls) :
    ReceiptLaw sha256 (run receiptReportStep ⟨projections, primary, []⟩ calls) := by
  have start : ReceiptInvariant ⟨projections, primary, []⟩ := by
    refine ⟨?_, ?_, ?_, List.Pairwise.nil, ?_⟩
    · exact fun _ member => absurd member List.not_mem_nil
    · exact fun _ member => absurd member List.not_mem_nil
    · exact fun _ member => absurd member List.not_mem_nil
    · exact fun _ => ⟨fun _ none => absurd none (by simp [ReceiptStore.accepted]), .nil⟩
  have reached : ReceiptInvariant (run receiptReportStep ⟨projections, primary, []⟩ calls) :=
    run_invariant_along (P := ReceiptInvariant)
      (fun _ call inv later => receiptReportStep_invariant inv call later) start calls ordered
  exact reached.law sha256

end Histories

def sampleReceiptProjection : ClientProjectionRow where
  id := 81
  audience := ⟨⟨2, 1, 3⟩, 4, 5⟩
  grantId := 6
  policyGeneration := 1
  settingsGeneration := 1
  deviceTrafficMode := .policy
  generation := 1
  requestId := 7
  requestHash := 8
  contentHash := 9
  inputsHash := 10
  projectionEnvelope := [1]
  issuedAt := 0
  staleUntil := 1000
  status := .published

def sampleReceipt (requestId : Uuid) (state : ClientProjectionReceiptState) :
    ClientProjectionReceiptWrite where
  audience := ⟨⟨2, 1, 3⟩, 4, 5⟩
  projectionId := 81
  generation := 1
  contentHash := 9
  requestId
  requestHash := zeroHash
  state
  errorCode := none

def sampleReceiptDigest (bytes : Bytes) : Hash :=
  if bytes = (sampleReceipt 21 .received).fingerprintBytes then
    0xe559a002c75408a0528941f4b0f6bc51d2930500959e22fec6bc11f571f2e25c
  else if bytes = (sampleReceipt 21 .verified).fingerprintBytes then
    0x6e13d16a3a738e27c41c6e26e9faab05abc748a7e605a75d3d3b45e283549a36
  else if bytes = (sampleReceipt 21 .staged).fingerprintBytes then
    0xbc96e3cff03349020010199a5c2482174c3175f46acec6ce41f2d0fb94bcbc75
  else 0xdaac3fd3721c577d3e22ee99618cdddd9a0173397c4c495313ca722b7476053d

def receiptReport (requestId : Uuid) (state : ClientProjectionReceiptState) (reportedAt : Instant) :
    ReceiptCall where
  receipt :=
    { sampleReceipt requestId state with
      requestHash := (sampleReceipt requestId state).requestFingerprint sampleReceiptDigest }
  id := requestId + 100
  reportedAt

def sampleReports : List ReceiptCall :=
  [receiptReport 21 .received 1, receiptReport 22 .staged 2, receiptReport 23 .verified 3,
    receiptReport 23 .verified 4, receiptReport 24 .rejected 5, receiptReport 25 .staged 6]

theorem sampleReceiptProjection_primary : ([sampleReceiptProjection].map (·.id)).Nodup :=
  List.nodup_singleton _

theorem receipts_progress_sample :
    (run receiptReportStep ⟨[sampleReceiptProjection], sampleReceiptProjection_primary, []⟩
      sampleReports).accepted 81 = [.received, .verified, .rejected] ∧
    ReceiptLaw sampleReceiptDigest
      (run receiptReportStep ⟨[sampleReceiptProjection], sampleReceiptProjection_primary, []⟩
        sampleReports) :=
  ⟨by decide +kernel, receipts_progress sampleReceiptDigest [sampleReceiptProjection]
    sampleReceiptProjection_primary sampleReports (by decide +kernel)⟩

end CandyCloud
