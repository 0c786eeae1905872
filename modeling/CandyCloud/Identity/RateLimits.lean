import CandyCloud.Foundation.Machine
import CandyCloud.Identity.Tables

/-! # Rate limits of the public calls

A bucket counts the calls of a scope and a subject. The call that finds it expired starts it
anew, and every call first deletes some of the rows that have expired.
-/

namespace CandyCloud.Identity

open Foundation

/-- `identity_abuse_buckets`. -/
structure AbuseBucketRow where
  scope : String
  subjectHash : Bytes
  attempts : Nat
  windowStartedAt : Instant
  expiresAt : Instant
deriving DecidableEq

/-- One use that is to be counted. -/
structure RateLimitCall where
  scope : String
  subjectHash : Bytes
  limit : Nat
  windowSeconds : Nat
  now : Instant
deriving DecidableEq

structure IdentityRateLimitDecision where
  allowed : Bool
  retryAfterSeconds : Nat
deriving DecidableEq

/-- What the database decides: `collate` is the sort key of its collation, and `place`
    orders the rows that expire together. -/
structure AbuseTable where
  collate : Collation
  place : AbuseBucketRow → Nat

def AbuseTable.key (table : AbuseTable) (row : AbuseBucketRow) : List Nat × Bytes :=
  (table.collate row.scope, row.subjectHash)

def maxAbuseScopeLen : Nat := 48

def u32Max : Nat := 4294967295

namespace RateLimitCall

variable (call : RateLimitCall)

def accepted : Bool :=
  bounded call.scope maxAbuseScopeLen && call.subjectHash.length == 32 && call.limit != 0 &&
    call.windowSeconds != 0 && decide (call.windowSeconds ≤ 86400)

def expiresAt : Instant := call.now + call.windowSeconds * 1000000

/-- `limit.saturating_add(1)` -/
def attemptCap : Nat := min (call.limit + 1) u32Max

def key (table : AbuseTable) : List Nat × Bytes := (table.collate call.scope, call.subjectHash)

/-- The inserted row. -/
def fresh : AbuseBucketRow :=
  ⟨call.scope, call.subjectHash, 1, call.now, call.expiresAt⟩

/-- The row after the assignments of the duplicate-key clause. -/
def again (row : AbuseBucketRow) : AbuseBucketRow :=
  if row.expiresAt ≤ call.now then
    { row with attempts := 1, windowStartedAt := call.now, expiresAt := call.expiresAt }
  else { row with attempts := min (row.attempts + 1) call.attemptCap }

/-- Whole seconds, at least one. -/
def decision (row : AbuseBucketRow) : IdentityRateLimitDecision where
  allowed := decide (row.attempts ≤ call.limit)
  retryAfterSeconds := max ((row.expiresAt - call.now) / 1000000) 1

end RateLimitCall

/-- `ORDER BY expires_at` -/
def AbuseTable.expiryOrder (table : AbuseTable) (a b : AbuseBucketRow) : Prop :=
  a.expiresAt < b.expiresAt ∨ a.expiresAt = b.expiresAt ∧ table.place a ≤ table.place b

instance (table : AbuseTable) : DecidableRel table.expiryOrder :=
  fun _ _ => inferInstanceAs (Decidable (_ ∨ _))

/-- `DELETE … WHERE expires_at <= ? ORDER BY expires_at LIMIT 64` -/
def deleteExpired (table : AbuseTable) (now : Instant) (rows : List AbuseBucketRow) :
    List AbuseBucketRow :=
  let expired := ((rows.filter fun row => row.expiresAt ≤ now).insertionSort table.expiryOrder).take 64
  rows.filter fun row => !expired.contains row

/-- Counts one use and says whether it stays within the limit. -/
def consumeRateLimit (table : AbuseTable) (rows : List AbuseBucketRow) (call : RateLimitCall) :
    Except IdentityRepositoryError (IdentityRateLimitDecision × List AbuseBucketRow) := do
  reject (!call.accepted) .invalidInput
  let selected := fun row => table.key row == call.key table
  let written := upsert selected call.fresh call.again (deleteExpired table call.now rows)
  let row ← orElse .database (written.find? selected)
  return (call.decision row, written)

/-- The table after a call; a call that fails changes nothing. -/
def limitStep (table : AbuseTable) (rows : List AbuseBucketRow) (call : RateLimitCall) :
    List AbuseBucketRow :=
  ((consumeRateLimit table rows call).toOption.map Prod.snd).getD rows

/-- The calls of a run with what they are answered. -/
def answered (table : AbuseTable) : List AbuseBucketRow → List RateLimitCall →
    List (RateLimitCall × Except IdentityRepositoryError IdentityRateLimitDecision)
  | _, [] => []
  | rows, call :: rest =>
      (call, (consumeRateLimit table rows call).map Prod.fst) ::
        answered table (limitStep table rows call) rest

section Calls

variable {table : AbuseTable} {rows rows' : List AbuseBucketRow} {call : RateLimitCall}
  {key : List Nat × Bytes} {decision : IdentityRateLimitDecision}

def bucketRow (table : AbuseTable) (key : List Nat × Bytes) (rows : List AbuseBucketRow) :
    Option AbuseBucketRow :=
  rows.find? fun row => table.key row == key

def RateLimitCall.counts (table : AbuseTable) (key : List Nat × Bytes) (call : RateLimitCall) :
    Bool :=
  call.accepted && call.key table == key

/-- The primary key. -/
def OneRowEach (table : AbuseTable) (rows : List AbuseBucketRow) : Prop :=
  (rows.map table.key).Nodup

theorem again_key (row : AbuseBucketRow) : table.key (call.again row) = table.key row := by
  rw [RateLimitCall.again]
  split
  · rfl
  · rfl

theorem consumeRateLimit_ok : consumeRateLimit table rows call = .ok (decision, rows') ↔
    call.accepted = true ∧
      rows' = upsert (fun row => table.key row == call.key table) call.fresh call.again
        (deleteExpired table call.now rows) ∧
      ∃ row, bucketRow table (call.key table) rows' = some row ∧ decision = call.decision row := by
  simp only [consumeRateLimit, unit_bind_ok, reject_ok, orElse_bind_ok, pure_ok, Prod.mk.injEq,
    Bool.not_eq_false', bucketRow]
  constructor
  · rintro ⟨accepted, row, found, rfl, rfl⟩
    exact ⟨accepted, rfl, row, found, rfl⟩
  · rintro ⟨accepted, rfl, row, found, rfl⟩
    exact ⟨accepted, row, found, rfl, rfl⟩

def RateLimitCall.written (table : AbuseTable) (rows : List AbuseBucketRow)
    (call : RateLimitCall) : List AbuseBucketRow :=
  upsert (fun row => table.key row == call.key table) call.fresh call.again
    (deleteExpired table call.now rows)

def RateLimitCall.rowAfter (table : AbuseTable) (rows : List AbuseBucketRow)
    (call : RateLimitCall) : AbuseBucketRow :=
  ((bucketRow table (call.key table) (deleteExpired table call.now rows)).map call.again).getD
    call.fresh

theorem bucketRow_written :
    bucketRow table (call.key table) (call.written table rows) =
      some (call.rowAfter table rows) := by
  refine find_upsert (beq_iff_eq.mpr rfl) ?_
  intro row same
  rwa [again_key]

theorem consumeRateLimit_accepted (accepted : call.accepted = true) :
    consumeRateLimit table rows call =
      .ok (call.decision (call.rowAfter table rows), call.written table rows) :=
  consumeRateLimit_ok.mpr ⟨accepted, rfl, _, bucketRow_written, rfl⟩

theorem consumeRateLimit_refused (refused : call.accepted = false) :
    consumeRateLimit table rows call = .error .invalidInput := by
  rw [consumeRateLimit, refused]
  rfl

theorem limitStep_accepted (accepted : call.accepted = true) :
    limitStep table rows call = call.written table rows := by
  rw [limitStep, consumeRateLimit_accepted accepted]
  rfl

theorem limitStep_refused (refused : call.accepted = false) :
    limitStep table rows call = rows := by
  rw [limitStep, consumeRateLimit_refused refused]
  rfl

theorem OneRowEach.step (unique : OneRowEach table rows) (call : RateLimitCall) :
    OneRowEach table (limitStep table rows call) := by
  cases accepted : call.accepted with
  | false => rwa [limitStep_refused accepted]
  | true =>
      rw [limitStep_accepted accepted]
      refine nodup_upsert_key (unique.sublist (List.filter_sublist.map _)) again_key ?_
      intro row same
      exact beq_iff_eq.mpr same.symm

/-- The row of a bucket as long as it has not expired. -/
def liveRow (table : AbuseTable) (key : List Nat × Bytes) (now : Instant)
    (rows : List AbuseBucketRow) : Option AbuseBucketRow :=
  (bucketRow table key rows).filter fun row => now < row.expiresAt

/-- What is left of a bucket: its row, or nothing when the row had expired. -/
def LeftAt (now : Instant) (before after : Option AbuseBucketRow) : Prop :=
  after = before ∨ after = none ∧ ∀ row, before = some row → row.expiresAt ≤ now

theorem bucketRow_deleteExpired (unique : OneRowEach table rows) (key : List Nat × Bytes)
    (now : Instant) :
    LeftAt now (bucketRow table key rows) (bucketRow table key (deleteExpired table now rows)) := by
  have kept : bucketRow table key (deleteExpired table now rows) =
      (bucketRow table key rows).filter fun row =>
        !(((rows.filter fun row => row.expiresAt ≤ now).insertionSort table.expiryOrder).take
          64).contains row :=
    find_filter_key unique fun row => beq_iff_eq (a := table.key row) (b := key)
  rw [LeftAt, kept, bucketRow]
  cases found : rows.find? fun row => table.key row == key with
  | none => exact .inl rfl
  | some row =>
      rw [Option.filter_some]
      split
      · exact .inl rfl
      · rename_i deleted
        refine .inr ⟨rfl, fun other same => ?_⟩
        cases same
        have inside := List.mem_of_mem_take (by simpa using deleted)
        rw [List.mem_insertionSort, List.mem_filter] at inside
        exact of_decide_eq_true inside.2

theorem LeftAt.live {before after : Option AbuseBucketRow} {now later : Instant}
    (left : LeftAt now before after) (order : now ≤ later) :
    (after.filter fun row => later < row.expiresAt) =
      before.filter fun row => later < row.expiresAt := by
  cases left with
  | inl same => rw [same]
  | inr gone =>
      obtain ⟨rfl, expired⟩ := gone
      symm
      rw [Option.filter_none, Option.filter_eq_none_iff]
      intro row found
      simpa using Nat.le_trans (expired row found) order

theorem bucketRow_other (unique : OneRowEach table rows) (other : call.counts table key = false) :
    LeftAt call.now (bucketRow table key rows)
      (bucketRow table key (limitStep table rows call)) := by
  cases accepted : call.accepted with
  | false =>
      rw [limitStep_refused accepted]
      exact .inl rfl
  | true =>
      have apart : call.key table ≠ key := by
        simpa [RateLimitCall.counts, accepted] using other
      have untouched : bucketRow table key (limitStep table rows call) =
          bucketRow table key (deleteExpired table call.now rows) := by
        rw [limitStep_accepted accepted]
        apply find_upsert_other
        · simpa [AbuseTable.key, RateLimitCall.fresh, RateLimitCall.key] using apart
        · intro row same
          rw [again_key]
        · intro row same
          simp only [beq_iff_eq] at same
          simpa [same] using apart.symm
      rw [untouched]
      exact bucketRow_deleteExpired unique key call.now

/-- The attempts and the expiry that a call leaves behind a live row's. -/
def RateLimitCall.nextCount (call : RateLimitCall) : Option (Nat × Instant) → Nat × Instant
  | some (attempts, expiresAt) => (min (attempts + 1) call.attemptCap, expiresAt)
  | none => (1, call.expiresAt)

def AbuseBucketRow.count (row : AbuseBucketRow) : Nat × Instant := (row.attempts, row.expiresAt)

theorem rowAfter_count (call : RateLimitCall) (unique : OneRowEach table rows) :
    (call.rowAfter table rows).count =
      call.nextCount ((liveRow table (call.key table) call.now rows).map (·.count)) := by
  have left := bucketRow_deleteExpired unique (call.key table) call.now
  rw [liveRow, ← left.live (Nat.le_refl _), RateLimitCall.rowAfter]
  cases bucketRow table (call.key table) (deleteExpired table call.now rows) with
  | none => rfl
  | some row =>
      rw [Option.map_some, Option.getD_some, RateLimitCall.again, Option.filter_some]
      by_cases expired : row.expiresAt ≤ call.now
      · rw [if_pos expired, if_neg (by simpa using expired)]
        rfl
      · rw [if_neg expired, if_pos (by simpa using expired)]
        rfl

end Calls

/-- Consecutive windows: each starts with the first time behind the one before it and has the
    times up to its end. -/
def windowsOf (length : Nat) : List Instant → List (List Instant)
  | [] => []
  | first :: rest =>
      (first :: rest.takeWhile fun now => now < first + length) ::
        windowsOf length (rest.dropWhile fun now => now < first + length)
termination_by times => times.length
decreasing_by
  exact Nat.lt_succ_of_le (List.dropWhile_suffix _).length_le

/-- The first `limit` calls of a window are allowed. -/
def windowDecisions (limit : Nat) (window : List Instant) : List Bool :=
  (List.range window.length).map fun place => decide (place < limit)

/-- The decisions behind a window in which some calls were seen. -/
def countedFrom (limit length : Nat) : Option (Nat × Instant) → List Instant → List Bool
  | _, [] => []
  | seen, now :: rest =>
      let window := (seen.filter fun window => now < window.2).getD (0, now + length)
      decide (window.1 < limit) :: countedFrom limit length (some (window.1 + 1, window.2)) rest

theorem countedFrom_window (limit length seen : Nat) (ends : Instant) (times : List Instant) :
    countedFrom limit length (some (seen, ends)) times =
      ((List.range' seen (times.takeWhile fun now => now < ends).length).map fun place =>
        decide (place < limit)) ++
      countedFrom limit length none (times.dropWhile fun now => now < ends) := by
  induction times generalizing seen with
  | nil => rfl
  | cons now rest ih =>
      by_cases inside : now < ends
      · rw [countedFrom, Option.filter_some, if_pos (by simpa using inside), Option.getD_some,
          ih, List.takeWhile_cons_of_pos (by simpa using inside),
          List.dropWhile_cons_of_pos (by simpa using inside), List.length_cons, List.range'_succ,
          List.map_cons, List.cons_append]
      · rw [List.takeWhile_cons_of_neg (by simpa using inside),
          List.dropWhile_cons_of_neg (by simpa using inside), countedFrom, countedFrom,
          Option.filter_some, if_neg (by simpa using inside)]
        rfl

theorem countedFrom_windows (limit length : Nat) (times : List Instant) :
    countedFrom limit length none times =
      (windowsOf length times).flatMap (windowDecisions limit) := by
  induction times using windowsOf.induct length with
  | case1 =>
      rw [windowsOf]
      rfl
  | case2 first rest ih =>
      rw [windowsOf, List.flatMap_cons, ← ih, windowDecisions, List.length_cons, List.range_eq_range',
        List.range'_succ, List.map_cons, List.cons_append, ← countedFrom_window]
      rfl

section Runs

variable {table : AbuseTable} {rows : List AbuseBucketRow} {key : List Nat × Bytes}
  {limit : Nat} {now later : Instant} {seen : Option (Nat × Instant)}

/-- The live row of a bucket holds what was seen of its window, up to the cap. -/
structure Counted (table : AbuseTable) (key : List Nat × Bytes) (limit : Nat) (now : Instant)
    (seen : Option (Nat × Instant)) (rows : List AbuseBucketRow) : Prop where
  unique : OneRowEach table rows
  live : (liveRow table key now rows).map (·.count) =
    (seen.filter fun window => now < window.2).map fun window => (min window.1 (limit + 1), window.2)

variable (counted : Counted table key limit now seen rows)

include counted

theorem Counted.after (order : now ≤ later) : Counted table key limit later seen rows := by
  refine ⟨counted.unique, ?_⟩
  have rowsLater : ∀ row : Option AbuseBucketRow,
      ((row.filter fun row => later < row.expiresAt).map (·.count)) =
        ((row.filter fun row => now < row.expiresAt).map (·.count)).filter fun count =>
          later < count.2 := by
    intro row
    cases row with
    | none => rfl
    | some row => grind [AbuseBucketRow.count]
  have seenLater : ((seen.filter fun window => later < window.2).map fun window =>
      (min window.1 (limit + 1), window.2)) =
        ((seen.filter fun window => now < window.2).map fun window =>
          (min window.1 (limit + 1), window.2)).filter fun count => later < count.2 := by
    cases seen with
    | none => rfl
    | some window => grind
  rw [seenLater, ← counted.live]
  exact rowsLater _

theorem Counted.other {call : RateLimitCall} (order : now ≤ call.now)
    (other : call.counts table key = false) :
    Counted table key limit call.now seen (limitStep table rows call) := by
  have here := counted.after order
  refine ⟨counted.unique.step call, ?_⟩
  rw [← here.live, liveRow, liveRow, (bucketRow_other counted.unique other).live (Nat.le_refl _)]

theorem Counted.own {call : RateLimitCall} (order : now ≤ call.now)
    (own : call.counts table key = true) (fixed : call.limit = limit) (small : limit < u32Max) :
    let window := (seen.filter fun window => call.now < window.2).getD (0, call.expiresAt)
    ((consumeRateLimit table rows call).map Prod.fst).toOption.map (·.allowed) =
        some (decide (window.1 < limit)) ∧
      Counted table key limit call.now (some (window.1 + 1, window.2))
        (limitStep table rows call) := by
  have here := counted.after order
  simp only [RateLimitCall.counts, Bool.and_eq_true, beq_iff_eq] at own
  obtain ⟨accepted, rfl⟩ := own
  have cap : call.attemptCap = limit + 1 := by
    rw [RateLimitCall.attemptCap, fixed]
    omega
  have next := rowAfter_count call counted.unique
  rw [here.live] at next
  have after : (call.rowAfter table rows).count =
      let window := (seen.filter fun window => call.now < window.2).getD (0, call.expiresAt)
      (min (window.1 + 1) (limit + 1), window.2) := by
    rw [next]
    cases seen.filter fun window => call.now < window.2 with
    | none =>
        have one : min (0 + 1) (limit + 1) = 1 := by omega
        change (1, call.expiresAt) = (min (0 + 1) (limit + 1), call.expiresAt)
        rw [one]
    | some window =>
        change (min (min window.1 (limit + 1) + 1) call.attemptCap, window.2) =
          (min (window.1 + 1) (limit + 1), window.2)
        rw [cap]
        congr 1
        omega
  generalize (seen.filter fun window => call.now < window.2).getD (0, call.expiresAt) = window
    at after ⊢
  obtain ⟨attempts, expires⟩ := Prod.mk.inj after
  constructor
  · rw [consumeRateLimit_accepted accepted]
    simp only [Except.map, Except.toOption, Option.map_some, RateLimitCall.decision, attempts,
      fixed, Option.some.injEq, decide_eq_decide]
    omega
  · refine ⟨counted.unique.step call, ?_⟩
    rw [liveRow, limitStep_accepted accepted, bucketRow_written, Option.filter_some,
      Option.filter_some, expires]
    split
    · simp only [Option.map_some, AbuseBucketRow.count, attempts, expires]
    · rfl

theorem answered_counted {length : Nat} {calls : List RateLimitCall} (small : limit < u32Max)
    (order : ∀ call ∈ calls, now ≤ call.now) (ordered : calls.Pairwise fun a b => a.now ≤ b.now)
    (fixed : ∀ call ∈ calls, call.counts table key = true →
      call.limit = limit ∧ call.windowSeconds * 1000000 = length) :
    ((answered table rows calls).filter fun answer => answer.1.counts table key).map
        (fun answer => answer.2.toOption.map (·.allowed)) =
      (countedFrom limit length seen
        ((calls.filter (·.counts table key)).map (·.now))).map some := by
  induction calls generalizing rows now seen with
  | nil => rfl
  | cons call rest ih =>
      have first := order call List.mem_cons_self
      have ⟨next, sorted⟩ := List.pairwise_cons.mp ordered
      have same : ∀ other ∈ rest, other.counts table key = true →
          other.limit = limit ∧ other.windowSeconds * 1000000 = length :=
        fun other inside => fixed other (List.mem_cons_of_mem call inside)
      cases counts : call.counts table key with
      | false =>
          have rows' := counted.other first counts
          rw [answered, List.filter_cons_of_neg (by simp [counts]),
            List.filter_cons_of_neg (by simp [counts])]
          exact ih rows' next sorted same
      | true =>
          obtain ⟨fixedLimit, fixedWindow⟩ := fixed call List.mem_cons_self counts
          obtain ⟨answer, rows'⟩ := counted.own first counts fixedLimit small
          have ends : call.expiresAt = call.now + length := by
            rw [RateLimitCall.expiresAt, fixedWindow]
          rw [ends] at answer rows'
          rw [answered, List.filter_cons_of_pos (by simpa using counts),
            List.filter_cons_of_pos (by simpa using counts), List.map_cons, List.map_cons, answer,
            ih rows' next sorted same]
          rfl

end Runs

/-- The calls of one scope and subject are decided window by window: a window starts with
    the first call behind the one before it, and its first `limit` calls are allowed. The
    calls of other buckets and the deletions do not show. -/
theorem rate_limit_windows (table : AbuseTable) (key : List Nat × Bytes) (calls : List RateLimitCall)
    (limit windowSeconds : Nat) (ordered : calls.Pairwise fun a b => a.now ≤ b.now)
    (fixed : ∀ call ∈ calls, call.counts table key = true →
      call.limit = limit ∧ call.windowSeconds = windowSeconds) (small : limit < u32Max) :
    ((answered table [] calls).filter fun answer => answer.1.counts table key).map
        (fun answer => answer.2.toOption.map (·.allowed)) =
      ((windowsOf (windowSeconds * 1000000)
        ((calls.filter (·.counts table key)).map (·.now))).flatMap (windowDecisions limit)).map
          some := by
  rw [← countedFrom_windows]
  have empty : Counted table key limit 0 none [] := ⟨List.nodup_nil, rfl⟩
  refine answered_counted empty small ?_ ordered ?_
  · intro call _
    exact Nat.zero_le _
  · intro call inside counts
    obtain ⟨sameLimit, sameWindow⟩ := fixed call inside counts
    exact ⟨sameLimit, by rw [sameWindow]⟩

def plainTable : AbuseTable := ⟨fun scope => (utf8 scope).map (·.toNat), fun _ => 0⟩

def minuteCall (now : Instant) : RateLimitCall :=
  ⟨"login", List.replicate 32 7, 1, 60, now⟩

theorem rate_limit_windows_minute :
    ((answered plainTable [] [minuteCall 0, minuteCall 5, minuteCall 60000000]).filter fun answer =>
        answer.1.counts plainTable ((minuteCall 0).key plainTable)).map
        (fun answer => answer.2.toOption.map (·.allowed)) =
      ((windowsOf (60 * 1000000)
        (([minuteCall 0, minuteCall 5, minuteCall 60000000].filter
          (·.counts plainTable ((minuteCall 0).key plainTable))).map (·.now))).flatMap
            (windowDecisions 1)).map some :=
  rate_limit_windows plainTable ((minuteCall 0).key plainTable)
    [minuteCall 0, minuteCall 5, minuteCall 60000000] 1 60
    (by simp only [minuteCall, List.pairwise_cons, List.mem_cons, List.not_mem_nil]; simp)
    (by simp [minuteCall]) (by decide)

section Delays

variable {table : AbuseTable} {rows rows' : List AbuseBucketRow} {call next : RateLimitCall}
  {decision : IdentityRateLimitDecision} {between : List RateLimitCall}

def remaining (table : AbuseTable) (rows : List AbuseBucketRow) (call : RateLimitCall) : Nat :=
  (bucketRow table (call.key table) rows).elim 0 fun row => row.expiresAt - call.now

/-- The remaining time is a whole number of seconds, or no more than one. -/
def WholeSeconds (time : Nat) : Prop := time ≤ 1000000 ∨ 1000000 ∣ time

instance (time : Nat) : Decidable (WholeSeconds time) := inferInstanceAs (Decidable (_ ∨ _))

theorem delay_covers {now expires : Nat} (live : now < expires) :
    expires ≤ now + max ((expires - now) / 1000000) 1 * 1000000 ↔ WholeSeconds (expires - now) := by
  unfold WholeSeconds
  omega

theorem denied_row (unique : OneRowEach table rows)
    (done : consumeRateLimit table rows call = .ok (decision, rows'))
    (denied : decision.allowed = false) :
    ∃ old row, bucketRow table (call.key table) rows = some old ∧ call.now < old.expiresAt ∧
      bucketRow table (call.key table) rows' = some row ∧ row.expiresAt = old.expiresAt ∧
      call.limit < row.attempts ∧ row.attempts ≤ call.attemptCap ∧
      decision = call.decision row := by
  obtain ⟨accepted, rfl, row, found, rfl⟩ := consumeRateLimit_ok.mp done
  have excess : call.limit < row.attempts := by
    simpa [RateLimitCall.decision] using denied
  have after : bucketRow table (call.key table) (call.written table rows) =
      some (call.rowAfter table rows) := bucketRow_written
  rw [RateLimitCall.written, found, Option.some.injEq] at after
  have count := rowAfter_count call unique
  rw [← after] at count
  cases live : liveRow table (call.key table) call.now rows with
  | none =>
      rw [live] at count
      have one : row.attempts = 1 := congrArg Prod.fst count
      simp only [RateLimitCall.accepted, Bool.and_eq_true, bne_iff_ne, ne_eq] at accepted
      omega
  | some old =>
      rw [live] at count
      obtain ⟨attempts, expires⟩ := Prod.mk.inj count
      rw [liveRow, Option.filter_eq_some_iff] at live
      refine ⟨old, row, live.1, of_decide_eq_true live.2, found, expires, excess, ?_, rfl⟩
      rw [attempts]
      exact Nat.min_le_right _ _

theorem bucketRow_between {key : List Nat × Bytes} (unique : OneRowEach table rows)
    (others : ∀ other ∈ between, other.counts table key = false) :
    OneRowEach table (run (limitStep table) rows between) ∧
      (bucketRow table key (run (limitStep table) rows between) = bucketRow table key rows ∨
        bucketRow table key (run (limitStep table) rows between) = none) := by
  induction between generalizing rows with
  | nil => exact ⟨unique, .inl rfl⟩
  | cons other rest ih =>
      have left := bucketRow_other unique (others other List.mem_cons_self)
      obtain ⟨later, kept⟩ := ih (unique.step other)
        fun call inside => others call (List.mem_cons_of_mem other inside)
      refine ⟨later, ?_⟩
      rw [run_cons]
      cases left with
      | inl same => rwa [same] at kept
      | inr gone =>
          rw [gone.1, or_self] at kept
          exact .inr kept

theorem run_oneRowEach (table : AbuseTable) (calls : List RateLimitCall) :
    OneRowEach table (run (limitStep table) [] calls) := by
  have empty : OneRowEach table [] := List.nodup_nil
  exact run_invariant (P := OneRowEach table) (fun _ call unique => unique.step call) empty calls

theorem allowed_of_expired (unique : OneRowEach table rows) (accepted : next.accepted = true)
    (expired : liveRow table (next.key table) next.now rows = none) :
    ∃ decision rows', consumeRateLimit table rows next = .ok (decision, rows') ∧
      decision.allowed = true := by
  refine ⟨_, _, consumeRateLimit_accepted accepted, ?_⟩
  have count := rowAfter_count next unique
  rw [expired] at count
  have one : (next.rowAfter table rows).attempts = 1 := congrArg Prod.fst count
  simp only [RateLimitCall.accepted, Bool.and_eq_true, bne_iff_ne, ne_eq] at accepted
  simp only [RateLimitCall.decision, one, decide_eq_true_eq]
  omega

theorem counts_later (accepted : call.accepted = true) (now : Instant) :
    RateLimitCall.counts table (call.key table) { call with now } = true := by
  rw [RateLimitCall.counts, Bool.and_eq_true]
  exact ⟨accepted, beq_iff_eq.mpr rfl⟩

theorem denied_later (unique : OneRowEach table rows) {row : AbuseBucketRow}
    (found : bucketRow table (call.key table) rows = some row) (excess : call.limit < row.attempts)
    (capped : row.attempts ≤ call.attemptCap) {now : Instant} (early : now < row.expiresAt)
    (done : consumeRateLimit table rows { call with now } = .ok (decision, rows')) :
    decision.allowed = false := by
  obtain ⟨accepted, -, -⟩ := consumeRateLimit_ok.mp done
  rw [consumeRateLimit_accepted accepted] at done
  cases done
  have window : liveRow table (call.key table) now rows = some row := by
    rw [liveRow, found, Option.filter_some, if_pos (decide_eq_true early)]
  have count : ((RateLimitCall.rowAfter table rows { call with now }).count) =
      RateLimitCall.nextCount { call with now }
        ((liveRow table (call.key table) now rows).map (·.count)) :=
    rowAfter_count { call with now } unique
  rw [window] at count
  have attempts : (RateLimitCall.rowAfter table rows { call with now }).attempts =
      min (row.attempts + 1) call.attemptCap := congrArg Prod.fst count
  rw [RateLimitCall.decision, attempts, decide_eq_false_iff_not]
  simp only
  omega

/-- In every run, the next call after the advertised delay is allowed exactly when the time
    that was left of the window was whole seconds or no more than one. -/
theorem retry_after (table : AbuseTable) (calls : List RateLimitCall) (call : RateLimitCall)
    (decision : IdentityRateLimitDecision) (rows' : List AbuseBucketRow)
    (done : consumeRateLimit table (run (limitStep table) [] calls) call = .ok (decision, rows'))
    (denied : decision.allowed = false) :
    (∀ between next, (∀ other ∈ between, other.counts table (call.key table) = false) →
      next.counts table (call.key table) = true →
      call.now + decision.retryAfterSeconds * 1000000 ≤ next.now →
      ∃ later rows'', consumeRateLimit table (run (limitStep table) rows' between) next =
        .ok (later, rows'') ∧ later.allowed = true) ↔
    WholeSeconds (remaining table (run (limitStep table) [] calls) call) := by
  have unique := run_oneRowEach table calls
  generalize run (limitStep table) [] calls = rows at done unique ⊢
  obtain ⟨old, row, before, live, found, expires, excess, capped, rfl⟩ :=
    denied_row unique done denied
  obtain ⟨accepted, written, -⟩ := consumeRateLimit_ok.mp done
  have unique' : OneRowEach table rows' := by
    rw [written]
    have step := unique.step call
    rwa [limitStep_accepted accepted] at step
  have left : remaining table rows call = row.expiresAt - call.now := by
    rw [remaining, before, expires]
    rfl
  have positive : call.now < row.expiresAt := by rwa [expires]
  have delay : max ((row.expiresAt - call.now) / 1000000) 1 =
      (call.decision row).retryAfterSeconds := rfl
  rw [left, ← delay_covers positive, delay]
  generalize (call.decision row).retryAfterSeconds * 1000000 = wait
  constructor
  · intro honest
    by_contra broken
    -- the same call, made when the delay is over, still finds the window
    obtain ⟨later, rows'', again, allowed⟩ :=
      honest [] { call with now := call.now + wait }
        (fun _ inside => absurd inside List.not_mem_nil)
        (counts_later accepted (call.now + wait)) (Nat.le_refl _)
    have early : call.now + wait < row.expiresAt := Nat.lt_of_not_le broken
    have refused := denied_later unique' found excess capped early again
    rw [refused] at allowed
    cases allowed
  · intro whole between next others counts order
    obtain ⟨uniqueLater, kept⟩ := bucketRow_between unique' others
    simp only [RateLimitCall.counts, Bool.and_eq_true, beq_iff_eq] at counts
    have past : row.expiresAt ≤ next.now := Nat.le_trans whole order
    apply allowed_of_expired uniqueLater counts.1
    rw [counts.2, liveRow, Option.filter_eq_none_iff]
    intro last present
    cases kept with
    | inl same =>
        rw [present, found] at same
        cases same
        simpa using past
    | inr gone =>
        rw [present] at gone
        cases gone

end Delays

/-- A second call in the middle of the minute is told a whole minute's rest to the second. -/
theorem retry_after_minute :
    (∀ between next,
      (∀ other ∈ between, other.counts plainTable ((minuteCall 1000000).key plainTable) = false) →
      next.counts plainTable ((minuteCall 1000000).key plainTable) = true →
      (minuteCall 1000000).now + 59 * 1000000 ≤ next.now →
      ∃ later rows'', consumeRateLimit plainTable (run (limitStep plainTable)
        ((minuteCall 1000000).written plainTable (run (limitStep plainTable) [] [minuteCall 0]))
          between) next = .ok (later, rows'') ∧ later.allowed = true) ↔
    WholeSeconds (remaining plainTable (run (limitStep plainTable) [] [minuteCall 0])
      (minuteCall 1000000)) :=
  retry_after plainTable [minuteCall 0] (minuteCall 1000000) ⟨false, 59⟩ _ (by decide +kernel) rfl

/-- Half a second into a minute the delay is cut to fifty-nine seconds, after which the
    window is still open. -/
theorem retry_after_cut :
    ¬ ∀ (table : AbuseTable) (calls : List RateLimitCall) (call next : RateLimitCall)
      (decision : IdentityRateLimitDecision) (rows' : List AbuseBucketRow),
      consumeRateLimit table (run (limitStep table) [] calls) call = .ok (decision, rows') →
      decision.allowed = false → next.counts table (call.key table) = true →
      call.now + decision.retryAfterSeconds * 1000000 ≤ next.now →
      ∃ later rows'', consumeRateLimit table rows' next = .ok (later, rows'') ∧
        later.allowed = true := by
  intro honest
  obtain ⟨later, rows'', answer, allowed⟩ := honest plainTable [minuteCall 0] (minuteCall 500000)
    (minuteCall 59500000) ⟨false, 59⟩
    ((minuteCall 500000).written plainTable (run (limitStep plainTable) [] [minuteCall 0]))
    (by decide +kernel) rfl (by decide +kernel) (by decide)
  have denied : (consumeRateLimit plainTable ((minuteCall 500000).written plainTable
      (run (limitStep plainTable) [] [minuteCall 0])) (minuteCall 59500000)).map
        (fun done => done.1.allowed) = .ok false := by
    decide +kernel
  rw [answer] at denied
  cases denied.symm.trans (congrArg Except.ok allowed)

end CandyCloud.Identity
