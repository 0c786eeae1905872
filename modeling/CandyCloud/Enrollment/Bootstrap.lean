import CandyCloud.Enrollment.Runs
import Mathlib.Data.List.Induction

/-! # Bootstrap codes are bound to one installation

A code that is exchanged while it is `ACTIVE` is bound to the installation for good.
-/

namespace CandyCloud

open Foundation

variable {codec : EnrollmentCodec} {start store store' : EnrollmentStore}
  {calls : List EnrollmentCall} {codeHash : Hash} {write : BootstrapExchangeWrite} {now : Instant}

/-- The exchange is answered `Issued` or `Replay`. -/
def Delivers (codec : EnrollmentCodec) (store : EnrollmentStore) (codeHash : Hash)
    (write : BootstrapExchangeWrite) (now : Instant) : Prop :=
  ∃ outcome record, answers codec store (.exchangeBootstrapCode codeHash write now) =
    .ok (.manifest outcome record) ∧ (outcome = .issued ∨ outcome = .replay)

/-- The code is bound to the installation with the credential of the exchange. -/
def ActivationCodeRow.boundBy (row : ActivationCodeRow) (codeHash : Hash)
    (write : BootstrapExchangeWrite) : Prop :=
  row.codeHash = codeHash ∧ row.bootstrapInstanceId = some write.installationInstanceId ∧
    row.enrollmentCredentialHash = some write.enrollmentCredentialHash

/-- The exchange finds a code that can be exchanged but was reserved without a
    binding. -/
def FindsUnbound (store : EnrollmentStore) (codeHash : Hash) (write : BootstrapExchangeWrite)
    (now : Instant) : Prop :=
  ∃ row, store.code codeHash = some row ∧ row.bootstrapInstanceId = none ∧
    row.status = .reserved ∧ row.manifest.isSome = true ∧ now < row.expiresAt ∧
    write.validate codeHash = .ok ()

/-- No exchange of the run is of a code reserved without a binding. -/
def Attaches (store : EnrollmentStore) : EnrollmentCall → Prop
  | .exchangeBootstrapCode codeHash write now => ¬ FindsUnbound store codeHash write now
  | _ => True

theorem delivers_cases (delivers : Delivers codec store codeHash write now) :
    ∃ row, store.code codeHash = some row ∧ row.manifest.isSome = true ∧ now < row.expiresAt ∧
      row.status.open_ = true ∧ write.validate codeHash = .ok () ∧
      ((row.bootstrapInstanceId = none ∧
          enrollmentStep codec store (.exchangeBootstrapCode codeHash write now) =
            store.bindInstallation row.id write now) ∨
        (row.boundBy codeHash write ∧
          enrollmentStep codec store (.exchangeBootstrapCode codeHash write now) = store)) := by
  obtain ⟨outcome, record, answered, delivered⟩ := delivers
  obtain ⟨⟨answer, after⟩, done, same⟩ := map_ok.mp answered
  cases same
  have stepped : enrollmentStep codec store (.exchangeBootstrapCode codeHash write now) = after := by
    rw [enrollmentStep, done]
    rfl
  rw [stepped]
  obtain ⟨⟨⟨outcome, record⟩, after⟩, finished, same⟩ := map_ok.mp done
  cases same
  simp only [exchangeBootstrapCode, unit_bind_ok] at finished
  obtain ⟨valid, later⟩ := finished
  have reported : outcome ≠ .unavailable ∧ outcome ≠ .conflict := by
    rcases delivered with rfl | rfl
    · simp
    · simp
  cases found : store.code codeHash with
  | none =>
      rw [found] at later
      cases later
      exact absurd rfl reported.1
  | some row =>
      simp only [found] at later
      cases manifest : row.manifest with
      | none =>
          rw [manifest] at later
          cases later
          exact absurd rfl reported.1
      | some filled =>
          simp only [manifest] at later
          by_cases closed : (decide (row.expiresAt ≤ now) || !row.status.open_) = true
          · rw [if_pos closed] at later
            cases later
            exact absurd rfl reported.1
          · rw [if_neg closed] at later
            simp only [Bool.or_eq_true, not_or, decide_eq_true_eq, not_le, Bool.not_eq_true',
              Bool.not_eq_false] at closed
            refine ⟨row, rfl, by rw [manifest]; rfl, closed.1, closed.2, valid, ?_⟩
            cases binding : row.bootstrapInstanceId with
            | none =>
                simp only [binding] at later
                cases later
                exact .inl ⟨rfl, rfl⟩
            | some existing =>
                simp only [binding] at later
                split at later
                · cases later
                  exact absurd rfl reported.2
                · rename_i matches_
                  cases later
                  simp only [Bool.or_eq_true, bne_iff_ne, not_or, not_not] at matches_
                  refine .inr ⟨⟨(code_mem found).2, ?_, matches_.2⟩, rfl⟩
                  rw [binding, matches_.1]

theorem delivers_binds (delivers : Delivers codec store codeHash write now)
    (attaches : ¬ FindsUnbound store codeHash write now) :
    ∃ row ∈ (enrollmentStep codec store (.exchangeBootstrapCode codeHash write now)).codes,
      row.boundBy codeHash write := by
  obtain ⟨row, found, manifest, unexpired, usable, valid, outcome⟩ := delivers_cases delivers
  obtain ⟨member, named⟩ := code_mem found
  rcases outcome with ⟨unbound, stepped⟩ | ⟨bound, stepped⟩
  · have active : row.status = .active := by
      cases status : row.status with
      | active => rfl
      | reserved => exact absurd ⟨row, found, unbound, status, manifest, unexpired, valid⟩ attaches
      | consumed | revoked | expired => simp [status, ActivationStatus.open_] at usable
    rw [stepped]
    refine ⟨_, mem_updateWhere.mpr ⟨row, member, rfl⟩, ?_⟩
    simp only [active, beq_self_eq_true, Bool.and_self, if_true]
    exact ⟨named, rfl, rfl⟩
  · rw [stepped]
    exact ⟨row, member, bound⟩

theorem findsUnbound_delivers (inv : EnrollmentInvariant codec start store)
    (misses : FindsUnbound store codeHash write now) :
    Delivers codec store codeHash write now ∧
      ∀ row ∈ (enrollmentStep codec store (.exchangeBootstrapCode codeHash write now)).codes,
        ¬ row.boundBy codeHash write := by
  obtain ⟨row, found, unbound, reserved, manifest, unexpired, valid⟩ := misses
  obtain ⟨record, filled⟩ := Option.isSome_iff_exists.mp manifest
  have done : exchangeBootstrapCode store codeHash write now =
      .ok ((.issued, some record), store.bindInstallation row.id write now) := by
    simp [exchangeBootstrapCode, valid, found, filled, unexpired, reserved, unbound,
      ActivationStatus.open_, bind, Except.bind, pure, Except.pure]
  have transacted : transact codec store (.exchangeBootstrapCode codeHash write now) =
      .ok (.manifest .issued (some record), store.bindInstallation row.id write now) := by
    rw [transact, done]
    rfl
  refine ⟨⟨.issued, some record, by rw [answers, transacted]; rfl, .inl rfl⟩, ?_⟩
  have stepped : enrollmentStep codec store (.exchangeBootstrapCode codeHash write now) =
      store.bindInstallation row.id write now := by
    rw [enrollmentStep, transacted]
    rfl
  rw [stepped]
  intro other member bound
  obtain ⟨member_, named⟩ := code_mem found
  obtain ⟨old, stored, rfl⟩ := mem_updateWhere.mp member
  by_cases chosen : (old.id == row.id && old.status == .active) = true
  · rw [Bool.and_eq_true, beq_iff_eq, beq_iff_eq] at chosen
    cases eq_of_key inv.codeIds stored member_ chosen.1
    cases reserved.symm.trans chosen.2
  · rw [if_neg chosen] at bound
    cases eq_of_key inv.codeHashes stored member_ (bound.1.trans named.symm)
    cases unbound.symm.trans bound.2.1

/-- The columns that decide what a presented credential finds. -/
def ActivationCodeRow.presentation (row : ActivationCodeRow) :
    Hash × Option String × Option Hash :=
  (row.codeHash, row.bootstrapInstanceId, row.enrollmentCredentialHash)

/-- Every code was created, and every bound code exchanged, by a call of the run. -/
structure Traced (calls : List EnrollmentCall) (store : EnrollmentStore) : Prop where
  created : ∀ row ∈ store.codes, ∃ write clock,
    .insertActivationCode write clock ∈ calls ∧ write.codeHash = row.codeHash
  exchanged : ∀ row ∈ store.codes, row.bootstrapInstanceId.isSome = true → ∃ write now,
    .exchangeBootstrapCode row.codeHash write now ∈ calls ∧
      row.enrollmentCredentialHash = some write.enrollmentCredentialHash

theorem Traced.widen {calls' : List EnrollmentCall} (traced : Traced calls store)
    (among : ∀ call ∈ calls, call ∈ calls') : Traced calls' store where
  created row member := by
    obtain ⟨write, clock, made, same⟩ := traced.created row member
    exact ⟨write, clock, among _ made, same⟩
  exchanged row member bound := by
    obtain ⟨write, now, made, same⟩ := traced.exchanged row member bound
    exact ⟨write, now, among _ made, same⟩

theorem Traced.same (traced : Traced calls store)
    (presentations : store'.codes.map (·.presentation) = store.codes.map (·.presentation)) :
    Traced calls store' where
  created row member := by
    obtain ⟨old, stored, same⟩ := mem_of_map_eq presentations member
    obtain ⟨write, clock, made, named⟩ := traced.created old stored
    exact ⟨write, clock, made, named.trans (congrArg Prod.fst same)⟩
  exchanged row member bound := by
    obtain ⟨old, stored, same⟩ := mem_of_map_eq presentations member
    have hash : old.codeHash = row.codeHash := congrArg Prod.fst same
    have binding : old.bootstrapInstanceId = row.bootstrapInstanceId :=
      congrArg (fun key => key.2.1) same
    have credential : old.enrollmentCredentialHash = row.enrollmentCredentialHash :=
      congrArg (fun key => key.2.2) same
    rw [← hash, ← credential]
    exact traced.exchanged old stored (by rw [binding]; exact bound)

theorem revoke_presentations (store : EnrollmentStore) (selected : ActivationCodeRow → Bool) :
    (store.revokeCodes selected).codes.map (·.presentation) =
      store.codes.map (·.presentation) :=
  map_updateWhere (by intro row; rfl) store.codes

theorem EnrollmentChange.traced {call : EnrollmentCall} {answer : EnrollmentAnswer}
    (distinct : (store.codes.map (·.id)).Nodup) (traced : Traced calls store)
    (change : EnrollmentChange codec store call answer store') :
    Traced (calls ++ [call]) store' := by
  have later := traced.widen fun made member => List.mem_append_left [call] member
  cases change with
  | quiet => exact later
  | elsewhere => exact later.same rfl
  | @inserted write clock selected audits unique =>
      have revoked : Traced (calls ++ [.insertActivationCode write clock])
          (store.revokeCodes selected) := later.same (revoke_presentations store selected)
      constructor
      · intro row member
        rcases mem_concat.mp member with member | rfl
        · exact revoked.created row member
        · exact ⟨write, clock, List.mem_concat_self, rfl⟩
      · intro row member bound
        rcases mem_concat.mp member with member | rfl
        · exact revoked.exchanged row member bound
        · cases bound
  | @bound codeHash write now found_ record found usable unbound =>
      constructor
      · intro row member
        obtain ⟨old, stored, rfl⟩ := mem_updateWhere.mp member
        obtain ⟨creation, clock, made, named⟩ := later.created old stored
        refine ⟨creation, clock, made, ?_⟩
        split
        · exact named
        · exact named
      · intro row member bound
        obtain ⟨old, stored, rfl⟩ := mem_updateWhere.mp member
        split at bound
        · rename_i chosen
          rw [if_pos chosen]
          rw [Bool.and_eq_true, beq_iff_eq] at chosen
          obtain ⟨member_, named⟩ := code_mem found
          cases eq_of_key distinct stored member_ chosen.1
          refine ⟨write, now, List.mem_append_right _ ?_, rfl⟩
          rw [← named]
          exact List.mem_cons_self
        · rename_i chosen
          rw [if_neg chosen]
          exact later.exchanged old stored bound
  | reserved => exact later.same (map_updateWhere (by intro row; rfl) store.codes)
  | issued found known organization tenant challenged reserved timely valid written =>
      refine later.same ?_
      rw [written.codes]
      exact map_updateWhere (by intro row; rfl) store.codes
  | revoked => exact later.same (revoke_presentations store _)
  | expired => exact later.same (map_updateWhere (by intro row; rfl) store.codes)

theorem run_traced (initial : EnrollmentInvariant codec start start) (empty : start.codes = [])
    (calls : List EnrollmentCall) : Traced calls (enrollmentRun codec start calls) := by
  induction calls using List.reverseRecOn with
  | nil =>
      constructor
      · intro row member
        rw [enrollmentRun, run_nil, empty] at member
        cases member
      · intro row member
        rw [enrollmentRun, run_nil, empty] at member
        cases member
  | append_singleton calls call ih =>
      have reached := run_enrollment_invariant initial calls
      rw [enrollmentRun, run_concat]
      rcases enrollmentStep_change call reached.unproved with same | ⟨answer, -, change⟩
      · rw [same]
        exact ih.widen fun made member => List.mem_append_left [call] member
      · exact change.traced reached.codeIds ih

/-- SHA-256 and Ed25519 signing with the service's key. -/
structure BootstrapHttpService where
  sha256 : Bytes → Hash
  sign : Bytes → Bytes

namespace BootstrapHttpService

variable (service : BootstrapHttpService)

def hashActivationCredential (credential : Hash) : Hash :=
  service.sha256 (utf8 "candy/enrollment-activation/v1" ++ hashBytes credential)

def enrollmentAuthorization (bootstrapHash : Hash) (installationInstanceId : String) : Hash :=
  service.sha256 (service.sign (utf8 "candy/bootstrap-enrollment-authorization/v1\x00" ++
    hashBytes bootstrapHash ++ utf8 installationInstanceId))

/-- The exchange the route makes for a code and an installation. -/
def exchangeWrite (bootstrapHash : Hash) (installationInstanceId : String) :
    BootstrapExchangeWrite :=
  ⟨installationInstanceId, service.hashActivationCredential
    (service.enrollmentAuthorization bootstrapHash installationInstanceId)⟩

end BootstrapHttpService

/-- The exchanges of the run are the route's, and the digests in it do not collide:
    credentials of different codes differ, and none is the digest of a code. -/
structure Routed (service : BootstrapHttpService) (calls : List EnrollmentCall) : Prop where
  exchanges : ∀ codeHash write now, .exchangeBootstrapCode codeHash write now ∈ calls →
    write = service.exchangeWrite codeHash write.installationInstanceId
  apart : ∀ codeHash write now codeHash' write' now',
    .exchangeBootstrapCode codeHash write now ∈ calls →
    .exchangeBootstrapCode codeHash' write' now' ∈ calls →
    (service.exchangeWrite codeHash write.installationInstanceId).enrollmentCredentialHash =
      (service.exchangeWrite codeHash' write'.installationInstanceId).enrollmentCredentialHash →
    codeHash = codeHash'
  foreign : ∀ codeHash write now creation clock,
    .exchangeBootstrapCode codeHash write now ∈ calls →
    .insertActivationCode creation clock ∈ calls →
    (service.exchangeWrite codeHash write.installationInstanceId).enrollmentCredentialHash ≠
      creation.codeHash

/-- What a delivered exchange promises, over the run `calls` from `start`. -/
structure BootstrapLaw (codec : EnrollmentCodec) (start : EnrollmentStore)
    (calls : List EnrollmentCall) : Prop where
  /-- The code is then bound to the installation with the credential delivered. -/
  bound : ∀ before codeHash write now after,
    calls = before ++ .exchangeBootstrapCode codeHash write now :: after →
    Delivers codec (enrollmentRun codec start before) codeHash write now →
    ∃ row ∈ (enrollmentRun codec start
      (before ++ [.exchangeBootstrapCode codeHash write now])).codes, row.boundBy codeHash write
  /-- No second installation is answered. -/
  sole : ∀ codeHash before write now after before' write' now' after',
    calls = before ++ .exchangeBootstrapCode codeHash write now :: after →
    calls = before' ++ .exchangeBootstrapCode codeHash write' now' :: after' →
    Delivers codec (enrollmentRun codec start before) codeHash write now →
    Delivers codec (enrollmentRun codec start before') codeHash write' now' →
    write.installationInstanceId = write'.installationInstanceId
  /-- The credential delivered finds the code from then on. -/
  found : ∀ before codeHash write now middle after scan,
    calls = before ++ .exchangeBootstrapCode codeHash write now :: middle ++ after →
    Delivers codec (enrollmentRun codec start before) codeHash write now →
    ∃ row, (enrollmentRun codec start
        (before ++ .exchangeBootstrapCode codeHash write now :: middle)).presented
          write.enrollmentCredentialHash scan = some row ∧ row.codeHash = codeHash

variable {row : ActivationCodeRow} {write' : BootstrapExchangeWrite}

theorem boundBy_lasts (inv : EnrollmentInvariant codec start store) (member : row ∈ store.codes)
    (bound : row.boundBy codeHash write) (later : List EnrollmentCall) :
    ∃ row' ∈ (run (enrollmentStep codec) store later).codes, row'.boundBy codeHash write := by
  obtain ⟨row', stored, lasts⟩ := (run_lasts inv later).codes row member
  obtain ⟨instance_, credential⟩ := lasts.binding (by rw [bound.2.1]; rfl)
  exact ⟨row', stored, lasts.codeHash.trans bound.1, instance_.trans bound.2.1,
    credential.trans bound.2.2⟩

theorem delivers_same (inv : EnrollmentInvariant codec start store) (member : row ∈ store.codes)
    (bound : row.boundBy codeHash write) (delivers : Delivers codec store codeHash write' now) :
    write.installationInstanceId = write'.installationInstanceId := by
  obtain ⟨found, looked, -, -, -, -, outcome⟩ := delivers_cases delivers
  obtain ⟨stored, named⟩ := code_mem looked
  cases eq_of_key inv.codeHashes member stored (bound.1.trans named.symm)
  rcases outcome with ⟨unbound, -⟩ | ⟨bound', -⟩
  · cases unbound.symm.trans bound.2.1
  · exact Option.some.inj (bound.2.1.symm.trans bound'.2.1)

theorem presents_only {service : BootstrapHttpService} (routed : Routed service calls)
    (traced : Traced calls store) (made : .exchangeBootstrapCode codeHash write now ∈ calls)
    (member : row ∈ store.codes) (presents : row.presents write.enrollmentCredentialHash = true) :
    row.codeHash = codeHash := by
  have credential := routed.exchanges codeHash write now made
  unfold ActivationCodeRow.presents at presents
  cases binding : row.bootstrapInstanceId with
  | none =>
      simp only [binding] at presents
      obtain ⟨creation, clock, created, named⟩ := traced.created row member
      have foreign := routed.foreign codeHash write now creation clock made created
      rw [← credential] at foreign
      exact absurd ((beq_iff_eq.mp presents).symm.trans named.symm) foreign
  | some existing =>
      simp only [binding] at presents
      obtain ⟨write', now', made', stored⟩ := traced.exchanged row member (by rw [binding]; rfl)
      have credential' := routed.exchanges row.codeHash write' now' made'
      have same : write'.enrollmentCredentialHash = write.enrollmentCredentialHash :=
        Option.some.inj (stored.symm.trans (beq_iff_eq.mp presents))
      rw [credential, credential'] at same
      exact routed.apart row.codeHash write' now' codeHash write now made' made same

theorem presented_bound {service : BootstrapHttpService} (routed : Routed service calls)
    (traced : Traced calls store) (made : .exchangeBootstrapCode codeHash write now ∈ calls)
    (member : row ∈ store.codes) (bound : row.boundBy codeHash write) (scan : Nat) :
    ∃ row, store.presented write.enrollmentCredentialHash scan = some row ∧
      row.codeHash = codeHash := by
  have presents : row.presents write.enrollmentCredentialHash = true := by
    rw [ActivationCodeRow.presents, bound.2.1]
    exact beq_iff_eq.mpr bound.2.2
  have present : row ∈ store.codes.filter fun row =>
      row.presents write.enrollmentCredentialHash := List.mem_filter.mpr ⟨member, presents⟩
  have found : ∃ row, store.presented write.enrollmentCredentialHash scan = some row := by
    rw [← Option.isSome_iff_exists, EnrollmentStore.presented, Option.isSome_or, Bool.or_eq_true]
    right
    exact List.isSome_head?.mpr (List.ne_nil_of_mem present)
  obtain ⟨other, looked⟩ := found
  obtain ⟨stored, presentsToo⟩ := presented_mem looked
  exact ⟨other, looked, presents_only routed traced made stored presentsToo⟩

theorem sole_of_bound (initial : EnrollmentInvariant codec start start)
    {before middle : List EnrollmentCall} {now' : Instant}
    (bound : ∃ row ∈ (enrollmentRun codec start
      (before ++ [.exchangeBootstrapCode codeHash write now])).codes, row.boundBy codeHash write)
    (delivers : Delivers codec (enrollmentRun codec start
      (before ++ .exchangeBootstrapCode codeHash write now :: middle)) codeHash write' now') :
    write.installationInstanceId = write'.installationInstanceId := by
  obtain ⟨row, member, own⟩ := bound
  have whole : before ++ .exchangeBootstrapCode codeHash write now :: middle =
      before ++ [.exchangeBootstrapCode codeHash write now] ++ middle := by simp
  obtain ⟨row', member', own'⟩ :=
    boundBy_lasts (run_enrollment_invariant initial _) member own middle
  rw [← run_append, ← whole] at member'
  exact delivers_same (run_enrollment_invariant initial _) member' own' delivers

/-- The law holds of exactly the runs that exchange no code reserved without a
    binding. -/
theorem bootstrap_bound_iff (codec : EnrollmentCodec) (start : EnrollmentStore)
    (codes : start.codes = []) (challenges : start.challenges = [])
    (service : BootstrapHttpService) (calls : List EnrollmentCall) (routed : Routed service calls) :
    BootstrapLaw codec start calls ↔ Along (enrollmentStep codec) Attaches start calls := by
  have initial : EnrollmentInvariant codec start start := initial_enrollment codes challenges
  have reached : ∀ calls, EnrollmentInvariant codec start (enrollmentRun codec start calls) :=
    run_enrollment_invariant initial
  rw [along_iff_split]
  constructor
  · intro law before call after split
    cases call with
    | insertActivationCode | reserveChallenge | complete | loadIssued | revokeActivationCode
    | listActivationCodes | elsewhere => exact trivial
    | exchangeBootstrapCode codeHash write now =>
        intro misses
        obtain ⟨delivers, unbound⟩ := findsUnbound_delivers (reached before) misses
        obtain ⟨row, member, bound⟩ := law.bound before codeHash write now after split delivers
        rw [enrollmentRun, run_concat] at member
        exact unbound row member bound
  · intro attaches
    have bound : ∀ before codeHash write now after,
        calls = before ++ .exchangeBootstrapCode codeHash write now :: after →
        Delivers codec (enrollmentRun codec start before) codeHash write now →
        ∃ row ∈ (enrollmentRun codec start
          (before ++ [.exchangeBootstrapCode codeHash write now])).codes,
          row.boundBy codeHash write := by
      intro before codeHash write now after split delivers
      rw [enrollmentRun, run_concat]
      exact delivers_binds delivers (attaches before _ after split)
    constructor
    · exact bound
    · intro codeHash before write now after before' write' now' after' split split' delivers
        delivers'
      rcases List.append_eq_append_iff.mp (split.symm.trans split') with
        ⟨middle, later, rest⟩ | ⟨middle, later, rest⟩
      · cases middle with
        | nil =>
            cases rest
            rfl
        | cons call middle =>
            obtain ⟨rfl, -⟩ := List.cons.inj rest
            rw [later] at delivers'
            exact sole_of_bound initial
              (bound before codeHash write now after split delivers) delivers'
      · cases middle with
        | nil =>
            cases rest
            rfl
        | cons call middle =>
            obtain ⟨rfl, -⟩ := List.cons.inj rest
            rw [later] at delivers
            exact (sole_of_bound initial
              (bound before' codeHash write' now' after' split' delivers') delivers).symm
    · intro before codeHash write now middle after scan split delivers
      have position : calls = before ++ .exchangeBootstrapCode codeHash write now ::
          (middle ++ after) := by
        rw [split, List.append_assoc]
        rfl
      obtain ⟨row, member, own⟩ := bound before codeHash write now _ position delivers
      obtain ⟨row', member', own'⟩ := boundBy_lasts (reached _) member own middle
      have whole : before ++ .exchangeBootstrapCode codeHash write now :: middle =
          before ++ [.exchangeBootstrapCode codeHash write now] ++ middle := by simp
      rw [← run_append, ← whole] at member'
      have traced : Traced calls (enrollmentRun codec start
          (before ++ .exchangeBootstrapCode codeHash write now :: middle)) := by
        refine (run_traced initial codes _).widen fun call made => ?_
        rw [split]
        exact List.mem_append_left after made
      have made : EnrollmentCall.exchangeBootstrapCode codeHash write now ∈ calls := by
        rw [position]
        exact List.mem_append_right before List.mem_cons_self
      exact presented_bound routed traced made member' own' scan

def bootstrapSite : ResourceRow :=
  { tenantId := 1
    kind := .site
    id := 30
    revision := 1
    state := .active
    segmentId := none
    document :=
      { metadata := { schemaVersion := 1, id := 30, tenantId := 1, revision := 1, state := .active }
        resource := .site { name := "branch", kind := .edge } } }

def bootstrapStart : EnrollmentStore :=
  { enrollmentStart with
    cloud := { enrollmentStart.cloud with control := ⟨[bootstrapSite], [], [], []⟩ } }

def bootstrapHash : Hash := 0x00354980899656da7a76942fbd496979c12b1a6dda1c6ee15b8f30070cc12dce

/-- The signature of the one transcript below, and the digests of the signature
    and of the credential. -/
def bootstrapService : BootstrapHttpService :=
  { sign := fun _ =>
      [226, 147, 47, 243, 187, 173, 132, 81, 67, 204, 57, 87, 164, 247, 90, 187, 145, 133, 78, 86,
        232, 29, 18, 35, 0, 1, 79, 197, 181, 109, 122, 237, 1, 250, 99, 207, 90, 78, 118, 193, 252,
        150, 101, 1, 48, 46, 110, 228, 121, 114, 170, 113, 105, 113, 232, 56, 31, 140, 67, 62, 226,
        182, 61, 9]
    sha256 := fun message =>
      if message.length = 64 then
        0x761845d45c57ba026b17cfe2fe18ce61c95d73a2d9d2e9029a48c3cf7feec940
      else 0x2f53ab8c0b3c6af8161ac4017fcf919846c62e56ff7724987e23bd5ae5c3e265 }

def bootstrapCode : ActivationCodeWrite :=
  { enrolledCode with
    siteId := some 30
    requestedDisplayName := some "edge"
    requestedPlatform := some "LINUX"
    requestedArchitecture := some "x86_64"
    codeHash := bootstrapHash }

def routerExchange : BootstrapExchangeWrite :=
  bootstrapService.exchangeWrite bootstrapHash "router-a"

def missedExchange : List EnrollmentCall :=
  [.insertActivationCode bootstrapCode 1000000,
    .reserveChallenge bootstrapHash enrolledChallenge 2000000 0,
    .exchangeBootstrapCode bootstrapHash routerExchange 3000000]

/-- The exchange is answered, and the code is bound to no installation. -/
theorem exchange_without_binding :
    ¬ BootstrapLaw enrollmentCodec bootstrapStart missedExchange := by
  intro law
  have delivers : Delivers enrollmentCodec (enrollmentRun enrollmentCodec bootstrapStart
      [.insertActivationCode bootstrapCode 1000000,
        .reserveChallenge bootstrapHash enrolledChallenge 2000000 0]) bootstrapHash routerExchange
      3000000 :=
    ⟨.issued, some ⟨10, 1, 30, "edge", "LINUX", "x86_64", 5000000, false⟩, by decide +kernel,
      .inl rfl⟩
  obtain ⟨row, member, -, bound, -⟩ := law.bound _ _ _ _ [] rfl delivers
  have unbound : ∀ row ∈ (enrollmentRun enrollmentCodec bootstrapStart missedExchange).codes,
      row.bootstrapInstanceId = none := by decide +kernel
  cases (unbound row member).symm.trans bound

def attachedExchange : List EnrollmentCall :=
  [.insertActivationCode bootstrapCode 1000000,
    .exchangeBootstrapCode bootstrapHash routerExchange 2000000,
    .reserveChallenge routerExchange.enrollmentCredentialHash
      { enrolledChallenge with enrollmentInstanceId := "router-a" } 3000000 0]

theorem bootstrap_bound_first :
    BootstrapLaw enrollmentCodec bootstrapStart attachedExchange ↔
      Along (enrollmentStep enrollmentCodec) Attaches bootstrapStart attachedExchange := by
  refine bootstrap_bound_iff enrollmentCodec bootstrapStart rfl rfl bootstrapService
    attachedExchange ⟨?_, ?_, ?_⟩
  · intro codeHash write now made
    simp only [attachedExchange, List.mem_cons, reduceCtorEq, List.not_mem_nil, or_false, false_or,
      EnrollmentCall.exchangeBootstrapCode.injEq] at made
    obtain ⟨rfl, rfl, rfl⟩ := made
    rfl
  · intro codeHash write now codeHash' write' now' made made' _
    simp only [attachedExchange, List.mem_cons, reduceCtorEq, List.not_mem_nil, or_false, false_or,
      EnrollmentCall.exchangeBootstrapCode.injEq] at made made'
    exact made.1.trans made'.1.symm
  · intro codeHash write now creation clock made created
    simp only [attachedExchange, List.mem_cons, reduceCtorEq, List.not_mem_nil, or_false, false_or,
      EnrollmentCall.exchangeBootstrapCode.injEq, EnrollmentCall.insertActivationCode.injEq]
      at made created
    obtain ⟨rfl, rfl, rfl⟩ := made
    obtain ⟨rfl, rfl⟩ := created
    decide +kernel

end CandyCloud
