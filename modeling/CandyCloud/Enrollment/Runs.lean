import CandyCloud.Enrollment.Discipline

/-! # Runs of the enrollment calls

What lasts from one state of a run to every later one, and the law that an
activation code enrols at most one device.
-/

namespace CandyCloud

open Foundation

variable {codec : EnrollmentCodec} {start store store' : EnrollmentStore}

/-- What a code keeps for ever. -/
structure CodeLasts (row row' : ActivationCodeRow) : Prop where
  id : row'.id = row.id
  expiresAt : row'.expiresAt = row.expiresAt
  codeHash : row'.codeHash = row.codeHash
  binding : row.bootstrapInstanceId.isSome = true →
    row'.bootstrapInstanceId = row.bootstrapInstanceId ∧
      row'.enrollmentCredentialHash = row.enrollmentCredentialHash
  closed : row.status.open_ = false → row'.status = row.status

theorem CodeKept.lasts {row row' : ActivationCodeRow} (kept : CodeKept row row') :
    CodeLasts row row' :=
  ⟨kept.id, kept.expiresAt, kept.codeHash, kept.binding, kept.moves.of_closed⟩

theorem CodeLasts.trans {a b c : ActivationCodeRow} (first : CodeLasts a b)
    (second : CodeLasts b c) : CodeLasts a c where
  id := second.id.trans first.id
  expiresAt := second.expiresAt.trans first.expiresAt
  codeHash := second.codeHash.trans first.codeHash
  binding := by
    intro bound
    obtain ⟨instance_, credential⟩ := first.binding bound
    obtain ⟨later, laterCredential⟩ := second.binding (by rw [instance_]; exact bound)
    exact ⟨later.trans instance_, laterCredential.trans credential⟩
  closed := by
    intro closed
    have status := first.closed closed
    exact (second.closed (by rw [status]; exact closed)).trans status

theorem ChallengeKept.trans {a b c : EnrollmentChallengeRow} (first : ChallengeKept a b)
    (second : ChallengeKept b c) : ChallengeKept a c where
  id := second.id.trans first.id
  activationCodeId := second.activationCodeId.trans first.activationCodeId
  organizationId := second.organizationId.trans first.organizationId
  tenantId := second.tenantId.trans first.tenantId
  operationalPublicKey := second.operationalPublicKey.trans first.operationalPublicKey
  transcript := second.transcript.trans first.transcript
  issued := by
    intro issued
    cases first.issued issued
    exact second.issued issued

/-- Everything that outlives a call. -/
structure Lasts (store store' : EnrollmentStore) : Prop where
  codes : ∀ row ∈ store.codes, ∃ row' ∈ store'.codes, CodeLasts row row'
  challenges : ∀ row ∈ store.challenges, ∃ row' ∈ store'.challenges, ChallengeKept row row'
  tenants : store'.topology.tenantIds = store.topology.tenantIds
  issues : ∀ challenge record, Issues store challenge record → Issues store' challenge record

theorem Lasts.refl (store : EnrollmentStore) : Lasts store store where
  codes row member := ⟨row, member, (CodeKept.refl row).lasts⟩
  challenges row member := ⟨row, member, .refl row⟩
  tenants := rfl
  issues _ _ issued := issued

theorem Lasts.trans {a b c : EnrollmentStore} (first : Lasts a b) (second : Lasts b c) :
    Lasts a c where
  codes := by
    intro row member
    obtain ⟨next, stored, lasts⟩ := first.codes row member
    obtain ⟨last, storedLast, lastsOn⟩ := second.codes next stored
    exact ⟨last, storedLast, lasts.trans lastsOn⟩
  challenges := by
    intro row member
    obtain ⟨next, stored, kept⟩ := first.challenges row member
    obtain ⟨last, storedLast, keptOn⟩ := second.challenges next stored
    exact ⟨last, storedLast, kept.trans keptOn⟩
  tenants := second.tenants.trans first.tenants
  issues challenge record issued := second.issues challenge record
    (first.issues challenge record issued)

theorem enrollmentStep_lasts (inv : EnrollmentInvariant codec start store) (call : EnrollmentCall) :
    Lasts store (enrollmentStep codec store call) := by
  rcases enrollmentStep_change call inv.unproved with same | ⟨answer, -, change⟩
  · rw [same]
    exact .refl store
  · constructor
    · intro row member
      obtain ⟨row', stored, kept⟩ := (change.codesKept inv.codeIds).onward row member
      exact ⟨row', stored, kept.lasts⟩
    · exact change.challengesKept.onward
    · exact change.identitiesGrow.tenants
    · exact fun challenge record issued => issued.kept change

theorem run_lasts (inv : EnrollmentInvariant codec start store) (calls : List EnrollmentCall) :
    Lasts store (run (enrollmentStep codec) store calls) := by
  refine (run_invariant (P := fun after => EnrollmentInvariant codec start after ∧
    Lasts store after) ?_ ⟨inv, .refl store⟩ calls).2
  intro after call ⟨kept, lasts⟩
  exact ⟨enrollmentStep_invariant kept call, lasts.trans (enrollmentStep_lasts kept call)⟩

variable {write : EnrollmentCompletionWrite} {challenge : EnrollmentChallengeRow}
  {record : EnrollmentCompletionRecord}

section

variable (inv : EnrollmentInvariant codec start store) (issues : Issues store challenge record)

include inv issues

theorem EnrollmentInvariant.challengeWithCode :
    ∃ code, store.challengeWithCode challenge.id = some (challenge, code) ∧
      code.status = .consumed := by
  obtain ⟨code, stored, coupled⟩ := inv.coupled challenge issues.member
  refine ⟨code, ?_, coupled.issued.mp issues.status⟩
  have found : store.challenge challenge.id = some challenge :=
    find_of_key inv.challengeIds issues.member fun _ => beq_iff_eq
  have joined : (store.codes.find? fun row => row.id == challenge.activationCodeId) = some code := by
    rw [← coupled.id]
    exact find_of_key inv.codeIds stored fun _ => beq_iff_eq
  simp only [EnrollmentStore.challengeWithCode, found, joined, Option.bind_eq_bind,
    Option.bind_some, Option.pure_def]

theorem loadIssued_again {requestId : String} (named : isNil challenge.id = false)
    (bounds : bounded requestId 120 = true)
    (request : challenge.completionRequestId = some requestId) :
    loadIssued store challenge.id requestId = .ok (.replay record) := by
  obtain ⟨code, found, consumed⟩ := inv.challengeWithCode issues
  simp only [loadIssued, named, bounds, found, issues.status, consumed, request,
    issues.enrolled.loaded, reject, bind, Except.bind, pure, Except.pure, bne_self_eq_false,
    Bool.or_self, Bool.not_true, Bool.false_eq_true, if_false]

theorem completeEnrollment_again (valid : write.validate = .ok ())
    (known : write.tenantId ∈ store.topology.tenantIds) (named : challenge.id = write.challengeId)
    (organization : challenge.organizationId = write.organizationId)
    (tenant : challenge.tenantId = write.tenantId)
    (request : challenge.completionRequestId = some write.completionRequestId) (fresh : Uuid → Uuid)
    (clock : Instant) :
    completeEnrollment codec store write fresh clock =
      .ok (if challenge.completionFingerprint = some (write.fingerprint codec) then .replay record
        else .conflict, store) := by
  obtain ⟨code, found, consumed⟩ := inv.challengeWithCode issues
  rw [named] at found
  have tenantRow : (store.topology.tenants.any fun row => row.id == write.tenantId) = true := by
    obtain ⟨row, member, same⟩ := List.mem_map.mp known
    exact List.any_eq_true.mpr ⟨row, member, beq_iff_eq.mpr same⟩
  have own : (store.challenges.find? fun row =>
      row.completedAs codec write.tenantId write.completionRequestId).any
        (fun row => row.id != write.challengeId) = false := by
    rw [Option.any_eq_false]
    intro other answered
    have completed := List.find?_some answered
    have mine : challenge.completedAs codec write.tenantId write.completionRequestId = true :=
      completedAs_iff.mpr ⟨tenant, _, request, rfl⟩
    have same := inv.completions other (List.mem_of_find?_eq_some answered) challenge
      issues.member _ _ completed mine
    simp [same, named]
  simp only [completeEnrollment, valid, tenantRow, own, found, organization, tenant, issues.status,
    consumed, request, issues.enrolled.loaded, bind, Except.bind, pure, Except.pure]
  by_cases fingerprint : challenge.completionFingerprint = some (write.fingerprint codec)
  · simp [fingerprint]
  · simp [fingerprint]

end

abbrev enrollmentRun (codec : EnrollmentCodec) (start : EnrollmentStore)
    (calls : List EnrollmentCall) : EnrollmentStore :=
  run (enrollmentStep codec) start calls

def EnrollmentStore.issuedDevices (store : EnrollmentStore) (codeId : Uuid) : List Uuid :=
  (store.challenges.filter fun row =>
    row.activationCodeId == codeId && row.status == .issued).filterMap (·.deviceId)

def answers (codec : EnrollmentCodec) (store : EnrollmentStore) (call : EnrollmentCall) :
    Except RepositoryError EnrollmentAnswer :=
  (transact codec store call).map (·.1)

/-- A completion issued the given device in the run. -/
def IssuedIn (codec : EnrollmentCodec) (start : EnrollmentStore) (calls : List EnrollmentCall)
    (write : EnrollmentCompletionWrite) (record : EnrollmentCompletionRecord) : Prop :=
  ∃ before fresh clock after, calls = before ++ .complete write fresh clock :: after ∧
    answers codec (enrollmentRun codec start before) (.complete write fresh clock) =
      .ok (.completion (.issued record))

/-- A code enrols at most one device over the run `calls` from `start`. -/
structure EnrollmentLaw (codec : EnrollmentCodec) (start : EnrollmentStore)
    (calls : List EnrollmentCall) : Prop where
  /-- A code has at most one challenge and at most one issued device. -/
  oneChallenge : ∀ a ∈ (enrollmentRun codec start calls).challenges,
    ∀ b ∈ (enrollmentRun codec start calls).challenges,
      a.activationCodeId = b.activationCodeId → a = b
  oneDevice : ∀ codeId,
    ((enrollmentRun codec start calls).issuedDevices codeId).length ≤ 1
  /-- A call moves a code along the allowed moves, and a code that is consumed,
      revoked or expired stays so. -/
  oneRow : ((enrollmentRun codec start calls).codes.map (·.id)).Nodup
  moves : ∀ before call after, calls = before ++ call :: after →
    ∀ row ∈ (enrollmentRun codec start before).codes,
      ∃ row' ∈ (enrollmentRun codec start (before ++ [call])).codes,
        row'.id = row.id ∧ row.status.Moves row'.status
  stays : ∀ before after, calls = before ++ after →
    ∀ row ∈ (enrollmentRun codec start before).codes, row.status.open_ = false →
      ∃ row' ∈ (enrollmentRun codec start calls).codes,
        row'.id = row.id ∧ row'.status = row.status
  /-- An open code that an accepted revocation names is revoked to the end of the run. -/
  revoked : ∀ before tenantId activationId actorId after,
    calls = before ++ .revokeActivationCode tenantId activationId actorId :: after → ∀ answer,
    answers codec (enrollmentRun codec start before)
      (.revokeActivationCode tenantId activationId actorId) = .ok answer →
    ∀ row ∈ (enrollmentRun codec start before).codes, row.tenantId = tenantId →
      row.id = activationId → row.status.open_ = true → answer = .revoked true ∧
      ∃ row' ∈ (enrollmentRun codec start calls).codes,
        row'.id = activationId ∧ row'.status = .revoked
  /-- The rows of a completion exist exactly when its challenge is issued and
      its code consumed, and every row that is not of the start is one of them. -/
  rows : ∀ challenge ∈ (enrollmentRun codec start calls).challenges,
    ∃ code ∈ (enrollmentRun codec start calls).codes,
      code.id = challenge.activationCodeId ∧
      ((∃ record, Enrolled (enrollmentRun codec start calls) challenge record) ↔
        challenge.status = .issued ∧ code.status = .consumed)
  consumed : ∀ code ∈ (enrollmentRun codec start calls).codes, code.status = .consumed →
    ∃ challenge record, Issues (enrollmentRun codec start calls) challenge record ∧
      challenge.activationCodeId = code.id
  devices : ∀ id ∈ (enrollmentRun codec start calls).topology.deviceIds,
    id ∈ start.topology.deviceIds ∨ ∃ challenge record,
      Issues (enrollmentRun codec start calls) challenge record ∧
        challenge.deviceId = some id
  keys : ∀ owner ∈ (enrollmentRun codec start calls).topology.keyOwners,
    owner ∈ start.topology.keyOwners ∨ ∃ challenge record,
      Issues (enrollmentRun codec start calls) challenge record ∧
        record.deviceKeyId = owner.1 ∧ challenge.deviceId = some owner.2
  certificates : ∀ certificate ∈ (enrollmentRun codec start calls).certificates,
    certificate.id ∈ start.certificates.map (·.id) ∨ ∃ challenge record,
      Issues (enrollmentRun codec start calls) challenge record ∧
        record.certificateId = certificate.id
  /-- Nothing is issued past the expiry of the challenge, nor for a code that
      was consumed, revoked or expired at any time before. -/
  timely : ∀ before write fresh clock after record,
    calls = before ++ .complete write fresh clock :: after →
    answers codec (enrollmentRun codec start before) (.complete write fresh clock) =
      .ok (.completion (.issued record)) →
    ∃ challenge ∈ (enrollmentRun codec start before).challenges,
      challenge.id = write.challengeId ∧ write.issuedAt < challenge.expiresAt ∧
      ∀ earlier later, before = earlier ++ later →
        ∀ row ∈ (enrollmentRun codec start earlier).codes,
          row.id = challenge.activationCodeId → row.status.open_ = true
  /-- The same completion is answered with the device it issued. -/
  replayed : ∀ write record, IssuedIn codec start calls write record →
    (∀ fresh clock,
      completeEnrollment codec (enrollmentRun codec start calls) write fresh clock =
        .ok (.replay record, enrollmentRun codec start calls)) ∧
    loadIssued (enrollmentRun codec start calls) write.challengeId
      write.completionRequestId = .ok (.replay record)
  /-- So is a completion of the coordinator under the same request, wherever in
      the run it loaded the challenge. -/
  coordinated : ∀ (coordinator : EnrollmentCoordinator), coordinator.codec = codec →
    ∀ write record, IssuedIn codec start calls write record →
    ∀ loaded rest later, calls = loaded ++ rest →
    ∀ command now ids fresh clock prepared, command.challengeId = write.challengeId →
      command.requestId = write.completionRequestId →
      coordinator.prepare (enrollmentRun codec start loaded) command now ids =
        .ok prepared →
      (∀ next, prepared = some next → next.validate = .ok ()) →
      coordinator.complete (enrollmentRun codec start loaded)
        (enrollmentRun codec start calls) (enrollmentRun codec start (calls ++ later))
        command now ids fresh clock = .ok (receipt record true)
  /-- Every other outcome changes nothing. -/
  quiet : ∀ before call after, calls = before ++ call :: after →
    (∃ answer, answers codec (enrollmentRun codec start before) call = .ok answer ∧
      answer.effective = true) ∨
    enrollmentRun codec start (before ++ [call]) = enrollmentRun codec start before

variable {coordinator : EnrollmentCoordinator} {command : EnrollmentCompleteCommand} {now : Instant}
  {ids : EnrollmentIds} {prepared : Option EnrollmentCompletionWrite}

section Law

variable {calls : List EnrollmentCall}

theorem answered_revoked (unique : (store.codes.map (·.id)).Nodup) {tenantId activationId : Uuid}
    {actorId : String} {answer : EnrollmentAnswer}
    (answered : answers codec store (.revokeActivationCode tenantId activationId actorId) =
      .ok answer)
    {row : ActivationCodeRow} (member : row ∈ store.codes) (home : row.tenantId = tenantId)
    (own : row.id = activationId) (opened : row.status.open_ = true) :
    answer = .revoked true ∧ { row with status := .revoked } ∈
      (enrollmentStep codec store (.revokeActivationCode tenantId activationId actorId)).codes := by
  obtain ⟨⟨answer, store'⟩, done, same⟩ := map_ok.mp answered
  cases same
  rw [enrollmentStep, done]
  obtain ⟨⟨changed, after⟩, finished, same⟩ := map_ok.mp done
  cases same
  have selected : store.codes.find? (fun row => row.tenantId == tenantId &&
      row.id == activationId) = some row := by
    refine find_keyed unique member (by simp [home, own]) ?_
    intro other named
    simp only [Bool.and_eq_true, beq_iff_eq] at named
    exact named.2.trans own.symm
  simp only [revokeActivationCode, unit_bind_ok, selected, opened, if_true, pure_ok,
    Prod.mk.injEq] at finished
  obtain ⟨-, rfl, rfl⟩ := finished
  exact ⟨rfl, mem_updateWhere.mpr ⟨row, member, if_pos (by simp [home, own, opened])⟩⟩

theorem issued_completes (inv : EnrollmentInvariant codec start store) {fresh : Uuid → Uuid}
    {clock : Instant}
    (answered : answers codec store (.complete write fresh clock) =
      .ok (.completion (.issued record))) :
    ∃ challenge code, record = write.record ∧ write.validate = .ok () ∧
      write.tenantId ∈ store.topology.tenantIds ∧
      challenge.organizationId = write.organizationId ∧ write.issuedAt < challenge.expiresAt ∧
      Completed codec store write challenge code
        (enrollmentStep codec store (.complete write fresh clock)) := by
  obtain ⟨⟨answer, store'⟩, done, same⟩ := map_ok.mp answered
  cases same
  have stepped : enrollmentStep codec store (.complete write fresh clock) = store' := by
    rw [enrollmentStep, done]
    rfl
  rw [stepped]
  cases transact_change inv.unproved done with
  | quiet silent => cases silent
  | issued found known organization tenant challenged reserved timely valid written =>
      obtain ⟨challengeMem, challengeId, codeMem, codeId⟩ := challengeWithCode_some found
      exact ⟨_, _, rfl, valid, known, organization, timely, challengeMem, challengeId, codeMem,
        codeId, challenged, reserved, tenant, written⟩

/-- What a completion of the run left behind. -/
structure Remains (codec : EnrollmentCodec) (store : EnrollmentStore)
    (write : EnrollmentCompletionWrite) (record : EnrollmentCompletionRecord)
    (challenge : EnrollmentChallengeRow) : Prop where
  issues : Issues store challenge record
  valid : write.validate = .ok ()
  known : write.tenantId ∈ store.topology.tenantIds
  named : challenge.id = write.challengeId
  organization : challenge.organizationId = write.organizationId
  tenant : challenge.tenantId = write.tenantId
  request : challenge.completionRequestId = some write.completionRequestId
  fingerprint : challenge.completionFingerprint = some (write.fingerprint codec)

theorem issued_remains (inv : EnrollmentInvariant codec start start)
    (issued : IssuedIn codec start calls write record) :
    ∃ challenge, Remains codec (enrollmentRun codec start calls) write record challenge := by
  obtain ⟨before, fresh, clock, after, rfl, answered⟩ := issued
  have reached := run_enrollment_invariant inv before
  obtain ⟨challenge, code, rfl, valid, known, organization, -, completed⟩ :=
    issued_completes reached answered
  have next := enrollmentStep_invariant reached (.complete write fresh clock)
  have lasts := run_lasts next after
  have joined : enrollmentRun codec start (before ++ .complete write fresh clock :: after) =
      run (enrollmentStep codec)
        (enrollmentStep codec (enrollmentRun codec start before) (.complete write fresh clock))
        after := by
    rw [enrollmentRun, run_append, run_cons]
  rw [joined]
  refine ⟨challenge.issuedBy codec write, lasts.issues _ _ completed.issues, valid, ?_,
    completed.challengeId, organization, completed.tenant, rfl, rfl⟩
  rw [lasts.tenants, completed.written.tenants]
  exact known

theorem Remains.replays {store : EnrollmentStore} (inv : EnrollmentInvariant codec start store)
    (remains : Remains codec store write record challenge) (fresh : Uuid → Uuid)
    (clock : Instant) :
    completeEnrollment codec store write fresh clock = .ok (.replay record, store) := by
  rw [completeEnrollment_again inv remains.issues remains.valid remains.known remains.named
    remains.organization remains.tenant remains.request fresh clock, if_pos remains.fingerprint]

theorem Remains.loads {store : EnrollmentStore} (inv : EnrollmentInvariant codec start store)
    (remains : Remains codec store write record challenge) :
    loadIssued store write.challengeId write.completionRequestId = .ok (.replay record) := by
  have valid := remains.valid
  simp only [EnrollmentCompletionWrite.validate, reject_ok, Bool.or_eq_false_iff,
    Bool.not_eq_false'] at valid
  rw [← remains.named]
  refine loadIssued_again inv remains.issues ?_ ?_ remains.request
  · rw [remains.named]
    simp only [valid]
  · simp only [valid]

theorem prepare_ok (done : coordinator.prepare store command now ids = .ok prepared) :
    ∃ row ∈ store.challenges, row.id = command.challengeId ∧
      ∀ next, prepared = some next → next.challengeId = row.id ∧
        next.organizationId = row.organizationId ∧ next.tenantId = row.tenantId ∧
        next.completionRequestId = command.requestId := by
  simp only [EnrollmentCoordinator.prepare, unit_bind_ok, orElse_bind_ok] at done
  obtain ⟨-, row, loaded, -, later⟩ := done
  obtain ⟨⟨challenge, code⟩, found, open_⟩ := Option.bind_eq_some_iff.mp loaded
  simp only at open_
  split at open_
  · cases open_
    obtain ⟨stored, named, -, -⟩ := challengeWithCode_some found
    refine ⟨row, stored, named, ?_⟩
    intro next same
    subst same
    split at later
    · cases later
    · obtain ⟨certificate, -, returned⟩ := orElse_bind_ok.mp later
      cases returned
      exact ⟨rfl, rfl, rfl, rfl⟩
  · cases open_

theorem IssuedIn.extend (issued : IssuedIn codec start calls write record)
    (later : List EnrollmentCall) : IssuedIn codec start (calls ++ later) write record := by
  obtain ⟨before, fresh, clock, after, rfl, answered⟩ := issued
  exact ⟨before, fresh, clock, after ++ later, by simp, answered⟩

theorem coordinator_replays (inv : EnrollmentInvariant codec start start)
    (uses : coordinator.codec = codec) (issued : IssuedIn codec start calls write record)
    {loaded rest : List EnrollmentCall} (split : calls = loaded ++ rest)
    (later : List EnrollmentCall) (fresh : Uuid → Uuid) (clock : Instant)
    (same : command.challengeId = write.challengeId)
    (request : command.requestId = write.completionRequestId)
    (done : coordinator.prepare (enrollmentRun codec start loaded) command now ids = .ok prepared)
    (valid : ∀ next, prepared = some next → next.validate = .ok ()) :
    coordinator.complete (enrollmentRun codec start loaded) (enrollmentRun codec start calls)
      (enrollmentRun codec start (calls ++ later)) command now ids fresh clock =
        .ok (receipt record true) := by
  obtain ⟨challenge, remains⟩ := issued_remains inv issued
  obtain ⟨final, remainsLater⟩ := issued_remains inv (issued.extend later)
  have looked : EnrollmentCoordinator.replay (enrollmentRun codec start (calls ++ later))
      command.challengeId command.requestId = .ok (receipt record true) := by
    rw [EnrollmentCoordinator.replay, same, request,
      remainsLater.loads (run_enrollment_invariant inv (calls ++ later))]
  rw [EnrollmentCoordinator.complete, done]
  cases prepared with
  | none => exact looked
  | some next =>
      obtain ⟨row, stored, named, written⟩ := prepare_ok done
      obtain ⟨id, organization, tenant, completion⟩ := written next rfl
      have reached := run_enrollment_invariant inv calls
      -- the row that was loaded is the issued one, as it was before
      have kept : ChallengeKept row challenge := by
        have lasts := run_lasts (run_enrollment_invariant inv loaded) rest
        rw [← run_append, ← split] at lasts
        obtain ⟨row', stored', kept⟩ := lasts.challenges row stored
        have sameId : row'.id = challenge.id :=
          (kept.id.trans (named.trans same)).trans remains.named.symm
        cases eq_of_key reached.challengeIds stored' remains.issues.member sameId
        exact kept
      have again : completeEnrollment codec (enrollmentRun codec start calls) next fresh clock = _ :=
        completeEnrollment_again reached remains.issues (valid next rfl)
        (by rw [tenant, ← kept.tenantId, remains.tenant]; exact remains.known)
        (kept.id.trans id.symm) (kept.organizationId.trans organization.symm)
        (kept.tenantId.trans tenant.symm)
        (by rw [completion, request]; exact remains.request) fresh clock
      simp only [uses, bind, Except.bind, again]
      by_cases fingerprint : challenge.completionFingerprint = some (next.fingerprint codec)
      · simp only [fingerprint, if_true]
      · simp only [fingerprint, if_false]
        exact looked

theorem oneDevice_of (inv : EnrollmentInvariant codec start store) (codeId : Uuid) :
    (store.issuedDevices codeId).length ≤ 1 := by
  refine (List.length_filterMap_le _ _).trans ?_
  refine length_filter_le_one (List.Nodup.of_map _ inv.challengeIds) ?_
  intro a memberA b memberB testA testB
  rw [Bool.and_eq_true, beq_iff_eq] at testA testB
  exact eq_of_key inv.challengeCodes memberA memberB (testA.1.trans testB.1.symm)

theorem rows_of (inv : EnrollmentInvariant codec start store) (member : challenge ∈ store.challenges) :
    ∃ code ∈ store.codes, code.id = challenge.activationCodeId ∧
      ((∃ record, Enrolled store challenge record) ↔
        challenge.status = .issued ∧ code.status = .consumed) := by
  obtain ⟨code, stored, coupled⟩ := inv.coupled challenge member
  refine ⟨code, stored, coupled.id, ?_⟩
  constructor
  · rintro ⟨record, enrolled⟩
    rcases inv.progress challenge member with blank | ⟨record, issues⟩
    · obtain ⟨id, named, -⟩ := enrolled.device
      cases blank.deviceId.symm.trans named
    · exact ⟨issues.status, coupled.issued.mp issues.status⟩
  · rintro ⟨issued, -⟩
    rcases inv.progress challenge member with blank | ⟨record, issues⟩
    · rcases blank.status with status | status
      · cases status.symm.trans issued
      · cases status.symm.trans issued
    · exact ⟨record, issues.enrolled⟩

theorem consumed_of (inv : EnrollmentInvariant codec start store) {code : ActivationCodeRow}
    (member : code ∈ store.codes) (consumed : code.status = .consumed) :
    ∃ challenge record, Issues store challenge record ∧ challenge.activationCodeId = code.id := by
  obtain ⟨challenge, stored, named⟩ := inv.consumed code member consumed
  obtain ⟨own, ownMem, coupled⟩ := inv.coupled challenge stored
  cases eq_of_key inv.codeIds ownMem member (coupled.id.trans named)
  have issued := coupled.issued.mpr consumed
  rcases inv.progress challenge stored with blank | ⟨record, issues⟩
  · rcases blank.status with status | status
    · cases status.symm.trans issued
    · cases status.symm.trans issued
  · exact ⟨challenge, record, issues, named⟩

end Law

/-- Over every run of calls that starts without codes, an activation code enrols
    at most one device. -/
theorem activation_code_enrols_once (codec : EnrollmentCodec) (start : EnrollmentStore)
    (codes : start.codes = []) (challenges : start.challenges = []) (calls : List EnrollmentCall) :
    EnrollmentLaw codec start calls := by
  have initial : EnrollmentInvariant codec start start := initial_enrollment codes challenges
  have reached := fun calls => run_enrollment_invariant initial calls
  constructor
  · intro a memberA b memberB same
    exact eq_of_key (reached calls).challengeCodes memberA memberB same
  · exact oneDevice_of (reached calls)
  · exact (reached calls).codeIds
  · intro before call after _ row member
    rw [enrollmentRun, run_concat]
    rcases enrollmentStep_change call (reached before).unproved with same | ⟨answer, -, change⟩
    · rw [same]
      exact ⟨row, member, rfl, .stays row.status⟩
    · obtain ⟨row', stored, kept⟩ :=
        (change.codesKept (reached before).codeIds).onward row member
      exact ⟨row', stored, kept.id, kept.moves⟩
  · intro before after split row member closed
    have lasts := run_lasts (reached before) after
    rw [← run_append, ← split] at lasts
    obtain ⟨row', stored, kept⟩ := lasts.codes row member
    exact ⟨row', stored, kept.id, kept.closed closed⟩
  · intro before tenantId activationId actorId after split answer answered row member home own
      opened
    obtain ⟨same, ended⟩ := answered_revoked (reached before).codeIds answered member home own opened
    have lasts := run_lasts (enrollmentStep_invariant (reached before)
      (.revokeActivationCode tenantId activationId actorId)) after
    rw [← run_cons, ← run_append, ← split] at lasts
    obtain ⟨row', stored, kept⟩ := lasts.codes _ ended
    exact ⟨same, row', stored, kept.id.trans own, kept.closed rfl⟩
  · exact fun challenge member => rows_of (reached calls) member
  · exact fun code member consumed => consumed_of (reached calls) member consumed
  · exact (reached calls).devices
  · exact (reached calls).keys
  · exact (reached calls).certificates
  · intro before write fresh clock after record split answered
    obtain ⟨challenge, code, -, -, -, -, timely, completed⟩ :=
      issued_completes (reached before) answered
    refine ⟨challenge, completed.challengeMem, completed.challengeId, timely, ?_⟩
    intro earlier later splits row member named
    by_contra closed
    have lasts := run_lasts (reached earlier) later
    rw [← run_append, ← splits] at lasts
    obtain ⟨row', stored, kept⟩ := lasts.codes row member
    have sameId : row'.id = code.id := (kept.id.trans named).trans completed.codeId.symm
    cases eq_of_key (reached before).codeIds stored completed.codeMem sameId
    have status := kept.closed (Bool.not_eq_true _ ▸ closed)
    rw [← status, completed.reserved] at closed
    exact closed rfl
  · intro write record issued
    obtain ⟨challenge, remains⟩ := issued_remains initial issued
    exact ⟨remains.replays (reached calls), remains.loads (reached calls)⟩
  · intro coordinator uses write record issued loaded rest later split command now ids fresh clock
      prepared same request done valid
    exact coordinator_replays initial uses issued split later fresh clock same request done valid
  · intro before call after split
    have next : enrollmentRun codec start (before ++ [call]) =
        enrollmentStep codec (enrollmentRun codec start before) call := run_concat start before call
    rw [next]
    cases result : transact codec (enrollmentRun codec start before) call with
    | error error =>
        right
        rw [enrollmentStep, result]
        rfl
    | ok done =>
        obtain ⟨answer, store'⟩ := done
        have stepped : enrollmentStep codec (enrollmentRun codec start before) call = store' := by
          rw [enrollmentStep, result]
          rfl
        cases effective : answer.effective with
        | true =>
            left
            exact ⟨answer, by rw [answers, result]; rfl, effective⟩
        | false =>
            right
            rw [stepped]
            cases transact_change (reached before).unproved result with
            | quiet => rfl
            | inserted | bound | reserved | issued | revoked | expired | elsewhere => cases effective

def enrollmentTopology : Topology :=
  { organizations := [⟨2, .active⟩]
    tenants := [⟨1, 2, .active⟩]
    devices := []
    deviceKeys := []
    sites := []
    sitePrefixes := []
    nodePools := []
    subscriptions := []
    entitlements := []
    nodes := []
    nodeEndpoints := []
    attachments := [] }

def enrollmentStart : EnrollmentStore :=
  { cloud :=
      { control := ⟨[], [], [], []⟩
        queue := ⟨[], []⟩
        route := ⟨enrollmentTopology, [], [], [], [], [], [], [], [], [], []⟩ }
    identities := []
    keyMaterials := []
    codes := []
    challenges := []
    certificates := []
    audits := [] }

def enrolledCode : ActivationCodeWrite :=
  { id := 10
    organizationId := 2
    tenantId := 1
    siteId := none
    requestedDisplayName := none
    requestedPlatform := none
    requestedArchitecture := none
    replaceNodeId := none
    codeHash := 77
    expiresAt := 5000000
    createdBy := "operator" }

def enrolledChallenge : EnrollmentChallengeWrite :=
  { id := 20
    requestId := "request-1"
    requestFingerprint := 5
    enrollmentInstanceId := "instance-1"
    displayName := "edge"
    rootPublicKey := 6
    operationalPublicKey := 7
    metadataHash := 8
    attestationHash := 9
    serverNonce := 3
    assuranceLevel := 1
    expiresAt := 4000000 }

def enrolledCompletion : EnrollmentCompletionWrite :=
  { challengeId := 20
    organizationId := 2
    tenantId := 1
    completionRequestId := "complete-1"
    deviceRecordId := 0x00000000000070008000000000000001
    deviceIdentity := 0x00000000000070008000000000000001
    keyRecordId := 0x00000000000070008000000000000002
    keyId := "00000000-0000-7000-8000-000000000002"
    certificateId := 0x00000000000070008000000000000003
    issuerKeyId := "issuer-1"
    serialNumber := 4
    certificateDer := [48, 0]
    certificateChainPem := "chain"
    environment := "test"
    notBefore := 0
    notAfter := 9000000
    issuedAt := 3000000 }

def enrollmentCodec : EnrollmentCodec :=
  { sha256 := fun _ => 0x9a4b9c7b65f022b1c742ca99854125d886c46c0cc32d9aa5741f26aab89ede29
    collate := fun text => text.toLower.toList.map Char.toNat }

def enrollmentCalls : List EnrollmentCall :=
  [.insertActivationCode enrolledCode 1000000, .reserveChallenge 77 enrolledChallenge 2000000 0,
    .complete enrolledCompletion id 3000000, .listActivationCodes 1 6000000]

/-- The code is completed once, and again after it would have expired. -/
theorem enrolled_once :
    answers enrollmentCodec (enrollmentRun enrollmentCodec enrollmentStart
      [.insertActivationCode enrolledCode 1000000,
        .reserveChallenge 77 enrolledChallenge 2000000 0]) (.complete enrolledCompletion id 3000000) =
      .ok (.completion (.issued enrolledCompletion.record)) ∧
    completeEnrollment enrollmentCodec (enrollmentRun enrollmentCodec enrollmentStart
      enrollmentCalls) enrolledCompletion id 7000000 =
      .ok (.replay enrolledCompletion.record,
        enrollmentRun enrollmentCodec enrollmentStart enrollmentCalls) := by
  have issued : answers enrollmentCodec (enrollmentRun enrollmentCodec enrollmentStart
      [.insertActivationCode enrolledCode 1000000,
        .reserveChallenge 77 enrolledChallenge 2000000 0]) (.complete enrolledCompletion id 3000000) =
      .ok (.completion (.issued enrolledCompletion.record)) := by decide +kernel
  refine ⟨issued, ?_⟩
  have law := activation_code_enrols_once enrollmentCodec enrollmentStart rfl rfl enrollmentCalls
  exact (law.replayed enrolledCompletion enrolledCompletion.record
    ⟨[.insertActivationCode enrolledCode 1000000,
      .reserveChallenge 77 enrolledChallenge 2000000 0], id, 3000000,
      [.listActivationCodes 1 6000000], rfl, issued⟩).1 id 7000000

end CandyCloud
