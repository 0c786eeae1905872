import CandyCloud.Enrollment.Lifecycle

/-! # An activation code enrols at most one device

The invariant of the enrollment tables over every run of calls, and what follows
from it: one challenge and one device to a code, codes that only move forward,
devices exactly for the issued challenges, and completions that can be repeated.
-/

namespace CandyCloud

open Foundation

/-- A challenge and the code it was reserved with. -/
structure Coupled (challenge : EnrollmentChallengeRow) (code : ActivationCodeRow) : Prop where
  id : code.id = challenge.activationCodeId
  organization : code.organizationId = challenge.organizationId
  tenant : code.tenantId = challenge.tenantId
  presented : code.status ≠ .active
  issued : challenge.status = .issued ↔ code.status = .consumed

/-- A challenge that is not issued names no device. -/
structure Unissued (challenge : EnrollmentChallengeRow) : Prop where
  status : challenge.status = .challenged ∨ challenge.status = .expired
  deviceId : challenge.deviceId = none
  certificateId : challenge.certificateId = none
  completionRequestId : challenge.completionRequestId = none

/-- The rows of the device, the key and the certificate of a challenge. -/
structure Enrolled (store : EnrollmentStore) (challenge : EnrollmentChallengeRow)
    (record : EnrollmentCompletionRecord) : Prop where
  loaded : store.loadCompletionRecord challenge.deviceId challenge.certificateId = .ok record
  device : ∃ id, challenge.deviceId = some id ∧ id ∈ store.topology.deviceIds ∧
    (record.deviceKeyId, id) ∈ store.topology.keyOwners
  certificate : challenge.certificateId = some record.certificateId
  keyMaterial : record.deviceKeyId ∈ store.keyMaterials.map (·.id)

/-- The challenge is issued and its device, key and certificate are those named. -/
structure Issues (store : EnrollmentStore) (challenge : EnrollmentChallengeRow)
    (record : EnrollmentCompletionRecord) : Prop where
  member : challenge ∈ store.challenges
  status : challenge.status = .issued
  enrolled : Enrolled store challenge record

structure EnrollmentInvariant (codec : EnrollmentCodec) (start store : EnrollmentStore) :
    Prop where
  codeIds : (store.codes.map (·.id)).Nodup
  codeHashes : (store.codes.map (·.codeHash)).Nodup
  challengeIds : (store.challenges.map (·.id)).Nodup
  challengeCodes : (store.challenges.map (·.activationCodeId)).Nodup
  coupled : ∀ challenge ∈ store.challenges, ∃ code ∈ store.codes, Coupled challenge code
  consumed : ∀ code ∈ store.codes, code.status = .consumed →
    ∃ challenge ∈ store.challenges, challenge.activationCodeId = code.id
  progress : ∀ challenge ∈ store.challenges,
    Unissued challenge ∨ ∃ record, Issues store challenge record
  completions : ∀ a ∈ store.challenges, ∀ b ∈ store.challenges, ∀ tenantId requestId,
    a.completedAs codec tenantId requestId = true →
    b.completedAs codec tenantId requestId = true → a.id = b.id
  devices : ∀ id ∈ store.topology.deviceIds, id ∈ start.topology.deviceIds ∨
    ∃ challenge record, Issues store challenge record ∧ challenge.deviceId = some id
  keys : ∀ owner ∈ store.topology.keyOwners, owner ∈ start.topology.keyOwners ∨
    ∃ challenge record, Issues store challenge record ∧ record.deviceKeyId = owner.1 ∧
      challenge.deviceId = some owner.2
  certificates : ∀ certificate ∈ store.certificates,
    certificate.id ∈ start.certificates.map (·.id) ∨
    ∃ challenge record, Issues store challenge record ∧ record.certificateId = certificate.id

variable {codec : EnrollmentCodec} {start store store' : EnrollmentStore}
  {call : EnrollmentCall} {answer : EnrollmentAnswer}

theorem EnrollmentInvariant.unproved (inv : EnrollmentInvariant codec start store) :
    ∀ row ∈ store.challenges, row.status ≠ .proved := by
  intro row member proved
  rcases inv.progress row member with unissued | ⟨record, issues⟩
  · rcases unissued.status with status | status
    · cases status.symm.trans proved
    · cases status.symm.trans proved
  · cases issues.status.symm.trans proved

theorem initial_enrollment (codes : start.codes = []) (challenges : start.challenges = []) :
    EnrollmentInvariant codec start start where
  codeIds := by simp [codes]
  codeHashes := by simp [codes]
  challengeIds := by simp [challenges]
  challengeCodes := by simp [challenges]
  coupled := by simp [challenges]
  consumed := by simp [codes]
  progress := by simp [challenges]
  completions := by simp [challenges]
  devices _ member := .inl member
  keys _ member := .inl member
  certificates _ member := .inl (List.mem_map_of_mem member)

variable {record : EnrollmentCompletionRecord} {row : EnrollmentChallengeRow} {tenantId : Uuid}
  {requestId : String}

theorem Enrolled.grow {challenge : EnrollmentChallengeRow}
    (enrolled : Enrolled store challenge record) (grow : IdentitiesGrow store store') :
    Enrolled store' challenge record := by
  obtain ⟨id, named, device, key⟩ := enrolled.device
  exact ⟨grow.record enrolled.loaded,
    ⟨id, named, grow.devices.subset device, grow.keys.subset key⟩, enrolled.certificate,
    grow.keyMaterials.subset enrolled.keyMaterial⟩

theorem Issues.kept {challenge : EnrollmentChallengeRow} (issues : Issues store challenge record)
    (change : EnrollmentChange codec store call answer store') :
    Issues store' challenge record := by
  obtain ⟨row, member, kept⟩ := change.challengesKept.onward challenge issues.member
  cases kept.issued issues.status
  exact ⟨member, issues.status, issues.enrolled.grow change.identitiesGrow⟩

theorem Coupled.moved {challenge : EnrollmentChallengeRow} {code code' : ActivationCodeRow}
    (coupled : Coupled challenge code) (kept : CodeKept code code')
    (own : code'.status = .consumed → code.status = .consumed) : Coupled challenge code' := by
  refine ⟨kept.id.trans coupled.id, kept.organizationId.trans coupled.organization,
    kept.tenantId.trans coupled.tenant, ?_, ?_⟩
  · intro active
    have moves := kept.moves
    rw [active] at moves
    exact coupled.presented moves.of_active
  · rw [coupled.issued]
    constructor
    · intro consumed
      exact (kept.moves.of_closed (by rw [consumed]; rfl)).trans consumed
    · exact own

theorem challengeWithCode_some {id : Uuid} {challenge : EnrollmentChallengeRow}
    {code : ActivationCodeRow} (found : store.challengeWithCode id = some (challenge, code)) :
    challenge ∈ store.challenges ∧ challenge.id = id ∧ code ∈ store.codes ∧
      code.id = challenge.activationCodeId := by
  simp only [EnrollmentStore.challengeWithCode, Option.bind_eq_bind, Option.bind_eq_some_iff,
    Option.pure_def, Option.some.injEq, Prod.mk.injEq] at found
  obtain ⟨row, stored, other, joined, rfl, rfl⟩ := found
  have named := List.find?_some stored
  have owned := List.find?_some joined
  rw [beq_iff_eq] at named owned
  exact ⟨List.mem_of_find?_eq_some stored, named, List.mem_of_find?_eq_some joined, owned⟩

theorem presented_mem {credentialHash : Hash} {scan : Nat} {row : ActivationCodeRow}
    (found : store.presented credentialHash scan = some row) :
    row ∈ store.codes ∧ row.presents credentialHash = true := by
  apply List.mem_filter.mp
  rcases Option.or_eq_some_iff.mp found with found | ⟨-, found⟩
  · exact List.mem_of_getElem? found
  · exact List.mem_of_head? found

def Unconsuming (codes codes' : List ActivationCodeRow) : Prop :=
  ∀ row' ∈ codes', row'.status = .consumed → ∃ row ∈ codes, row.id = row'.id ∧
    row.status = .consumed

theorem Unconsuming.refl (codes : List ActivationCodeRow) : Unconsuming codes codes :=
  fun row member consumed => ⟨row, member, rfl, consumed⟩

theorem Unconsuming.update {selected : ActivationCodeRow → Bool}
    {set : ActivationCodeRow → ActivationCodeRow} (codes : List ActivationCodeRow)
    (other : ∀ row, (set row).status ≠ .consumed) :
    Unconsuming codes (updateWhere selected set codes) := by
  intro row' member consumed
  obtain ⟨row, old, rfl⟩ := mem_updateWhere.mp member
  cases chosen : selected row with
  | true =>
      simp only [chosen, if_true] at consumed
      exact absurd consumed (other row)
  | false =>
      simp only [chosen, Bool.false_eq_true, if_false] at consumed ⊢
      exact ⟨row, old, rfl, consumed⟩

theorem EnrollmentChange.unconsuming (change : EnrollmentChange codec store call answer store')
    (unissued : ∀ record, answer ≠ .completion (.issued record)) :
    Unconsuming store.codes store'.codes := by
  have revokes : ∀ selected, Unconsuming store.codes (store.revokeCodes selected).codes := by
    intro selected
    exact .update store.codes fun row revoked => by cases revoked
  cases change with
  | quiet | elsewhere => exact .refl store.codes
  | inserted unique =>
      intro row' member consumed
      rcases mem_concat.mp member with member | rfl
      · exact revokes _ row' member consumed
      · cases consumed
  | bound | reserved | expired => exact .update store.codes fun row consumed => by cases consumed
  | revoked => exact revokes _
  | issued => exact absurd rfl (unissued _)

theorem Coupled.kept {codes codes' : List ActivationCodeRow} {challenge : EnrollmentChallengeRow}
    {code : ActivationCodeRow} (distinct : (codes.map (·.id)).Nodup) (kept : CodesKept codes codes')
    (unconsuming : Unconsuming codes codes') (member : code ∈ codes)
    (coupled : Coupled challenge code) : ∃ code' ∈ codes', Coupled challenge code' := by
  obtain ⟨code', member', same⟩ := kept.onward code member
  refine ⟨code', member', coupled.moved same ?_⟩
  intro consumed
  obtain ⟨row, old, named, status⟩ := unconsuming code' member' consumed
  cases eq_of_key distinct old member (named.trans same.id)
  exact status

/-- The challenge and the code of a completion. -/
structure Completed (codec : EnrollmentCodec) (store : EnrollmentStore)
    (write : EnrollmentCompletionWrite) (challenge : EnrollmentChallengeRow)
    (code : ActivationCodeRow) (store' : EnrollmentStore) : Prop where
  challengeMem : challenge ∈ store.challenges
  challengeId : challenge.id = write.challengeId
  codeMem : code ∈ store.codes
  codeId : code.id = challenge.activationCodeId
  challenged : challenge.status = .challenged
  reserved : code.status = .reserved
  tenant : challenge.tenantId = write.tenantId
  written : DeviceIssued codec store write challenge code store'

variable {write : EnrollmentCompletionWrite} {challenge : EnrollmentChallengeRow}
  {code : ActivationCodeRow}

theorem Completed.challenge_cases (inv : EnrollmentInvariant codec start store)
    (completed : Completed codec store write challenge code store')
    (member : row ∈ store'.challenges) :
    row = challenge.issuedBy codec write ∨ row ∈ store.challenges ∧ row.id ≠ write.challengeId := by
  rw [completed.written.challenges] at member
  obtain ⟨old, stored, rfl⟩ := mem_updateWhere.mp member
  by_cases named : old.id = write.challengeId
  · cases eq_of_key inv.challengeIds stored completed.challengeMem
      (named.trans completed.challengeId.symm)
    left
    simp only [completed.challengeId, completed.challenged, beq_self_eq_true, Bool.and_self,
      if_true]
  · right
    simp only [beq_false_of_ne named, Bool.false_and, Bool.false_eq_true, if_false]
    exact ⟨stored, named⟩

theorem Completed.issued_mem (completed : Completed codec store write challenge code store') :
    challenge.issuedBy codec write ∈ store'.challenges := by
  rw [completed.written.challenges]
  refine mem_updateWhere.mpr ⟨challenge, completed.challengeMem, ?_⟩
  simp only [completed.challengeId, completed.challenged, beq_self_eq_true, Bool.and_self, if_true]

theorem Completed.consumed_mem (completed : Completed codec store write challenge code store') :
    code.consumedAt_ write.issuedAt ∈ store'.codes := by
  rw [completed.written.codes]
  refine mem_updateWhere.mpr ⟨code, completed.codeMem, ?_⟩
  simp only [completed.reserved, beq_self_eq_true, Bool.and_self, if_true]

theorem Completed.issues (completed : Completed codec store write challenge code store') :
    Issues store' (challenge.issuedBy codec write) write.record := by
  refine ⟨completed.issued_mem, rfl, completed.written.record, ?_, rfl, ?_⟩
  · refine ⟨write.deviceRecordId, rfl, ?_, ?_⟩
    · rw [completed.written.devices]
      exact List.mem_concat_self
    · rw [completed.written.keys]
      exact List.mem_concat_self
  · rw [completed.written.keyMaterials]
    exact List.mem_concat_self

theorem Completed.code_cases (inv : EnrollmentInvariant codec start store)
    (completed : Completed codec store write challenge code store') {row : ActivationCodeRow}
    (member : row ∈ store'.codes) :
    row = code.consumedAt_ write.issuedAt ∨ row ∈ store.codes ∧ row.id ≠ code.id := by
  rw [completed.written.codes] at member
  obtain ⟨old, stored, rfl⟩ := mem_updateWhere.mp member
  by_cases named : old.id = code.id
  · cases eq_of_key inv.codeIds stored completed.codeMem named
    left
    simp only [completed.reserved, beq_self_eq_true, Bool.and_self, if_true]
  · right
    simp only [beq_false_of_ne named, Bool.false_and, Bool.false_eq_true, if_false]
    exact ⟨stored, named⟩

theorem Completed.other_code (completed : Completed codec store write challenge code store')
    {row : ActivationCodeRow} (member : row ∈ store.codes) (other : row.id ≠ code.id) :
    row ∈ store'.codes := by
  rw [completed.written.codes]
  refine mem_updateWhere.mpr ⟨row, member, ?_⟩
  simp only [beq_false_of_ne other, Bool.false_and, Bool.false_eq_true, if_false]

theorem Completed.coupled (inv : EnrollmentInvariant codec start store)
    (completed : Completed codec store write challenge code store') :
    ∀ row ∈ store'.challenges, ∃ code ∈ store'.codes, Coupled row code := by
  obtain ⟨own, ownMem, coupled⟩ := inv.coupled challenge completed.challengeMem
  cases eq_of_key inv.codeIds ownMem completed.codeMem (coupled.id.trans completed.codeId.symm)
  intro row member
  rcases completed.challenge_cases inv member with rfl | ⟨stored, other⟩
  · refine ⟨_, completed.consumed_mem, coupled.id, coupled.organization, coupled.tenant, ?_, ?_⟩
    · intro active
      cases active
    · exact ⟨fun _ => rfl, fun _ => rfl⟩
  · obtain ⟨theirs, theirsMem, theirsCoupled⟩ := inv.coupled row stored
    refine ⟨theirs, completed.other_code theirsMem ?_, theirsCoupled⟩
    intro same
    have shared : row.activationCodeId = challenge.activationCodeId :=
      (theirsCoupled.id.symm.trans same).trans completed.codeId
    cases eq_of_key inv.challengeCodes stored completed.challengeMem shared
    exact other completed.challengeId

theorem EnrollmentChange.coupled (inv : EnrollmentInvariant codec start store)
    (change : EnrollmentChange codec store call answer store')
    (unissued : ∀ record, answer ≠ .completion (.issued record)) :
    ∀ row ∈ store'.challenges, ∃ code ∈ store'.codes, Coupled row code := by
  have kept := change.codesKept inv.codeIds
  have unconsuming := change.unconsuming unissued
  have same : ∀ row ∈ store.challenges, ∃ code ∈ store'.codes, Coupled row code := by
    intro row member
    obtain ⟨code, stored, coupled⟩ := inv.coupled row member
    exact coupled.kept inv.codeIds kept unconsuming stored
  cases change with
  | quiet | inserted | bound | revoked | elsewhere => exact same
  | issued => exact absurd rfl (unissued _)
  | @reserved credentialHash write now scan activation audits found usable unique =>
      intro row member
      rcases mem_concat.mp member with member | rfl
      · exact same row member
      · obtain ⟨stored, -⟩ := presented_mem found
        have usableStatus : activation.status.open_ = true := by
          rw [ActivationCodeRow.usableBy, Bool.and_eq_true] at usable
          cases binding : activation.bootstrapInstanceId with
          | none =>
              have active := usable.1
              rw [binding] at active
              rw [beq_iff_eq.mp active]
              rfl
          | some bound =>
              have reserved := usable.1
              rw [binding] at reserved
              rw [beq_iff_eq.mp (Bool.and_eq_true_iff.mp reserved).1]
              rfl
        refine ⟨_, mem_updateWhere.mpr ⟨activation, stored, rfl⟩, ?_⟩
        simp only [usableStatus, beq_self_eq_true, Bool.and_self, if_true]
        refine ⟨rfl, rfl, rfl, ?_, ?_⟩
        · intro active
          cases active
        · constructor
          · intro issued
            cases issued
          · intro consumed
            cases consumed
  | expired =>
      intro row member
      obtain ⟨old, stored, rfl⟩ := mem_updateWhere.mp member
      obtain ⟨code, codeMem, coupled⟩ := same old stored
      refine ⟨code, codeMem, ?_⟩
      split
      · rename_i chosen
        refine ⟨coupled.id, coupled.organization, coupled.tenant, coupled.presented, ?_⟩
        rw [← coupled.issued]
        constructor
        · intro issued
          cases issued
        · intro issued
          simp [issued] at chosen
      · exact coupled

theorem Completed.progress (inv : EnrollmentInvariant codec start store)
    (completed : Completed codec store write challenge code store')
    (kept : ∀ row record, Issues store row record → Issues store' row record) :
    ∀ row ∈ store'.challenges, Unissued row ∨ ∃ record, Issues store' row record := by
  intro row member
  rcases completed.challenge_cases inv member with rfl | ⟨stored, -⟩
  · exact .inr ⟨_, completed.issues⟩
  · rcases inv.progress row stored with unissued | ⟨record, issues⟩
    · exact .inl unissued
    · exact .inr ⟨record, kept row record issues⟩

theorem EnrollmentChange.progress (inv : EnrollmentInvariant codec start store)
    (change : EnrollmentChange codec store call answer store')
    (unissued : ∀ record, answer ≠ .completion (.issued record)) :
    ∀ row ∈ store'.challenges, Unissued row ∨ ∃ record, Issues store' row record := by
  have same : ∀ row ∈ store.challenges, Unissued row ∨ ∃ record, Issues store' row record := by
    intro row member
    rcases inv.progress row member with blank | ⟨record, issues⟩
    · exact .inl blank
    · exact .inr ⟨record, issues.kept change⟩
  cases change with
  | quiet | inserted | bound | revoked | elsewhere => exact same
  | issued => exact absurd rfl (unissued _)
  | reserved found usable unique =>
      intro row member
      rcases mem_concat.mp member with member | rfl
      · exact same row member
      · exact .inl ⟨.inl rfl, rfl, rfl, rfl⟩
  | expired =>
      intro row member
      obtain ⟨old, stored, rfl⟩ := mem_updateWhere.mp member
      split
      · rename_i chosen
        rcases inv.progress old stored with blank | ⟨record, issues⟩
        · exact .inl ⟨.inr rfl, blank.deviceId, blank.certificateId, blank.completionRequestId⟩
        · simp [issues.status] at chosen
      · exact same old stored

theorem EnrollmentChange.completes (change : EnrollmentChange codec store call answer store') :
    (∀ record, answer ≠ .completion (.issued record)) ∨
      ∃ write challenge code, answer = .completion (.issued write.record) ∧
        Completed codec store write challenge code store' := by
  cases change with
  | issued found known organization tenant challenged reserved timely valid written =>
      obtain ⟨challengeMem, challengeId, codeMem, codeId⟩ := challengeWithCode_some found
      exact .inr ⟨_, _, _, rfl, challengeMem, challengeId, codeMem, codeId, challenged, reserved,
        tenant, written⟩
  | quiet silent =>
      left
      intro record same
      subst same
      cases silent
  | inserted | bound | reserved | revoked | expired | elsewhere =>
      left
      intro record same
      cases same

theorem EnrollmentChange.consumed (inv : EnrollmentInvariant codec start store)
    (change : EnrollmentChange codec store call answer store') :
    ∀ row ∈ store'.codes, row.status = .consumed →
      ∃ other ∈ store'.challenges, other.activationCodeId = row.id := by
  have earlier : ∀ row ∈ store.codes, row.status = .consumed →
      ∃ other ∈ store'.challenges, other.activationCodeId = row.id := by
    intro row member consumed
    obtain ⟨other, stored, named⟩ := inv.consumed row member consumed
    obtain ⟨other', stored', kept⟩ := change.challengesKept.onward other stored
    exact ⟨other', stored', kept.activationCodeId.trans named⟩
  intro row member consumed
  rcases change.completes with unissued | ⟨write, challenge, code, -, completed⟩
  · obtain ⟨old, stored, named, status⟩ := change.unconsuming unissued row member consumed
    rw [← named]
    exact earlier old stored status
  · rcases completed.code_cases inv member with rfl | ⟨stored, -⟩
    · exact ⟨_, completed.issued_mem, completed.codeId.symm⟩
    · exact earlier row stored consumed

theorem completedAs_iff :
    row.completedAs codec tenantId requestId = true ↔ row.tenantId = tenantId ∧
      ∃ id, row.completionRequestId = some id ∧ codec.collate id = codec.collate requestId := by
  simp only [EnrollmentChallengeRow.completedAs, Bool.and_eq_true, beq_iff_eq, Option.any_eq_true]

theorem Completed.sole (completed : Completed codec store write challenge code store')
    (member : row ∈ store.challenges) (other : row.id ≠ write.challengeId)
    (own : (challenge.issuedBy codec write).completedAs codec tenantId requestId = true) :
    row.completedAs codec tenantId requestId = false := by
  obtain ⟨sameTenant, id, named, collated⟩ := completedAs_iff.mp own
  cases named
  have free := completed.written.sole row member other
  rw [← Bool.not_eq_true, completedAs_iff] at free ⊢
  intro ⟨tenant, theirs, theirsNamed, theirsCollated⟩
  exact free ⟨tenant.trans sameTenant.symm, theirs, theirsNamed,
    theirsCollated.trans collated.symm⟩

theorem Completed.completions (inv : EnrollmentInvariant codec start store)
    (completed : Completed codec store write challenge code store') :
    ∀ a ∈ store'.challenges, ∀ b ∈ store'.challenges, ∀ tenantId requestId,
      a.completedAs codec tenantId requestId = true →
      b.completedAs codec tenantId requestId = true → a.id = b.id := by
  intro a memberA b memberB tenantId requestId completedA completedB
  rcases completed.challenge_cases inv memberA with rfl | ⟨storedA, otherA⟩
  · rcases completed.challenge_cases inv memberB with rfl | ⟨storedB, otherB⟩
    · rfl
    · rw [completed.sole storedB otherB completedA] at completedB
      cases completedB
  · rcases completed.challenge_cases inv memberB with rfl | ⟨storedB, otherB⟩
    · rw [completed.sole storedA otherA completedB] at completedA
      cases completedA
    · exact inv.completions a storedA b storedB tenantId requestId completedA completedB

theorem EnrollmentChange.completed_origin (inv : EnrollmentInvariant codec start store)
    (change : EnrollmentChange codec store call answer store')
    (unissued : ∀ record, answer ≠ .completion (.issued record)) (member : row ∈ store'.challenges)
    (named : row.completedAs codec tenantId requestId = true) : row ∈ store.challenges := by
  cases change with
  | quiet | inserted | bound | revoked | elsewhere => exact member
  | issued => exact absurd rfl (unissued _)
  | reserved found usable unique =>
      rcases mem_concat.mp member with member | rfl
      · exact member
      · obtain ⟨-, id, blank, -⟩ := completedAs_iff.mp named
        cases blank
  | expired =>
      obtain ⟨old, stored, rfl⟩ := mem_updateWhere.mp member
      split at named
      · rename_i chosen
        rcases inv.progress old stored with blank | ⟨record, issues⟩
        · obtain ⟨-, id, completion, -⟩ := completedAs_iff.mp named
          cases blank.completionRequestId.symm.trans completion
        · simp [issues.status] at chosen
      · split
        · contradiction
        · exact stored

theorem EnrollmentChange.same_identities (change : EnrollmentChange codec store call answer store')
    (unissued : ∀ record, answer ≠ .completion (.issued record)) :
    store'.topology.deviceIds = store.topology.deviceIds ∧
      store'.topology.keyOwners = store.topology.keyOwners ∧
      store'.certificates = store.certificates := by
  cases change with
  | quiet | inserted | bound | reserved | revoked | expired => exact ⟨rfl, rfl, rfl⟩
  | issued => exact absurd rfl (unissued _)
  | elsewhere same => exact ⟨same.devices, same.keys, rfl⟩

theorem EnrollmentChange.owned (change : EnrollmentChange codec store call answer store') {κ : Type}
    (rows : EnrollmentStore → List κ)
    (same : (∀ record, answer ≠ .completion (.issued record)) → rows store' = rows store)
    (names : EnrollmentChallengeRow → EnrollmentCompletionRecord → κ → Prop)
    (appended : ∀ write challenge code, Completed codec store write challenge code store' →
      ∃ row, rows store' = rows store ++ [row] ∧
        names (challenge.issuedBy codec write) write.record row)
    (earlier : ∀ row ∈ rows store, row ∈ rows start ∨
      ∃ challenge record, Issues store challenge record ∧ names challenge record row) :
    ∀ row ∈ rows store', row ∈ rows start ∨
      ∃ challenge record, Issues store' challenge record ∧ names challenge record row := by
  have lift : ∀ row ∈ rows store, row ∈ rows start ∨
      ∃ challenge record, Issues store' challenge record ∧ names challenge record row := by
    intro row member
    rcases earlier row member with first | ⟨challenge, record, issues, named⟩
    · exact .inl first
    · exact .inr ⟨challenge, record, issues.kept change, named⟩
  intro row member
  rcases change.completes with unissued | ⟨write, challenge, code, -, completed⟩
  · rw [same unissued] at member
    exact lift row member
  · obtain ⟨added, grown, named⟩ := appended write challenge code completed
    rw [grown] at member
    rcases mem_concat.mp member with member | rfl
    · exact lift row member
    · exact .inr ⟨_, _, completed.issues, named⟩

theorem EnrollmentChange.invariant (inv : EnrollmentInvariant codec start store)
    (change : EnrollmentChange codec store call answer store') :
    EnrollmentInvariant codec start store' := by
  have codes := change.codesKept inv.codeIds
  have challenges := change.challengesKept
  have grow := change.identitiesGrow
  have kept : ∀ row record, Issues store row record → Issues store' row record :=
    fun row record issues => issues.kept change
  have coupled : ∀ row ∈ store'.challenges, ∃ code ∈ store'.codes, Coupled row code := by
    rcases change.completes with unissued | ⟨write, challenge, code, -, completed⟩
    · exact change.coupled inv unissued
    · exact completed.coupled inv
  have progress : ∀ row ∈ store'.challenges, Unissued row ∨ ∃ record, Issues store' row record := by
    rcases change.completes with unissued | ⟨write, challenge, code, -, completed⟩
    · exact change.progress inv unissued
    · exact completed.progress inv kept
  refine ⟨codes.ids inv.codeIds, codes.hashes inv.codeHashes, challenges.ids inv.challengeIds,
    challenges.codes inv.challengeCodes, coupled, change.consumed inv, progress, ?_, ?_, ?_, ?_⟩
  · rcases change.completes with unissued | ⟨write, challenge, code, -, completed⟩
    · intro a memberA b memberB tenantId requestId completedA completedB
      exact inv.completions a (change.completed_origin inv unissued memberA completedA) b
        (change.completed_origin inv unissued memberB completedB) tenantId requestId completedA
        completedB
    · exact completed.completions inv
  · exact change.owned (·.topology.deviceIds) (fun unissued =>
      (change.same_identities unissued).1) (fun challenge _ id => challenge.deviceId = some id)
      (fun write challenge code completed => ⟨_, completed.written.devices, rfl⟩) inv.devices
  · exact change.owned (·.topology.keyOwners) (fun unissued =>
      (change.same_identities unissued).2.1) (fun challenge record owner =>
        record.deviceKeyId = owner.1 ∧ challenge.deviceId = some owner.2)
      (fun write challenge code completed => ⟨_, completed.written.keys, rfl, rfl⟩) inv.keys
  · have forms : ∀ store : EnrollmentStore, (store.certificates.map (·.issuedForm)).map (·.id) =
        store.certificates.map (·.id) := by
      intro store
      rw [List.map_map]
      rfl
    have earlier : ∀ id ∈ store.certificates.map (·.id), id ∈ start.certificates.map (·.id) ∨
        ∃ challenge record, Issues store challenge record ∧ record.certificateId = id := by
      intro id member
      obtain ⟨certificate, stored, rfl⟩ := List.mem_map.mp member
      exact inv.certificates certificate stored
    intro certificate member
    refine change.owned (fun store => store.certificates.map (·.id))
      (fun unissued => by rw [(change.same_identities unissued).2.2])
      (fun _ record id => record.certificateId = id) ?_ earlier certificate.id
      (List.mem_map_of_mem member)
    intro write challenge code completed
    refine ⟨write.certificateId, ?_, rfl⟩
    rw [← forms store', completed.written.certificates, List.map_append, forms store]
    rfl

theorem enrollmentStep_invariant (inv : EnrollmentInvariant codec start store)
    (call : EnrollmentCall) :
    EnrollmentInvariant codec start (enrollmentStep codec store call) := by
  rcases enrollmentStep_change call inv.unproved with same | ⟨answer, -, change⟩
  · rwa [same]
  · exact change.invariant inv

theorem run_enrollment_invariant (inv : EnrollmentInvariant codec start store)
    (calls : List EnrollmentCall) :
    EnrollmentInvariant codec start (run (enrollmentStep codec) store calls) :=
  run_invariant (P := EnrollmentInvariant codec start)
    (fun _ call kept => enrollmentStep_invariant kept call) inv calls

end CandyCloud
