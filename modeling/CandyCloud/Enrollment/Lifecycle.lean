import CandyCloud.Enrollment.Calls

/-! # Codes, challenges and devices in step

A challenge belongs to one code and is issued exactly when its code is consumed; the rows of the
issued device stay readable for ever.
-/

namespace CandyCloud

open Foundation

inductive ActivationStatus.Moves : ActivationStatus → ActivationStatus → Prop where
  | stays (status : ActivationStatus) : Moves status status
  | reserve : Moves .active .reserved
  | consume : Moves .reserved .consumed
  | revoke {status : ActivationStatus} (usable : status.open_ = true) : Moves status .revoked
  | expire {status : ActivationStatus} (usable : status.open_ = true) : Moves status .expired

variable {status : ActivationStatus} {row : ActivationCodeRow}
  {deviceRecordId certificateId : Option Uuid}

theorem ActivationStatus.Moves.of_closed {status' : ActivationStatus} (moves : status.Moves status')
    (closed : status.open_ = false) : status' = status := by
  cases moves with
  | stays => rfl
  | reserve | consume => cases closed
  | revoke usable | expire usable => cases usable.symm.trans closed

theorem ActivationStatus.Moves.of_active (moves : status.Moves .active) : status = .active := by
  cases moves
  rfl

/-- What a code keeps from one step to the next. -/
structure CodeKept (row row' : ActivationCodeRow) : Prop where
  id : row'.id = row.id
  organizationId : row'.organizationId = row.organizationId
  tenantId : row'.tenantId = row.tenantId
  codeHash : row'.codeHash = row.codeHash
  expiresAt : row'.expiresAt = row.expiresAt
  binding : row.bootstrapInstanceId.isSome = true →
    row'.bootstrapInstanceId = row.bootstrapInstanceId ∧
      row'.enrollmentCredentialHash = row.enrollmentCredentialHash
  moves : row.status.Moves row'.status

theorem CodeKept.refl (row : ActivationCodeRow) : CodeKept row row :=
  ⟨rfl, rfl, rfl, rfl, rfl, fun _ => ⟨rfl, rfl⟩, .stays row.status⟩

/-- What a challenge keeps: all of it once it is issued. -/
structure ChallengeKept (row row' : EnrollmentChallengeRow) : Prop where
  id : row'.id = row.id
  activationCodeId : row'.activationCodeId = row.activationCodeId
  organizationId : row'.organizationId = row.organizationId
  tenantId : row'.tenantId = row.tenantId
  operationalPublicKey : row'.operationalPublicKey = row.operationalPublicKey
  transcript : row'.transcript = row.transcript
  issued : row.status = .issued → row' = row

theorem ChallengeKept.refl (row : EnrollmentChallengeRow) : ChallengeKept row row :=
  ⟨rfl, rfl, rfl, rfl, rfl, rfl, fun _ => rfl⟩

variable {codec : EnrollmentCodec} {start store store' : EnrollmentStore}
  {call : EnrollmentCall} {answer : EnrollmentAnswer}

/-- Every code is kept, and a code that was not there is `ACTIVE` and unbound. -/
structure CodesKept (codes codes' : List ActivationCodeRow) : Prop where
  onward : ∀ row ∈ codes, ∃ row' ∈ codes', CodeKept row row'
  origin : ∀ row' ∈ codes', (∃ row ∈ codes, CodeKept row row') ∨
    row'.status = .active ∧ row'.bootstrapInstanceId = none
  ids : (codes.map (·.id)).Nodup → (codes'.map (·.id)).Nodup
  hashes : (codes.map (·.codeHash)).Nodup → (codes'.map (·.codeHash)).Nodup

theorem CodesKept.refl (codes : List ActivationCodeRow) : CodesKept codes codes :=
  ⟨fun row member => ⟨row, member, .refl row⟩, fun row member => .inl ⟨row, member, .refl row⟩,
    id, id⟩

theorem CodesKept.update {selected : ActivationCodeRow → Bool}
    {set : ActivationCodeRow → ActivationCodeRow} {codes : List ActivationCodeRow}
    (kept : ∀ row ∈ codes, selected row = true → CodeKept row (set row)) :
    CodesKept codes (updateWhere selected set codes) := by
  have each : ∀ row ∈ codes, CodeKept row (if selected row then set row else row) := by
    intro row member
    cases chosen : selected row with
    | false => simpa using CodeKept.refl row
    | true => simpa using kept row member chosen
  have column : ∀ {κ : Type} (key : ActivationCodeRow → κ),
      (∀ row row', CodeKept row row' → key row' = key row) →
      (updateWhere selected set codes).map key = codes.map key := by
    intro κ key same
    simp only [updateWhere, List.map_map]
    exact List.map_congr_left fun row member => same row _ (each row member)
  constructor
  · intro row member
    exact ⟨_, mem_updateWhere.mpr ⟨row, member, rfl⟩, each row member⟩
  · intro row' member
    obtain ⟨row, old, rfl⟩ := mem_updateWhere.mp member
    exact .inl ⟨row, old, each row old⟩
  · intro unique
    rwa [column (·.id) fun _ _ same => same.id]
  · intro unique
    rwa [column (·.codeHash) fun _ _ same => same.codeHash]

theorem CodesKept.insert {codes codes' : List ActivationCodeRow} (kept : CodesKept codes codes')
    (fresh : row.status = .active ∧ row.bootstrapInstanceId = none)
    (unique : ∀ old ∈ codes', row.conflict old = false) : CodesKept codes (codes' ++ [row]) := by
  have apart : ∀ old ∈ codes', row.id ≠ old.id ∧ row.codeHash ≠ old.codeHash := by
    intro old member
    have free := unique old member
    rw [ActivationCodeRow.conflict, Bool.or_eq_false_iff, beq_eq_false_iff_ne,
      beq_eq_false_iff_ne] at free
    exact free
  constructor
  · intro old member
    obtain ⟨old', member', same⟩ := kept.onward old member
    exact ⟨old', List.mem_append_left _ member', same⟩
  · intro old member
    rcases mem_concat.mp member with member | rfl
    · exact kept.origin old member
    · exact .inr fresh
  · intro distinct
    exact nodup_concat_key (kept.ids distinct) fun old member => (apart old member).1
  · intro distinct
    exact nodup_concat_key (kept.hashes distinct) fun old member => (apart old member).2

theorem revoke_kept (selected : ActivationCodeRow → Bool) :
    CodesKept store.codes (store.revokeCodes selected).codes := by
  refine CodesKept.update fun row _ chosen => ?_
  rw [Bool.and_eq_true] at chosen
  exact ⟨rfl, rfl, rfl, rfl, rfl, fun _ => ⟨rfl, rfl⟩, .revoke chosen.2⟩

theorem reserve_kept (id : Uuid) (now : Instant) :
    CodesKept store.codes (store.reserveCode id now).codes := by
  refine CodesKept.update fun row _ chosen => ?_
  rw [Bool.and_eq_true] at chosen
  refine ⟨rfl, rfl, rfl, rfl, rfl, fun _ => ⟨rfl, rfl⟩, ?_⟩
  cases status : row.status with
  | active => exact .reserve
  | reserved => exact .stays _
  | consumed | revoked | expired => simp [status, ActivationStatus.open_] at chosen

theorem bind_kept (distinct : (store.codes.map (·.id)).Nodup) (member : row ∈ store.codes)
    (unbound : row.bootstrapInstanceId = none) (write : BootstrapExchangeWrite) (now : Instant) :
    CodesKept store.codes (store.bindInstallation row.id write now).codes := by
  refine CodesKept.update fun other old chosen => ?_
  rw [Bool.and_eq_true, beq_iff_eq, beq_iff_eq] at chosen
  cases eq_of_key distinct old member chosen.1
  refine ⟨rfl, rfl, rfl, rfl, rfl, ?_, ?_⟩
  · intro bound
    rw [unbound] at bound
    cases bound
  · rw [chosen.2]
    exact .reserve

theorem consume_kept (id : Uuid) (instant : Instant) :
    CodesKept store.codes (updateWhere (fun row => row.id == id && row.status == .reserved)
      (·.consumedAt_ instant) store.codes) := by
  refine CodesKept.update fun row _ chosen => ?_
  rw [Bool.and_eq_true, beq_iff_eq, beq_iff_eq] at chosen
  refine ⟨rfl, rfl, rfl, rfl, rfl, fun _ => ⟨rfl, rfl⟩, ?_⟩
  rw [chosen.2]
  exact .consume

theorem expire_kept (tenantId : Uuid) (now : Instant) :
    CodesKept store.codes (store.expire tenantId now).codes := by
  refine CodesKept.update fun row _ chosen => ?_
  rw [Bool.and_eq_true, Bool.and_eq_true] at chosen
  exact ⟨rfl, rfl, rfl, rfl, rfl, fun _ => ⟨rfl, rfl⟩, .expire chosen.1.2⟩

theorem code_mem {codeHash : Hash} (found : store.code codeHash = some row)
    : row ∈ store.codes ∧ row.codeHash = codeHash := by
  refine ⟨List.mem_of_find?_eq_some found, ?_⟩
  have named := List.find?_some found
  exact beq_iff_eq.mp named

theorem EnrollmentChange.codesKept (distinct : (store.codes.map (·.id)).Nodup)
    (change : EnrollmentChange codec store call answer store') :
    CodesKept store.codes store'.codes := by
  cases change with
  | quiet silent => exact .refl store.codes
  | inserted unique => exact (revoke_kept _).insert ⟨rfl, rfl⟩ unique
  | bound found usable unbound => exact bind_kept distinct (code_mem found).1 unbound _ _
  | reserved found usable unique => exact reserve_kept _ _
  | issued found known organization tenant challenged reserved timely valid written =>
      rw [written.codes]
      exact consume_kept _ _
  | revoked => exact revoke_kept _
  | expired => exact expire_kept _ _
  | elsewhere same => exact .refl store.codes

structure ChallengesKept (rows rows' : List EnrollmentChallengeRow) : Prop where
  onward : ∀ row ∈ rows, ∃ row' ∈ rows', ChallengeKept row row'
  ids : (rows.map (·.id)).Nodup → (rows'.map (·.id)).Nodup
  codes : (rows.map (·.activationCodeId)).Nodup → (rows'.map (·.activationCodeId)).Nodup

theorem ChallengesKept.refl (rows : List EnrollmentChallengeRow) : ChallengesKept rows rows :=
  ⟨fun row member => ⟨row, member, .refl row⟩, id, id⟩

theorem ChallengesKept.update {selected : EnrollmentChallengeRow → Bool}
    {set : EnrollmentChallengeRow → EnrollmentChallengeRow} (rows : List EnrollmentChallengeRow)
    (kept : ∀ row, selected row = true → ChallengeKept row (set row))
    (ids : ∀ row, (set row).id = row.id)
    (codes : ∀ row, (set row).activationCodeId = row.activationCodeId) :
    ChallengesKept rows (updateWhere selected set rows) := by
  constructor
  · intro row member
    refine ⟨_, mem_updateWhere.mpr ⟨row, member, rfl⟩, ?_⟩
    cases chosen : selected row with
    | false => simpa using ChallengeKept.refl row
    | true => simpa using kept row chosen
  · intro unique
    rwa [map_updateWhere ids]
  · intro unique
    rwa [map_updateWhere codes]

theorem ChallengesKept.insert {rows : List EnrollmentChallengeRow} {row : EnrollmentChallengeRow}
    (unique : ∀ old ∈ rows, row.conflict codec old = false) :
    ChallengesKept rows (rows ++ [row]) := by
  have apart : ∀ old ∈ rows, row.id ≠ old.id ∧ row.activationCodeId ≠ old.activationCodeId := by
    intro old member
    have free := unique old member
    rw [EnrollmentChallengeRow.conflict, Bool.or_eq_false_iff, Bool.or_eq_false_iff,
      beq_eq_false_iff_ne, beq_eq_false_iff_ne] at free
    exact free.1
  constructor
  · exact fun old member => ⟨old, List.mem_append_left _ member, .refl old⟩
  · intro distinct
    exact nodup_concat_key distinct fun old member => (apart old member).1
  · intro distinct
    exact nodup_concat_key distinct fun old member => (apart old member).2

theorem EnrollmentChange.challengesKept (change : EnrollmentChange codec store call answer store') :
    ChallengesKept store.challenges store'.challenges := by
  cases change with
  | quiet | inserted | bound | revoked | elsewhere => exact .refl store.challenges
  | reserved found usable unique => exact .insert unique
  | issued found known organization tenant challenged reserved timely valid written =>
      rw [written.challenges]
      refine .update _ ?_ (fun _ => rfl) fun _ => rfl
      intro row chosen
      rw [Bool.and_eq_true, beq_iff_eq, beq_iff_eq] at chosen
      refine ⟨rfl, rfl, rfl, rfl, rfl, rfl, ?_⟩
      intro issued
      cases chosen.2.symm.trans issued
  | expired =>
      refine .update _ ?_ (fun _ => rfl) fun _ => rfl
      intro row chosen
      refine ⟨rfl, rfl, rfl, rfl, rfl, rfl, ?_⟩
      intro issued
      simp [issued] at chosen

/-- Devices, keys and certificates are never removed. -/
structure IdentitiesGrow (store store' : EnrollmentStore) : Prop where
  tenants : store'.topology.tenantIds = store.topology.tenantIds
  identities : store.identities <+: store'.identities
  certificates : store.certificates.map (·.issuedForm) <+: store'.certificates.map (·.issuedForm)
  devices : store.topology.deviceIds <+: store'.topology.deviceIds
  keys : store.topology.keyOwners <+: store'.topology.keyOwners
  keyMaterials : store.keyMaterials.map (·.id) <+: store'.keyMaterials.map (·.id)

theorem EnrollmentChange.identitiesGrow (change : EnrollmentChange codec store call answer store') :
    IdentitiesGrow store store' := by
  cases change with
  | quiet | inserted | bound | reserved | revoked | expired =>
      exact ⟨rfl, List.prefix_rfl, List.prefix_rfl, List.prefix_rfl, List.prefix_rfl,
        List.prefix_rfl⟩
  | elsewhere kept =>
      refine ⟨kept.tenants, List.prefix_rfl, List.prefix_rfl, ?_, ?_, List.prefix_rfl⟩
      · exact ⟨[], (List.append_nil _).trans kept.devices.symm⟩
      · exact ⟨[], (List.append_nil _).trans kept.keys.symm⟩
  | issued found known organization tenant challenged reserved timely valid written =>
      exact ⟨written.tenants, ⟨_, written.identities.symm⟩, ⟨_, written.certificates.symm⟩,
        ⟨_, written.devices.symm⟩, ⟨_, written.keys.symm⟩, ⟨_, written.keyMaterials.symm⟩⟩

/-- The record of a completion, from the identity of its device and from the
    unchanging columns of its certificate. -/
def completionRecord (device : DeviceIdentityRow) (certificate : DeviceCertificateRow) :
    EnrollmentCompletionRecord :=
  { deviceId := device.deviceId
    deviceKeyId := certificate.deviceKeyId
    certificateId := certificate.id
    certificateDer := certificate.certificateDer
    certificateChainPem := certificate.certificateChainPem
    notAfter := certificate.notAfter }

theorem loadCompletionRecord_ok {record : EnrollmentCompletionRecord} :
    store.loadCompletionRecord deviceRecordId certificateId = .ok record ↔
      ∃ deviceId id device certificate,
        deviceRecordId = some deviceId ∧ certificateId = some id ∧
        store.identities.find? (fun row => row.id == deviceId) = some device ∧
        (store.certificates.map (·.issuedForm)).find?
          (fun row => row.id == id && row.deviceId == deviceId) = some certificate ∧
        completionRecord device certificate = record := by
  simp only [EnrollmentStore.loadCompletionRecord, orElse_bind_ok, pure_ok, List.find?_map]
  constructor
  · rintro ⟨deviceId, named, id, identified, device, found, certificate, joined, rfl⟩
    refine ⟨deviceId, id, device, certificate.issuedForm, named, identified, found, ?_, rfl⟩
    exact Option.map_eq_some_iff.mpr ⟨certificate, joined, rfl⟩
  · rintro ⟨deviceId, id, device, certificate, named, identified, found, joined, rfl⟩
    obtain ⟨row, stored, rfl⟩ := Option.map_eq_some_iff.mp joined
    exact ⟨deviceId, named, id, identified, device, found, row, stored, rfl⟩

theorem IdentitiesGrow.record (grow : IdentitiesGrow store store')
    {record : EnrollmentCompletionRecord}
    (loaded : store.loadCompletionRecord deviceRecordId certificateId = .ok record) :
    store'.loadCompletionRecord deviceRecordId certificateId = .ok record := by
  obtain ⟨deviceId, id, device, certificate, named, identified, found, joined, whole⟩ :=
    loadCompletionRecord_ok.mp loaded
  exact loadCompletionRecord_ok.mpr ⟨deviceId, id, device, certificate, named, identified,
    grow.identities.find?_eq_some found, grow.certificates.find?_eq_some joined, whole⟩

theorem DeviceIssued.record {write : EnrollmentCompletionWrite}
    {challenge : EnrollmentChallengeRow} {code : ActivationCodeRow}
    (written : DeviceIssued codec store write challenge code store') :
    store'.loadCompletionRecord (some write.deviceRecordId) (some write.certificateId) =
      .ok write.record := by
  refine loadCompletionRecord_ok.mpr ⟨write.deviceRecordId, write.certificateId,
    ⟨write.deviceRecordId, write.deviceIdentity⟩, write.certificate challenge.assuranceLevel,
    rfl, rfl, ?_, ?_, rfl⟩
  · rw [written.identities, List.find?_append, List.find?_eq_none.mpr ?_]
    · simp
    · intro old member same
      exact written.freshIdentity old member (beq_iff_eq.mp same)
  · rw [written.certificates, List.find?_append, List.find?_eq_none.mpr ?_]
    · simp [EnrollmentCompletionWrite.certificate]
    · intro form member same
      obtain ⟨old, stored, rfl⟩ := List.mem_map.mp member
      rw [Bool.and_eq_true, beq_iff_eq] at same
      exact written.freshCertificate old stored same.1

end CandyCloud
