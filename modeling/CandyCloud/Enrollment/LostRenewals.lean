import CandyCloud.Enrollment.RenewalRequests

/-! # Renewals whose response is lost

The device still has the previous certificate then, and asks again with the same request id.
-/

namespace CandyCloud

open Foundation

/-- The row holds a certificate of the issuer, signed under the row's serial number. -/
def DeviceCertificateIssuer.Signs (issuer : DeviceCertificateIssuer) (row : DeviceCertificateRow) :
    Prop :=
  row.issuerKeyId = issuer.issuerKeyId ∧
    ∃ params, params.serialNumber = row.serialNumber ∧
      issuer.sign params = some row.certificateDer

/-- The issuers of a deployment, one after the other. -/
abbrev Issuers := Set DeviceCertificateIssuer

def Issuers.Signed (issuers : Issuers) (row : DeviceCertificateRow) : Prop :=
  ∃ issuer ∈ issuers, issuer.Signs row

/-- A certificate can be read back: one issuer signed it, for one set of parameters. -/
def Issuers.Readable (issuers : Issuers) : Prop :=
  ∀ issuer ∈ issuers, ∀ issuer' ∈ issuers, ∀ params params' certificateDer,
    issuer.sign params = some certificateDer → issuer'.sign params' = some certificateDer →
      issuer.issuerKeyId = issuer'.issuerKeyId ∧ params = params'

/-- What a call would insert was signed by an issuer. -/
def CertificateCall.Signed (issuers : Issuers) : CertificateCall → Prop
  | .enroll (.complete write _ _) =>
      ∀ assuranceLevel, issuers.Signed (write.certificate assuranceLevel)
  | .enroll _ => True
  | .renew write _ => issuers.Signed write.certificate

theorem Issuers.Signed.of_form {issuers : Issuers} {row row' : DeviceCertificateRow}
    (signed : issuers.Signed row) (form : row'.issuedForm = row.issuedForm) :
    issuers.Signed row' := by
  have key : row'.issuerKeyId = row.issuerKeyId := congrArg (·.issuerKeyId) form
  have serial : row'.serialNumber = row.serialNumber := congrArg (·.serialNumber) form
  have der : row'.certificateDer = row.certificateDer := congrArg (·.certificateDer) form
  obtain ⟨issuer, known, issued, params, numbered, signed⟩ := signed
  refine ⟨issuer, known, key.trans issued, params, ?_, ?_⟩
  · rw [serial]
    exact numbered
  · rw [der]
    exact signed

/-- A call leaves the rows, or it supersedes active ones and appends a new one. -/
inductive CertificatesChange (codec : EnrollmentCodec) (call : CertificateCall)
    (rows : List DeviceCertificateRow) : List DeviceCertificateRow → Prop where
  | kept : CertificatesChange codec call rows rows
  | added {set : DeviceCertificateRow → DeviceCertificateRow} {row : DeviceCertificateRow}
      (supersedes : OnlySupersedes set) (ended : ∀ old, old.status ≠ .active → set old = old)
      (signs : ∀ issuers, call.Signed issuers → issuers.Signed row)
      (apart : ∀ old ∈ rows, row.conflict codec old = false) :
      CertificatesChange codec call rows (rows.map set ++ [row])

variable {codec : EnrollmentCodec}

theorem issueDevice_apart {store store' : EnrollmentStore} {write : EnrollmentCompletionWrite}
    {challenge : EnrollmentChallengeRow} {code : ActivationCodeRow} {fresh : Uuid → Uuid}
    {clock : Instant}
    (done : store.issueDevice codec write challenge code fresh clock = .ok store') :
    ∀ old ∈ store.certificates,
      (write.certificate challenge.assuranceLevel).conflict codec old = false := by
  simp only [EnrollmentStore.issueDevice, bind_ok] at done
  obtain ⟨-, -, enrolled, device, keyed, key, certified, certificate, -⟩ := done
  obtain ⟨-, rfl⟩ := insertDevice_rows device
  obtain ⟨-, rfl⟩ := insertDeviceKey_rows key
  simp only [EnrollmentStore.insertCertificate, orElse_bind_ok, insertRow_some] at certificate
  obtain ⟨rows, ⟨apart, -⟩, -⟩ := certificate
  exact apart

theorem retired_ended (gone : ReplacedIdentity) (instant : Instant) {row : DeviceCertificateRow}
    (ended : row.status ≠ .active) : retiredCertificate gone instant row = row := by
  have unchosen : retires gone row = false := by
    rw [retires, Bool.and_eq_false_iff]
    exact .inr (beq_eq_false_iff_ne.mpr ended)
  rw [retiredCertificate, unchosen]
  rfl

theorem completion_change {store after : EnrollmentStore} {write : EnrollmentCompletionWrite}
    {fresh : Uuid → Uuid} {clock : Instant} {outcome : EnrollmentCompletionOutcome}
    (done : completeEnrollment codec store write fresh clock = .ok (outcome, after)) :
    CertificatesChange codec (.enroll (.complete write fresh clock)) store.certificates
      after.certificates := by
  rcases completeEnrollment_cases done with ⟨-, rfl⟩ | ⟨challenge, code, -, -, -, -, -, -, -, -,
    -, issues⟩
  · exact .kept
  · obtain ⟨gone, issued⟩ := issueDevice_rows issues
    have supersedes := retired_supersedes gone write.issuedAt
    have form := supersedes.form (write.certificate challenge.assuranceLevel)
    have rows : after.certificates =
        store.certificates.map (retiredCertificate gone write.issuedAt) ++
          [retiredCertificate gone write.issuedAt
            (write.certificate challenge.assuranceLevel)] := by
      rw [issued.certificates, updateWhere, List.map_append]
      rfl
    rw [rows]
    refine .added supersedes (fun old => retired_ended gone write.issuedAt) ?_ ?_
    · intro issuer signed
      exact (signed challenge.assuranceLevel).of_form form
    · intro old member
      have apart := issueDevice_apart issues old member
      rw [DeviceCertificateRow.conflict, supersedes.id,
        show (retiredCertificate gone write.issuedAt
          (write.certificate challenge.assuranceLevel)).issuerKeyId = _ from
            congrArg (·.issuerKeyId) form,
        show (retiredCertificate gone write.issuedAt
          (write.certificate challenge.assuranceLevel)).serialNumber = _ from
            congrArg (·.serialNumber) form]
      exact apart

theorem renew_apart {store after : CertificateStore} {write : CertificateRenewalWrite} {id : Uuid}
    (done : store.renew codec write id = .ok (.renewed, after)) :
    ∀ old ∈ store.enrollment.certificates.map write.supersede,
      write.certificate.conflict codec old = false := by
  have quiet : ∀ {found : CertificateRenewalRow × DeviceCertificateRow},
      CertificateStore.replay write found ≠ .ok .renewed := by
    intro found replayed
    rw [CertificateStore.replay] at replayed
    split at replayed
    · cases replayed
    · obtain ⟨record, -, returned⟩ := bind_ok.mp replayed
      cases returned
  simp only [CertificateStore.renew, unit_bind_ok] at done
  obtain ⟨-, done⟩ := done
  split at done
  · obtain ⟨answer, replayed, returned⟩ := bind_ok.mp done
    cases returned
    exact absurd replayed quiet
  split at done
  · split at done
    · obtain ⟨answer, replayed, returned⟩ := bind_ok.mp done
      cases returned
      exact absurd replayed quiet
    · cases done
  split at done
  · cases done
  obtain ⟨replaced, replaces, returned⟩ := bind_ok.mp done
  simp only [CertificateStore.replaceCertificate, orElse_bind_ok, insertRow_some] at replaces
  obtain ⟨rows, ⟨apart, -⟩, -⟩ := replaces
  exact apart

theorem renewal_change {store after : CertificateStore} {write : CertificateRenewalWrite}
    {id : Uuid} {outcome : CertificateRenewalOutcome}
    (done : store.renew codec write id = .ok (outcome, after)) :
    CertificatesChange codec (.renew write id) store.enrollment.certificates
      after.enrollment.certificates := by
  rcases renew_cases done with ⟨-, rfl⟩ | ⟨rfl, renewed⟩
  · exact .kept
  · rw [renewed.certificatesEq]
    refine .added (supersede_supersedes write) ?_ (fun issuer signed => signed) ?_
    · intro old ended
      have unchosen : CertificateStore.supersedes write old = false := by
        rw [CertificateStore.supersedes, Bool.and_eq_false_iff]
        exact .inr (beq_eq_false_iff_ne.mpr ended)
      rw [CertificateRenewalWrite.supersede, unchosen]
      rfl
    · intro old member
      have apart := renew_apart done (write.supersede old) (mem_updateWhere.mpr ⟨old, member, rfl⟩)
      have form := (supersede_supersedes write).form old
      rw [DeviceCertificateRow.conflict, (supersede_supersedes write).id,
        show (write.supersede old).issuerKeyId = _ from congrArg (·.issuerKeyId) form,
        show (write.supersede old).serialNumber = _ from congrArg (·.serialNumber) form] at apart
      exact apart

theorem certificateStep_change {store : CertificateStore}
    (unproved : ∀ row ∈ store.enrollment.challenges, row.status ≠ .proved)
    (call : CertificateCall) :
    CertificatesChange codec call store.enrollment.certificates
      (certificateStep codec store call).enrollment.certificates := by
  cases call with
  | enroll call =>
      rw [certificateStep]
      split
      · rename_i keeps
        rcases @enrollmentStep_change codec _ call unproved with same | ⟨answer, answered, change⟩
        · rw [same]
          exact .kept
        · by_cases completes : ∃ write fresh clock, call = .complete write fresh clock
          · obtain ⟨write, fresh, clock, rfl⟩ := completes
            obtain ⟨⟨outcome, after⟩, finished, same⟩ := map_ok.mp answered
            rw [← (Prod.mk.inj same).2]
            exact completion_change finished
          · have unissued := change.unissued fun write fresh clock same =>
              completes ⟨write, fresh, clock, same⟩
            have same := (change.sameIdentityRows keeps unissued).certificates
            rw [same]
            exact .kept
      · exact .kept
  | renew write id =>
      refine commit_cases (P := fun after : CertificateStore =>
        CertificatesChange codec (.renew write id) store.enrollment.certificates
          after.enrollment.certificates) .kept ?_
      intro after done
      obtain ⟨⟨outcome, finished⟩, renews, rfl⟩ := map_ok.mp done
      exact renewal_change renews

/-- The columns of `uq_device_certificate_serial`. -/
def DeviceCertificateRow.serialKey (row : DeviceCertificateRow) : String × BitVec 128 :=
  (row.issuerKeyId, row.serialNumber)

/-- Every certificate was signed by an issuer, under a serial number of its own. -/
structure IssuedRows (issuers : Issuers) (rows : List DeviceCertificateRow) : Prop where
  signed : ∀ row ∈ rows, issuers.Signed row
  serials : (rows.map (·.serialKey)).Nodup

section Rows

variable {issuers : Issuers} {call : CertificateCall}
  {rows rows' : List DeviceCertificateRow}

theorem IssuedRows.step (issued : IssuedRows issuers rows)
    (change : CertificatesChange codec call rows rows') (signed : call.Signed issuers) :
    IssuedRows issuers rows' := by
  cases change with
  | kept => exact issued
  | @added set row supersedes ended signs apart =>
      have own := signs issuers signed
      constructor
      · intro after member
        rcases mem_concat.mp member with member | member
        · obtain ⟨old, stored, rfl⟩ := List.mem_map.mp member
          exact (issued.signed old stored).of_form (supersedes.form old)
        · rw [member]
          exact own
      · have serials : (rows.map set).map (·.serialKey) = rows.map (·.serialKey) := by
          rw [List.map_map]
          exact List.map_congr_left fun old _ => congrArg (·.serialKey) (supersedes.form old)
        rw [List.map_append, serials, ← List.map_append]
        refine nodup_concat_key issued.serials ?_
        intro old member same
        obtain ⟨key, serial⟩ := Prod.mk.inj same
        have free := apart old member
        rw [DeviceCertificateRow.conflict, key, serial] at free
        simp at free

theorem IssuedRows.unique (issued : IssuedRows issuers rows) (readable : issuers.Readable)
    {a b : DeviceCertificateRow} (first : a ∈ rows) (second : b ∈ rows)
    (same : a.certificateDer = b.certificateDer) : a = b := by
  obtain ⟨issuer, known, key, params, numbered, signed⟩ := issued.signed a first
  obtain ⟨issuer', known', key', params', numbered', signed'⟩ := issued.signed b second
  rw [same] at signed
  obtain ⟨sameKey, sameParams⟩ := readable issuer known issuer' known' params params'
    b.certificateDer signed signed'
  refine eq_of_key issued.serials first second (Prod.ext ?_ ?_)
  · exact key.trans (sameKey.trans key'.symm)
  · exact numbered.symm.trans (sameParams ▸ numbered')

theorem CertificatesChange.form (change : CertificatesChange codec call rows rows')
    {row : DeviceCertificateRow} (member : row ∈ rows) :
    ∃ row' ∈ rows', row'.issuedForm = row.issuedForm := by
  cases change with
  | kept => exact ⟨row, member, rfl⟩
  | @added set new supersedes ended signs apart =>
      exact ⟨set row, List.mem_append_left _ (List.mem_map_of_mem member), supersedes.form row⟩

theorem CertificatesChange.ended (change : CertificatesChange codec call rows rows')
    {row : DeviceCertificateRow} (member : row ∈ rows) (ended : row.status ≠ .active) :
    row ∈ rows' := by
  cases change with
  | kept => exact member
  | @added set new supersedes keeps signs apart =>
      have listed : set row ∈ rows.map set := List.mem_map_of_mem member
      rw [keeps row ended] at listed
      exact List.mem_append_left _ listed

end Rows

section Requests

variable {service : CertificateRenewalService} {store : CertificateStore} {certificateDer : Bytes}
  {now : Instant}

def DeviceCertificateClaims.presentable (claims : DeviceCertificateClaims) (certificateDer : Bytes)
    (environment : String) : Bool :=
  !(isNil claims.deviceId || isNil claims.deviceKeyId || certificateDer.isEmpty ||
    decide (64 * 1024 < certificateDer.length) || !bounded environment 40)

theorem device_some {record : DeviceCertificateIdentityRecord} {actor : AuthenticatedDevice} :
    record.device = some actor ↔ actor.record = record := by
  unfold DeviceCertificateIdentityRecord.device
  constructor
  · intro made
    split at made
    · cases made
      rfl
    · cases made
  · intro same
    subst same
    rw [dif_pos actor.valid]

theorem authenticate_ok {actor : AuthenticatedDevice} :
    service.authenticateVerifiedRenewalCertificate store certificateDer now = .ok actor ↔
      ∃ claims dc, service.authenticator.parseClaims certificateDer = .ok claims ∧
        claims.presentable certificateDer service.authenticator.environment = true ∧
        store.enrollment.certificates.find? (store.authenticates service.codec claims.deviceId
          claims.deviceKeyId certificateDer service.authenticator.environment now) = some dc ∧
        dc.assuranceLevel = claims.assuranceLevel ∧ actor.record = dc.identity := by
  simp only [CertificateRenewalService.authenticateVerifiedRenewalCertificate,
    CertificateStore.authenticateForCertificateRenewal, bind_ok (α := DeviceCertificateClaims),
    bind_ok (α := Option DeviceCertificateIdentityRecord), mapError_ok, unit_bind_ok,
    orElse_bind_ok, orElse_ok, reject_ok, bne_eq_false_iff_eq, device_some,
    DeviceCertificateClaims.presentable, Bool.not_eq_true']
  constructor
  · rintro ⟨claims, parsed, found, ⟨presented, found_⟩, record, rfl, assured, named⟩
    split at found_
    · cases found_
    · rename_i dc selected
      simp only [unit_bind_ok, reject_ok, pure_ok, Option.some.injEq] at found_
      obtain ⟨-, rfl⟩ := found_
      exact ⟨claims, dc, parsed, presented, selected, assured, named⟩
  · rintro ⟨claims, dc, parsed, presented, selected, assured, named⟩
    refine ⟨claims, parsed, some dc.identity, ⟨presented, ?_⟩, dc.identity, rfl, assured, named⟩
    rw [selected]
    simp only [unit_bind_ok, reject_ok, pure_ok, and_true]
    rw [← named]
    exact actor.valid

/-- The end of the window in which a request can be repeated. -/
def RenewalRequest.replayUntil (request : RenewalRequest) : Instant :=
  unixTimestamp request.now * 1000000 + emergencyRenewalWindow

/-- The write that answers a request of the device. -/
structure PreparedRenewal (service : CertificateRenewalService) (actor : AuthenticatedDevice)
    (request : RenewalRequest) (write : CertificateRenewalWrite) : Prop where
  requestId : write.requestId = request.requestId
  scope : write.scope = actor.record.scope
  previous : write.previousCertificateId = actor.record.certificateId
  replayUntil : write.replayUntil = request.replayUntil
  signs : service.issuer.Signs write.certificate

theorem loadIdentity_ok {scope : CertificateRenewalScope} {certificateId : Uuid}
    {identity : CertificateRenewalIdentity}
    (loaded : store.loadIdentity scope certificateId now = .ok (some identity)) :
    identity.scope = scope ∧ identity.certificateId = certificateId := by
  simp only [CertificateStore.loadIdentity, unit_bind_ok] at loaded
  obtain ⟨-, loaded⟩ := loaded
  split at loaded
  · cases loaded
  rename_i dc selected
  split at loaded
  · cases loaded
  simp only [unit_bind_ok, pure_ok, Option.some.injEq] at loaded
  obtain ⟨-, rfl⟩ := loaded
  have chosen := List.find?_some selected
  simp only [Bool.and_eq_true, beq_iff_eq] at chosen
  exact chosen.1

theorem issue_signs {issuer : DeviceCertificateIssuer} {deviceId deviceKeyId : Uuid}
    {operationalPublicKey : Hash} {assuranceLevel : Nat} {serialNumber : BitVec 128}
    {certificate : IssuedDeviceCertificate}
    (issued : issuer.issue deviceId deviceKeyId operationalPublicKey assuranceLevel now
      serialNumber = .ok certificate) :
    certificate.issuerKeyId = issuer.issuerKeyId ∧
      certificate.notBefore = unixTimestamp now * 1000000 ∧
      ∃ params, params.serialNumber = certificate.serialNumber ∧
        issuer.sign params = some certificate.certificateDer := by
  simp only [DeviceCertificateIssuer.issue, unit_bind_ok, orElse_bind_ok, pure_ok] at issued
  obtain ⟨-, -, -, -, -, certificateDer, signed, rfl⟩ := issued
  exact ⟨rfl, rfl, _, rfl, signed⟩

theorem prepare_renewal {actor : AuthenticatedDevice} {request : RenewalRequest}
    {write : CertificateRenewalWrite} (made : service.prepare store actor request = .ok write) :
    PreparedRenewal service actor request write := by
  simp only [CertificateRenewalService.prepare, bind_ok (α := Option CertificateRenewalIdentity),
    bind_ok (α := IssuedDeviceCertificate), mapError_ok, unit_bind_ok, orElse_bind_ok,
    pure_ok] at made
  obtain ⟨found, loaded, identity, rfl, -, -, certificate, issued, rfl⟩ := made
  obtain ⟨scope, previous⟩ := loadIdentity_ok loaded
  obtain ⟨keyed, timed, signed⟩ := issue_signs issued
  constructor
  · rfl
  · exact scope
  · exact previous
  · rw [CertificateRenewalIdentity.write, timed]
    rfl
  · exact ⟨keyed, signed⟩

/-- The stores a request reads after the authentication. -/
def RenewalInterleaving.atReplay (others : RenewalInterleaving) (codec : EnrollmentCodec)
    (store : CertificateStore) : CertificateStore :=
  certificateRun codec store others.afterAuthentication

def RenewalInterleaving.atRenewal (others : RenewalInterleaving) (codec : EnrollmentCodec)
    (store : CertificateStore) : CertificateStore :=
  certificateRun codec (certificateRun codec (others.atReplay codec store) others.afterReplay)
    others.afterIdentity

theorem atRenewal_run (others : RenewalInterleaving) (codec : EnrollmentCodec)
    (store : CertificateStore) :
    others.atRenewal codec store = certificateRun codec store others.calls := by
  simp only [RenewalInterleaving.atRenewal, RenewalInterleaving.atReplay,
    RenewalInterleaving.calls, certificateRun, run_append]

theorem serve_ok {others : RenewalInterleaving} {request : RenewalRequest}
    {answer : CertificateRenewalReceipt × CertificateStore} :
    service.serve store others request = .ok answer ↔ ∃ actor,
      service.authenticateVerifiedRenewalCertificate store request.certificateDer request.now =
        .ok actor ∧
      service.renew (others.atReplay service.codec store)
        (certificateRun service.codec (others.atReplay service.codec store) others.afterReplay)
        (others.atRenewal service.codec store) actor request = .ok answer := by
  simp only [CertificateRenewalService.serve, bind_ok, mapError_ok]
  rfl

theorem serve_renewed {others : RenewalInterleaving} {request : RenewalRequest}
    {receipt : CertificateRenewalReceipt} {after : CertificateStore}
    (served : service.serve store others request = .ok (receipt, after))
    (new : receipt.replayed = false) : ∃ actor write requestId,
      service.authenticateVerifiedRenewalCertificate store request.certificateDer request.now =
        .ok actor ∧
      requestUuid request.requestId = some requestId ∧
      PreparedRenewal service actor request write ∧
      (others.atRenewal service.codec store).renew service.codec write request.renewalId =
        .ok (.renewed, after) ∧
      receipt = write.record.receipt false := by
  obtain ⟨actor, authenticated, renewed⟩ := serve_ok.mp served
  simp only [CertificateRenewalService.renew, orElse_bind_ok,
    bind_ok (α := Option CertificateRenewalRecord), mapError_ok] at renewed
  obtain ⟨requestId, asked, replay, -, renewed⟩ := renewed
  cases replay with
  | some record =>
      cases renewed
      cases new
  | none =>
      simp only [bind_ok, mapError_ok, Prod.exists] at renewed
      obtain ⟨write, made, outcome, finished, renews, renewed⟩ := renewed
      cases outcome with
      | renewed =>
          cases renewed
          exact ⟨actor, write, requestId, authenticated, asked, prepare_renewal made, renews, rfl⟩
      | replay record =>
          cases renewed
          cases new
      | identityChanged => cases renewed

end Requests

structure IssuedStore (codec : EnrollmentCodec) (issuers : Issuers) (store : CertificateStore) :
    Prop where
  inv : CertificateInvariant codec store
  rows : IssuedRows issuers store.enrollment.certificates

/-- The certificates of a store in a later one. -/
structure CertificatesLast (store later : CertificateStore) : Prop where
  form : ∀ row ∈ store.enrollment.certificates,
    ∃ row' ∈ later.enrollment.certificates, row'.issuedForm = row.issuedForm
  ended : ∀ row ∈ store.enrollment.certificates, row.status ≠ .active →
    row ∈ later.enrollment.certificates

theorem CertificatesLast.trans {store later last : CertificateStore}
    (first : CertificatesLast store later) (second : CertificatesLast later last) :
    CertificatesLast store last := by
  constructor
  · intro row member
    obtain ⟨row', member', form⟩ := first.form row member
    obtain ⟨row'', member'', form'⟩ := second.form row' member'
    exact ⟨row'', member'', form'.trans form⟩
  · intro row member ended
    exact second.ended row (first.ended row member ended) ended

section Lasting

variable {issuers : Issuers} {store : CertificateStore}

theorem IssuedStore.step (issued : IssuedStore codec issuers store) {call : CertificateCall}
    (signed : call.Signed issuers) :
    IssuedStore codec issuers (certificateStep codec store call) ∧
      CertificatesLast store (certificateStep codec store call) := by
  have change : CertificatesChange codec call store.enrollment.certificates _ :=
    certificateStep_change issued.inv.unproved call
  refine ⟨⟨certificateStep_invariant issued.inv call, issued.rows.step change signed⟩, ?_, ?_⟩
  · exact fun row member => change.form member
  · exact fun row member ended => change.ended member ended

theorem IssuedStore.run (issued : IssuedStore codec issuers store) {calls : List CertificateCall}
    (signed : ∀ call ∈ calls, call.Signed issuers) :
    IssuedStore codec issuers (certificateRun codec store calls) ∧
      CertificatesLast store (certificateRun codec store calls) := by
  induction calls generalizing store with
  | nil => exact ⟨issued, fun row member => ⟨row, member, rfl⟩, fun row member _ => member⟩
  | cons call rest ih =>
      obtain ⟨next, lasts⟩ := issued.step (signed call List.mem_cons_self)
      obtain ⟨reached, lasts'⟩ := ih next fun other member =>
        signed other (List.mem_cons_of_mem _ member)
      exact ⟨reached, lasts.trans lasts'⟩

/-- The row of a certificate by which a device was authenticated. -/
structure Presented (service : CertificateRenewalService) (actor : AuthenticatedDevice)
    (certificateDer : Bytes) (now : Instant) (row : DeviceCertificateRow) : Prop where
  own : row.certificateDer = certificateDer
  begun : row.notBefore ≤ now
  environment : service.codec.collate row.environment =
    service.codec.collate service.authenticator.environment
  claims : service.authenticator.parseClaims certificateDer =
    .ok ⟨row.deviceId, row.deviceKeyId, row.assuranceLevel⟩
  presentable : DeviceCertificateClaims.presentable
    ⟨row.deviceId, row.deviceKeyId, row.assuranceLevel⟩ certificateDer
      service.authenticator.environment = true
  named : actor.record = row.identity

/-- A renewal that was answered, seen from the certificate it has superseded. -/
structure LostRenewal (service : CertificateRenewalService) (issuers : Issuers)
    (request : RenewalRequest) (receipt : CertificateRenewalReceipt) (after : CertificateStore)
    (actor : AuthenticatedDevice) (row : DeviceCertificateRow) : Prop where
  presented : Presented service actor request.certificateDer request.now row
  issued : IssuedStore service.codec issuers after
  stored : row ∈ after.enrollment.certificates
  superseded : row.status = .superseded
  renewal : ∃ write requestId, requestUuid request.requestId = some requestId ∧
    write.requestId = request.requestId ∧ write.scope = row.scope ∧
    write.previousCertificateId = row.id ∧ write.replayUntil = request.replayUntil ∧
    receipt = write.record.receipt false ∧ RenewalRemains after write request.renewalId

theorem IssuedRows.presented {service : CertificateRenewalService} {later : CertificateStore}
    (rows : IssuedRows issuers later.enrollment.certificates) (readable : issuers.Readable)
    {certificateDer : Bytes} {now : Instant} {actor : AuthenticatedDevice}
    (authenticated : service.authenticateVerifiedRenewalCertificate store certificateDer now =
      .ok actor) (lasts : CertificatesLast store later) {row : DeviceCertificateRow}
    (stored : row ∈ later.enrollment.certificates) (own : row.certificateDer = certificateDer) :
    Presented service actor certificateDer now row := by
  obtain ⟨claims, dc, parsed, presentable, found, assured, named⟩ :=
    authenticate_ok.mp authenticated
  have chosen := List.find?_some found
  simp only [CertificateStore.authenticates, Bool.and_eq_true, beq_iff_eq,
    decide_eq_true_eq] at chosen
  obtain ⟨⟨⟨⟨⟨⟨⟨-, device⟩, key⟩, der⟩, environment⟩, begun⟩, -⟩, -⟩ := chosen
  obtain ⟨seen, member, form⟩ := lasts.form dc (List.mem_of_find?_eq_some found)
  have sameDer : seen.certificateDer = dc.certificateDer := congrArg (·.certificateDer) form
  have whole : row.issuedForm = dc.issuedForm := by
    rw [rows.unique readable stored member (own.trans (sameDer.trans der).symm)]
    exact form
  have claimed : claims = ⟨row.deviceId, row.deviceKeyId, row.assuranceLevel⟩ := by
    rw [show row.deviceId = dc.deviceId from congrArg (·.deviceId) whole,
      show row.deviceKeyId = dc.deviceKeyId from congrArg (·.deviceKeyId) whole,
      show row.assuranceLevel = dc.assuranceLevel from congrArg (·.assuranceLevel) whole,
      device, key, assured]
  subst claimed
  constructor
  · exact own
  · exact (congrArg (·.notBefore) whole).trans_le begun
  · rw [show row.environment = dc.environment from congrArg (·.environment) whole]
    exact environment
  · exact parsed
  · exact presentable
  · rw [named]
    exact (congrArg (·.identity) whole).symm

theorem IssuedStore.lost {service : CertificateRenewalService}
    (issued : IssuedStore service.codec issuers store) (known : service.issuer ∈ issuers)
    (readable : issuers.Readable) {others : RenewalInterleaving}
    (signed : ∀ call ∈ others.calls, call.Signed issuers) {request : RenewalRequest}
    {receipt : CertificateRenewalReceipt} {after : CertificateStore}
    (served : service.serve store others request = .ok (receipt, after))
    (new : receipt.replayed = false) {row : DeviceCertificateRow}
    (stored : row ∈ after.enrollment.certificates)
    (own : row.certificateDer = request.certificateDer) :
    ∃ actor, LostRenewal service issuers request receipt after actor row := by
  obtain ⟨actor, write, requestId, authenticated, asked, prepared, renews, answered⟩ :=
    serve_renewed served new
  obtain ⟨reached, lasts⟩ := issued.run signed
  rw [← atRenewal_run] at reached lasts
  have stepped : certificateStep service.codec (others.atRenewal service.codec store)
      (.renew write request.renewalId) = after := by
    rw [certificateStep, renews]
    rfl
  have renewal : CertificateCall.Signed issuers (.renew write request.renewalId) :=
    ⟨service.issuer, known, prepared.signs⟩
  obtain ⟨next, kept⟩ := reached.step renewal
  rw [stepped] at next kept
  have presented := next.rows.presented readable authenticated (lasts.trans kept) stored own
  rcases renew_cases renews with ⟨other, -⟩ | ⟨-, renewed⟩
  · exact absurd rfl other
  -- the row that the renewal has superseded has the same identifier
  obtain ⟨current, located⟩ := renewed.current
  obtain ⟨present, scope, id, active, -⟩ := current_row located
  have superseded : write.supersede current ∈ after.enrollment.certificates := by
    rw [renewed.certificatesEq]
    exact List.mem_append_left _ (List.mem_map_of_mem present)
  have rowId : row.id = write.previousCertificateId := by
    rw [prepared.previous, presented.named]
    rfl
  have same : row = write.supersede current := by
    refine eq_of_key next.inv.rows.ids stored superseded (rowId.trans ?_)
    rw [(supersede_supersedes write).id, id]
  have selected : CertificateStore.supersedes write current = true := by
    simp [CertificateStore.supersedes, id, scope, active]
  refine ⟨actor, ?_⟩
  constructor
  · exact presented
  · exact next
  · exact stored
  · rw [same, CertificateRenewalWrite.supersede, selected]
    rfl
  · refine ⟨write, requestId, asked, prepared.requestId, ?_, rowId.symm, prepared.replayUntil,
      answered, renewed.remains⟩
    rw [prepared.scope, presented.named]
    rfl

theorem renewals_last {store : CertificateStore} (inv : CertificateInvariant codec store)
    (calls : List CertificateCall) :
    store.renewals ⊆ (certificateRun codec store calls).renewals := by
  refine (run_invariant (P := fun after => CertificateInvariant codec after ∧
    store.renewals ⊆ after.renewals) ?_ ⟨inv, List.Subset.refl _⟩ calls).2
  intro after call both
  obtain ⟨kept, grown⟩ := both
  exact ⟨certificateStep_invariant kept call,
    List.Subset.trans grown (certificateStep_grows kept call).1.subset⟩

end Lasting

section Repeated

variable {service : CertificateRenewalService} {issuers : Issuers} {request again : RenewalRequest}
  {receipt : CertificateRenewalReceipt} {after later : CertificateStore}
  {actor : AuthenticatedDevice} {row : DeviceCertificateRow}
  (lost : LostRenewal service issuers request receipt after actor row)

include lost

theorem LostRenewal.replayable (renewals : after.renewals ⊆ later.renewals)
    (within : again.now < request.replayUntil) :
    later.replayable row again.now = true := by
  obtain ⟨write, requestId, -, -, scope, previous, replayUntil, -, remains⟩ := lost.renewal
  refine List.any_eq_true.mpr ⟨write.renewal request.renewalId, renewals remains.renewal, ?_⟩
  simp [CertificateRenewalWrite.renewal, scope, previous, replayUntil, within]

theorem LostRenewal.authenticates_iff (renewals : after.renewals ⊆ later.renewals)
    (active : later.enrollment.activeOwner row = true) (since : request.now ≤ again.now)
    (within : again.now < request.replayUntil) :
    later.authenticates service.codec row.deviceId row.deviceKeyId request.certificateDer
        service.authenticator.environment again.now row = true ↔
      again.now < row.notAfter + emergencyRenewalWindow := by
  have begun := lost.presented.begun.trans since
  simp [CertificateStore.authenticates, active, lost.presented.own, lost.presented.environment,
    begun, lost.superseded, lost.replayable renewals within]

theorem LostRenewal.authenticated (readable : issuers.Readable)
    (issued : IssuedStore service.codec issuers later)
    (stored : row ∈ later.enrollment.certificates) {now : Instant} {other : AuthenticatedDevice} :
    service.authenticateVerifiedRenewalCertificate later request.certificateDer now = .ok other ↔
      later.authenticates service.codec row.deviceId row.deviceKeyId request.certificateDer
          service.authenticator.environment now row = true ∧ other.record = row.identity := by
  have sole : ∀ other ∈ later.enrollment.certificates, later.authenticates service.codec
      row.deviceId row.deviceKeyId request.certificateDer service.authenticator.environment now
      other = true → other = row := by
    intro other member chosen
    simp only [CertificateStore.authenticates, Bool.and_eq_true, beq_iff_eq] at chosen
    exact issued.rows.unique readable member stored (chosen.1.1.1.1.2.trans
      lost.presented.own.symm)
  have found := find_sole stored sole
  rw [authenticate_ok]
  constructor
  · rintro ⟨claims, dc, parsed, -, selected, -, named⟩
    cases lost.presented.claims.symm.trans parsed
    rw [found] at selected
    split at selected
    · rename_i chosen
      cases selected
      exact ⟨chosen, named⟩
    · cases selected
  · rintro ⟨chosen, named⟩
    rw [if_pos chosen] at found
    exact ⟨_, row, lost.presented.claims, lost.presented.presentable, found, rfl, named⟩

theorem LostRenewal.replays (repeated : again.requestId = request.requestId)
    (within : again.now < request.replayUntil) {calls : List CertificateCall}
    {atIdentity atRenewal : CertificateStore} :
    service.renew (certificateRun service.codec after calls) atIdentity atRenewal actor again =
      .ok ({ receipt with replayed := true }, certificateRun service.codec after calls) := by
  obtain ⟨write, requestId, asked, sameId, scope, previous, replayUntil, answer, remains⟩ :=
    lost.renewal
  have named := lost.presented.named
  have valid := actor.valid
  simp only [named, DeviceCertificateIdentityRecord.malformed, Bool.or_eq_false_iff] at valid
  have text : isNil requestId = false ∧ uuidText requestId = request.requestId := by
    have chosen := Option.filter_eq_some_iff.mp asked
    simpa using chosen.2
  have open_ : (row.id = write.previousCertificateId ∨ row.id = write.certificateId) ∧
      again.now < write.replayUntil := by
    rw [replayUntil]
    exact ⟨.inl previous.symm, within⟩
  have loaded : (certificateRun service.codec after calls).loadReplay service.codec write.scope
      row.id requestId again.now = _ :=
    (remains.run lost.issued.inv calls).loads (run_certificate_invariant lost.issued.inv calls)
      (scope ▸ valid.1.1) valid.1.2 text.1 (by rw [text.2, sameId])
  rw [if_pos open_, scope] at loaded
  rw [CertificateRenewalService.renew, repeated, asked, named]
  change ((certificateRun service.codec after calls).loadReplay service.codec row.scope row.id
    requestId again.now).mapError _ >>= _ = _
  rw [loaded, answer]
  rfl

theorem LostRenewal.answered_iff (readable : issuers.Readable) {between : List CertificateCall}
    (signed : ∀ call ∈ between, call.Signed issuers) (others : RenewalInterleaving)
    (presented : again.certificateDer = request.certificateDer)
    (repeated : again.requestId = request.requestId) (since : request.now ≤ again.now)
    (within : again.now < request.replayUntil)
    (active : (certificateRun service.codec after between).enrollment.activeOwner row = true) :
    service.serve (certificateRun service.codec after between) others again =
        .ok ({ receipt with replayed := true },
          others.atReplay service.codec (certificateRun service.codec after between)) ↔
      again.now < row.notAfter + emergencyRenewalWindow := by
  obtain ⟨reached, lasts⟩ := lost.issued.run signed
  have ended : row.status ≠ .active := by
    rw [lost.superseded]
    exact CertificateStatus.noConfusion
  have stored := lasts.ended row lost.stored ended
  have renewals : after.renewals ⊆ (certificateRun service.codec after between).renewals :=
    renewals_last lost.issued.inv between
  have authenticates := lost.authenticates_iff renewals active since within
  rw [serve_ok, presented]
  constructor
  · rintro ⟨actor, authenticated, -⟩
    have chosen := (lost.authenticated readable reached stored).mp authenticated
    exact authenticates.mp chosen.1
  · intro young
    refine ⟨actor, ?_, ?_⟩
    · exact (lost.authenticated readable reached stored).mpr
        ⟨authenticates.mpr young, lost.presented.named⟩
    · have reached : others.atReplay service.codec (certificateRun service.codec after between) =
          certificateRun service.codec after (between ++ others.afterAuthentication) :=
        (run_append after between others.afterAuthentication).symm
      rw [reached]
      exact lost.replays repeated within

end Repeated

/-- In every run, a request whose renewal was accepted is answered again, within its window and
    for an active owner, exactly until twelve hours after the end of the previous certificate. -/
theorem lost_renewal_recovered_iff (service : CertificateRenewalService) (issuers : Issuers)
    (known : service.issuer ∈ issuers) (readable : issuers.Readable) (start : CertificateStore)
    (certificates : start.enrollment.certificates = []) (renewals : start.renewals = [])
    (unproved : ∀ row ∈ start.enrollment.challenges, row.status ≠ .proved)
    (devices : start.enrollment.topology.deviceIds.Nodup) (before between : List CertificateCall)
    (others others' : RenewalInterleaving)
    (signed : ∀ call ∈ before ++ others.calls ++ between, call.Signed issuers)
    {request : RenewalRequest} {receipt : CertificateRenewalReceipt} {after : CertificateStore}
    (served : service.serve (certificateRun service.codec start before) others request =
      .ok (receipt, after)) (new : receipt.replayed = false)
    {previous : DeviceCertificateRow} (stored : previous ∈ after.enrollment.certificates)
    (own : previous.certificateDer = request.certificateDer) (again : RenewalRequest)
    (presented : again.certificateDer = request.certificateDer)
    (repeated : again.requestId = request.requestId) (since : request.now ≤ again.now)
    (within : again.now < request.replayUntil)
    (active : (certificateRun service.codec after between).enrollment.activeOwner previous = true) :
    service.serve (certificateRun service.codec after between) others' again =
        .ok ({ receipt with replayed := true },
          others'.atReplay service.codec (certificateRun service.codec after between)) ↔
      again.now < previous.notAfter + emergencyRenewalWindow := by
  have initial : IssuedStore service.codec issuers start := by
    refine ⟨initial_certificates certificates renewals unproved devices, ?_⟩
    rw [certificates]
    exact ⟨fun _ member => absurd member List.not_mem_nil, List.nodup_nil⟩
  obtain ⟨arrived, -⟩ := initial.run fun call member =>
    signed call (List.mem_append_left _ (List.mem_append_left _ member))
  obtain ⟨actor, lost⟩ := arrived.lost known readable (fun call member =>
    signed call (List.mem_append_left _ (List.mem_append_right _ member))) served new stored own
  exact lost.answered_iff readable (fun call member => signed call (List.mem_append_right _ member))
    others' presented repeated since within active

/-- The device is enrolled at second 3 with a certificate for seven days. Six hours after its end it
asks for a renewal, and its response is lost. -/
def lostRenewalKey : Hash := 0x6e7a1cdd29b0b78fd13af4c5598feff4ef2a97166e3ca6f2e4fbfccd80505bf1

def lostRenewalChain : String :=
  "-----BEGIN CERTIFICATE-----\nMIIBBTCBuKADAgECAgEBMAUGAytlcDAaMRgwFgYDVQQDDA9DYW5keSB" ++
    "EZXZpY2Ug\nQ0EwHhcNNzAwMTAxMDAwMDAwWhcNNzkxMjMwMDAwMDAwWjAaMRgwFgYDVQQDDA9D\nYW5keSB" ++
    "EZXZpY2UgQ0EwKjAFBgMrZXADIQDKk6wXBRhwcdZ7g8f/Dv6BCOjsRTBX\nXXcmh5Mz29q+fKMjMCEwDwYDV" ++
    "R0TAQH/BAUwAwEB/zAOBgNVHQ8BAf8EBAMCAQYw\nBQYDK2VwA0EAz6q7xo5gVHORimY++dTzTWSxhZqh2Nc" ++
    "mL9PqGiOHam/cLZkrqOrV\nGmwXnWKaa+WaNd+VRIFQxmpBaaSw8iYZAg==\n-----END CERTIFICATE---" ++
    "--\n"

def lostRenewalParams (notBefore : Nat) (serialNumber : BitVec 128) : CertificateParams where
  notBefore
  notAfter := notBefore + 604800
  serialNumber
  subjectAltNames := ["candy:device:00000000-0000-7000-8000-000000000001",
    "candy:device-key:00000000-0000-7000-8000-000000000002", "candy:environment:test",
    "candy:assurance:A1"]
  commonName := "Candy Device 00000000-0000-7000-8000-000000000001"
  publicKey := lostRenewalKey

def enrolledParams : CertificateParams := lostRenewalParams 3 0xbb870008000000000000004

def renewedParams : CertificateParams := lostRenewalParams 626403 0x255626b870008000000000000005

def enrolledDer : Bytes := bigEndian 481
  0x308201dd3082018fa003020102020c0bb870008000000000000004300506032b6570301a3118301606035504030c0f43616e647920446576696365204341301e170d3730303130313030303030335a170d3730303130383030303030335a303c313a303806035504030c3143616e6479204465766963652030303030303030302d303030302d373030302d383030302d303030303030303030303031302a300506032b65700321006e7a1cdd29b0b78fd13af4c5598feff4ef2a97166e3ca6f2e4fbfccd80505bf1a381cc3081c93081a10603551d11048199308196863163616e64793a6465766963653a30303030303030302d303030302d373030302d383030302d303030303030303030303031863563616e64793a6465766963652d6b65793a30303030303030302d303030302d373030302d383030302d303030303030303030303032861663616e64793a656e7669726f6e6d656e743a74657374861263616e64793a6173737572616e63653a4131300e0603551d0f0101ff04040302078030130603551d25040c300a06082b06010505070302300506032b6570034100457f3328d7386efa4a33777aa1307c5caf2584a88d226f6017491c90c74c346742a6f22677f387c9075438fa8b9f9435f34a5e000173bed91fff68a497a9f504

def renewedDer : Bytes := bigEndian 483
  0x308201df30820191a003020102020e255626b870008000000000000005300506032b6570301a3118301606035504030c0f43616e647920446576696365204341301e170d3730303130383036303030335a170d3730303131353036303030335a303c313a303806035504030c3143616e6479204465766963652030303030303030302d303030302d373030302d383030302d303030303030303030303031302a300506032b65700321006e7a1cdd29b0b78fd13af4c5598feff4ef2a97166e3ca6f2e4fbfccd80505bf1a381cc3081c93081a10603551d11048199308196863163616e64793a6465766963653a30303030303030302d303030302d373030302d383030302d303030303030303030303031863563616e64793a6465766963652d6b65793a30303030303030302d303030302d373030302d383030302d303030303030303030303032861663616e64793a656e7669726f6e6d656e743a74657374861263616e64793a6173737572616e63653a4131300e0603551d0f0101ff04040302078030130603551d25040c300a06082b06010505070302300506032b6570034100f5d2dd6c0c94f183d7cc00b21a572bf129f3e9e2d47bd4c3c98946e9107e6dc2217acd6bf92d033642b9d95cb0dc06dac542f0e76989dda452d73c2bb4cf2201

def lostRenewalIssuer : DeviceCertificateIssuer where
  issuerKeyId := "issuer-1"
  environment := "test"
  certificateChainPem := lostRenewalChain
  validKey key := key == lostRenewalKey
  sign params :=
    if params = enrolledParams then some enrolledDer
    else if params = renewedParams then some renewedDer
    else none

def lostRenewalService : CertificateRenewalService where
  codec := { enrollmentCodec with
    sha256 := fun _ => 0x7afeb13e4c81f700b523e16e20c99524bfa45b60af9617baed340035797efabd }
  issuer := lostRenewalIssuer
  authenticator :=
    { environment := "test"
      parse := fun certificateDer =>
        if certificateDer = enrolledDer ∨ certificateDer = renewedDer then
          some ⟨ed25519Oid, 32, some enrolledParams.subjectAltNames⟩
        else none }

def lostRenewalCompletion : EnrollmentCompletionWrite :=
  { enrolledCompletion with
    serialNumber := 0xbb870008000000000000004
    certificateDer := enrolledDer
    certificateChainPem := lostRenewalChain
    notBefore := 3000000
    notAfter := 604803000000 }

def lostRenewalEnrollment : List CertificateCall :=
  [.enroll (.insertActivationCode enrolledCode 1000000),
    .enroll (.reserveChallenge 77 { enrolledChallenge with operationalPublicKey := lostRenewalKey }
      2000000 0),
    .enroll (.complete lostRenewalCompletion id 3000000)]

def lostRequest : RenewalRequest where
  certificateDer := enrolledDer
  requestId := "00000000-0000-4000-8000-000000000009"
  now := 626403000000
  serialNumber := 0x255626b870008000000000000005
  certificateId := 0x00000000000070008000000000000004
  renewalId := 30

def aloneRequest : RenewalInterleaving := ⟨[], [], []⟩

theorem lostRenewalIssuer_readable : Issuers.Readable {lostRenewalIssuer} := by
  have distinct : enrolledDer ≠ renewedDer := by decide +kernel
  intro issuer known issuer' known' params params' certificateDer signed signed'
  cases Set.mem_singleton_iff.mp known
  cases Set.mem_singleton_iff.mp known'
  refine ⟨rfl, ?_⟩
  simp only [lostRenewalIssuer] at signed signed'
  split at signed
  · rename_i enrolled
    split at signed'
    · rename_i enrolled'
      rw [enrolled, enrolled']
    · split at signed'
      · rw [← Option.some.inj signed] at signed'
        exact absurd (Option.some.inj signed').symm distinct
      · cases signed'
  · split at signed
    · rename_i renewed
      split at signed'
      · rw [← Option.some.inj signed] at signed'
        exact absurd (Option.some.inj signed') distinct
      · split at signed'
        · rename_i renewed'
          rw [renewed, renewed']
        · cases signed'
    · cases signed

theorem enrolledParams_signed : lostRenewalIssuer.sign enrolledParams = some enrolledDer := by
  simp [lostRenewalIssuer]

theorem enrolled_signs (assuranceLevel : Nat) :
    lostRenewalIssuer.Signs (lostRenewalCompletion.certificate assuranceLevel) :=
  ⟨rfl, enrolledParams, rfl, enrolledParams_signed⟩

theorem lostRenewalEnrollment_signed :
    ∀ call ∈ lostRenewalEnrollment ++ [] ++ [], call.Signed {lostRenewalIssuer} := by
  intro call member
  simp only [lostRenewalEnrollment, List.append_nil, List.mem_cons, List.not_mem_nil,
    or_false] at member
  rcases member with rfl | rfl | rfl
  · trivial
  · trivial
  · exact fun level => ⟨lostRenewalIssuer, rfl, enrolled_signs level⟩

def lostReceipt : CertificateRenewalReceipt := ⟨renewedDer, lostRenewalChain, 1231203000000, false⟩

def lostCertificate : DeviceCertificateRow :=
  { lostRenewalCompletion.certificate 1 with
    status := .superseded
    revokedAt := some 626403000000 }

theorem lostRequest_served : ∃ after, lostRenewalService.serve
      (certificateRun lostRenewalService.codec certificateStart lostRenewalEnrollment) aloneRequest
      lostRequest = .ok (lostReceipt, after) ∧
    lostCertificate ∈ after.enrollment.certificates ∧
    (after.renewals.map fun renewal => (renewal.requestId, renewal.replayUntil)) =
      [(lostRequest.requestId, 669603000000)] ∧
    after.enrollment.activeOwner lostCertificate = true ∧
    (lostRenewalService.serve after aloneRequest
      { lostRequest with now := 651603000000 }).map (·.1) =
      .error (.unauthenticated .inactiveCertificate) := by
  have served : (lostRenewalService.serve
      (certificateRun lostRenewalService.codec certificateStart lostRenewalEnrollment) aloneRequest
      lostRequest).map (fun answer => (answer.1,
        answer.2.enrollment.certificates.contains lostCertificate &&
          answer.2.enrollment.activeOwner lostCertificate,
        answer.2.renewals.map fun renewal => (renewal.requestId, renewal.replayUntil),
        (lostRenewalService.serve answer.2 aloneRequest
          { lostRequest with now := 651603000000 }).map (·.1))) =
      .ok (lostReceipt, true, [(lostRequest.requestId, 669603000000)],
        .error (.unauthenticated .inactiveCertificate)) := by decide +kernel
  obtain ⟨⟨receipt, after⟩, answered, seen⟩ := map_ok.mp served
  simp only [Prod.mk.injEq] at seen
  obtain ⟨rfl, kept, window, late⟩ := seen
  obtain ⟨stored, active⟩ := Bool.and_eq_true_iff.mp kept
  exact ⟨after, answered, List.contains_iff_mem.mp stored, window, active, late⟩

/-- Two seconds later the device gets the certificate it has missed. -/
theorem lost_renewal_recovered : ∃ after, lostRenewalService.serve
      (certificateRun lostRenewalService.codec certificateStart lostRenewalEnrollment) aloneRequest
      lostRequest = .ok (lostReceipt, after) ∧
    lostRenewalService.serve after aloneRequest { lostRequest with now := 626405000000 } =
      .ok ({ lostReceipt with replayed := true }, after) := by
  obtain ⟨after, served, stored, -, active, -⟩ := lostRequest_served
  have recovered := lost_renewal_recovered_iff lostRenewalService {lostRenewalIssuer} rfl
    lostRenewalIssuer_readable certificateStart rfl rfl (by decide) (by decide)
    lostRenewalEnrollment [] aloneRequest aloneRequest lostRenewalEnrollment_signed served rfl
    stored rfl { lostRequest with now := 626405000000 } rfl rfl (by decide)
    (by decide) active
  have young : 626405000000 < lostCertificate.notAfter + emergencyRenewalWindow := by decide
  exact ⟨after, served, recovered.mpr young⟩

/-- Seven hours later, still within the window of the renewal, it is turned away. -/
theorem lost_renewal_unrecovered : ∃ after, lostRenewalService.serve
      (certificateRun lostRenewalService.codec certificateStart lostRenewalEnrollment) aloneRequest
      lostRequest = .ok (lostReceipt, after) ∧
    (after.renewals.map fun renewal => (renewal.requestId, renewal.replayUntil)) =
      [(lostRequest.requestId, 669603000000)] ∧
    after.enrollment.activeOwner lostCertificate = true ∧
    (lostRenewalService.serve after aloneRequest
      { lostRequest with now := 651603000000 }).map (·.1) =
      .error (.unauthenticated .inactiveCertificate) := by
  obtain ⟨after, served, -, window, active, late⟩ := lostRequest_served
  exact ⟨after, served, window, active, late⟩

end CandyCloud
