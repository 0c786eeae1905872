import CandyCloud.Enrollment.CertificateChain
import CandyCloud.Enrollment.Runs
import Mathlib.Data.List.Induction

/-! # Certificates over whole runs

What a renewal leaves behind lasts, so its request id is answered with the
issued bytes for as long as the window is open, and with a refusal afterwards.
-/

namespace CandyCloud

open Foundation

variable {codec : EnrollmentCodec} {start store store' : CertificateStore}
  {write : CertificateRenewalWrite} {id : Uuid}

/-- The rows an accepted renewal leaves behind. -/
structure RenewalRemains (store : CertificateStore) (write : CertificateRenewalWrite) (id : Uuid) :
    Prop where
  valid : write.validate = .ok ()
  renewal : write.renewal id ∈ store.renewals
  certificate : ∃ row ∈ store.enrollment.certificates, row.issuedForm = write.certificate

theorem Renewed.remains (renewed : Renewed codec store write id store') :
    RenewalRemains store' write id := by
  refine ⟨renewed.valid, ?_, write.certificate, ?_, rfl⟩
  · rw [renewed.renewals]
    exact List.mem_concat_self
  · rw [renewed.certificatesEq]
    exact List.mem_concat_self

theorem certificateStep_grows (inv : CertificateInvariant codec store) (call : CertificateCall) :
    store.renewals <+: (certificateStep codec store call).renewals ∧
      store.enrollment.certificates.map (·.issuedForm) <+:
        (certificateStep codec store call).enrollment.certificates.map (·.issuedForm) := by
  cases call with
  | enroll call =>
      simp only [certificateStep]
      split
      · refine ⟨List.prefix_rfl, ?_⟩
        rcases @enrollmentStep_change codec _ call inv.unproved with same | ⟨_, -, change⟩
        · exact same.symm ▸ List.prefix_rfl
        · exact change.identitiesGrow.certificates
      · exact ⟨List.prefix_rfl, List.prefix_rfl⟩
  | renew other theirs =>
      refine commit_cases (P := fun after : CertificateStore =>
        store.renewals <+: after.renewals ∧ store.enrollment.certificates.map (·.issuedForm) <+:
          after.enrollment.certificates.map (·.issuedForm))
        ⟨List.prefix_rfl, List.prefix_rfl⟩ ?_
      intro after done
      obtain ⟨⟨outcome, finished⟩, renews, rfl⟩ := map_ok.mp done
      rcases renew_cases renews with ⟨-, rfl⟩ | ⟨-, renewed⟩
      · exact ⟨List.prefix_rfl, List.prefix_rfl⟩
      · have kept : (store.enrollment.certificates.map other.supersede).map (·.issuedForm) =
            store.enrollment.certificates.map (·.issuedForm) := by
          rw [List.map_map]
          exact List.map_congr_left fun row _ => (supersede_supersedes other).form row
        refine ⟨⟨_, renewed.renewals.symm⟩, ?_⟩
        rw [renewed.certificatesEq, List.map_append, kept]
        exact List.prefix_append _ _

section

variable (remains : RenewalRemains store write id) (inv : CertificateInvariant codec store)

include remains inv

theorem RenewalRemains.step (call : CertificateCall) :
    RenewalRemains (certificateStep codec store call) write id := by
  obtain ⟨renewals, certificates⟩ := certificateStep_grows inv call
  refine ⟨remains.valid, renewals.subset remains.renewal, ?_⟩
  obtain ⟨row, member, form⟩ := remains.certificate
  have listed := certificates.subset (List.mem_map_of_mem (f := (·.issuedForm)) member)
  obtain ⟨row', member', same⟩ := List.mem_map.mp listed
  exact ⟨row', member', same.trans form⟩

theorem RenewalRemains.run (calls : List CertificateCall) :
    RenewalRemains (run (certificateStep codec) store calls) write id := by
  refine (run_invariant (P := fun after => CertificateInvariant codec after ∧
    RenewalRemains after write id) ?_ ⟨inv, remains⟩ calls).2
  intro after call ⟨kept, left⟩
  exact ⟨certificateStep_invariant kept call, left.step kept call⟩

theorem RenewalRemains.found (selected : CertificateRenewalRow → Bool)
    (own : selected (write.renewal id) = true)
    (request : ∀ row, selected row = true → row.scope.deviceId = write.scope.deviceId ∧
      codec.collate row.requestId = codec.collate write.requestId) :
    ∃ certificate, store.renewedCertificate selected = some (write.renewal id, certificate) ∧
      certificate.renewalRecord = .ok write.record := by
  have first : store.renewals.find? selected = some (write.renewal id) := by
    refine find_keyed inv.renewals.requests remains.renewal own ?_
    intro row tested
    obtain ⟨device, collated⟩ := request row tested
    exact Prod.ext device collated
  obtain ⟨row, member, form⟩ := remains.certificate
  have named : row.id = write.certificateId := congrArg (·.id) form
  have joined : (store.enrollment.certificates.find? fun dc =>
      dc.id == (write.renewal id).certificateId) = some row := by
    rw [show (write.renewal id).certificateId = row.id from named.symm]
    exact find_of_key inv.rows.ids member fun _ => beq_iff_eq
  refine ⟨row, ?_, ?_⟩
  · simp only [CertificateStore.renewedCertificate, first, joined, Option.bind_eq_bind,
      Option.bind_some, Option.pure_def]
  · have valid := remains.valid
    simp only [CertificateRenewalWrite.validate, reject_ok, Bool.or_eq_false_iff] at valid
    have bytes : invalidCertificate write.certificateDer write.certificateChainPem = false := by
      simp only [valid]
    have der : row.certificateDer = write.certificateDer := congrArg (·.certificateDer) form
    have chain : row.certificateChainPem = write.certificateChainPem :=
      congrArg (·.certificateChainPem) form
    have notAfter : row.notAfter = write.notAfter := congrArg (·.notAfter) form
    rw [DeviceCertificateRow.renewalRecord, der, chain, bytes, notAfter]
    rfl

theorem RenewalRemains.again {again : CertificateRenewalWrite} (valid : again.validate = .ok ())
    (device : again.scope.deviceId = write.scope.deviceId)
    (request : codec.collate again.requestId = codec.collate write.requestId) (theirs : Uuid) :
    store.renew codec again theirs =
      .ok (if again.scope = write.scope ∧
          again.previousCertificateId = write.previousCertificateId ∧
          again.renewedAt < write.replayUntil then .replay write.record else .identityChanged,
        store) := by
  by_cases scope : again.scope = write.scope
  · obtain ⟨certificate, found, record⟩ := remains.found inv
      (fun renewal => renewal.scope == again.scope &&
        codec.collate renewal.requestId == codec.collate again.requestId)
      (by simp [CertificateRenewalWrite.renewal, scope, request])
      (fun row selected => by
        simp only [Bool.and_eq_true, beq_iff_eq] at selected
        exact ⟨by rw [selected.1, device], selected.2.trans request⟩)
    have requested : store.requested codec again = some (write.renewal id, certificate) := found
    simp only [CertificateStore.renew, valid, requested, bind, Except.bind]
    by_cases open_ : again.previousCertificateId = write.previousCertificateId ∧
        again.renewedAt < write.replayUntil
    · have kept : ((write.renewal id).previousCertificateId != again.previousCertificateId ||
          decide ((write.renewal id).replayUntil ≤ again.renewedAt)) = false := by
        rw [Bool.or_eq_false_iff, bne_eq_false_iff_eq]
        exact ⟨open_.1.symm, decide_eq_false (Nat.not_le.mpr open_.2)⟩
      rw [if_pos ⟨scope, open_⟩]
      simp only [CertificateStore.replay, kept, record, Bool.false_eq_true, if_false, bind,
        Except.bind, pure, Except.pure]
    · have refused : ((write.renewal id).previousCertificateId != again.previousCertificateId ||
          decide ((write.renewal id).replayUntil ≤ again.renewedAt)) = true := by
        rw [Bool.or_eq_true, bne_iff_ne]
        by_cases same : again.previousCertificateId = write.previousCertificateId
        · exact .inr (decide_eq_true (Nat.not_lt.mp fun inside => open_ ⟨same, inside⟩))
        · exact .inl fun equal => same equal.symm
      rw [if_neg fun all => open_ all.2]
      simp only [CertificateStore.replay, refused, if_true, pure, Except.pure]
  · -- the device has no certificate under another scope
    have requested : store.requested codec again = none := by
      have unused : store.renewals.find? (fun renewal => renewal.scope == again.scope &&
          codec.collate renewal.requestId == codec.collate again.requestId) = none := by
        rw [List.find?_eq_none]
        intro row member selected
        simp only [Bool.and_eq_true, beq_iff_eq] at selected
        have same : row = write.renewal id := eq_of_key inv.renewals.requests member
          remains.renewal (Prod.ext (by rw [selected.1, device]; rfl)
            (selected.2.trans request))
        exact scope (by rw [← selected.1, same]; rfl)
      simp only [CertificateStore.requested, CertificateStore.renewedCertificate, unused,
        Option.bind_eq_bind, Option.bind_none]
    have current : store.current again = none := by
      rw [CertificateStore.current, List.find?_eq_none]
      intro row member tested
      simp only [Bool.and_eq_true, beq_iff_eq] at tested
      have own : row.scope = again.scope := tested.1.1.1.1
      obtain ⟨certificate, stored, form⟩ := remains.certificate
      have issued : certificate.scope = write.scope := congrArg (·.scope) form
      have shared := inv.rows.scopes row member certificate stored (.inl ?_)
      · exact scope (own.symm.trans (shared.trans issued))
      · rw [show row.deviceId = again.scope.deviceId from congrArg (·.deviceId) own, device]
        exact (congrArg (·.deviceId) issued).symm
    rw [if_neg fun all => scope all.1]
    simp only [CertificateStore.renew, valid, requested, current, bind, Except.bind, pure,
      Except.pure]

theorem RenewalRemains.loads {authenticated requestId : Uuid} {now : Instant}
    (named : write.scope.nil = false) (presented : isNil authenticated = false)
    (asked : isNil requestId = false)
    (request : codec.collate (uuidText requestId) = codec.collate write.requestId) :
    store.loadReplay codec write.scope authenticated requestId now =
      .ok (if (authenticated = write.previousCertificateId ∨ authenticated = write.certificateId) ∧
        now < write.replayUntil then some write.record else none) := by
  simp only [CertificateStore.loadReplay, named, presented, asked, Bool.or_self, reject,
    Bool.false_eq_true, if_false, bind, Except.bind]
  by_cases open_ : (authenticated = write.previousCertificateId ∨
      authenticated = write.certificateId) ∧ now < write.replayUntil
  · obtain ⟨certificate, found, record⟩ := remains.found inv
      (fun renewal => renewal.scope == write.scope &&
        codec.collate renewal.requestId == codec.collate (uuidText requestId) &&
        (renewal.previousCertificateId == authenticated ||
          renewal.certificateId == authenticated) && decide (now < renewal.replayUntil))
      (by simp [CertificateRenewalWrite.renewal, request, open_.2, open_.1.imp Eq.symm Eq.symm])
      (fun row selected => by
        simp only [Bool.and_eq_true, beq_iff_eq] at selected
        exact ⟨by rw [selected.1.1.1], selected.1.1.2.trans request⟩)
    rw [if_pos open_, found]
    simp only [record, pure, Except.pure]
  · have unused : store.renewals.find? (fun renewal => renewal.scope == write.scope &&
        codec.collate renewal.requestId == codec.collate (uuidText requestId) &&
        (renewal.previousCertificateId == authenticated ||
          renewal.certificateId == authenticated) && decide (now < renewal.replayUntil)) =
        none := by
      rw [List.find?_eq_none]
      intro row member selected
      simp only [Bool.and_eq_true, Bool.or_eq_true, beq_iff_eq, decide_eq_true_eq] at selected
      have same : row = write.renewal id := eq_of_key inv.renewals.requests member
        remains.renewal (Prod.ext (by rw [selected.1.1.1]; rfl) (selected.1.1.2.trans request))
      subst same
      exact open_ ⟨selected.1.2.imp Eq.symm Eq.symm, selected.2⟩
    rw [if_neg open_]
    simp only [CertificateStore.renewedCertificate, unused, Option.bind_eq_bind, Option.bind_none,
      pure, Except.pure]

end

abbrev certificateRun (codec : EnrollmentCodec) (start : CertificateStore)
    (calls : List CertificateCall) : CertificateStore :=
  run (certificateStep codec) start calls

def RenewedIn (codec : EnrollmentCodec) (start : CertificateStore) (calls : List CertificateCall)
    (write : CertificateRenewalWrite) (id : Uuid) : Prop :=
  ∃ before after renewed, calls = before ++ .renew write id :: after ∧
    (certificateRun codec start before).renew codec write id = .ok (.renewed, renewed)

/-- Certificates and renewals over the run `calls` from `start`. -/
structure CertificateLaw (codec : EnrollmentCodec) (start : CertificateStore)
    (calls : List CertificateCall) : Prop where
  oneActive : ∀ key, (((certificateRun codec start calls).certificatesOf key).filter
    (·.status == .active)).length ≤ 1
  revoked : ∀ device ∈ (certificateRun codec start calls).enrollment.topology.devices,
    device.status = .revoked →
    ∀ row ∈ (certificateRun codec start calls).enrollment.certificates,
      row.deviceId = device.id → row.status ≠ .active
  /-- The renewals of a key link its certificates one after the other, from the
      one it was enrolled with. -/
  linear : ∀ key, (certificateRun codec start calls).linksOf key =
    successions (((certificateRun codec start calls).certificatesOf key).map (·.id))
  origin : ∀ key row, ((certificateRun codec start calls).certificatesOf key).head? = some row →
    (certificateRun codec start calls).enrolled row
  renewedOnce : ((certificateRun codec start calls).renewals.map (·.previousCertificateId)).Nodup
  resultOnce : ((certificateRun codec start calls).renewals.map (·.certificateId)).Nodup
  recorded : ∀ row ∈ (certificateRun codec start calls).renewals, ∃ write id,
    RenewedIn codec start calls write id ∧ row = write.renewal id
  /-- What is renewed is the last certificate of its key, and active. -/
  accepted : ∀ before write id after renewed, calls = before ++ .renew write id :: after →
    (certificateRun codec start before).renew codec write id = .ok (.renewed, renewed) →
    ∃ row, ((certificateRun codec start before).certificatesOf
        write.scope.deviceKeyId).getLast? = some row ∧
      row.id = write.previousCertificateId ∧ row.scope = write.scope ∧ row.status = .active
  /-- A device's used request id is answered with the bytes issued for it while
      the previous certificate agrees and the window is open. -/
  replayed : ∀ write id, RenewedIn codec start calls write id →
    ∀ again theirs, again.validate = .ok () → again.scope.deviceId = write.scope.deviceId →
      codec.collate again.requestId = codec.collate write.requestId →
      (certificateRun codec start calls).renew codec again theirs =
        .ok (if again.scope = write.scope ∧
            again.previousCertificateId = write.previousCertificateId ∧
            again.renewedAt < write.replayUntil then .replay write.record else .identityChanged,
          certificateRun codec start calls)
  loaded : ∀ write id, RenewedIn codec start calls write id →
    ∀ authenticated requestId now, isNil authenticated = false → isNil requestId = false →
      codec.collate (uuidText requestId) = codec.collate write.requestId →
      (certificateRun codec start calls).loadReplay codec write.scope authenticated requestId now =
        .ok (if (authenticated = write.previousCertificateId ∨
          authenticated = write.certificateId) ∧ now < write.replayUntil then some write.record
          else none)
  /-- Every other outcome, and every error, changes nothing. -/
  quiet : ∀ before write id after, calls = before ++ .renew write id :: after →
    (∃ renewed, (certificateRun codec start before).renew codec write id =
      .ok (.renewed, renewed)) ∨
    certificateRun codec start (before ++ [.renew write id]) = certificateRun codec start before

theorem initial_certificates (certificates : start.enrollment.certificates = [])
    (renewals : start.renewals = [])
    (unproved : ∀ row ∈ start.enrollment.challenges, row.status ≠ .proved)
    (devices : start.enrollment.topology.deviceIds.Nodup) : CertificateInvariant codec start := by
  have none : ∀ key, start.certificatesOf key = [] := by
    intro key
    rw [CertificateStore.certificatesOf, certificates, List.filter_nil]
  refine ⟨unproved, ?_, ?_, ?_⟩
  · exact ⟨devices, by simp [certificates], by simp [certificates], by simp [certificates],
      by simp [certificates], by simp [certificates]⟩
  · exact ⟨by simp [renewals], by simp [renewals], by simp [renewals], by simp [renewals]⟩
  · intro key
    refine ⟨?_, by simp [none], by simp [none]⟩
    simp [CertificateStore.linksOf, CertificateStore.renewalsOf, renewals, none, successions]

theorem CertificateChain.oneActive {key : Uuid} (chain : CertificateChain store key) :
    ((store.certificatesOf key).filter (·.status == .active)).length ≤ 1 := by
  cases found : (store.certificatesOf key).getLast? with
  | none =>
      rw [List.getLast?_eq_none_iff] at found
      rw [found]
      exact Nat.zero_le 1
  | some last =>
      obtain ⟨before, split⟩ := List.getLast?_eq_some_iff.mp found
      have closed := chain.closed
      rw [split, List.dropLast_concat] at closed
      have none : before.filter (·.status == .active) = [] := by
        rw [List.filter_eq_nil_iff]
        intro row member active
        exact closed row member (beq_iff_eq.mp active)
      rw [split, List.filter_append, none, List.nil_append]
      exact List.length_filter_le _ _

theorem renewedIn_extend {calls : List CertificateCall}
    (renewed : RenewedIn codec start calls write id) (later : List CertificateCall) :
    RenewedIn codec start (calls ++ later) write id := by
  obtain ⟨before, after, result, rfl, done⟩ := renewed
  exact ⟨before, after ++ later, result, by simp, done⟩

theorem renewedIn_remains (initial : CertificateInvariant codec start)
    {calls : List CertificateCall} (renewed : RenewedIn codec start calls write id) :
    RenewalRemains (certificateRun codec start calls) write id := by
  obtain ⟨before, after, result, rfl, done⟩ := renewed
  have reached := run_certificate_invariant initial before
  have stepped : certificateStep codec (certificateRun codec start before) (.renew write id) =
      result := by
    rw [certificateStep, done]
    rfl
  rcases renew_cases done with ⟨other, -⟩ | ⟨-, rows⟩
  · exact absurd rfl other
  · rw [certificateRun, run_append, run_cons]
    refine RenewalRemains.run ?_ (certificateStep_invariant reached (.renew write id)) after
    rw [stepped]
    exact rows.remains

theorem renewals_recorded (renewals : start.renewals = []) (calls : List CertificateCall) :
    ∀ row ∈ (certificateRun codec start calls).renewals, ∃ write id,
      RenewedIn codec start calls write id ∧ row = write.renewal id := by
  induction calls using List.reverseRecOn with
  | nil =>
      intro row member
      rw [certificateRun, run_nil, renewals] at member
      cases member
  | append_singleton before call ih =>
      intro row member
      have earlier : row ∈ (certificateRun codec start before).renewals → ∃ write id,
          RenewedIn codec start (before ++ [call]) write id ∧ row = write.renewal id := by
        intro old
        obtain ⟨write, id, renewed, same⟩ := ih row old
        exact ⟨write, id, renewedIn_extend renewed [call], same⟩
      rw [certificateRun, run_concat] at member
      cases call with
      | enroll call =>
          simp only [certificateStep] at member
          split at member
          · exact earlier member
          · exact earlier member
      | renew write id =>
          rw [certificateStep] at member
          cases result : (certificateRun codec start before).renew codec write id with
          | error error =>
              rw [show (run (certificateStep codec) start before).renew codec write id = _ from
                result] at member
              exact earlier member
          | ok done =>
              obtain ⟨outcome, after⟩ := done
              rw [show (run (certificateStep codec) start before).renew codec write id = _ from
                result] at member
              rcases renew_cases result with ⟨-, same⟩ | ⟨rfl, rows⟩
              · subst same
                exact earlier member
              · have listed : row ∈ after.renewals := member
                rw [rows.renewals] at listed
                rcases mem_concat.mp listed with old | new
                · exact earlier old
                · exact ⟨write, id, ⟨before, [], after, rfl, result⟩, new⟩

/-- Over every run of enrollment calls and renewals that starts without
    certificates, the certificates of a key form one chain. -/
theorem device_certificate_chain (codec : EnrollmentCodec) (start : CertificateStore)
    (certificates : start.enrollment.certificates = []) (renewals : start.renewals = [])
    (unproved : ∀ row ∈ start.enrollment.challenges, row.status ≠ .proved)
    (devices : start.enrollment.topology.deviceIds.Nodup) (calls : List CertificateCall) :
    CertificateLaw codec start calls := by
  have initial : CertificateInvariant codec start :=
    initial_certificates certificates renewals unproved devices
  have reached := fun calls => run_certificate_invariant initial calls
  constructor
  · exact fun key => ((reached calls).chain key).oneActive
  · intro device member revoked
    exact (reached calls).rows.revoked (device.id, device.tenantId, device.status)
      (List.mem_map.mpr ⟨device, member, rfl⟩) revoked
  · exact fun key => ((reached calls).chain key).links
  · exact fun key => ((reached calls).chain key).origin
  · exact (reached calls).renewals.previous
  · exact (reached calls).renewals.results
  · exact renewals_recorded renewals calls
  · intro before write id after renewed _ done
    rcases renew_cases done with ⟨other, -⟩ | ⟨-, rows⟩
    · exact absurd rfl other
    · obtain ⟨row, split, named, scope, active⟩ := rows.last (reached before)
      refine ⟨row, ?_, named, scope, active⟩
      rw [split]
      exact List.getLast?_concat
  · intro write id renewed again theirs valid device request
    exact (renewedIn_remains initial renewed).again (reached calls) valid device request theirs
  · intro write id renewed authenticated requestId now presented asked request
    have remains := renewedIn_remains initial renewed
    have valid := remains.valid
    simp only [CertificateRenewalWrite.validate, reject_ok, Bool.or_eq_false_iff] at valid
    exact remains.loads (reached calls) (by simp only [valid]) presented asked request
  · intro before write id after _
    cases result : (certificateRun codec start before).renew codec write id with
    | error error =>
        right
        rw [certificateRun, run_concat, certificateStep,
          show (run (certificateStep codec) start before).renew codec write id = _ from result]
        rfl
    | ok done =>
        obtain ⟨outcome, renewed⟩ := done
        rcases renew_cases result with ⟨-, rfl⟩ | ⟨rfl, -⟩
        · right
          rw [certificateRun, run_concat, certificateStep,
            show (run (certificateStep codec) start before).renew codec write id = _ from result]
          rfl
        · exact .inl ⟨renewed, rfl⟩

def certificateStart : CertificateStore := ⟨enrollmentStart, [], []⟩

def certificateRenewal : CertificateRenewalWrite :=
  { requestId := "00000000-0000-4000-8000-000000000009"
    scope := ⟨2, 1, 0x00000000000070008000000000000001, 0x00000000000070008000000000000002⟩
    operationalPublicKey := 7
    previousCertificateId := 0x00000000000070008000000000000003
    certificateId := 0x00000000000070008000000000000004
    issuerKeyId := "issuer-1"
    serialNumber := 5
    certificateDer := [48, 1]
    certificateChainPem := "chain"
    sanUri := "candy:device:00000000-0000-7000-8000-000000000001"
    environment := "test"
    assuranceLevel := 1
    notBefore := 8000000
    notAfter := 20000000
    renewedAt := 8000000
    replayUntil := 9000000 }

def certificateCalls : List CertificateCall :=
  enrollmentCalls.map .enroll ++ [.renew certificateRenewal 30]

/-- The enrolled device renews its certificate and asks again within the window. -/
theorem renewed_once :
    ((certificateRun enrollmentCodec certificateStart
      (enrollmentCalls.map .enroll)).renew enrollmentCodec certificateRenewal 30).map (·.1) =
      .ok .renewed ∧
    (certificateRun enrollmentCodec certificateStart certificateCalls).renew enrollmentCodec
        { certificateRenewal with certificateId := 0x00000000000070008000000000000005 } 31 =
      .ok (.replay certificateRenewal.record,
        certificateRun enrollmentCodec certificateStart certificateCalls) := by
  have accepted : ((certificateRun enrollmentCodec certificateStart
      (enrollmentCalls.map .enroll)).renew enrollmentCodec certificateRenewal 30).map (·.1) =
      .ok .renewed := by decide +kernel
  refine ⟨accepted, ?_⟩
  have law := device_certificate_chain enrollmentCodec certificateStart rfl rfl
    (by decide) (by decide) certificateCalls
  obtain ⟨⟨outcome, renewed⟩, done, same⟩ := map_ok.mp accepted
  cases same
  exact law.replayed certificateRenewal 30
    ⟨enrollmentCalls.map .enroll, [], renewed, rfl, done⟩
    { certificateRenewal with certificateId := 0x00000000000070008000000000000005 } 31
    (by decide +kernel) rfl rfl

end CandyCloud
