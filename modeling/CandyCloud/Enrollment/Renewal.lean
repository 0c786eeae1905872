import CandyCloud.Enrollment.Calls

/-! # Renewing a device certificate

`CertificateRenewalRepository` supersedes the active certificate of a device key and inserts its
successor, and keeps under the request id which certificate came out of which.
-/

namespace CandyCloud

open Foundation

structure CertificateRenewalScope where
  organizationId : Uuid
  tenantId : Uuid
  deviceId : Uuid
  deviceKeyId : Uuid
deriving DecidableEq, Repr

structure CertificateRenewalWrite where
  requestId : String
  scope : CertificateRenewalScope
  operationalPublicKey : Hash
  previousCertificateId : Uuid
  certificateId : Uuid
  issuerKeyId : String
  serialNumber : BitVec 128
  certificateDer : Bytes
  certificateChainPem : String
  sanUri : String
  environment : String
  assuranceLevel : Nat
  notBefore : Instant
  notAfter : Instant
  renewedAt : Instant
  replayUntil : Instant
deriving DecidableEq, Repr

structure CertificateRenewalRecord where
  certificateDer : Bytes
  certificateChainPem : String
  notAfter : Instant
deriving DecidableEq, Repr

inductive CertificateRenewalOutcome where
  | renewed
  | replay (record : CertificateRenewalRecord)
  | identityChanged
deriving DecidableEq, Repr

inductive CertificateRepositoryError where
  | database
  | invalidDeviceCertificateScope
  | invalidDeviceCertificateRecord
deriving DecidableEq, Repr

/-- A renewal: the certificate it replaced and the one it made. -/
structure CertificateRenewalRow where
  id : Uuid
  scope : CertificateRenewalScope
  previousCertificateId : Uuid
  certificateId : Uuid
  requestId : String
  replayUntil : Instant
deriving DecidableEq, Repr

structure CertificateRenewalAuditRow where
  scope : CertificateRenewalScope
  certificateId : Uuid
  requestId : String
  previousCertificateId : Uuid
deriving DecidableEq, Repr

/-- The enrollment tables and the renewals made from them. -/
structure CertificateStore where
  enrollment : EnrollmentStore
  renewals : List CertificateRenewalRow
  renewalAudits : List CertificateRenewalAuditRow
deriving DecidableEq, Repr

/-- Primary key and the three unique keys of the renewals. -/
def CertificateRenewalRow.conflict (codec : EnrollmentCodec) (a b : CertificateRenewalRow) : Bool :=
  a.id == b.id ||
    (a.scope.deviceId == b.scope.deviceId && codec.collate a.requestId == codec.collate b.requestId) ||
    a.previousCertificateId == b.previousCertificateId || a.certificateId == b.certificateId

def DeviceCertificateRow.scope (row : DeviceCertificateRow) : CertificateRenewalScope :=
  ⟨row.organizationId, row.tenantId, row.deviceId, row.deviceKeyId⟩

def hexValue (c : Char) : Option Nat :=
  if '0' ≤ c ∧ c ≤ '9' then some (c.toNat - '0'.toNat)
  else if 'a' ≤ c ∧ c ≤ 'f' then some (c.toNat - 'a'.toNat + 10)
  else none

/-- The value of the hexadecimal digits of a text; the caller compares the text
    with the canonical form of the result. -/
def parseUuid (text : String) : Option Uuid := do
  let digits ← (text.toList.filter (· != '-')).mapM hexValue
  return BitVec.ofNat 128 (digits.foldl (fun value digit => 16 * value + digit) 0)

def canonicalRequestId (text : String) : Bool :=
  bounded text 120 && (parseUuid text).any fun id => !isNil id && uuidText id == text

def CertificateRenewalScope.nil (scope : CertificateRenewalScope) : Bool :=
  isNil scope.organizationId || isNil scope.tenantId || isNil scope.deviceId ||
    isNil scope.deviceKeyId

/-- Bounds of a certificate and its chain. -/
def invalidCertificate (certificateDer : Bytes) (certificateChainPem : String) : Bool :=
  certificateDer.isEmpty || decide (64 * 1024 < certificateDer.length) ||
    certificateChainPem.isEmpty || decide (1024 * 1024 < certificateChainPem.utf8ByteSize)

namespace CertificateRenewalWrite

variable (write : CertificateRenewalWrite)

def validate : Except CertificateRepositoryError Unit :=
  reject (!canonicalRequestId write.requestId || write.scope.nil ||
    isNil write.previousCertificateId || isNil write.certificateId ||
    uuidVersion write.certificateId != 7 || write.previousCertificateId == write.certificateId ||
    !bounded write.issuerKeyId 80 || write.serialNumber == 0 ||
    invalidCertificate write.certificateDer write.certificateChainPem ||
    write.sanUri != "candy:device:" ++ uuidText write.scope.deviceId ||
    !bounded write.environment 40 || decide (3 < write.assuranceLevel) ||
    write.notBefore != write.renewedAt || decide (write.notAfter ≤ write.notBefore) ||
    decide (write.replayUntil ≤ write.renewedAt) ||
    decide (write.notAfter < write.replayUntil)) .invalidDeviceCertificateScope

def record : CertificateRenewalRecord :=
  ⟨write.certificateDer, write.certificateChainPem, write.notAfter⟩

def certificate : DeviceCertificateRow :=
  { id := write.certificateId
    organizationId := write.scope.organizationId
    tenantId := write.scope.tenantId
    deviceId := write.scope.deviceId
    deviceKeyId := write.scope.deviceKeyId
    issuerKeyId := write.issuerKeyId
    serialNumber := write.serialNumber
    certificateDer := write.certificateDer
    certificateChainPem := write.certificateChainPem
    sanUri := write.sanUri
    environment := write.environment
    assuranceLevel := write.assuranceLevel
    notBefore := write.notBefore
    notAfter := write.notAfter
    status := .active
    revokedAt := none }

def renewal (id : Uuid) : CertificateRenewalRow :=
  { id
    scope := write.scope
    previousCertificateId := write.previousCertificateId
    certificateId := write.certificateId
    requestId := write.requestId
    replayUntil := write.replayUntil }

def audit : CertificateRenewalAuditRow :=
  ⟨write.scope, write.certificateId, write.requestId, write.previousCertificateId⟩

end CertificateRenewalWrite

def DeviceCertificateRow.renewalRecord (row : DeviceCertificateRow) :
    Except CertificateRepositoryError CertificateRenewalRecord := do
  reject (invalidCertificate row.certificateDer row.certificateChainPem)
    .invalidDeviceCertificateRecord
  return ⟨row.certificateDer, row.certificateChainPem, row.notAfter⟩

/-- Twelve hours. -/
def emergencyRenewalWindow : Nat := 12 * 3600 * 1000000

/-- The identity tables let the certificate act: organization, tenant, device and
    key are active, and the window of the certificate is open. -/
def EnrollmentStore.usableCertificate (store : EnrollmentStore) (now : Instant)
    (dc : DeviceCertificateRow) : Bool :=
  store.topology.organizations.any (fun org =>
    org.id == dc.organizationId && org.status == .active) &&
  store.topology.tenants.any (fun tenant => tenant.id == dc.tenantId &&
    tenant.organizationId == dc.organizationId && tenant.status == .active) &&
  store.topology.activeDevice dc.tenantId (some dc.deviceId) &&
  store.topology.activeDeviceKey dc.tenantId (some dc.deviceId) (some dc.deviceKeyId) &&
  dc.status == .active && decide (dc.notBefore ≤ now) &&
  decide (now < dc.notAfter + emergencyRenewalWindow)

namespace CertificateStore

variable (store : CertificateStore)

/-- The certificate the renewal is about, with the key it claims. -/
def current (write : CertificateRenewalWrite) : Option DeviceCertificateRow :=
  store.enrollment.certificates.find? fun dc =>
    dc.scope == write.scope && dc.id == write.previousCertificateId &&
    dc.assuranceLevel == write.assuranceLevel &&
    store.enrollment.keyMaterials.any (fun key => key.id == dc.deviceKeyId &&
      key.publicKey == write.operationalPublicKey && key.assuranceLevel == write.assuranceLevel) &&
    store.enrollment.usableCertificate write.renewedAt dc

/-- A renewal row joined with the certificate it produced. -/
def renewedCertificate (selected : CertificateRenewalRow → Bool) :
    Option (CertificateRenewalRow × DeviceCertificateRow) := do
  let renewal ← store.renewals.find? selected
  let certificate ← store.enrollment.certificates.find? fun dc => dc.id == renewal.certificateId
  return (renewal, certificate)

def requested (codec : EnrollmentCodec) (write : CertificateRenewalWrite) :
    Option (CertificateRenewalRow × DeviceCertificateRow) :=
  store.renewedCertificate fun renewal => renewal.scope == write.scope &&
    codec.collate renewal.requestId == codec.collate write.requestId

def loadReplay (codec : EnrollmentCodec) (scope : CertificateRenewalScope)
    (authenticatedCertificateId requestId : Uuid) (now : Instant) :
    Except CertificateRepositoryError (Option CertificateRenewalRecord) := do
  reject (scope.nil || isNil authenticatedCertificateId || isNil requestId)
    .invalidDeviceCertificateScope
  match store.renewedCertificate fun renewal => renewal.scope == scope &&
      codec.collate renewal.requestId == codec.collate (uuidText requestId) &&
      (renewal.previousCertificateId == authenticatedCertificateId ||
        renewal.certificateId == authenticatedCertificateId) &&
      decide (now < renewal.replayUntil) with
  | none => return none
  | some (_, certificate) => return some (← certificate.renewalRecord)

/-- The answer to a request id that is already taken. -/
def replay (write : CertificateRenewalWrite)
    (found : CertificateRenewalRow × DeviceCertificateRow) :
    Except CertificateRepositoryError CertificateRenewalOutcome :=
  if found.1.previousCertificateId != write.previousCertificateId ||
      decide (found.1.replayUntil ≤ write.renewedAt) then .ok .identityChanged
  else do
    let record ← found.2.renewalRecord
    return .replay record

/-- `UPDATE device_certificates SET status = 'SUPERSEDED' … AND status = 'ACTIVE'`. -/
def supersedes (write : CertificateRenewalWrite) (dc : DeviceCertificateRow) : Bool :=
  dc.id == write.previousCertificateId && dc.scope == write.scope && dc.status == .active

/-- The statements of a renewal whose certificate is current. -/
def replaceCertificate (codec : EnrollmentCodec) (write : CertificateRenewalWrite) (id : Uuid) :
    Except CertificateRepositoryError CertificateStore := do
  let superseded := updateWhere (supersedes write)
    (fun dc => { dc with status := .superseded, revokedAt := some write.renewedAt })
    store.enrollment.certificates
  let certificates ← orElse .database
    (insertRow (DeviceCertificateRow.conflict codec) superseded write.certificate)
  let renewals ← orElse .database
    (insertRow (CertificateRenewalRow.conflict codec) store.renewals (write.renewal id))
  return { enrollment := { store.enrollment with certificates }
           renewals
           renewalAudits := store.renewalAudits ++ [write.audit] }

/-- `renew`; the identifier of the renewal row is drawn by the call. -/
def renew (codec : EnrollmentCodec) (write : CertificateRenewalWrite) (id : Uuid) :
    Except CertificateRepositoryError (CertificateRenewalOutcome × CertificateStore) := do
  write.validate
  match store.requested codec write with
  | some found => return (← replay write found, store)
  | none =>
      match store.current write with
      | none =>
          -- a second look at the request id, which nothing else has taken meanwhile
          match store.requested codec write with
          | some found => return (← replay write found, store)
          | none => return (.identityChanged, store)
      | some _ =>
          if (store.enrollment.certificates.filter (supersedes write)).length != 1 then
            return (.identityChanged, store)
          else return (.renewed, ← store.replaceCertificate codec write id)

end CertificateStore

/-- Enrollment calls and renewals; between them, other transactions change
    neither the owner nor the status of a device. -/
inductive CertificateCall where
  | enroll (call : EnrollmentCall)
  | renew (write : CertificateRenewalWrite) (id : Uuid)

def Topology.deviceStates (topology : Topology) : List (Uuid × Uuid × DeviceStatus) :=
  topology.devices.map fun device => (device.id, device.tenantId, device.status)

def EnrollmentCall.keepsDevices (store : EnrollmentStore) : EnrollmentCall → Bool
  | .elsewhere cloud => cloud.route.topology.deviceStates == store.topology.deviceStates
  | _ => true

def certificateStep (codec : EnrollmentCodec) (store : CertificateStore) :
    CertificateCall → CertificateStore
  | .enroll call =>
      if call.keepsDevices store.enrollment then
        { store with enrollment := enrollmentStep codec store.enrollment call }
      else store
  | .renew write id => commit store ((store.renew codec write id).map (·.2))

end CandyCloud
