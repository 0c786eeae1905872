import CandyCloud.Enrollment.CertificateRuns

/-! # Renewal requests

The TLS edge hands on the certificate a device has presented.
-/

namespace CandyCloud

open Foundation

inductive CertificateIssuanceError where
  | invalidOperationalPublicKey
  | invalidAssuranceLevel
  | generationFailed
deriving DecidableEq, Repr

/-- What is signed in a certificate, with times in seconds; the key usages are
    the same in every certificate. -/
structure CertificateParams where
  notBefore : Nat
  notAfter : Nat
  serialNumber : BitVec 128
  subjectAltNames : List String
  commonName : String
  publicKey : Hash
deriving DecidableEq, Repr

/-- `validKey` is the check of an Ed25519 key, and `sign` makes the certificate
    under the key of the authority. -/
structure DeviceCertificateIssuer where
  issuerKeyId : String
  environment : String
  certificateChainPem : String
  validKey : Hash → Bool
  sign : CertificateParams → Option Bytes

/-- Seven days. -/
def deviceCertificateTtlSecs : Nat := 7 * 24 * 3600

/-- 72 hours. -/
def normalRenewalWindow : Nat := 72 * 3600 * 1000000

/-- The last second of the year 9999. -/
def maxOffsetSecs : Nat := 253402300799

def deviceSanUri (deviceId : Uuid) : String := "candy:device:" ++ uuidText deviceId

def DeviceCertificateIssuer.subjectAltNames (issuer : DeviceCertificateIssuer)
    (deviceId deviceKeyId : Uuid) (assuranceLevel : Nat) : List String :=
  [deviceSanUri deviceId, "candy:device-key:" ++ uuidText deviceKeyId,
    "candy:environment:" ++ issuer.environment, "candy:assurance:A" ++ toString assuranceLevel]

/-- `issue`; the serial number is a UUID drawn by the call. -/
def DeviceCertificateIssuer.issue (issuer : DeviceCertificateIssuer) (deviceId deviceKeyId : Uuid)
    (operationalPublicKey : Hash) (assuranceLevel : Nat) (now : Instant)
    (serialNumber : BitVec 128) : Except CertificateIssuanceError IssuedDeviceCertificate := do
  reject (isNil deviceId || isNil deviceKeyId) .generationFailed
  reject (decide (3 < assuranceLevel)) .invalidAssuranceLevel
  reject (!issuer.validKey operationalPublicKey) .invalidOperationalPublicKey
  let notBefore := unixTimestamp now
  let notAfter := notBefore + deviceCertificateTtlSecs
  reject (decide (maxOffsetSecs < notAfter)) .generationFailed
  let subjectAltNames := issuer.subjectAltNames deviceId deviceKeyId assuranceLevel
  -- a URI name is an ASCII text
  reject (!subjectAltNames.all fun name => (utf8 name).all (· < 128)) .generationFailed
  let certificateDer ← orElse .generationFailed (issuer.sign
    { notBefore, notAfter, serialNumber, subjectAltNames
      commonName := "Candy Device " ++ uuidText deviceId
      publicKey := operationalPublicKey })
  return { issuerKeyId := issuer.issuerKeyId
           serialNumber
           certificateDer
           certificateChainPem := issuer.certificateChainPem
           environment := issuer.environment
           notBefore := notBefore * 1000000
           notAfter := notAfter * 1000000 }

inductive DeviceIdentityError where
  | invalidCertificate
  | inactiveCertificate
  | unavailable
deriving DecidableEq, Repr

/-- What is read of a certificate that is followed by nothing: the algorithm and
    the length of its key, and the URIs among its alternative names, if it has
    that extension. -/
structure X509Certificate where
  algorithm : String
  publicKeyLength : Nat
  uris : Option (List String)
deriving DecidableEq, Repr

structure DeviceCertificateClaims where
  deviceId : Uuid
  deviceKeyId : Uuid
  assuranceLevel : Nat
deriving DecidableEq, Repr

structure CertificateClaims where
  deviceId : Option Uuid
  deviceKeyId : Option Uuid
  environment : Option String
  assuranceLevel : Option Nat
deriving DecidableEq, Repr

def stripPrefix (start text : String) : Option String :=
  if start.toList.isPrefixOf text.toList then
    some (String.ofList (text.toList.drop start.toList.length))
  else none

def setOnce {α : Type} (target : Option α) (value : α) : Except DeviceIdentityError (Option α) :=
  if target.isSome then .error .invalidCertificate else .ok (some value)

/-- `parse_uuid`: the canonical form of an identifier. -/
def claimedUuid (value : String) : Except DeviceIdentityError Uuid :=
  orElse .invalidCertificate ((parseUuid value).filter fun id => uuidText id == value)

def claimedAssurance (value : String) : Except DeviceIdentityError Nat :=
  orElse .invalidCertificate ((parseUnsigned u64Max (utf8 value)).filter (· ≤ 3))

def CertificateClaims.read (claims : CertificateClaims) (uri : String) :
    Except DeviceIdentityError CertificateClaims :=
  match stripPrefix "candy:device:" uri, stripPrefix "candy:device-key:" uri,
    stripPrefix "candy:environment:" uri, stripPrefix "candy:assurance:A" uri with
  | some value, _, _, _ => do
      let deviceId ← setOnce claims.deviceId (← claimedUuid value)
      return { claims with deviceId }
  | _, some value, _, _ => do
      let deviceKeyId ← setOnce claims.deviceKeyId (← claimedUuid value)
      return { claims with deviceKeyId }
  | _, _, some value, _ => do
      let environment ← setOnce claims.environment value
      return { claims with environment }
  | _, _, _, some value => do
      let assuranceLevel ← setOnce claims.assuranceLevel (← claimedAssurance value)
      return { claims with assuranceLevel }
  | _, _, _, _ => .ok claims

/-- `parse` is the reader of certificates. -/
structure DeviceIdentityAuthenticator where
  environment : String
  parse : Bytes → Option X509Certificate

def ed25519Oid : String := "1.3.101.112"

def DeviceIdentityAuthenticator.parseClaims (authenticator : DeviceIdentityAuthenticator)
    (certificateDer : Bytes) : Except DeviceIdentityError DeviceCertificateClaims := do
  let certificate ← orElse .invalidCertificate (authenticator.parse certificateDer)
  reject (certificate.algorithm != ed25519Oid || certificate.publicKeyLength != 32)
    .invalidCertificate
  let uris ← orElse .invalidCertificate certificate.uris
  let claims ← uris.foldlM CertificateClaims.read ⟨none, none, none, none⟩
  reject (claims.environment != some authenticator.environment) .invalidCertificate
  let deviceId ← orElse .invalidCertificate claims.deviceId
  let deviceKeyId ← orElse .invalidCertificate claims.deviceKeyId
  let assuranceLevel ← orElse .invalidCertificate claims.assuranceLevel
  return { deviceId, deviceKeyId, assuranceLevel }

structure DeviceCertificateIdentityRecord where
  scope : CertificateRenewalScope
  certificateId : Uuid
  assuranceLevel : Nat
deriving DecidableEq, Repr

def DeviceCertificateRow.identity (row : DeviceCertificateRow) : DeviceCertificateIdentityRecord :=
  ⟨row.scope, row.id, row.assuranceLevel⟩

def DeviceCertificateIdentityRecord.malformed (record : DeviceCertificateIdentityRecord) : Bool :=
  record.scope.nil || isNil record.certificateId || decide (3 < record.assuranceLevel)

/-- A device whose record is well formed. -/
structure AuthenticatedDevice where
  record : DeviceCertificateIdentityRecord
  valid : record.malformed = false

/-- `AuthenticatedDevice::new`. -/
def DeviceCertificateIdentityRecord.device (record : DeviceCertificateIdentityRecord) :
    Option AuthenticatedDevice :=
  if valid : record.malformed = false then some ⟨record, valid⟩ else none

/-- Organization, tenant, device and key of the certificate are active. -/
def EnrollmentStore.activeOwner (store : EnrollmentStore) (dc : DeviceCertificateRow) : Bool :=
  store.topology.organizations.any (fun org =>
    org.id == dc.organizationId && org.status == .active) &&
  store.topology.tenants.any (fun tenant => tenant.id == dc.tenantId &&
    tenant.organizationId == dc.organizationId && tenant.status == .active) &&
  store.topology.activeDevice dc.tenantId (some dc.deviceId) &&
  store.topology.activeDeviceKey dc.tenantId (some dc.deviceId) (some dc.deviceKeyId)

namespace CertificateStore

variable (store : CertificateStore)

/-- A renewal of the certificate can still be replayed. -/
def replayable (dc : DeviceCertificateRow) (now : Instant) : Bool :=
  store.renewals.any fun renewal => renewal.previousCertificateId == dc.id &&
    renewal.scope == dc.scope && decide (now < renewal.replayUntil)

def authenticates (codec : EnrollmentCodec) (deviceId deviceKeyId : Uuid) (certificateDer : Bytes)
    (environment : String) (now : Instant) (dc : DeviceCertificateRow) : Bool :=
  store.enrollment.activeOwner dc && dc.deviceId == deviceId && dc.deviceKeyId == deviceKeyId &&
    dc.certificateDer == certificateDer &&
    codec.collate dc.environment == codec.collate environment && decide (dc.notBefore ≤ now) &&
    decide (now < dc.notAfter + emergencyRenewalWindow) &&
    (dc.status == .active || dc.status == .superseded && store.replayable dc now)

def authenticateForCertificateRenewal (codec : EnrollmentCodec) (deviceId deviceKeyId : Uuid)
    (certificateDer : Bytes) (environment : String) (now : Instant) :
    Except CertificateRepositoryError (Option DeviceCertificateIdentityRecord) := do
  reject (isNil deviceId || isNil deviceKeyId || certificateDer.isEmpty ||
    decide (64 * 1024 < certificateDer.length) || !bounded environment 40)
    .invalidDeviceCertificateScope
  match store.enrollment.certificates.find?
      (store.authenticates codec deviceId deviceKeyId certificateDer environment now) with
  | none => return none
  | some dc =>
      reject dc.identity.malformed .invalidDeviceCertificateRecord
      return some dc.identity

end CertificateStore

structure CertificateRenewalReceipt where
  certificateDer : Bytes
  certificateChainPem : String
  notAfter : Instant
  replayed : Bool
deriving DecidableEq, Repr

def CertificateRenewalRecord.receipt (record : CertificateRenewalRecord) (replayed : Bool) :
    CertificateRenewalReceipt :=
  ⟨record.certificateDer, record.certificateChainPem, record.notAfter, replayed⟩

inductive CertificateRenewalError where
  | unauthenticated (error : DeviceIdentityError)
  | invalidRequest
  | notDue
  | identityChanged
  | unavailable
deriving DecidableEq, Repr

structure CertificateRenewalIdentity where
  scope : CertificateRenewalScope
  certificateId : Uuid
  operationalPublicKey : Hash
  assuranceLevel : Nat
  notAfter : Instant
deriving DecidableEq, Repr

def CertificateStore.loadIdentity (store : CertificateStore) (scope : CertificateRenewalScope)
    (certificateId : Uuid) (now : Instant) :
    Except CertificateRepositoryError (Option CertificateRenewalIdentity) := do
  reject (scope.nil || isNil certificateId) .invalidDeviceCertificateScope
  match store.enrollment.certificates.find? fun dc => dc.scope == scope &&
      dc.id == certificateId && store.enrollment.usableCertificate now dc with
  | none => return none
  | some dc =>
      match store.enrollment.keyMaterials.find? fun key => key.id == dc.deviceKeyId with
      | none => return none
      | some key =>
          reject (decide (3 < dc.assuranceLevel)) .invalidDeviceCertificateRecord
          return some ⟨dc.scope, dc.id, key.publicKey, dc.assuranceLevel, dc.notAfter⟩

/-- A request, with the identifiers its answer draws. -/
structure RenewalRequest where
  certificateDer : Bytes
  requestId : String
  now : Instant
  serialNumber : BitVec 128
  certificateId : Uuid
  renewalId : Uuid
deriving DecidableEq, Repr

/-- The identifier a request id is the canonical form of. -/
def requestUuid (requestId : String) : Option Uuid :=
  (parseUuid requestId).filter fun id => !isNil id && uuidText id == requestId

def CertificateRenewalIdentity.write (identity : CertificateRenewalIdentity)
    (issued : IssuedDeviceCertificate) (request : RenewalRequest) : CertificateRenewalWrite :=
  { requestId := request.requestId
    scope := identity.scope
    operationalPublicKey := identity.operationalPublicKey
    previousCertificateId := identity.certificateId
    certificateId := request.certificateId
    issuerKeyId := issued.issuerKeyId
    serialNumber := issued.serialNumber
    certificateDer := issued.certificateDer
    certificateChainPem := issued.certificateChainPem
    sanUri := deviceSanUri identity.scope.deviceId
    environment := issued.environment
    assuranceLevel := identity.assuranceLevel
    notBefore := issued.notBefore
    notAfter := issued.notAfter
    renewedAt := issued.notBefore
    replayUntil := issued.notBefore + emergencyRenewalWindow }

structure CertificateRenewalService where
  codec : EnrollmentCodec
  issuer : DeviceCertificateIssuer
  authenticator : DeviceIdentityAuthenticator

namespace CertificateRenewalService

variable (service : CertificateRenewalService)

def authenticateVerifiedRenewalCertificate (store : CertificateStore) (certificateDer : Bytes)
    (now : Instant) : Except DeviceIdentityError AuthenticatedDevice := do
  let claims ← service.authenticator.parseClaims certificateDer
  let found ← (store.authenticateForCertificateRenewal service.codec claims.deviceId
    claims.deviceKeyId certificateDer service.authenticator.environment now).mapError
    fun _ => .unavailable
  let record ← orElse .inactiveCertificate found
  reject (record.assuranceLevel != claims.assuranceLevel) .invalidCertificate
  orElse .invalidCertificate record.device

/-- The certificate that answers a request, and the write that stores it. -/
def prepare (store : CertificateStore) (actor : AuthenticatedDevice) (request : RenewalRequest) :
    Except CertificateRenewalError CertificateRenewalWrite := do
  let found ← (store.loadIdentity actor.record.scope actor.record.certificateId
    request.now).mapError fun _ => .unavailable
  let identity ← orElse .identityChanged found
  reject (identity.assuranceLevel != actor.record.assuranceLevel) .identityChanged
  reject (decide (request.now + normalRenewalWindow < identity.notAfter)) .notDue
  let issued ← (service.issuer.issue identity.scope.deviceId identity.scope.deviceKeyId
    identity.operationalPublicKey identity.assuranceLevel request.now
    request.serialNumber).mapError fun _ => .unavailable
  return identity.write issued request

/-- `CertificateRenewalCoordinator::renew`, reading the tables as they are when a
    replay is looked up, when the identity is loaded and when the renewal runs. -/
def renew (atReplay atIdentity atRenewal : CertificateStore) (actor : AuthenticatedDevice)
    (request : RenewalRequest) :
    Except CertificateRenewalError (CertificateRenewalReceipt × CertificateStore) := do
  let requestId ← orElse .invalidRequest (requestUuid request.requestId)
  let replay ← (atReplay.loadReplay service.codec actor.record.scope actor.record.certificateId
    requestId request.now).mapError fun _ => .unavailable
  match replay with
  | some record => return (record.receipt true, atReplay)
  | none =>
      let write ← service.prepare atIdentity actor request
      let (outcome, after) ← (atRenewal.renew service.codec write request.renewalId).mapError
        fun _ => .unavailable
      match outcome with
      | .renewed => return (write.record.receipt false, after)
      | .replay record => return (record.receipt true, after)
      | .identityChanged => .error .identityChanged

end CertificateRenewalService

/-- The calls of others between the steps of a request. -/
structure RenewalInterleaving where
  afterAuthentication : List CertificateCall
  afterReplay : List CertificateCall
  afterIdentity : List CertificateCall

def RenewalInterleaving.calls (others : RenewalInterleaving) : List CertificateCall :=
  others.afterAuthentication ++ others.afterReplay ++ others.afterIdentity

/-- The whole of a request, with the store that its last step leaves. -/
def CertificateRenewalService.serve (service : CertificateRenewalService)
    (store : CertificateStore) (others : RenewalInterleaving) (request : RenewalRequest) :
    Except CertificateRenewalError (CertificateRenewalReceipt × CertificateStore) := do
  let actor ← (service.authenticateVerifiedRenewalCertificate store request.certificateDer
    request.now).mapError .unauthenticated
  let atReplay := certificateRun service.codec store others.afterAuthentication
  let atIdentity := certificateRun service.codec atReplay others.afterReplay
  service.renew atReplay atIdentity
    (certificateRun service.codec atIdentity others.afterIdentity) actor request

end CandyCloud
