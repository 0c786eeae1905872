import CandyCloud.Client.Policies

/-! # Signed grants and projections

The contracts of the crates `cloud-client-grant` and `cloud-client-projection`: what a grant or
a projection says, the check it has to pass on both sides of the wire and the signature over its
canonical form.
-/

namespace CandyCloud

open Foundation

/-- The sixty-four bytes of an Ed25519 signature. -/
abbrev Signature := BitVec 512

structure SigningKey where
  sign : Bytes → Signature
  verify : Bytes → Signature → Bool
  verify_sign : ∀ message, verify message (sign message) = true

/-- The device key a document is addressed to. -/
structure ClientGrantAudience where
  tenantId : Uuid
  userId : Uuid
  deviceId : Uuid
  deviceKeyId : Uuid
deriving DecidableEq, Repr

abbrev PolicyProjectionAudience := ClientGrantAudience

def ClientGrantAudience.ids (audience : ClientGrantAudience) : List Uuid :=
  [audience.tenantId, audience.userId, audience.deviceId, audience.deviceKeyId]

def hasDuplicates {α : Type} [DecidableEq α] (values : List α) : Bool := !decide values.Nodup

structure ClientGrantNodeAssignment where
  nodeId : Uuid
  endpoint : String
  priority : Nat
  nodeKeyId : Uuid
  transport : String
  serverName : String
  serverCertSha256 : Hash
  assignmentLeaseUntil : Nat
deriving DecidableEq, Repr

structure ClientGrantPolicyBinding where
  policyId : Uuid
  generation : Nat
  contentHash : Hash
deriving DecidableEq, Repr

structure ClientGrantPayloadV1 where
  schemaVersion : Nat
  grantId : Uuid
  tenantId : Uuid
  userId : Uuid
  deviceId : Uuid
  deviceKeyId : Uuid
  devicePublicKey : Hash
  audience : ClientGrantAudience
  deviceGeneration : Nat
  generation : Nat
  issuedAt : Nat
  notBefore : Nat
  expiresAt : Nat
  modeCapabilities : List ClientTrafficMode
  policy : ClientGrantPolicyBinding
  nodes : List ClientGrantNodeAssignment
  signingKeyId : String
deriving DecidableEq, Repr

/-- A grant as the client receives it. -/
structure ClientGrantEnvelopeV1 where
  schemaVersion : Nat
  payload : ClientGrantPayloadV1
  contentHash : Hash
  signingKeyId : String
  signature : Signature
deriving DecidableEq, Repr

inductive ClientGrantError where
  | invalidPayload
  | invalidEnvelope
  | contentHashMismatch
  | audienceMismatch
  | invalidSignature
  | canonicalization
deriving DecidableEq, Repr

def clientGrantTtlSecs : Nat := 24 * 60 * 60

def clientGrantMaxTtlSecs : Nat := 7 * 24 * 60 * 60

def maxSigningKeyIdLen : Nat := 128

def maxClientGrantNodes : Nat := 3

def maxClientGrantTokenLen : Nat := 64 * 1024

inductive LabelState where
  | start
  | hasLetter
  | allNumeric
  | endsInHyphen
deriving DecidableEq, Repr

/-- A label ends: it has a length and no hyphen at its end. -/
def LabelState.ends (state : LabelState) (length : Nat) : Bool :=
  decide (0 < length) && decide (length ≤ 63) && state != .endsInHyphen

/-- The loop of `is_valid_dns_name` over the bytes that are left, with the state
    and the length of the label it is in. A last dot is allowed, and the last
    label is not a number. -/
def dnsNameFrom : LabelState → Nat → Bytes → Bool
  | state, length, [] => state.ends length && state != .allNumeric
  | state, length, byte :: rest =>
      if asciiLower byte || asciiUpper byte || byte == 95 then dnsNameFrom .hasLetter (length + 1) rest
      else if asciiDigit byte then
        match state with
        | .start | .allNumeric => dnsNameFrom .allNumeric (length + 1) rest
        | .hasLetter | .endsInHyphen => dnsNameFrom .hasLetter (length + 1) rest
      else if byte == 46 then
        state.ends length &&
          (if rest.isEmpty then state != .allNumeric else dnsNameFrom .start 0 rest)
      else if byte == 45 then decide (0 < length) && dnsNameFrom .endsInHyphen (length + 1) rest
      else false

def isValidDnsName (value : Bytes) : Bool :=
  !value.isEmpty && decide (value.length ≤ 253) && dnsNameFrom .start 0 value

def isValidServerName (value : String) : Bool :=
  isValidDnsName (utf8 value) || isIpAddr (utf8 value)

def ClientGrantNodeAssignment.malformed (payload : ClientGrantPayloadV1)
    (node : ClientGrantNodeAssignment) : Bool :=
  isNil node.nodeId || isNil node.nodeKeyId || node.endpoint.toList.all isWhitespace ||
    decide (255 < node.endpoint.utf8ByteSize) || (utf8 node.endpoint).any asciiControl ||
    !isValidServerName node.serverName || decide (node.transport ≠ "quic") ||
    decide (node.assignmentLeaseUntil ≤ payload.issuedAt) ||
    decide (payload.expiresAt < node.assignmentLeaseUntil)

/-- A node after those before it: another node, and next in priority. -/
def ClientGrantPayloadV1.checkNode (payload : ClientGrantPayloadV1)
    (seen : List ClientGrantNodeAssignment) (node : ClientGrantNodeAssignment) :
    Except ClientGrantError Unit := do
  reject (node.malformed payload || seen.any fun other => decide (other.nodeId = node.nodeId))
    .invalidPayload
  reject (decide (node.priority ≠ seen.length + 1)) .invalidPayload

def ClientGrantPayloadV1.validate (payload : ClientGrantPayloadV1) :
    Except ClientGrantError Unit := do
  reject (payload.schemaVersion != 1 || isNil payload.grantId || payload.deviceGeneration == 0 ||
    payload.generation == 0 || payload.signingKeyId.isEmpty ||
    decide (maxSigningKeyIdLen < payload.signingKeyId.utf8ByteSize)) .invalidPayload
  reject (payload.audience.ids.any isNil || decide (payload.audience ≠
    ⟨payload.tenantId, payload.userId, payload.deviceId, payload.deviceKeyId⟩)) .audienceMismatch
  reject (decide (payload.issuedAt < payload.notBefore) ||
    decide (payload.expiresAt ≤ payload.issuedAt) ||
    decide (clientGrantMaxTtlSecs < payload.expiresAt - payload.issuedAt)) .invalidPayload
  reject (payload.modeCapabilities.isEmpty || decide (2 < payload.modeCapabilities.length) ||
    hasDuplicates payload.modeCapabilities) .invalidPayload
  reject (isNil payload.policy.policyId || payload.policy.generation == 0) .invalidPayload
  reject (payload.nodes.isEmpty || decide (maxClientGrantNodes < payload.nodes.length))
    .invalidPayload
  checkEach payload.checkNode [] payload.nodes

inductive PolicyProjectionDnsMode where
  | cloudSplit
  | cloudGlobal
  | system
  | disabled
deriving DecidableEq, Repr

inductive PolicyProjectionDnsEgress where
  | selectedNode
  | cloudResolver
  | none
deriving DecidableEq, Repr

structure PolicyProjectionNodeAssignment where
  nodeId : Uuid
  endpoint : String
  priority : Nat
  nodeKeyId : Uuid
  transport : String
  assignmentLeaseUntil : Nat
deriving DecidableEq, Repr

structure PolicyProjectionDns where
  mode : PolicyProjectionDnsMode
  servers : List String
  searchDomains : Option (List String)
  leakProtection : Bool
deriving DecidableEq, Repr

structure PolicyProjectionGlobalEgress where
  enabled : Bool
  nodeId : Uuid
  dnsEgress : PolicyProjectionDnsEgress
deriving DecidableEq, Repr

/-- The signed part of a projection: every field but `content_hash` and
    `signature`. -/
structure PolicyProjectionV1 where
  schemaVersion : Nat
  projectionId : Uuid
  projectionType : String
  tenantId : Uuid
  userId : Uuid
  deviceId : Uuid
  deviceKeyId : Uuid
  audience : PolicyProjectionAudience
  grantId : Uuid
  grantExpiresAt : Nat
  generation : Nat
  notBefore : Nat
  staleUntil : Nat
  issuedAt : Nat
  trafficMode : ClientTrafficMode
  modeCapabilities : List ClientTrafficMode
  selectedNode : PolicyProjectionNodeAssignment
  standbyNodes : List PolicyProjectionNodeAssignment
  allowedResources : List ClientAllowedResource
  dnsProjection : PolicyProjectionDns
  underlayExclusions : List String
  degradedBehavior : ClientDegradedBehavior
  globalEgress : PolicyProjectionGlobalEgress
  signingKeyId : String
deriving DecidableEq, Repr

/-- A projection with its signature. -/
structure SignedPolicyProjection where
  projection : PolicyProjectionV1
  contentHash : Hash
  signature : Signature
deriving DecidableEq, Repr

inductive PolicyProjectionError where
  | invalidProjection
  | audienceMismatch
  | contentHashMismatch
  | invalidSignature
  | canonicalization
deriving DecidableEq, Repr

def policyProjectionType : String := "device_client"

def maxStandbyNodes : Nat := 8

def PolicyProjectionV1.nodes (projection : PolicyProjectionV1) :
    List PolicyProjectionNodeAssignment :=
  projection.selectedNode :: projection.standbyNodes

def PolicyProjectionNodeAssignment.malformed (staleUntil : Nat)
    (node : PolicyProjectionNodeAssignment) : Bool :=
  isNil node.nodeId || isNil node.nodeKeyId || node.endpoint.isEmpty ||
    decide (255 < node.endpoint.utf8ByteSize) || (utf8 node.endpoint).any asciiControl ||
    node.priority == 0 || (node.transport != "quic" && node.transport != "tls_tcp") ||
    node.assignmentLeaseUntil == 0 || decide (staleUntil < node.assignmentLeaseUntil)

/-- `validate_node` and the check that no node comes twice. -/
def PolicyProjectionV1.checkNode (projection : PolicyProjectionV1)
    (seen : List PolicyProjectionNodeAssignment) (node : PolicyProjectionNodeAssignment) :
    Except PolicyProjectionError Unit := do
  reject (node.malformed projection.staleUntil) .invalidProjection
  reject (seen.any fun other => decide (other.nodeId = node.nodeId)) .invalidProjection

/-- `validate_resource`. -/
def ClientAllowedResource.unsignable (resource : ClientAllowedResource) : Bool :=
  !resourceName resource.name || (resource.domains.isEmpty && resource.cidrs.isEmpty) ||
    decide (1024 < resource.domains.length) || decide (1024 < resource.cidrs.length) ||
    decide (128 < resource.ports.length) || hasDuplicates resource.domains ||
    hasDuplicates resource.cidrs || hasDuplicates resource.ports ||
    !resource.domains.all (boundedText maxDomainLen) ||
    !resource.cidrs.all (boundedText maxCidrLen) || resource.ports.contains 0

/-- `validate_dns`. -/
def PolicyProjectionDns.malformed (dns : PolicyProjectionDns) : Bool :=
  decide (maxDnsServers < dns.servers.length) || !dns.servers.all (boundedText maxDnsServerLen) ||
    dns.searchDomains.any fun domains =>
      decide (maxSearchDomains < domains.length) || !domains.all (boundedText maxSearchDomainLen)

/-- Global mode has an egress and a resolver behind it, policy mode neither. -/
def PolicyProjectionGlobalEgress.allowed (egress : PolicyProjectionGlobalEgress) :
    ClientTrafficMode → Bool
  | .global => egress.enabled && egress.dnsEgress != .none
  | .policy => !egress.enabled && egress.dnsEgress == .none

/-- The alphabet of a signing key identifier, between one and 128 bytes. -/
def signingKeyName (keyId : String) : Bool :=
  !keyId.isEmpty && decide (keyId.utf8ByteSize ≤ maxSigningKeyIdLen) &&
    (utf8 keyId).all fun byte => asciiAlphanumeric byte || (utf8 "_.:-").contains byte

def PolicyProjectionV1.validate (projection : PolicyProjectionV1) :
    Except PolicyProjectionError Unit := do
  reject (projection.schemaVersion != 1 || projection.projectionType != policyProjectionType ||
    isNil projection.projectionId || isNil projection.grantId || projection.generation == 0 ||
    projection.grantExpiresAt == 0 || projection.notBefore == 0 || projection.issuedAt == 0 ||
    projection.staleUntil == 0) .invalidProjection
  reject (projection.audience.ids.any isNil) .audienceMismatch
  reject (decide (projection.audience ≠ ⟨projection.tenantId, projection.userId,
    projection.deviceId, projection.deviceKeyId⟩)) .audienceMismatch
  reject (decide (projection.issuedAt < projection.notBefore) ||
    decide (projection.staleUntil < projection.issuedAt) ||
    decide (projection.grantExpiresAt < projection.staleUntil)) .invalidProjection
  reject (projection.modeCapabilities.isEmpty || decide (2 < projection.modeCapabilities.length) ||
    hasDuplicates projection.modeCapabilities ||
    !projection.modeCapabilities.contains projection.trafficMode) .invalidProjection
  reject (decide (maxStandbyNodes < projection.standbyNodes.length)) .invalidProjection
  checkEach projection.checkNode [] projection.nodes
  reject (decide (maxResources < projection.allowedResources.length)) .invalidProjection
  reject (projection.allowedResources.any ClientAllowedResource.unsignable) .invalidProjection
  reject projection.dnsProjection.malformed .invalidProjection
  reject (projection.underlayExclusions.isEmpty ||
    decide (maxUnderlayExclusions < projection.underlayExclusions.length) ||
    hasDuplicates projection.underlayExclusions) .invalidProjection
  reject (!projection.underlayExclusions.all (boundedText maxUnderlayExclusionLen))
    .invalidProjection
  reject (isNil projection.globalEgress.nodeId ||
    !projection.nodes.any fun node => decide (node.nodeId = projection.globalEgress.nodeId))
    .invalidProjection
  reject (!projection.globalEgress.allowed projection.trafficMode) .invalidProjection
  reject (!signingKeyName projection.signingKeyId) .invalidProjection

/-- What the documents are written and read with: canonical JSON, which a
    serializer may refuse, and the reader of `serde_json`. -/
structure EnvelopeCodec extends ClientCodec where
  grantBytes : ClientGrantPayloadV1 → Option Bytes
  grantEnvelopeBytes : ClientGrantEnvelopeV1 → Option Bytes
  readGrantEnvelope : Bytes → Option ClientGrantEnvelopeV1
  projectionBytes : PolicyProjectionV1 → Option Bytes
  projectionEnvelopeBytes : SignedPolicyProjection → Option Bytes

section Signing

variable (codec : EnvelopeCodec)

def ClientGrantPayloadV1.contentHash (payload : ClientGrantPayloadV1) :
    Except ClientGrantError Hash := do
  payload.validate
  let canonical ← orElse .canonicalization (codec.grantBytes payload)
  return codec.sha256 canonical

def grantSigningMessage (contentHash : Hash) : Bytes :=
  utf8 "candy/sdwan/client-grant/v1" ++ hashBytes contentHash

def ClientGrantEnvelopeV1.verify (key : SigningKey) (envelope : ClientGrantEnvelopeV1) :
    Except ClientGrantError Unit := do
  envelope.payload.validate
  reject (envelope.schemaVersion != 1 ||
    decide (envelope.signingKeyId ≠ envelope.payload.signingKeyId)) .invalidEnvelope
  let expected ← envelope.payload.contentHash codec
  reject (decide (expected ≠ envelope.contentHash)) .contentHashMismatch
  reject (!key.verify (grantSigningMessage expected) envelope.signature) .invalidSignature

/-- `ClientGrantEnvelopeV1::from_envelope_bytes`. -/
def fromGrantEnvelopeBytes (bytes : Bytes) : Except ClientGrantError ClientGrantEnvelopeV1 := do
  reject (bytes.isEmpty || decide (maxClientGrantTokenLen < bytes.length)) .invalidEnvelope
  orElse .invalidEnvelope (codec.readGrantEnvelope bytes)

/-- The identifier is bounded when the signer is made. -/
structure ClientGrantSigner where
  signingKey : SigningKey
  keyId : String
  bounded : keyId.isEmpty = false ∧ keyId.utf8ByteSize ≤ maxSigningKeyIdLen

def ClientGrantSigner.issue (signer : ClientGrantSigner) (payload : ClientGrantPayloadV1) :
    Except ClientGrantError ClientGrantEnvelopeV1 := do
  let payload := { payload with signingKeyId := signer.keyId }
  payload.validate
  let contentHash ← payload.contentHash codec
  let envelope : ClientGrantEnvelopeV1 :=
    { schemaVersion := 1
      payload
      contentHash
      signingKeyId := signer.keyId
      signature := signer.signingKey.sign (grantSigningMessage contentHash) }
  envelope.verify codec signer.signingKey
  return envelope

def PolicyProjectionV1.contentHash (projection : PolicyProjectionV1) :
    Except PolicyProjectionError Hash := do
  projection.validate
  let canonical ← orElse .canonicalization (codec.projectionBytes projection)
  return codec.sha256 canonical

def projectionSigningMessage (contentHash : Hash) : Bytes :=
  utf8 "candy/sdwan/policy-projection/v1" ++ hashBytes contentHash

def SignedPolicyProjection.verify (key : SigningKey) (signed : SignedPolicyProjection) :
    Except PolicyProjectionError Unit := do
  signed.projection.validate
  let expected ← signed.projection.contentHash codec
  reject (decide (signed.contentHash ≠ expected)) .contentHashMismatch
  reject (!key.verify (projectionSigningMessage expected) signed.signature) .invalidSignature

structure PolicyProjectionSigner where
  signingKey : SigningKey
  keyId : String
  named : signingKeyName keyId = true

def PolicyProjectionSigner.sign (signer : PolicyProjectionSigner)
    (projection : PolicyProjectionV1) : Except PolicyProjectionError SignedPolicyProjection := do
  let projection := { projection with signingKeyId := signer.keyId }
  let contentHash ← projection.contentHash codec
  let signed : SignedPolicyProjection :=
    { projection
      contentHash
      signature := signer.signingKey.sign (projectionSigningMessage contentHash) }
  signed.verify codec signer.signingKey
  return signed

variable {codec}

theorem issue_ok {signer : ClientGrantSigner} {payload : ClientGrantPayloadV1}
    {envelope : ClientGrantEnvelopeV1} :
    signer.issue codec payload = .ok envelope ↔
      ({ payload with signingKeyId := signer.keyId } : ClientGrantPayloadV1).validate = .ok () ∧
      ∃ canonical, codec.grantBytes { payload with signingKeyId := signer.keyId } = some canonical ∧
        envelope =
          { schemaVersion := 1
            payload := { payload with signingKeyId := signer.keyId }
            contentHash := codec.sha256 canonical
            signingKeyId := signer.keyId
            signature := signer.signingKey.sign (grantSigningMessage (codec.sha256 canonical)) } := by
  rw [ClientGrantSigner.issue, unit_bind_ok]
  refine and_congr_right fun valid => ?_
  simp only [ClientGrantPayloadV1.contentHash, ClientGrantEnvelopeV1.verify, valid]
  cases codec.grantBytes { payload with signingKeyId := signer.keyId } with
  | none => simp [orElse, bind, Except.bind]
  | some canonical =>
      simp [orElse, bind, Except.bind, pure, Except.pure, reject, signer.signingKey.verify_sign,
        eq_comm]

theorem sign_ok {signer : PolicyProjectionSigner} {projection : PolicyProjectionV1}
    {signed : SignedPolicyProjection} :
    signer.sign codec projection = .ok signed ↔
      ({ projection with signingKeyId := signer.keyId } : PolicyProjectionV1).validate = .ok () ∧
      ∃ canonical,
        codec.projectionBytes { projection with signingKeyId := signer.keyId } = some canonical ∧
        signed =
          { projection := { projection with signingKeyId := signer.keyId }
            contentHash := codec.sha256 canonical
            signature :=
              signer.signingKey.sign (projectionSigningMessage (codec.sha256 canonical)) } := by
  simp only [PolicyProjectionSigner.sign, PolicyProjectionV1.contentHash,
    SignedPolicyProjection.verify]
  cases valid : ({ projection with signingKeyId := signer.keyId } : PolicyProjectionV1).validate with
  | error error => simp [bind, Except.bind]
  | ok _ =>
      cases codec.projectionBytes { projection with signingKeyId := signer.keyId } with
      | none => simp [orElse, bind, Except.bind]
      | some canonical =>
          simp [orElse, bind, Except.bind, pure, Except.pure, reject,
            signer.signingKey.verify_sign, eq_comm]

end Signing

end CandyCloud
