import CandyCloud.Client.Plane
import Mathlib.Algebra.Group.Nat.Even

/-! # The documents on the wire

The canonical JSON of grants and projections: members stand in the order of their names.
-/

namespace CandyCloud

open Foundation

def base64Digits (symbols : String) (count value : Nat) : Bytes :=
  (List.range count).map fun place =>
    (utf8 symbols).getD (value / 64 ^ (count - 1 - place) % 64) 0

/-- Three bytes are four digits. What is left at the end is one digit longer than
    its bytes. -/
def base64 (symbols : String) : Bytes → Bytes
  | [] => []
  | [a] => base64Digits symbols 2 (a.toNat * 16)
  | [a, b] => base64Digits symbols 3 ((a.toNat * 256 + b.toNat) * 4)
  | a :: b :: c :: rest =>
      base64Digits symbols 4 ((a.toNat * 256 + b.toNat) * 256 + c.toNat) ++ base64 symbols rest

def base64Letters : String := "ABCDEFGHIJKLMNOPQRSTUVWXYZabcdefghijklmnopqrstuvwxyz0123456789"

/-- `URL_SAFE_NO_PAD`. -/
def base64UrlSafe (bytes : Bytes) : Bytes := base64 (base64Letters ++ "-_") bytes

/-- `STANDARD`, filled up to a multiple of four. -/
def base64Standard (bytes : Bytes) : Bytes :=
  let digits := base64 (base64Letters ++ "+/") bytes
  digits ++ List.replicate ((4 - digits.length % 4) % 4) 61

example : base64UrlSafe [251, 239, 1, 2] = utf8 "--8BAg" := by decide

example : base64Standard [251, 239, 1, 2] = utf8 "++8BAg==" := by decide

def jsonQuoted (text : Bytes) : Bytes := 34 :: text ++ [34]

def jsonContentHash (hash : Hash) : Bytes :=
  jsonString ("sha256:" ++ String.ofList (hexDigits 64 hash.toNat))

/-- `format_cert_pin`. -/
def jsonCertPin (hash : Hash) : Bytes := jsonString (String.ofList (hexDigits 64 hash.toNat))

def ClientGrantAudience.json (audience : ClientGrantAudience) : Bytes :=
  jsonObject [("device_id", jsonUuid audience.deviceId),
    ("device_key_id", jsonUuid audience.deviceKeyId), ("tenant_id", jsonUuid audience.tenantId),
    ("user_id", jsonUuid audience.userId)]

def ClientGrantNodeAssignment.json (node : ClientGrantNodeAssignment) : Bytes :=
  jsonObject [("assignment_lease_until", jsonNumber node.assignmentLeaseUntil),
    ("endpoint", jsonString node.endpoint), ("node_id", jsonUuid node.nodeId),
    ("node_key_id", jsonUuid node.nodeKeyId), ("priority", jsonNumber node.priority),
    ("server_cert_sha256", jsonCertPin node.serverCertSha256),
    ("server_name", jsonString node.serverName), ("transport", jsonString node.transport)]

def ClientGrantPolicyBinding.json (binding : ClientGrantPolicyBinding) : Bytes :=
  jsonObject [("content_hash", jsonContentHash binding.contentHash),
    ("generation", jsonNumber binding.generation), ("policy_id", jsonUuid binding.policyId)]

def jsonModes (modes : List ClientTrafficMode) : Bytes := jsonStrings (modes.map (·.toWireValue))

def ClientGrantPayloadV1.json (payload : ClientGrantPayloadV1) : Bytes :=
  jsonObject [("audience", payload.audience.json),
    ("device_generation", jsonNumber payload.deviceGeneration),
    ("device_id", jsonUuid payload.deviceId), ("device_key_id", jsonUuid payload.deviceKeyId),
    ("device_public_key", jsonQuoted (base64UrlSafe (hashBytes payload.devicePublicKey))),
    ("expires_at", jsonNumber payload.expiresAt), ("generation", jsonNumber payload.generation),
    ("grant_id", jsonUuid payload.grantId), ("issued_at", jsonNumber payload.issuedAt),
    ("mode_capabilities", jsonModes payload.modeCapabilities),
    ("nodes", jsonArray (payload.nodes.map (·.json))),
    ("not_before", jsonNumber payload.notBefore), ("policy", payload.policy.json),
    ("schema_version", jsonNumber payload.schemaVersion),
    ("signing_key_id", jsonString payload.signingKeyId), ("tenant_id", jsonUuid payload.tenantId),
    ("user_id", jsonUuid payload.userId)]

def ClientGrantEnvelopeV1.json (envelope : ClientGrantEnvelopeV1) : Bytes :=
  jsonObject [("content_hash", jsonContentHash envelope.contentHash),
    ("payload", envelope.payload.json), ("schema_version", jsonNumber envelope.schemaVersion),
    ("signature", jsonQuoted (base64UrlSafe (bigEndian 64 envelope.signature.toNat))),
    ("signing_key_id", jsonString envelope.signingKeyId)]

def PolicyProjectionDnsMode.wireValue : PolicyProjectionDnsMode → String
  | .cloudSplit => "cloud_split"
  | .cloudGlobal => "cloud_global"
  | .system => "system"
  | .disabled => "disabled"

def PolicyProjectionDnsEgress.wireValue : PolicyProjectionDnsEgress → String
  | .selectedNode => "selected_node"
  | .cloudResolver => "cloud_resolver"
  | .none => "none"

def PolicyProjectionNodeAssignment.json (node : PolicyProjectionNodeAssignment) : Bytes :=
  jsonObject [("assignment_lease_until", jsonNumber node.assignmentLeaseUntil),
    ("endpoint", jsonString node.endpoint), ("node_id", jsonUuid node.nodeId),
    ("node_key_id", jsonUuid node.nodeKeyId), ("priority", jsonNumber node.priority),
    ("transport", jsonString node.transport)]

def ClientAllowedResource.canonical (resource : ClientAllowedResource) : Bytes :=
  jsonObject [("cidrs", jsonStrings resource.cidrs), ("domains", jsonStrings resource.domains),
    ("name", jsonString resource.name), ("ports", jsonArray (resource.ports.map jsonNumber))]

/-- `search_domains` is left out when there are none. -/
def PolicyProjectionDns.json (dns : PolicyProjectionDns) : Bytes :=
  jsonObject ([("leak_protection", jsonBool dns.leakProtection),
      ("mode", jsonString dns.mode.wireValue)] ++
    (dns.searchDomains.map fun domains => ("search_domains", jsonStrings domains)).toList ++
    [("servers", jsonStrings dns.servers)])

def PolicyProjectionGlobalEgress.json (egress : PolicyProjectionGlobalEgress) : Bytes :=
  jsonObject [("dns_egress", jsonString egress.dnsEgress.wireValue),
    ("enabled", jsonBool egress.enabled), ("node_id", jsonUuid egress.nodeId)]

def PolicyProjectionV1.members (projection : PolicyProjectionV1)
    (contentHash signature : List (String × Bytes)) : Bytes :=
  jsonObject ([("allowed_resources", jsonArray (projection.allowedResources.map (·.canonical))),
      ("audience", projection.audience.json)] ++ contentHash ++
    [("degraded_behavior", jsonString projection.degradedBehavior.wireValue),
      ("device_id", jsonUuid projection.deviceId),
      ("device_key_id", jsonUuid projection.deviceKeyId),
      ("dns_projection", projection.dnsProjection.json),
      ("generation", jsonNumber projection.generation),
      ("global_egress", projection.globalEgress.json),
      ("grant_expires_at", jsonNumber projection.grantExpiresAt),
      ("grant_id", jsonUuid projection.grantId), ("issued_at", jsonNumber projection.issuedAt),
      ("mode_capabilities", jsonModes projection.modeCapabilities),
      ("not_before", jsonNumber projection.notBefore),
      ("projection_id", jsonUuid projection.projectionId),
      ("projection_type", jsonString projection.projectionType),
      ("schema_version", jsonNumber projection.schemaVersion),
      ("selected_node", projection.selectedNode.json)] ++ signature ++
    [("signing_key_id", jsonString projection.signingKeyId),
      ("stale_until", jsonNumber projection.staleUntil),
      ("standby_nodes", jsonArray (projection.standbyNodes.map (·.json))),
      ("tenant_id", jsonUuid projection.tenantId),
      ("traffic_mode", jsonString projection.trafficMode.toWireValue),
      ("underlay_exclusions", jsonStrings projection.underlayExclusions),
      ("user_id", jsonUuid projection.userId)])

def PolicyProjectionV1.json (projection : PolicyProjectionV1) : Bytes := projection.members [] []

def SignedPolicyProjection.json (signed : SignedPolicyProjection) : Bytes :=
  signed.projection.members [("content_hash", jsonContentHash signed.contentHash)]
    [("signature", jsonQuoted (base64Standard (bigEndian 64 signed.signature.toNat)))]

end CandyCloud
