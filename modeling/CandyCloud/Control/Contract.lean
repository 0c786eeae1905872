import CandyCloud.Foundation.Fallible
import CandyCloud.Text
import CandyCloud.Topology

/-! # Control documents

The resources an operator edits and the checks every document passes on its own.
-/

namespace CandyCloud

open Foundation

inductive ContractError where
  | invalidMetadata
  | invalidReference
  | invalidName
  | invalidToken
  | invalidPrefix
  | invalidPeer
  | invalidPathCandidate
  | invalidCapacity
  | invalidAttachment
  | invalidServicePolicy
  | invalidDnsIntent
  | invalidDnsName
deriving DecidableEq, Repr

def ContractError.message : ContractError → String
  | .invalidMetadata => "invalid resource metadata"
  | .invalidReference => "invalid resource reference"
  | .invalidName => "invalid resource name"
  | .invalidToken => "invalid resource token"
  | .invalidPrefix => "invalid IPv4 prefix"
  | .invalidPeer => "peer Sites must be distinct and canonically ordered"
  | .invalidPathCandidate => "invalid path candidate"
  | .invalidCapacity => "invalid capacity"
  | .invalidAttachment => "invalid segment attachment"
  | .invalidServicePolicy => "invalid service policy"
  | .invalidDnsIntent => "invalid DNS intent"
  | .invalidDnsName => "invalid DNS name"

structure ResourceMetadataV1 where
  schemaVersion : Nat
  id : Uuid
  tenantId : Uuid
  revision : Nat
  state : ResourceState
deriving DecidableEq, Repr

inductive NodePlatformV1 where
  | openWrt
  | linux
deriving DecidableEq, Repr

structure NodeV1 where
  deviceId : Uuid
  deviceKeyId : Uuid
  siteId : Uuid
  displayName : String
  platform : NodePlatformV1
  architecture : String
deriving DecidableEq, Repr

/-- A node of a site that takes part in a segment. -/
structure AttachmentV1 where
  segmentId : Uuid
  siteId : Uuid
  nodeId : Uuid
  overlayRouterIpv4 : BitVec 32
  epochFloor : Nat
deriving DecidableEq, Repr

structure SiteV1 where
  name : String
  kind : SiteKind
deriving DecidableEq, Repr

structure Ipv4PrefixV1 where
  network : BitVec 32
  prefixLen : Nat
deriving DecidableEq, Repr

structure SegmentV1 where
  name : String
  overlayPrefix : Ipv4PrefixV1
deriving DecidableEq, Repr

inductive PrefixSourceV1 where
  | connected
  | configured
  | approvedLearned
deriving DecidableEq, Repr

structure PrefixV1 where
  siteId : Uuid
  segmentId : Uuid
  prefix_ : Ipv4PrefixV1
  source : PrefixSourceV1
deriving DecidableEq, Repr

inductive PeerPathPolicyV1 where
  | directOnly
  | directPreferred
  | relayRequired
deriving DecidableEq, Repr

structure PeerV1 where
  segmentId : Uuid
  siteAId : Uuid
  siteBId : Uuid
  pathPolicy : PeerPathPolicyV1
deriving DecidableEq, Repr

structure RelayV1 where
  serviceNodeId : Uuid
  name : String
  region : String
  maxSessions : Nat
  maxBitsPerSecond : Nat
deriving DecidableEq, Repr

inductive PathCandidateKindV1 where
  | direct
  | relay
deriving DecidableEq, Repr

structure PathCandidateV1 where
  segmentId : Uuid
  peerId : Uuid
  sourceAttachmentId : Uuid
  destinationAttachmentId : Uuid
  kind : PathCandidateKindV1
  relayId : Option Uuid
  transportNodeId : Uuid
  priority : Nat
deriving DecidableEq, Repr

structure EgressV1 where
  name : String
  siteId : Uuid
  attachmentId : Uuid
  maxSessions : Nat
  maxBitsPerSecond : Nat
deriving DecidableEq, Repr

inductive PolicyActionV1 where
  | localEgress
  | remoteEgress (egressId : Uuid)
deriving DecidableEq, Repr

structure PolicyGeoSelectorV1 where
  provider : String
  countries : List String
  version : Option String
  digest : Option String
deriving DecidableEq, Repr

structure ServicePolicyRuleV1 where
  id : Uuid
  priority : Nat
  sourceSiteIds : List Uuid
  destinationPrefixes : List Ipv4PrefixV1
  destinationGeo : Option PolicyGeoSelectorV1
  domains : List String
  trafficClasses : List String
  action : PolicyActionV1
deriving DecidableEq, Repr

structure ServicePolicyV1 where
  segmentId : Uuid
  generation : Nat
  name : String
  enabled : Bool
  rules : List ServicePolicyRuleV1
deriving DecidableEq, Repr

inductive DnsRecordDataV1 where
  | a (address : BitVec 32)
  | aaaa (address : BitVec 128)
  | cname (target : String)
deriving DecidableEq, Repr

structure DnsRecordV1 where
  name : String
  ttlSeconds : Nat
  data : DnsRecordDataV1
  requiredPrefixId : Option Uuid
deriving DecidableEq, Repr

structure DnsIntentV1 where
  segmentId : Uuid
  siteId : Option Uuid
  siteIds : List Uuid
  zone : String
  records : List DnsRecordV1
deriving DecidableEq, Repr

inductive ResourceSpecV1 where
  | node (value : NodeV1)
  | site (value : SiteV1)
  | segment (value : SegmentV1)
  | attachment (value : AttachmentV1)
  | prefix_ (value : PrefixV1)
  | peer (value : PeerV1)
  | relay (value : RelayV1)
  | pathCandidate (value : PathCandidateV1)
  | egress (value : EgressV1)
  | servicePolicy (value : ServicePolicyV1)
  | dnsIntent (value : DnsIntentV1)
deriving DecidableEq, Repr

/-- A resource as the control plane reads and writes it. -/
structure ControlResourceV1 where
  metadata : ResourceMetadataV1
  resource : ResourceSpecV1
deriving DecidableEq, Repr

/-- In the order of the `resource_kind` column. -/
inductive ResourceKind where
  | node
  | site
  | segment
  | attachment
  | prefix_
  | peer
  | relay
  | pathCandidate
  | egress
  | servicePolicy
  | dnsIntent
deriving DecidableEq, Repr

namespace ResourceSpecV1

def kind : ResourceSpecV1 → ResourceKind
  | .node _ => .node
  | .site _ => .site
  | .segment _ => .segment
  | .attachment _ => .attachment
  | .prefix_ _ => .prefix_
  | .peer _ => .peer
  | .relay _ => .relay
  | .pathCandidate _ => .pathCandidate
  | .egress _ => .egress
  | .servicePolicy _ => .servicePolicy
  | .dnsIntent _ => .dnsIntent

def segmentId : ResourceSpecV1 → Option Uuid
  | .attachment value => some value.segmentId
  | .prefix_ value => some value.segmentId
  | .peer value => some value.segmentId
  | .pathCandidate value => some value.segmentId
  | .servicePolicy value => some value.segmentId
  | .dnsIntent value => some value.segmentId
  | .segment _ | .node _ | .site _ | .relay _ | .egress _ => none

end ResourceSpecV1

namespace Ipv4PrefixV1

/-- `u32::MAX << (32 - len)`, zero for an empty prefix. -/
def mask (len : Nat) : BitVec 32 :=
  if len = 0 then 0 else BitVec.allOnes 32 <<< (32 - len)

def validateWithDefault (value : Ipv4PrefixV1) (allowDefault : Bool) :
    Except ContractError Unit := do
  reject (decide (32 < value.prefixLen) || (!allowDefault && value.prefixLen == 0)) .invalidPrefix
  reject (value.network &&& ~~~(mask value.prefixLen) != 0) .invalidPrefix

def validate (value : Ipv4PrefixV1) : Except ContractError Unit :=
  value.validateWithDefault false

def overlaps (value other : Ipv4PrefixV1) : Bool :=
  let bits := min value.prefixLen other.prefixLen
  value.network &&& mask bits == other.network &&& mask bits

end Ipv4PrefixV1

def requireIds (ids : List Uuid) : Except ContractError Unit :=
  reject (ids.any isNil) .invalidReference

def requireCapacity (sessions bitsPerSecond : Nat) : Except ContractError Unit :=
  reject (sessions == 0 || bitsPerSecond == 0) .invalidCapacity

def validateDisplayText (value : String) (maxLen : Nat) : Except ContractError Unit :=
  let chars := value.toList
  reject (trim chars != chars || chars.isEmpty || decide (maxLen < chars.length) ||
    chars.any isControl) .invalidName

def validateName (value : String) : Except ContractError Unit :=
  validateDisplayText value 200

def validateToken (value : String) (maxLen : Nat) : Except ContractError Unit :=
  let bytes := utf8 value
  reject (bytes.isEmpty || decide (maxLen < bytes.length) ||
    !bytes.all fun byte => asciiAlphanumeric byte || byte == 45 || byte == 95 || byte == 46)
    .invalidToken

def validateDnsName (value : String) : Except ContractError Unit :=
  let bytes := utf8 value
  reject (bytes.isEmpty || decide (253 < bytes.length) || bytes.getLast? == some 46 ||
    bytes.any asciiUpper || (bytes.splitOn 46).any fun label => !dnsLabel label) .invalidDnsName

def ResourceMetadataV1.validate (metadata : ResourceMetadataV1) : Except ContractError Unit :=
  reject (metadata.schemaVersion != 1 || isNil metadata.id || isNil metadata.tenantId ||
    metadata.revision == 0) .invalidMetadata

def PolicyGeoSelectorV1.malformed (geo : PolicyGeoSelectorV1) : Bool :=
  geo.provider.toList.all isWhitespace || decide (80 < (utf8 geo.provider).length) ||
    geo.countries.isEmpty || decide (256 < geo.countries.length) ||
    !decide geo.countries.Nodup ||
    (geo.countries.any fun country =>
      (utf8 country).length != 2 || !(utf8 country).all asciiUpper) ||
    (geo.version.any fun version => version.isEmpty || decide (120 < (utf8 version).length)) ||
    (geo.digest.any fun digest =>
      (utf8 digest).length != 64 || !(utf8 digest).all asciiHex)

def PolicyActionV1.isRemote : PolicyActionV1 → Bool
  | .remoteEgress _ => true
  | .localEgress => false

def validateServicePolicyRule (seen : List ServicePolicyRuleV1) (rule : ServicePolicyRuleV1) :
    Except ContractError Unit := do
  reject (isNil rule.id || (seen.any fun other => other.id == rule.id) ||
    (seen.any fun other => other.priority == rule.priority) || rule.sourceSiteIds.any isNil ||
    decide (256 < rule.sourceSiteIds.length) || !decide rule.sourceSiteIds.Nodup ||
    decide (256 < rule.destinationPrefixes.length) || decide (256 < rule.domains.length) ||
    decide (32 < rule.trafficClasses.length) ||
    match rule.action with
      | .remoteEgress id => isNil id
      | .localEgress => false) .invalidServicePolicy
  checkEach (fun _ block => block.validateWithDefault rule.action.isRemote) []
    rule.destinationPrefixes
  reject (rule.destinationGeo.any PolicyGeoSelectorV1.malformed) .invalidServicePolicy
  checkEach (fun _ domain => validateDnsName domain) [] rule.domains
  checkEach (fun _ trafficClass => validateToken trafficClass 40) [] rule.trafficClasses

def validatePolicyName (name : String) : Except ContractError Unit :=
  if name.isEmpty then .ok () else validateDisplayText name 120

def validateServicePolicy (value : ServicePolicyV1) : Except ContractError Unit := do
  requireIds [value.segmentId]
  reject (value.generation == 0 || decide (512 < value.rules.length)) .invalidServicePolicy
  validatePolicyName value.name
  checkEach validateServicePolicyRule [] value.rules

def DnsRecordDataV1.validate : DnsRecordDataV1 → Except ContractError Unit
  | .cname target => validateDnsName target
  | .a _ | .aaaa _ => .ok ()

def validateDnsRecord (seen : List DnsRecordV1) (record : DnsRecordV1) :
    Except ContractError Unit := do
  validateDnsName record.name
  reject (decide (record.ttlSeconds < 5) || decide (86400 < record.ttlSeconds) ||
    record.requiredPrefixId.any isNil) .invalidDnsIntent
  record.data.validate
  reject (seen.contains record) .invalidDnsIntent

def validateDnsIntent (value : DnsIntentV1) : Except ContractError Unit := do
  requireIds [value.segmentId]
  reject (value.siteId.any isNil || decide (256 < value.siteIds.length) ||
    value.siteIds.any isNil || !decide value.siteIds.Nodup ||
    (value.siteId.isSome && !value.siteIds.isEmpty)) .invalidDnsIntent
  reject (decide (4096 < value.records.length)) .invalidDnsIntent
  validateDnsName value.zone
  checkEach validateDnsRecord [] value.records

/-- `is_unspecified`, `is_loopback`, `is_multicast` or `is_broadcast`. -/
def unusableRouterAddress (address : BitVec 32) : Bool :=
  address == 0 || address >>> 24 == 127 || address >>> 28 == 14 || address == BitVec.allOnes 32

def PathCandidateV1.malformed (value : PathCandidateV1) : Bool :=
  value.sourceAttachmentId == value.destinationAttachmentId || value.priority == 0 ||
    (match value.kind, value.relayId with
      | .direct, some _ | .relay, none => true
      | .direct, none | .relay, some _ => false) ||
    value.relayId.any isNil

def ResourceSpecV1.validate : ResourceSpecV1 → Except ContractError Unit
  | .node value => do
      requireIds [value.deviceId, value.deviceKeyId, value.siteId]
      validateName value.displayName
      validateToken value.architecture 80
  | .site value => validateName value.name
  | .segment value => do
      validateName value.name
      value.overlayPrefix.validate
  | .attachment value => do
      requireIds [value.segmentId, value.siteId, value.nodeId]
      reject (unusableRouterAddress value.overlayRouterIpv4 || value.epochFloor == 0)
        .invalidAttachment
  | .prefix_ value => do
      requireIds [value.siteId, value.segmentId]
      value.prefix_.validate
  | .peer value => do
      requireIds [value.segmentId, value.siteAId, value.siteBId]
      reject (value.siteAId == value.siteBId || decide (value.siteBId < value.siteAId))
        .invalidPeer
  | .relay value => do
      requireIds [value.serviceNodeId]
      validateName value.name
      validateDisplayText value.region 80
      requireCapacity value.maxSessions value.maxBitsPerSecond
  | .pathCandidate value => do
      requireIds [value.segmentId, value.peerId, value.sourceAttachmentId,
        value.destinationAttachmentId, value.transportNodeId]
      reject value.malformed .invalidPathCandidate
  | .egress value => do
      requireIds [value.siteId, value.attachmentId]
      validateName value.name
      requireCapacity value.maxSessions value.maxBitsPerSecond
  | .servicePolicy value => validateServicePolicy value
  | .dnsIntent value => validateDnsIntent value

def ControlResourceV1.validate (resource : ControlResourceV1) : Except ContractError Unit := do
  resource.metadata.validate
  resource.resource.validate

end CandyCloud
