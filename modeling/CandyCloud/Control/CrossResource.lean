import CandyCloud.Control.Store

/-! # Checks of a document against the others

`validate_cross_resource`: a document that is not being deleted must refer to
active resources only and must agree with the other documents of its segment;
a deleted one must not be referred to any more.
-/

namespace CandyCloud

open Foundation

def validOverlayHost (overlay : Ipv4PrefixV1) (address : BitVec 32) : Bool :=
  if overlay.prefixLen == 0 || decide (32 < overlay.prefixLen) then false
  else
    let mask := Ipv4PrefixV1.mask overlay.prefixLen
    if address &&& mask != overlay.network then false
    else if overlay.prefixLen ≤ 30 then
      address != overlay.network && address != (overlay.network ||| ~~~mask)
    else true

namespace Cloud

variable (cloud : Cloud)

def siteAttachedToSegment (tenantId segmentId siteId : Uuid) : Bool :=
  cloud.control.resources.any fun attachment =>
    attachment.tenantId == tenantId && attachment.kind == .attachment &&
      attachment.state == .active && attachment.segmentId == some segmentId &&
      attachment.document.resource.attachment?.any fun value => value.siteId == siteId

def requireAttached (tenantId segmentId : Uuid) (siteIds : List Uuid) :
    Except ControlStoreError Unit :=
  reject (siteIds.any fun siteId => !cloud.siteAttachedToSegment tenantId segmentId siteId)
    .referenceConflict

def validateNode (tenantId id : Uuid) (value : NodeV1) : Except ControlStoreError Unit := do
  reject (!(cloud.route.topology.activeDevice tenantId (some value.deviceId) &&
    cloud.route.topology.activeDeviceKey tenantId (some value.deviceId)
      (some value.deviceKeyId))) .referenceConflict
  reject (cloud.control.resources.any fun row =>
    row.tenantId == tenantId && row.kind == .node && row.id != id && row.state != .deleted &&
      row.document.resource.node?.any fun other => other.deviceId == value.deviceId)
    .referenceConflict

/-- The overlay against one attachment or prefix of the segment. -/
def validateOverlayUse (overlay : Ipv4PrefixV1) (row : ResourceRow) :
    Except ControlStoreError Unit := do
  let resource ← decodeResource row.document
  match resource.resource with
  | .attachment attachment =>
      reject (!validOverlayHost overlay attachment.overlayRouterIpv4) .referenceConflict
  | .prefix_ value => reject (overlay.overlaps value.prefix_) .referenceConflict
  | _ => .ok ()

def validateSegmentOverlay (tenantId segmentId : Uuid) (overlay : Ipv4PrefixV1) :
    Except ControlStoreError Unit :=
  checkEach (fun _ row => validateOverlayUse overlay row) []
    (cloud.control.resources.filter fun row =>
      row.tenantId == tenantId && row.segmentId == some segmentId &&
        (row.kind == .attachment || row.kind == .prefix_) && row.state != .deleted)

def validateAttachment (tenantId id : Uuid) (value : AttachmentV1) :
    Except ControlStoreError Unit := do
  let node ← cloud.control.loadControlResource tenantId .node value.nodeId
  let segment ← cloud.control.loadControlResource tenantId .segment value.segmentId
  let node ← orElse .referenceConflict node.resource.node?
  let segment ← orElse .referenceConflict segment.resource.segment?
  reject (node.siteId != value.siteId ||
    !validOverlayHost segment.overlayPrefix value.overlayRouterIpv4) .referenceConflict
  reject (cloud.control.resources.any fun row =>
    row.tenantId == tenantId && row.kind == .attachment && row.id != id &&
      row.state != .deleted && row.document.resource.attachment?.any fun other =>
        other.segmentId == value.segmentId && other.overlayRouterIpv4 == value.overlayRouterIpv4)
    .referenceConflict

def validateOtherPrefix (value : PrefixV1) (row : ResourceRow) : Except ControlStoreError Unit := do
  let other ← decodeResource row.document
  reject (other.resource.prefix?.any fun other => value.prefix_.overlaps other.prefix_)
    .referenceConflict

def validatePrefix (tenantId id : Uuid) (value : PrefixV1) : Except ControlStoreError Unit := do
  cloud.requireAttached tenantId value.segmentId [value.siteId]
  let segment ← cloud.control.loadControlResource tenantId .segment value.segmentId
  let segment ← orElse .referenceConflict segment.resource.segment?
  reject (value.prefix_.overlaps segment.overlayPrefix) .referenceConflict
  checkEach (fun _ row => validateOtherPrefix value row) []
    (cloud.control.others tenantId .prefix_ id value.segmentId)

def validateOtherPeer (value : PeerV1) (row : ResourceRow) : Except ControlStoreError Unit := do
  let other ← decodeResource row.document
  reject (other.resource.peer?.any fun other =>
    other.siteAId == value.siteAId && other.siteBId == value.siteBId) .referenceConflict

def validatePeer (tenantId id : Uuid) (value : PeerV1) : Except ControlStoreError Unit := do
  cloud.requireAttached tenantId value.segmentId [value.siteAId, value.siteBId]
  checkEach (fun _ row => validateOtherPeer value row) []
    (cloud.control.others tenantId .peer id value.segmentId)

def policyMatches (policy : PeerPathPolicyV1) (kind : PathCandidateKindV1) : Bool :=
  match policy with
  | .directOnly => kind == .direct
  | .directPreferred => true
  | .relayRequired => kind == .relay

def validatePathCandidateReferences (tenantId : Uuid) (candidate : PathCandidateV1) :
    Except ControlStoreError Unit := do
  let peer ← cloud.control.loadControlResource tenantId .peer candidate.peerId
  let source ← cloud.control.loadControlResource tenantId .attachment candidate.sourceAttachmentId
  let destination ←
    cloud.control.loadControlResource tenantId .attachment candidate.destinationAttachmentId
  let peer ← orElse .referenceConflict peer.resource.peer?
  let source ← orElse .referenceConflict source.resource.attachment?
  let destination ← orElse .referenceConflict destination.resource.attachment?
  let sitesMatch := (source.siteId == peer.siteAId && destination.siteId == peer.siteBId) ||
    (source.siteId == peer.siteBId && destination.siteId == peer.siteAId)
  let directTransportIsEndpoint := candidate.kind != .direct ||
    candidate.transportNodeId == source.nodeId || candidate.transportNodeId == destination.nodeId
  reject (peer.segmentId != candidate.segmentId || source.segmentId != candidate.segmentId ||
    destination.segmentId != candidate.segmentId || !sitesMatch ||
    !policyMatches peer.pathPolicy candidate.kind || !directTransportIsEndpoint)
    .referenceConflict

def validateEgress (tenantId : Uuid) (value : EgressV1) : Except ControlStoreError Unit := do
  let attachment ← cloud.control.loadControlResource tenantId .attachment value.attachmentId
  reject (!attachment.resource.attachment?.any fun attachment =>
    attachment.siteId == value.siteId) .referenceConflict

def validateRuleEgress (tenantId segmentId : Uuid) (action : PolicyActionV1) :
    Except ControlStoreError Unit :=
  match action with
  | .localEgress => .ok ()
  | .remoteEgress egressId => do
      let egress ← cloud.control.loadControlResource tenantId .egress egressId
      let egress ← orElse .referenceConflict egress.resource.egress?
      let attachment ← cloud.control.loadControlResource tenantId .attachment egress.attachmentId
      reject (!attachment.resource.attachment?.any fun attachment =>
        attachment.segmentId == segmentId) .referenceConflict

def validatePolicyRule (tenantId segmentId : Uuid) (rule : ServicePolicyRuleV1) :
    Except ControlStoreError Unit := do
  cloud.requireAttached tenantId segmentId rule.sourceSiteIds
  cloud.validateRuleEgress tenantId segmentId rule.action

def validateRequiredPrefix (tenantId segmentId prefixId : Uuid) : Except ControlStoreError Unit := do
  let required ← cloud.control.loadControlResource tenantId .prefix_ prefixId
  reject (!required.resource.prefix?.any fun required => required.segmentId == segmentId)
    .referenceConflict

def validateDnsReferences (tenantId : Uuid) (value : DnsIntentV1) :
    Except ControlStoreError Unit := do
  cloud.requireAttached tenantId value.segmentId (value.siteId.toList ++ value.siteIds)
  checkEach (fun _ prefixId => cloud.validateRequiredPrefix tenantId value.segmentId prefixId) []
    (value.records.filterMap (·.requiredPrefixId))

def validateSpec (tenantId id : Uuid) : ResourceSpecV1 → Except ControlStoreError Unit
  | .node value => cloud.validateNode tenantId id value
  | .segment value => cloud.validateSegmentOverlay tenantId id value.overlayPrefix
  | .attachment value => cloud.validateAttachment tenantId id value
  | .prefix_ value => cloud.validatePrefix tenantId id value
  | .peer value => cloud.validatePeer tenantId id value
  | .pathCandidate value => cloud.validatePathCandidateReferences tenantId value
  | .egress value => cloud.validateEgress tenantId value
  | .servicePolicy value =>
      checkEach (fun _ rule => cloud.validatePolicyRule tenantId value.segmentId rule) [] value.rules
  | .dnsIntent value => cloud.validateDnsReferences tenantId value
  | .site _ | .relay _ => .ok ()

def validateCrossResource (resource : ControlResourceV1) : Except ControlStoreError Unit :=
  let tenantId := resource.metadata.tenantId
  if resource.metadata.state = .deleted then
    reject (cloud.control.referenced tenantId resource.resource.kind resource.metadata.id)
      .referenceConflict
  else do
    reject ((resourceReferences resource).any fun (kind, id) =>
      (cloud.control.resource tenantId kind id).map (·.state) != some .active) .referenceConflict
    cloud.validateSpec tenantId resource.metadata.id resource.resource

end Cloud

end CandyCloud
