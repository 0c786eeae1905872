import CandyCloud.Control.Documents

/-! # Checks that later edits can break

`validate_cross_resource` runs on the document being written.
-/

namespace CandyCloud

open Foundation
open ResourceSpecV1 hiding node site segment attachment prefix_ peer relay pathCandidate egress
  servicePolicy dnsIntent

/-- What a path candidate needs of its peer and its two attachments. -/
def PathCandidateV1.fits (candidate : PathCandidateV1) (peer : PeerV1)
    (source destination : AttachmentV1) : Bool :=
  peer.segmentId == candidate.segmentId && source.segmentId == candidate.segmentId &&
    destination.segmentId == candidate.segmentId &&
    ((source.siteId == peer.siteAId && destination.siteId == peer.siteBId) ||
      (source.siteId == peer.siteBId && destination.siteId == peer.siteAId)) &&
    Cloud.policyMatches peer.pathPolicy candidate.kind &&
    (candidate.kind != .direct || candidate.transportNodeId == source.nodeId ||
      candidate.transportNodeId == destination.nodeId)

variable {segmentId siteId egressId prefixId id : Uuid} {candidate : PathCandidateV1}
  {value attachment : AttachmentV1} {egress : EgressV1} {need : Uuid × Uuid}

section Checks

variable {cloud : Cloud} {tenantId : Uuid}

theorem requireAttached_ok {siteIds : List Uuid} :
    cloud.requireAttached tenantId segmentId siteIds = .ok () ↔
      ∀ siteId ∈ siteIds, cloud.siteAttachedToSegment tenantId segmentId siteId = true := by
  simp only [Cloud.requireAttached, reject_ok, List.any_eq_false, Bool.not_eq_true,
    Bool.not_eq_false']

variable (graph : GraphInvariant tenantId cloud.control)

include graph

theorem siteAttached_iff :
    cloud.siteAttachedToSegment tenantId segmentId siteId = true ↔
      ∃ id value, (id, value) ∈ cloud.control.documents tenantId attachment? ∧
        value.segmentId = segmentId ∧ value.siteId = siteId := by
  simp only [Cloud.siteAttachedToSegment, List.any_eq_true, Bool.and_eq_true, beq_iff_eq,
    Option.any_eq_true, attachment?_eq_some]
  constructor
  · rintro ⟨row, member, ⟨⟨⟨tenant, -⟩, active⟩, segment⟩, value, document, site⟩
    have recorded := (graph.rows row member tenant).segmentId
    rw [affectedSegmentId, document, segment] at recorded
    exact ⟨row.id, value,
      mem_documents.mpr ⟨row, member, tenant, active, rfl, attachment?_eq_some.mpr document⟩,
      Option.some.inj recorded, site⟩
  · rintro ⟨id, value, listed, segment, site⟩
    obtain ⟨row, member, tenant, active, -, document⟩ := mem_documents.mp listed
    have faithful := graph.rows row member tenant
    have spec := attachment?_eq_some.mp document
    have kind : row.kind = .attachment := by
      rw [← faithful.kind, spec]
      rfl
    have recorded : row.segmentId = some segmentId := by
      rw [← faithful.segmentId, affectedSegmentId, spec, ← segment]
      rfl
    exact ⟨row, member, ⟨⟨⟨tenant, kind⟩, active⟩, recorded⟩, value, spec, site⟩

theorem validateEgress_iff {value : EgressV1} :
    cloud.validateEgress tenantId value = .ok () ↔
      ∃ attachment, (value.attachmentId, attachment) ∈
        cloud.control.documents tenantId attachment? ∧ attachment.siteId = value.siteId := by
  simp only [Cloud.validateEgress, bind_ok, reject_ok, Bool.not_eq_false', Option.any_eq_true,
    beq_iff_eq, load_iff graph reads_attachment]
  grind

theorem validateRuleEgress_iff :
    cloud.validateRuleEgress tenantId segmentId (.remoteEgress egressId) = .ok () ↔
      ∃ egress attachment, (egressId, egress) ∈ cloud.control.documents tenantId egress? ∧
        (egress.attachmentId, attachment) ∈ cloud.control.documents tenantId attachment? ∧
        attachment.segmentId = segmentId := by
  simp only [Cloud.validateRuleEgress, bind_ok (α := ControlResourceV1), orElse_bind_ok, reject_ok,
    Bool.not_eq_false', Option.any_eq_true, beq_iff_eq, load_iff graph reads_attachment,
    load_iff graph reads_egress]
  grind

theorem validateRequiredPrefix_iff :
    cloud.validateRequiredPrefix tenantId segmentId prefixId = .ok () ↔
      ∃ required, (prefixId, required) ∈ cloud.control.documents tenantId prefix? ∧
        required.segmentId = segmentId := by
  simp only [Cloud.validateRequiredPrefix, bind_ok, reject_ok, Bool.not_eq_false',
    Option.any_eq_true, beq_iff_eq, load_iff graph reads_prefix]
  grind

theorem validatePathCandidate_iff :
    cloud.validatePathCandidateReferences tenantId candidate = .ok () ↔
      ∃ peer source destination,
        (candidate.peerId, peer) ∈ cloud.control.documents tenantId peer? ∧
        (candidate.sourceAttachmentId, source) ∈ cloud.control.documents tenantId attachment? ∧
        (candidate.destinationAttachmentId, destination) ∈
          cloud.control.documents tenantId attachment? ∧
        candidate.fits peer source destination = true := by
  have fitting : ∀ (peer : PeerV1) (source destination : AttachmentV1),
      (peer.segmentId != candidate.segmentId || source.segmentId != candidate.segmentId ||
        destination.segmentId != candidate.segmentId ||
        !((source.siteId == peer.siteAId && destination.siteId == peer.siteBId) ||
          (source.siteId == peer.siteBId && destination.siteId == peer.siteAId)) ||
        !Cloud.policyMatches peer.pathPolicy candidate.kind ||
        !(candidate.kind != .direct || candidate.transportNodeId == source.nodeId ||
          candidate.transportNodeId == destination.nodeId)) = false ↔
      candidate.fits peer source destination = true := by
    intro peer source destination
    simp only [PathCandidateV1.fits, Bool.or_eq_false_iff, bne_eq_false_iff_eq,
      Bool.not_eq_false', Bool.and_eq_true, beq_iff_eq]
  simp only [Cloud.validatePathCandidateReferences, bind_ok (α := ControlResourceV1),
    orElse_bind_ok, reject_ok, fitting, load_iff graph reads_attachment,
    load_iff graph reads_peer]
  constructor
  · rintro ⟨peer, loadedPeer, source, loadedSource, destination, loadedDestination, peerValue,
      isPeer, sourceValue, isSource, destinationValue, isDestination, fits⟩
    exact ⟨peerValue, sourceValue, destinationValue, ⟨peer, loadedPeer, isPeer⟩,
      ⟨source, loadedSource, isSource⟩, ⟨destination, loadedDestination, isDestination⟩, fits⟩
  · rintro ⟨peerValue, sourceValue, destinationValue, ⟨peer, loadedPeer, isPeer⟩,
      ⟨source, loadedSource, isSource⟩, ⟨destination, loadedDestination, isDestination⟩, fits⟩
    exact ⟨peer, loadedPeer, source, loadedSource, destination, loadedDestination, peerValue,
      isPeer, sourceValue, isSource, destinationValue, isDestination, fits⟩

theorem validateAttachment_iff :
    cloud.validateAttachment tenantId id value = .ok () ↔
      (∃ node segment, (value.nodeId, node) ∈ cloud.control.documents tenantId node? ∧
        (value.segmentId, segment) ∈ cloud.control.documents tenantId segment? ∧
        node.siteId = value.siteId ∧
        validOverlayHost segment.overlayPrefix value.overlayRouterIpv4 = true) ∧
      ∀ row ∈ cloud.control.resources, row.tenantId = tenantId → row.kind = .attachment →
        row.id ≠ id → row.state ≠ .deleted → ∀ other, row.document.resource = .attachment other →
          ¬ (other.segmentId = value.segmentId ∧
            other.overlayRouterIpv4 = value.overlayRouterIpv4) := by
  have free : (cloud.control.resources.any fun row =>
      row.tenantId == tenantId && row.kind == .attachment && row.id != id &&
        row.state != .deleted && row.document.resource.attachment?.any fun other =>
          other.segmentId == value.segmentId &&
            other.overlayRouterIpv4 == value.overlayRouterIpv4) = false ↔
      ∀ row ∈ cloud.control.resources, row.tenantId = tenantId → row.kind = .attachment →
        row.id ≠ id → row.state ≠ .deleted → ∀ other, row.document.resource = .attachment other →
          ¬ (other.segmentId = value.segmentId ∧
            other.overlayRouterIpv4 = value.overlayRouterIpv4) := by
    simp only [List.any_eq_false, Bool.and_eq_true, beq_iff_eq, bne_iff_ne, Option.any_eq_true,
      attachment?_eq_some]
    grind
  simp only [Cloud.validateAttachment, bind_ok (α := ControlResourceV1), orElse_bind_ok,
    unit_bind_ok, reject_ok, Bool.or_eq_false_iff, bne_eq_false_iff_eq, Bool.not_eq_false', free,
    load_iff graph reads_node, load_iff graph reads_segment]
  constructor
  · rintro ⟨node, loadedNode, segment, loadedSegment, nodeValue, isNode, segmentValue, isSegment,
      ⟨site, host⟩, apart⟩
    exact ⟨⟨nodeValue, segmentValue, ⟨node, loadedNode, isNode⟩,
      ⟨segment, loadedSegment, isSegment⟩, site, host⟩, apart⟩
  · rintro ⟨⟨nodeValue, segmentValue, ⟨node, loadedNode, isNode⟩,
      ⟨segment, loadedSegment, isSegment⟩, site, host⟩, apart⟩
    exact ⟨node, loadedNode, segment, loadedSegment, nodeValue, isNode, segmentValue, isSegment,
      ⟨site, host⟩, apart⟩

end Checks

/-- The segments and sites in which a document needs an active attachment. -/
def ResourceSpecV1.neededAttachments : ResourceSpecV1 → List (Uuid × Uuid)
  | .prefix_ value => [(value.segmentId, value.siteId)]
  | .peer value => [(value.segmentId, value.siteAId), (value.segmentId, value.siteBId)]
  | .servicePolicy value =>
      (value.rules.flatMap (·.sourceSiteIds)).map fun siteId => (value.segmentId, siteId)
  | .dnsIntent value =>
      (value.siteId.toList ++ value.siteIds).map fun siteId => (value.segmentId, siteId)
  | .node _ | .site _ | .segment _ | .attachment _ | .relay _ | .pathCandidate _ | .egress _ => []

/-- The checks that read other documents, between documents that are active. -/
structure DocumentsLinked (tenantId : Uuid) (store : ControlStore) : Prop where
  nodes : ∀ id attachment node, (id, attachment) ∈ store.documents tenantId attachment? →
    (attachment.nodeId, node) ∈ store.documents tenantId node? → node.siteId = attachment.siteId
  egresses : ∀ id egress attachment, (id, egress) ∈ store.documents tenantId egress? →
    (egress.attachmentId, attachment) ∈ store.documents tenantId attachment? →
    attachment.siteId = egress.siteId
  candidates : ∀ id candidate peer source destination,
    (id, candidate) ∈ store.documents tenantId pathCandidate? →
    (candidate.peerId, peer) ∈ store.documents tenantId peer? →
    (candidate.sourceAttachmentId, source) ∈ store.documents tenantId attachment? →
    (candidate.destinationAttachmentId, destination) ∈ store.documents tenantId attachment? →
    candidate.fits peer source destination = true
  policies : ∀ id policy, (id, policy) ∈ store.documents tenantId servicePolicy? →
    ∀ rule ∈ policy.rules, ∀ egressId egress attachment, rule.action = .remoteEgress egressId →
      (egressId, egress) ∈ store.documents tenantId egress? →
      (egress.attachmentId, attachment) ∈ store.documents tenantId attachment? →
      attachment.segmentId = policy.segmentId
  intents : ∀ id intent, (id, intent) ∈ store.documents tenantId dnsIntent? →
    ∀ record ∈ intent.records, ∀ prefixId required, record.requiredPrefixId = some prefixId →
      (prefixId, required) ∈ store.documents tenantId prefix? →
      required.segmentId = intent.segmentId
  attached : ∀ id spec, (id, spec) ∈ store.documents tenantId some →
    ∀ need ∈ spec.neededAttachments, ∃ id value,
      (id, value) ∈ store.documents tenantId attachment? ∧ value.segmentId = need.1 ∧
        value.siteId = need.2

namespace ResourceMutation

variable (mutation : ResourceMutation) (store : ControlStore)

/-- The written document agrees with the active documents that name it. -/
def agreesWithDependents : Bool :=
  let attachments := store.documents mutation.tenantId attachment?
  let candidates := store.documents mutation.tenantId pathCandidate?
  let egresses := store.documents mutation.tenantId egress?
  let peers := store.documents mutation.tenantId peer?
  let policies := store.documents mutation.tenantId servicePolicy?
  let intents := store.documents mutation.tenantId dnsIntent?
  match mutation.resource.resource with
  | .node value => attachments.all fun (_, attachment) =>
      attachment.nodeId != mutation.id || value.siteId == attachment.siteId
  | .peer value => candidates.all fun (_, candidate) =>
      candidate.peerId != mutation.id || attachments.all fun (sourceId, source) =>
        sourceId != candidate.sourceAttachmentId || attachments.all fun (destinationId, destination) =>
          destinationId != candidate.destinationAttachmentId ||
            candidate.fits value source destination
  | .attachment value =>
      (egresses.all fun (_, egress) =>
        egress.attachmentId != mutation.id || value.siteId == egress.siteId) &&
      (candidates.all fun (_, candidate) => peers.all fun (peerId, peer) =>
        peerId != candidate.peerId || attachments.all fun (otherId, other) =>
          (candidate.sourceAttachmentId != mutation.id ||
            otherId != candidate.destinationAttachmentId || candidate.fits peer value other) &&
          (candidate.destinationAttachmentId != mutation.id ||
            otherId != candidate.sourceAttachmentId || candidate.fits peer other value)) &&
      policies.all fun (_, policy) => policy.rules.all fun rule =>
        egresses.all fun (egressId, egress) =>
          rule.action != .remoteEgress egressId || egress.attachmentId != mutation.id ||
            value.segmentId == policy.segmentId
  | .egress value => policies.all fun (_, policy) => policy.rules.all fun rule =>
      rule.action != .remoteEgress mutation.id || attachments.all fun (attachmentId, attachment) =>
        attachmentId != value.attachmentId || attachment.segmentId == policy.segmentId
  | .prefix_ value => intents.all fun (_, intent) => intent.records.all fun record =>
      record.requiredPrefixId != some mutation.id || value.segmentId == intent.segmentId
  | .site _ | .segment _ | .relay _ | .pathCandidate _ | .servicePolicy _ | .dnsIntent _ => true

/-- An attachment that others need is replaced by one in the same segment and
    site, or is not the only one there. -/
def keepsAttached : Bool :=
  let attachments := store.documents mutation.tenantId attachment?
  let needed := (store.documents mutation.tenantId some).flatMap fun (_, spec) =>
    spec.neededAttachments
  mutation.kind != .attachment || attachments.all fun (id, old) =>
    id != mutation.id || !needed.contains (old.segmentId, old.siteId) ||
      (mutation.resource.metadata.state == .active &&
        mutation.resource.resource.attachment?.any fun value =>
          value.segmentId == old.segmentId && value.siteId == old.siteId) ||
      attachments.any fun (otherId, other) =>
        otherId != mutation.id && other.segmentId == old.segmentId && other.siteId == old.siteId

/-- The edit contradicts no active document that was checked before it. -/
def undisturbing : Bool :=
  (mutation.resource.metadata.state != .active || mutation.agreesWithDependents store) &&
    mutation.keepsAttached store

end ResourceMutation

section Edit

variable {cloud : Cloud} {mutation : ResourceMutation} {resources : List ResourceRow}

variable (graph : GraphInvariant mutation.tenantId cloud.control)
  (linked : DocumentsLinked mutation.tenantId cloud.control)
  (checked : cloud.validateCrossResource mutation.resource = .ok ())
  (table : Written mutation cloud.control.resources resources)
  (undisturbing : mutation.undisturbing cloud.control = true)

include checked in
theorem checked_spec (active : mutation.resource.metadata.state = .active) :
    cloud.validateSpec mutation.tenantId mutation.id mutation.resource.resource = .ok () := by
  apply validateCrossResource_live checked
  rw [active]
  decide

include undisturbing in
theorem agrees_of_active (active : mutation.resource.metadata.state = .active) :
    mutation.agreesWithDependents cloud.control = true := by
  simp only [ResourceMutation.undisturbing, Bool.and_eq_true, active, bne_self_eq_false,
    Bool.false_or] at undisturbing
  exact undisturbing.1

include graph linked checked table undisturbing

theorem nodes_kept {node : NodeV1} (listed : (id, attachment) ∈
      (mutation.written cloud.control resources).documents mutation.tenantId attachment?)
    (named : (attachment.nodeId, node) ∈
      (mutation.written cloud.control resources).documents mutation.tenantId node?) :
    node.siteId = attachment.siteId := by
  rcases documents_written table listed with old | ⟨-, active, spec⟩
  · rcases documents_written table named with oldNode | ⟨sameId, active, spec⟩
    · exact linked.nodes id attachment node old oldNode
    · -- The node is rewritten under an active attachment.
      have agrees := agrees_of_active undisturbing active
      simp only [ResourceMutation.agreesWithDependents, node?_eq_some.mp spec, List.all_eq_true,
        Prod.forall, Bool.or_eq_true, bne_iff_ne, beq_iff_eq] at agrees
      rcases agrees id attachment old with other | same
      · exact absurd sameId other
      · exact same
  · have spec := attachment?_eq_some.mp spec
    have own := checked_spec checked active
    rw [spec] at own
    obtain ⟨⟨found, -, present, -, same, -⟩, -⟩ := (validateAttachment_iff graph).mp own
    have kind : mutation.kind = .attachment := congrArg ResourceSpecV1.kind spec
    have oldNode := documents_other table reads_node kind (by decide) named
    rw [documents_unique graph reads_node oldNode present]
    exact same

theorem egresses_kept (listed : (id, egress) ∈
      (mutation.written cloud.control resources).documents mutation.tenantId egress?)
    (named : (egress.attachmentId, attachment) ∈
      (mutation.written cloud.control resources).documents mutation.tenantId attachment?) :
    attachment.siteId = egress.siteId := by
  rcases documents_written table listed with old | ⟨-, active, spec⟩
  · rcases documents_written table named with oldAttachment | ⟨sameId, active, spec⟩
    · exact linked.egresses id egress attachment old oldAttachment
    · have agrees := agrees_of_active undisturbing active
      simp only [ResourceMutation.agreesWithDependents, attachment?_eq_some.mp spec,
        Bool.and_eq_true, List.all_eq_true, Prod.forall, Bool.or_eq_true, bne_iff_ne,
        beq_iff_eq] at agrees
      rcases agrees.1.1 id egress old with other | same
      · exact absurd sameId other
      · exact same
  · have spec := egress?_eq_some.mp spec
    have own := checked_spec checked active
    rw [spec] at own
    obtain ⟨found, present, same⟩ := (validateEgress_iff graph).mp own
    have kind : mutation.kind = .egress := congrArg ResourceSpecV1.kind spec
    have oldAttachment := documents_other table reads_attachment kind (by decide) named
    rw [documents_unique graph reads_attachment oldAttachment present]
    exact same

theorem intents_kept {intent : DnsIntentV1} {record : DnsRecordV1} {required : PrefixV1}
    (listed : (id, intent) ∈
      (mutation.written cloud.control resources).documents mutation.tenantId dnsIntent?)
    (member : record ∈ intent.records) (requires : record.requiredPrefixId = some prefixId)
    (named : (prefixId, required) ∈
      (mutation.written cloud.control resources).documents mutation.tenantId prefix?) :
    required.segmentId = intent.segmentId := by
  rcases documents_written table listed with old | ⟨-, active, spec⟩
  · rcases documents_written table named with oldPrefix | ⟨sameId, active, spec⟩
    · exact linked.intents id intent old record member prefixId required requires oldPrefix
    · have agrees := agrees_of_active undisturbing active
      simp only [ResourceMutation.agreesWithDependents, prefix?_eq_some.mp spec,
        List.all_eq_true, Prod.forall, Bool.or_eq_true, bne_iff_ne, beq_iff_eq] at agrees
      rcases agrees id intent old record member with other | same
      · exact absurd (sameId ▸ requires) other
      · exact same
  · have spec := dnsIntent?_eq_some.mp spec
    have own := checked_spec checked active
    rw [spec] at own
    simp only [Cloud.validateSpec, Cloud.validateDnsReferences, unit_bind_ok] at own
    have each := checkEach_all.mp own.2 prefixId
      (List.mem_filterMap.mpr ⟨record, member, requires⟩)
    obtain ⟨found, present, same⟩ := (validateRequiredPrefix_iff graph).mp each
    have kind : mutation.kind = .dnsIntent := congrArg ResourceSpecV1.kind spec
    have oldPrefix := documents_other table reads_prefix kind (by decide) named
    rw [documents_unique graph reads_prefix oldPrefix present]
    exact same

theorem policies_kept {policy : ServicePolicyV1} {rule : ServicePolicyRuleV1}
    (listed : (id, policy) ∈
      (mutation.written cloud.control resources).documents mutation.tenantId servicePolicy?)
    (member : rule ∈ policy.rules) (action : rule.action = .remoteEgress egressId)
    (named : (egressId, egress) ∈
      (mutation.written cloud.control resources).documents mutation.tenantId egress?)
    (through : (egress.attachmentId, attachment) ∈
      (mutation.written cloud.control resources).documents mutation.tenantId attachment?) :
    attachment.segmentId = policy.segmentId := by
  rcases documents_written table listed with old | ⟨-, active, spec⟩
  · rcases documents_written table named with oldEgress | ⟨sameId, active, spec⟩
    · rcases documents_written table through with oldAttachment | ⟨sameId, active, spec⟩
      · exact linked.policies id policy old rule member egressId egress attachment action oldEgress
          oldAttachment
      · have agrees := agrees_of_active undisturbing active
        simp only [ResourceMutation.agreesWithDependents, attachment?_eq_some.mp spec,
          Bool.and_eq_true, List.all_eq_true, Prod.forall, Bool.or_eq_true, bne_iff_ne,
          beq_iff_eq] at agrees
        rcases agrees.2 id policy old rule member egressId egress oldEgress with (other | other) | same
        · exact absurd action other
        · exact absurd sameId other
        · exact same
    · have agrees := agrees_of_active undisturbing active
      have spec := egress?_eq_some.mp spec
      simp only [ResourceMutation.agreesWithDependents, spec, List.all_eq_true, Prod.forall,
        Bool.or_eq_true, bne_iff_ne, beq_iff_eq] at agrees
      have kind : mutation.kind = .egress := congrArg ResourceSpecV1.kind spec
      have oldAttachment := documents_other table reads_attachment kind (by decide) through
      rcases agrees id policy old rule member with other | same
      · exact absurd (sameId ▸ action) other
      · rcases same egress.attachmentId attachment oldAttachment with other | same
        · exact absurd rfl other
        · exact same
  · have spec := servicePolicy?_eq_some.mp spec
    have own := checked_spec checked active
    rw [spec] at own
    have each := checkEach_all.mp own rule member
    simp only [Cloud.validatePolicyRule, unit_bind_ok, action] at each
    obtain ⟨found, carrier, present, carried, same⟩ := (validateRuleEgress_iff graph).mp each.2
    have kind : mutation.kind = .servicePolicy := congrArg ResourceSpecV1.kind spec
    have oldEgress := documents_other table reads_egress kind (by decide) named
    have oldAttachment := documents_other table reads_attachment kind (by decide) through
    obtain rfl := documents_unique graph reads_egress oldEgress present
    rw [documents_unique graph reads_attachment oldAttachment carried]
    exact same

omit linked checked table undisturbing in
theorem candidate_distinct
    (listed : (id, candidate) ∈ cloud.control.documents mutation.tenantId pathCandidate?) :
    candidate.sourceAttachmentId ≠ candidate.destinationAttachmentId := by
  obtain ⟨row, member, tenant, -, -, spec⟩ := mem_documents.mp listed
  have valid := (graph.rows row member tenant).valid
  simp only [ControlResourceV1.validate, pathCandidate?_eq_some.mp spec, ResourceSpecV1.validate,
    unit_bind_ok, reject_ok, PathCandidateV1.malformed, Bool.or_eq_false_iff,
    beq_eq_false_iff_ne] at valid
  exact valid.2.2.1.1.1

theorem candidates_kept {peer : PeerV1} {source destination : AttachmentV1}
    (listed : (id, candidate) ∈
      (mutation.written cloud.control resources).documents mutation.tenantId pathCandidate?)
    (withPeer : (candidate.peerId, peer) ∈
      (mutation.written cloud.control resources).documents mutation.tenantId peer?)
    (withSource : (candidate.sourceAttachmentId, source) ∈
      (mutation.written cloud.control resources).documents mutation.tenantId attachment?)
    (withDestination : (candidate.destinationAttachmentId, destination) ∈
      (mutation.written cloud.control resources).documents mutation.tenantId attachment?) :
    candidate.fits peer source destination = true := by
  rcases documents_written table listed with old | ⟨-, active, spec⟩
  · rcases documents_written table withPeer with oldPeer | ⟨samePeer, active, spec⟩
    · -- At most one of the two attachments is the rewritten one.
      rcases documents_written table withSource with oldSource | ⟨sameSource, active, spec⟩
      · rcases documents_written table withDestination with oldDestination | ⟨sameId, active, spec⟩
        · exact linked.candidates id candidate peer source destination old oldPeer oldSource
            oldDestination
        · have agrees := agrees_of_active undisturbing active
          simp only [ResourceMutation.agreesWithDependents, attachment?_eq_some.mp spec,
            Bool.and_eq_true, List.all_eq_true, Prod.forall, Bool.or_eq_true, bne_iff_ne] at agrees
          rcases agrees.1.2 id candidate old _ peer oldPeer with other | same
          · exact absurd rfl other
          · rcases (same _ source oldSource).2 with (other | other) | fits
            · exact absurd sameId other
            · exact absurd rfl other
            · exact fits
      · rcases documents_written table withDestination with oldDestination | ⟨sameId, -, -⟩
        · have agrees := agrees_of_active undisturbing active
          simp only [ResourceMutation.agreesWithDependents, attachment?_eq_some.mp spec,
            Bool.and_eq_true, List.all_eq_true, Prod.forall, Bool.or_eq_true, bne_iff_ne] at agrees
          rcases agrees.1.2 id candidate old _ peer oldPeer with other | same
          · exact absurd rfl other
          · rcases (same _ destination oldDestination).1 with (other | other) | fits
            · exact absurd sameSource other
            · exact absurd rfl other
            · exact fits
        · exact absurd (sameSource.trans sameId.symm) (candidate_distinct graph old)
    · have spec := peer?_eq_some.mp spec
      have agrees := agrees_of_active undisturbing active
      simp only [ResourceMutation.agreesWithDependents, spec, List.all_eq_true, Prod.forall,
        Bool.or_eq_true, bne_iff_ne] at agrees
      have kind : mutation.kind = .peer := congrArg ResourceSpecV1.kind spec
      have oldSource := documents_other table reads_attachment kind (by decide) withSource
      have oldDestination := documents_other table reads_attachment kind (by decide) withDestination
      rcases agrees id candidate old with other | same
      · exact absurd samePeer other
      · rcases same _ source oldSource with other | same
        · exact absurd rfl other
        · rcases same _ destination oldDestination with other | fits
          · exact absurd rfl other
          · exact fits
  · have spec := pathCandidate?_eq_some.mp spec
    have own := checked_spec checked active
    rw [spec] at own
    obtain ⟨p, s, d, foundPeer, foundSource, foundDestination, fits⟩ :=
      (validatePathCandidate_iff graph).mp own
    have kind : mutation.kind = .pathCandidate := congrArg ResourceSpecV1.kind spec
    have oldPeer := documents_other table reads_peer kind (by decide) withPeer
    have oldSource := documents_other table reads_attachment kind (by decide) withSource
    have oldDestination := documents_other table reads_attachment kind (by decide) withDestination
    rw [documents_unique graph reads_peer oldPeer foundPeer,
      documents_unique graph reads_attachment oldSource foundSource,
      documents_unique graph reads_attachment oldDestination foundDestination]
    exact fits

omit graph linked table undisturbing in
theorem checked_attached (active : mutation.resource.metadata.state = .active)
    (needed : need ∈ mutation.resource.resource.neededAttachments) :
    cloud.siteAttachedToSegment mutation.tenantId need.1 need.2 = true := by
  have own := checked_spec checked active
  cases spec : mutation.resource.resource with
  | prefix_ value =>
      simp only [spec, neededAttachments, List.mem_singleton] at needed
      simp only [spec, Cloud.validateSpec, Cloud.validatePrefix, unit_bind_ok] at own
      rw [needed]
      exact requireAttached_ok.mp own.1 _ List.mem_cons_self
  | peer value =>
      simp only [spec, neededAttachments, List.mem_cons, List.not_mem_nil, or_false] at needed
      simp only [spec, Cloud.validateSpec, Cloud.validatePeer, unit_bind_ok] at own
      have both := requireAttached_ok.mp own.1
      rcases needed with rfl | rfl
      · exact both _ List.mem_cons_self
      · exact both _ (List.mem_cons_of_mem _ List.mem_cons_self)
  | servicePolicy value =>
      simp only [spec, neededAttachments, List.mem_map, List.mem_flatMap] at needed
      obtain ⟨siteId, ⟨rule, member, source⟩, rfl⟩ := needed
      rw [spec] at own
      have each := checkEach_all.mp own rule member
      simp only [Cloud.validatePolicyRule, unit_bind_ok] at each
      exact requireAttached_ok.mp each.1 siteId source
  | dnsIntent value =>
      simp only [spec, neededAttachments, List.mem_map] at needed
      obtain ⟨siteId, member, rfl⟩ := needed
      simp only [spec, Cloud.validateSpec, Cloud.validateDnsReferences, unit_bind_ok] at own
      exact requireAttached_ok.mp own.1 siteId member
  | node | site | segment | attachment | relay | pathCandidate | egress =>
      simp [spec, neededAttachments] at needed

omit linked checked in
theorem attachment_left
    (needed : ∃ id spec, (id, spec) ∈ cloud.control.documents mutation.tenantId some ∧
      (segmentId, siteId) ∈ spec.neededAttachments)
    (listed : (id, value) ∈ cloud.control.documents mutation.tenantId attachment?)
    (segment : value.segmentId = segmentId) (site : value.siteId = siteId) :
    ∃ id value, (id, value) ∈
      (mutation.written cloud.control resources).documents mutation.tenantId attachment? ∧
        value.segmentId = segmentId ∧ value.siteId = siteId := by
  by_cases rewritten : mutation.kind = .attachment ∧ id = mutation.id
  · obtain ⟨kind, rfl⟩ := rewritten
    have keeps := undisturbing
    simp only [ResourceMutation.undisturbing, ResourceMutation.keepsAttached, Bool.and_eq_true,
      Bool.or_eq_true, kind, bne_self_eq_false, Bool.false_eq_true, false_or, List.all_eq_true,
      Prod.forall] at keeps
    obtain ⟨i, spec, present, need⟩ := needed
    have wanted : (value.segmentId, value.siteId) ∈
        (cloud.control.documents mutation.tenantId some).flatMap fun d => d.2.neededAttachments := by
      rw [segment, site]
      exact List.mem_flatMap.mpr ⟨(i, spec), present, need⟩
    rcases keeps.2 mutation.id value listed with ((other | unneeded) | ⟨active, same⟩) | another
    · simp at other
    · rw [Bool.not_eq_true', List.contains_eq_mem, decide_eq_false_iff_not] at unneeded
      exact absurd wanted unneeded
    · obtain ⟨new, document, sameSegment, sameSite⟩ : ∃ new,
          mutation.resource.resource.attachment? = some new ∧
            new.segmentId = value.segmentId ∧ new.siteId = value.siteId := by
        simpa only [Option.any_eq_true, Bool.and_eq_true, beq_iff_eq] using same
      exact ⟨mutation.id, new, documents_new table (beq_iff_eq.mp active) document,
        sameSegment.trans segment, sameSite.trans site⟩
    · obtain ⟨⟨otherId, other⟩, present, ⟨different, sameSegment⟩, sameSite⟩ :
          ∃ other ∈ cloud.control.documents mutation.tenantId attachment?,
            (other.1 ≠ mutation.id ∧ other.2.segmentId = value.segmentId) ∧
              other.2.siteId = value.siteId := by
        simpa only [List.any_eq_true, Bool.and_eq_true, beq_iff_eq, bne_iff_ne] using another
      exact ⟨otherId, other, documents_kept graph reads_attachment table present fun _ => different,
        sameSegment.trans segment, sameSite.trans site⟩
  · refine ⟨id, value, documents_kept graph reads_attachment table listed ?_, segment, site⟩
    exact fun kind same => rewritten ⟨kind, same⟩

theorem attached_kept {spec : ResourceSpecV1} (listed : (id, spec) ∈
      (mutation.written cloud.control resources).documents mutation.tenantId some)
    (needed : need ∈ spec.neededAttachments) :
    ∃ id value, (id, value) ∈
      (mutation.written cloud.control resources).documents mutation.tenantId attachment? ∧
        value.segmentId = need.1 ∧ value.siteId = need.2 := by
  rcases documents_written table listed with old | ⟨-, active, new⟩
  · obtain ⟨other, value, present, segment, site⟩ := linked.attached id spec old need needed
    exact attachment_left graph table undisturbing ⟨id, spec, old, needed⟩ present segment site
  · -- The new document needs attachments, so it is not one itself.
    obtain rfl := Option.some.inj new
    have attached := checked_attached checked active needed
    obtain ⟨other, value, present, segment, site⟩ := (siteAttached_iff graph).mp attached
    refine ⟨other, value, documents_kept graph reads_attachment table present ?_, segment, site⟩
    intro kind
    exfalso
    cases document : mutation.resource.resource with
    | attachment => simp [document, neededAttachments] at needed
    | node | site | segment | prefix_ | peer | relay | pathCandidate | egress | servicePolicy
    | dnsIntent =>
        simp [ResourceMutation.kind, document, ResourceSpecV1.kind] at kind

theorem linked_written :
    DocumentsLinked mutation.tenantId (mutation.written cloud.control resources) := by
  constructor
  · exact fun _ _ _ => nodes_kept graph linked checked table undisturbing
  · exact fun _ _ _ => egresses_kept graph linked checked table undisturbing
  · exact fun _ _ _ _ _ => candidates_kept graph linked checked table undisturbing
  · exact fun _ _ listed _ member _ _ _ =>
      policies_kept graph linked checked table undisturbing listed member
  · exact fun _ _ listed _ member _ _ =>
      intents_kept graph linked checked table undisturbing listed member
  · exact fun _ _ listed _ => attached_kept graph linked checked table undisturbing listed

end Edit

end CandyCloud
