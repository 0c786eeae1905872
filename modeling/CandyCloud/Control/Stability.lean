import CandyCloud.Control.Revalidation

/-! # Whether stored documents stay valid

A resource is fully active when it and everything it refers to is.
-/

namespace CandyCloud

open Foundation
open ResourceSpecV1 hiding node site segment attachment prefix_ peer relay pathCandidate egress
  servicePolicy dnsIntent

namespace ControlStore

variable (store : ControlStore) (tenantId : Uuid)

/-- The document under a key refers to another key. -/
def Refers (source target : ResourceKind × Uuid) : Prop :=
  ∃ row, store.resource tenantId source.1 source.2 = some row ∧
    target ∈ resourceReferences row.document

def ActiveAt (key : ResourceKind × Uuid) : Prop :=
  ∃ row, store.resource tenantId key.1 key.2 = some row ∧ row.state = .active

/-- The resource and all that it refers to, directly or not, is active. -/
def FullyActive (key : ResourceKind × Uuid) : Prop :=
  ∀ target, Relation.ReflTransGen (store.Refers tenantId) key target → store.ActiveAt tenantId target

end ControlStore

/-- Every fully active resource passes the cross-resource check again. -/
def Revalidates (tenantId : Uuid) (cloud : Cloud) : Prop :=
  ∀ kind id row, cloud.control.resource tenantId kind id = some row →
    cloud.control.FullyActive tenantId (kind, id) → cloud.validateCrossResource row.document = .ok ()

variable {kind : ResourceKind} {id : Uuid} {block : Ipv4PrefixV1} {a b : ControlStore}

section FullyActive

variable {store : ControlStore} {tenantId : Uuid} {key referred : ResourceKind × Uuid}

theorem ControlStore.FullyActive.active (full : store.FullyActive tenantId key) :
    store.ActiveAt tenantId key :=
  full key .refl

theorem ControlStore.FullyActive.target (full : store.FullyActive tenantId key)
    (refers : store.Refers tenantId key referred) : store.FullyActive tenantId referred :=
  fun final path => full final (.head refers path)

variable {α : Type} {read : ResourceSpecV1 → Option α}

theorem ControlStore.FullyActive.document (full : store.FullyActive tenantId (kind, id))
    (graph : GraphInvariant tenantId store) (reads : Reads read kind)
    : ∃ value, (id, value) ∈ store.documents tenantId read := by
  obtain ⟨row, found, active⟩ := full.active
  exact documents_of_active graph reads found active

end FullyActive

namespace Ipv4PrefixV1

theorem unmasked_iff {network mask : BitVec 32} :
    network &&& ~~~mask = 0 ↔ network &&& mask = network := by
  constructor
  · intro none
    have whole : network &&& (mask ||| ~~~mask) = network := by
      rw [BitVec.or_not_self, BitVec.and_allOnes]
    rw [BitVec.and_or_distrib_left, none] at whole
    exact BitVec.or_zero.symm.trans whole
  · intro same
    rw [← same, BitVec.and_assoc, BitVec.and_not_self]
    exact BitVec.and_zero

theorem network_masked_default {allowDefault : Bool}
    (valid : block.validateWithDefault allowDefault = .ok ()) :
    block.network &&& mask block.prefixLen = block.network := by
  simp only [validateWithDefault, unit_bind_ok, reject_ok, bne_eq_false_iff_eq] at valid
  exact unmasked_iff.mp valid.2

theorem network_masked (valid : block.validate = .ok ()) :
    block.network &&& mask block.prefixLen = block.network :=
  network_masked_default valid

theorem covers_network (valid : block.validate = .ok ()) :
    block.Covers block.network :=
  network_masked valid

theorem overlaps_of_disjoint {a b : Ipv4PrefixV1} (validA : a.validate = .ok ())
    (validB : b.validate = .ok ()) (apart : a.Disjoint b) : a.overlaps b = false := by
  rw [Bool.eq_false_iff]
  intro overlapping
  simp only [overlaps, beq_iff_eq] at overlapping
  rcases Nat.le_total a.prefixLen b.prefixLen with shorter | shorter
  · rw [Nat.min_eq_left shorter, network_masked validA] at overlapping
    exact apart b.network ⟨overlapping.symm, covers_network validB⟩
  · rw [Nat.min_eq_right shorter, network_masked validB] at overlapping
    exact apart a.network ⟨covers_network validA, overlapping⟩

theorem valid_of_usableHost {overlay : Ipv4PrefixV1} {address : BitVec 32}
    (valid : overlay.validate = .ok ()) (usable : overlay.UsableHost address) :
    validOverlayHost overlay address = true := by
  simp only [validate, validateWithDefault, unit_bind_ok, reject_ok, Bool.not_false, Bool.true_and,
    Bool.or_eq_false_iff, decide_eq_false_iff_not, beq_eq_false_iff_ne] at valid
  obtain ⟨⟨short, positive⟩, -⟩ := valid
  obtain ⟨inside, inner⟩ := usable
  unfold validOverlayHost
  rw [if_neg (by simp [positive, short])]
  simp only
  rw [if_neg (by simpa using (show address &&& mask overlay.prefixLen = overlay.network from inside))]
  split
  · rename_i wide
    simpa using inner wide
  · rfl

end Ipv4PrefixV1

/-- The device and the key of every live node are active. -/
def Identified (tenantId : Uuid) (cloud : Cloud) : Prop :=
  ∀ row, cloud.control.Live tenantId row → ∀ value, row.document.resource = .node value →
    cloud.route.topology.activeDevice tenantId (some value.deviceId) = true ∧
      cloud.route.topology.activeDeviceKey tenantId (some value.deviceId)
        (some value.deviceKeyId) = true

/-- What undisturbed runs keep for a tenant. -/
structure Consistent (tenantId : Uuid) (cloud : Cloud) : Prop where
  addressed : Addressed tenantId cloud.control
  linked : DocumentsLinked tenantId cloud.control
  identified : Identified tenantId cloud

section Again

variable {tenantId : Uuid} {cloud : Cloud} (consistent : Consistent tenantId cloud)
  {row : ResourceRow} (live : cloud.control.Live tenantId row)

include consistent live

theorem node_again {value : NodeV1} (spec : row.document.resource = .node value) :
    cloud.validateNode tenantId row.id value = .ok () := by
  obtain ⟨device, key⟩ := consistent.identified row live value spec
  simp only [Cloud.validateNode, unit_bind_ok, reject_ok, device, key, List.any_eq_false]
  refine ⟨rfl, ?_⟩
  intro other member taken
  simp only [Bool.and_eq_true, beq_iff_eq, bne_iff_ne, Option.any_eq_true, node?_eq_some] at taken
  obtain ⟨⟨⟨⟨tenant, -⟩, different⟩, undeleted⟩, node, document, sameDevice⟩ := taken
  have same := consistent.addressed.addressing.devices other row ⟨member, tenant, undeleted⟩ live
    node value document spec sameDevice
  exact different (congrArg ResourceRow.id same)

theorem overlay_valid {value : SegmentV1} (spec : row.document.resource = .segment value) :
    value.overlayPrefix.validate = .ok () := by
  have valid := (consistent.addressed.graph.rows row live.1 live.2.1).valid
  simp only [ControlResourceV1.validate, spec, ResourceSpecV1.validate, unit_bind_ok] at valid
  exact valid.2.2

theorem prefix_valid {value : PrefixV1} (spec : row.document.resource = .prefix_ value) :
    value.prefix_.validate = .ok () := by
  have valid := (consistent.addressed.graph.rows row live.1 live.2.1).valid
  simp only [ControlResourceV1.validate, spec, ResourceSpecV1.validate, unit_bind_ok] at valid
  exact valid.2.2

theorem segment_again {value : SegmentV1} (spec : row.document.resource = .segment value) :
    cloud.validateSegmentOverlay tenantId row.id value.overlayPrefix = .ok () := by
  have overlay := overlay_valid consistent live spec
  have stored : cloud.control.Segment tenantId row.id value :=
    ⟨row, live.1, live.2.1, rfl, spec⟩
  apply checkEach_all.mpr
  intro other listed
  obtain ⟨member, selects⟩ := List.mem_filter.mp listed
  simp only [Bool.and_eq_true, beq_iff_eq, bne_iff_ne] at selects
  obtain ⟨⟨⟨tenant, segment⟩, -⟩, undeleted⟩ := selects
  have liveOther : cloud.control.Live tenantId other := ⟨member, tenant, undeleted⟩
  have faithful := consistent.addressed.graph.rows other member tenant
  have recorded := faithful.segmentId.trans segment
  simp only [Cloud.validateOverlayUse, bind_ok, decodeResource_ok]
  refine ⟨other.document, ⟨faithful.valid, rfl⟩, ?_⟩
  cases document : other.document.resource with
  | attachment attachment =>
      rw [affectedSegmentId, document] at recorded
      have same : attachment.segmentId = row.id := Option.some.inj recorded
      have usable := consistent.addressed.addressing.hosts other liveOther attachment document
        value (same ▸ stored)
      simp only [reject_ok, Bool.not_eq_false']
      exact Ipv4PrefixV1.valid_of_usableHost overlay usable
  | prefix_ block =>
      rw [affectedSegmentId, document] at recorded
      have same : block.segmentId = row.id := Option.some.inj recorded
      have apart := consistent.addressed.addressing.overlays other liveOther block document
        value (same ▸ stored)
      simp only [reject_ok]
      exact Ipv4PrefixV1.overlaps_of_disjoint overlay (prefix_valid consistent liveOther document)
        apart.symm
  | node | site | segment | peer | relay | pathCandidate | egress | servicePolicy | dnsIntent => rfl

omit live in
theorem segment_listed {value : SegmentV1}
    (listed : (id, value) ∈ cloud.control.documents tenantId segment?) :
    cloud.control.Segment tenantId id value ∧ value.overlayPrefix.validate = .ok () := by
  obtain ⟨row, member, tenant, active, sameId, document⟩ := mem_documents.mp listed
  have spec := segment?_eq_some.mp document
  have undeleted : row.state ≠ .deleted := by
    rw [active]
    decide
  exact ⟨⟨row, member, tenant, sameId, spec⟩,
    overlay_valid consistent ⟨member, tenant, undeleted⟩ spec⟩

theorem attachment_again {value : AttachmentV1}
    (spec : row.document.resource = .attachment value)
    (listed : (row.id, value) ∈ cloud.control.documents tenantId attachment?)
    (node : ∃ node, (value.nodeId, node) ∈ cloud.control.documents tenantId node?)
    (segment : ∃ segment, (value.segmentId, segment) ∈ cloud.control.documents tenantId segment?) :
    cloud.validateAttachment tenantId row.id value = .ok () := by
  obtain ⟨nodeValue, isNode⟩ := node
  obtain ⟨segmentValue, isSegment⟩ := segment
  obtain ⟨stored, overlay⟩ := segment_listed consistent isSegment
  have usable := consistent.addressed.addressing.hosts row live value spec segmentValue stored
  apply (validateAttachment_iff consistent.addressed.graph).mpr
  refine ⟨⟨nodeValue, segmentValue, isNode, isSegment, ?_, ?_⟩, ?_⟩
  · exact consistent.linked.nodes row.id value nodeValue listed isNode
  · exact Ipv4PrefixV1.valid_of_usableHost overlay usable
  · intro other member tenant _ different undeleted attachment document clash
    have same := consistent.addressed.addressing.routers other row ⟨member, tenant, undeleted⟩ live
      attachment value document spec clash.1 clash.2
    exact different (congrArg ResourceRow.id same)

omit live in
theorem attached_again {spec : ResourceSpecV1}
    (listed : (id, spec) ∈ cloud.control.documents tenantId some) {segmentId : Uuid}
    {siteIds : List Uuid}
    (needed : ∀ siteId ∈ siteIds, (segmentId, siteId) ∈ spec.neededAttachments) :
    cloud.requireAttached tenantId segmentId siteIds = .ok () := by
  apply requireAttached_ok.mpr
  intro siteId member
  apply (siteAttached_iff consistent.addressed.graph).mpr
  exact consistent.linked.attached id spec listed (segmentId, siteId) (needed siteId member)

theorem prefix_again {value : PrefixV1} (spec : row.document.resource = .prefix_ value)
    (listed : (row.id, row.document.resource) ∈ cloud.control.documents tenantId some)
    (segment : ∃ segment, (value.segmentId, segment) ∈ cloud.control.documents tenantId segment?) :
    cloud.validatePrefix tenantId row.id value = .ok () := by
  obtain ⟨segmentValue, isSegment⟩ := segment
  obtain ⟨stored, overlay⟩ := segment_listed consistent isSegment
  have own := prefix_valid consistent live spec
  have apart := consistent.addressed.addressing.overlays row live value spec segmentValue stored
  obtain ⟨resource, loaded, document⟩ :=
    (load_iff consistent.addressed.graph reads_segment).mp isSegment
  simp only [Cloud.validatePrefix, unit_bind_ok, bind_ok (α := ControlResourceV1), orElse_bind_ok,
    reject_ok]
  refine ⟨?_, resource, loaded, segmentValue, document, ?_, ?_⟩
  · apply attached_again consistent listed
    simp [spec, neededAttachments]
  · exact Ipv4PrefixV1.overlaps_of_disjoint own overlay apart
  · apply checkEach_all.mpr
    intro other listed
    obtain ⟨member, selects⟩ := List.mem_filter.mp listed
    simp only [Bool.and_eq_true, beq_iff_eq, bne_iff_ne] at selects
    obtain ⟨⟨⟨⟨tenant, -⟩, different⟩, undeleted⟩, sameSegment⟩ := selects
    have faithful := consistent.addressed.graph.rows other member tenant
    simp only [Cloud.validateOtherPrefix, bind_ok, decodeResource_ok, reject_ok]
    refine ⟨other.document, ⟨faithful.valid, rfl⟩, ?_⟩
    rw [Bool.eq_false_iff]
    intro overlapping
    simp only [Option.any_eq_true, prefix?_eq_some] at overlapping
    obtain ⟨block, document, overlaps⟩ := overlapping
    have recorded := faithful.segmentId.trans sameSegment
    rw [affectedSegmentId, document] at recorded
    have liveOther : cloud.control.Live tenantId other := ⟨member, tenant, undeleted⟩
    have disjoint := consistent.addressed.addressing.prefixes row other live liveOther value block
      spec document (Option.some.inj recorded).symm
      fun same => different (congrArg ResourceRow.id same).symm
    rw [Ipv4PrefixV1.overlaps_of_disjoint own (prefix_valid consistent liveOther document)
      disjoint] at overlaps
    cases overlaps

theorem peer_again {value : PeerV1} (spec : row.document.resource = .peer value)
    (listed : (row.id, row.document.resource) ∈ cloud.control.documents tenantId some) :
    cloud.validatePeer tenantId row.id value = .ok () := by
  simp only [Cloud.validatePeer, unit_bind_ok]
  constructor
  · apply attached_again consistent listed
    simp [spec, neededAttachments]
  · apply checkEach_all.mpr
    intro other listed
    obtain ⟨member, selects⟩ := List.mem_filter.mp listed
    simp only [Bool.and_eq_true, beq_iff_eq, bne_iff_ne] at selects
    obtain ⟨⟨⟨⟨tenant, -⟩, different⟩, undeleted⟩, sameSegment⟩ := selects
    have faithful := consistent.addressed.graph.rows other member tenant
    simp only [Cloud.validateOtherPeer, bind_ok, decodeResource_ok, reject_ok]
    refine ⟨other.document, ⟨faithful.valid, rfl⟩, ?_⟩
    rw [Bool.eq_false_iff]
    intro clash
    simp only [Option.any_eq_true, peer?_eq_some, Bool.and_eq_true, beq_iff_eq] at clash
    obtain ⟨peer, document, sites⟩ := clash
    have recorded := faithful.segmentId.trans sameSegment
    rw [affectedSegmentId, document] at recorded
    have same := consistent.addressed.addressing.peers other row ⟨member, tenant, undeleted⟩ live
      peer value document spec (Option.some.inj recorded) (.inl sites)
    exact different (congrArg ResourceRow.id same)

end Again

section Whole

variable {tenantId : Uuid} {cloud : Cloud} (consistent : Consistent tenantId cloud)

include consistent

variable {row : ResourceRow}

theorem policyRule_again {value : ServicePolicyV1}
    (full : cloud.control.FullyActive tenantId (.servicePolicy, id))
    (found : cloud.control.resource tenantId .servicePolicy id = some row)
    (spec : row.document.resource = .servicePolicy value)
    (listed : (id, row.document.resource) ∈ cloud.control.documents tenantId some)
    {rule : ServicePolicyRuleV1} (member : rule ∈ value.rules) :
    cloud.validatePolicyRule tenantId value.segmentId rule = .ok () := by
  have graph := consistent.addressed.graph
  simp only [Cloud.validatePolicyRule, unit_bind_ok]
  constructor
  · apply attached_again consistent listed
    intro siteId source
    simp only [spec, neededAttachments, List.mem_map, List.mem_flatMap]
    exact ⟨siteId, ⟨rule, member, source⟩, rfl⟩
  · cases action : rule.action with
    | localEgress => rfl
    | remoteEgress egressId =>
        have refers : cloud.control.Refers tenantId (.servicePolicy, id) (.egress, egressId) := by
          refine ⟨row, found, List.mem_dedup.mpr ?_⟩
          simp only [spec, specReferences, List.mem_cons, List.mem_flatMap, List.mem_append]
          refine .inr ⟨rule, member, .inr ?_⟩
          simp [ServicePolicyRuleV1.egress, action]
        have fullEgress := full.target refers
        obtain ⟨egressRow, foundEgress, activeEgress⟩ := fullEgress.active
        obtain ⟨egress, isEgress⟩ := fullEgress.document graph reads_egress
        obtain ⟨other, foundOther, -, document⟩ := (mem_documents_iff graph reads_egress).mp isEgress
        -- The egress's own reference leads to the attachment.
        have carried : cloud.control.Refers tenantId (.egress, egressId)
            (.attachment, egress.attachmentId) := by
          refine ⟨other, foundOther, List.mem_dedup.mpr ?_⟩
          simp [egress?_eq_some.mp document, specReferences]
        obtain ⟨attachment, isAttachment⟩ :=
          (fullEgress.target carried).document graph reads_attachment
        obtain ⟨rowMember, located⟩ := resource_found found
        obtain ⟨tenant, -, sameId⟩ := ResourceRow.at_iff.mp located
        obtain ⟨active, activeFound, state⟩ := full.active
        obtain rfl : row = active := Option.some.inj (found.symm.trans activeFound)
        have isPolicy : (id, value) ∈ cloud.control.documents tenantId servicePolicy? :=
          mem_documents.mpr ⟨row, rowMember, tenant, state, sameId, by rw [spec]; rfl⟩
        apply (validateRuleEgress_iff graph).mpr
        exact ⟨egress, attachment, isEgress, isAttachment,
          consistent.linked.policies id value isPolicy rule member egressId egress attachment action
            isEgress isAttachment⟩

theorem spec_again (found : cloud.control.resource tenantId kind id = some row)
    (full : cloud.control.FullyActive tenantId (kind, id)) :
    cloud.validateSpec tenantId id row.document.resource = .ok () := by
  have graph := consistent.addressed.graph
  obtain ⟨member, located⟩ := resource_found found
  obtain ⟨tenant, sameKind, sameId⟩ := ResourceRow.at_iff.mp located
  obtain ⟨other, otherFound, active⟩ := full.active
  obtain rfl : row = other := Option.some.inj (found.symm.trans otherFound)
  have undeleted : row.state ≠ .deleted := by
    rw [active]
    decide
  have live : cloud.control.Live tenantId row := ⟨member, tenant, undeleted⟩
  have documentKind := (graph.rows row member tenant).kind.trans sameKind
  have listed : ∀ {α : Type} {read : ResourceSpecV1 → Option α} {value : α},
      read row.document.resource = some value →
        (row.id, value) ∈ cloud.control.documents tenantId read :=
    fun document => mem_documents.mpr ⟨row, member, tenant, active, rfl, document⟩
  have named : ∀ target, target ∈ specReferences row.document.resource →
      cloud.control.FullyActive tenantId target :=
    fun _ refers => full.target ⟨row, found, List.mem_dedup.mpr refers⟩
  subst sameId
  cases spec : row.document.resource with
  | node value => exact node_again consistent live spec
  | site value => rfl
  | segment value => exact segment_again consistent live spec
  | attachment value =>
      have node := (named (.node, value.nodeId) (by simp [spec, specReferences])).document
        graph reads_node
      have segment := (named (.segment, value.segmentId)
        (by simp [spec, specReferences])).document graph reads_segment
      exact attachment_again consistent live spec (listed (by rw [spec]; rfl)) node segment
  | prefix_ value =>
      have segment := (named (.segment, value.segmentId)
        (by simp [spec, specReferences])).document graph reads_segment
      exact prefix_again consistent live spec (listed rfl) segment
  | peer value => exact peer_again consistent live spec (listed rfl)
  | relay value => rfl
  | pathCandidate value =>
      obtain ⟨peer, isPeer⟩ := (named (.peer, value.peerId)
        (by simp [spec, specReferences])).document graph reads_peer
      obtain ⟨source, isSource⟩ := (named (.attachment, value.sourceAttachmentId)
        (by simp [spec, specReferences])).document graph reads_attachment
      obtain ⟨destination, isDestination⟩ :=
        (named (.attachment, value.destinationAttachmentId)
          (by simp [spec, specReferences])).document graph reads_attachment
      apply (validatePathCandidate_iff graph).mpr
      exact ⟨peer, source, destination, isPeer, isSource, isDestination,
        consistent.linked.candidates row.id value peer source destination
          (listed (by rw [spec]; rfl)) isPeer isSource isDestination⟩
  | egress value =>
      obtain ⟨attachment, isAttachment⟩ := (named (.attachment, value.attachmentId)
        (by simp [spec, specReferences])).document graph reads_attachment
      apply (validateEgress_iff graph).mpr
      exact ⟨attachment, isAttachment,
        consistent.linked.egresses row.id value attachment (listed (by rw [spec]; rfl))
          isAttachment⟩
  | servicePolicy value =>
      apply checkEach_all.mpr
      intro rule ruleMember
      have policyKind : kind = .servicePolicy := by
        rw [← documentKind, spec]
        rfl
      subst policyKind
      exact policyRule_again consistent full found spec (listed rfl) ruleMember
  | dnsIntent value =>
      simp only [Cloud.validateSpec, Cloud.validateDnsReferences, unit_bind_ok]
      constructor
      · apply attached_again consistent (listed rfl)
        intro siteId source
        rw [spec]
        exact List.mem_map.mpr ⟨siteId, source, rfl⟩
      · apply checkEach_all.mpr
        intro prefixId required
        obtain ⟨record, recordMember, requires⟩ := List.mem_filterMap.mp required
        have refers : (ResourceKind.prefix_, prefixId) ∈ specReferences row.document.resource := by
          simp only [spec, specReferences, List.mem_append]
          exact .inr (List.mem_map.mpr ⟨prefixId, required, rfl⟩)
        obtain ⟨block, isPrefix⟩ := (named _ refers).document graph reads_prefix
        apply (validateRequiredPrefix_iff graph).mpr
        exact ⟨block, isPrefix, consistent.linked.intents row.id value (listed (by rw [spec]; rfl))
          record recordMember prefixId block requires isPrefix⟩

theorem Consistent.revalidates : Revalidates tenantId cloud := by
  intro kind id row found full
  have graph := consistent.addressed.graph
  obtain ⟨member, located⟩ := resource_found found
  obtain ⟨tenant, -, sameId⟩ := ResourceRow.at_iff.mp located
  have faithful := graph.rows row member tenant
  obtain ⟨other, otherFound, active⟩ := full.active
  obtain rfl : row = other := Option.some.inj (found.symm.trans otherFound)
  have undeleted : row.document.metadata.state ≠ .deleted := by
    rw [faithful.state, active]
    decide
  simp only [Cloud.validateCrossResource, if_neg undeleted, unit_bind_ok, reject_ok,
    List.any_eq_false, bne_iff_ne, ne_eq, not_not, faithful.tenantId, tenant, faithful.id, sameId]
  constructor
  · intro target refers
    obtain ⟨referred, foundReferred, state⟩ := (full.target ⟨row, found, refers⟩).active
    rw [foundReferred, ← state]
    rfl
  · exact spec_again consistent found full

end Whole

/-- A call of `mutate` with what it reads from outside. -/
structure MutationCall where
  mutation : ResourceMutation
  now : Instant
  fresh : Uuid → Uuid
  clock : Instant

/-- A mutation as a step of the control store. -/
def mutationStep (cloud : Cloud) (call : MutationCall) : Cloud :=
  controlStep cloud (.mutate call.mutation call.now call.fresh call.clock)

section Runs

variable {tenantId : Uuid} {cloud cloud' : Cloud} {mutation : ResourceMutation}
  {fresh : Uuid → Uuid} {clock : Instant} {previous : Option ControlResourceV1}
  {resources : List ResourceRow} {queue : GenerationQueue}

theorem documents_congr {α : Type} {read : ResourceSpecV1 → Option α}
    (same : a.resources.filter (fun row => row.tenantId == tenantId) =
      b.resources.filter fun row => row.tenantId == tenantId) :
    a.documents tenantId read = b.documents tenantId read := by
  have split : ∀ rows : List ResourceRow,
      rows.filter (fun row => row.tenantId == tenantId && row.state == .active) =
        (rows.filter fun row => row.tenantId == tenantId).filter fun row =>
          row.state == .active := by
    intro rows
    rw [List.filter_filter]
    apply List.filter_congr
    intro row _
    rw [Bool.and_comm]
  unfold ControlStore.documents
  rw [split, split, same]

theorem DocumentsLinked.congr (linked : DocumentsLinked tenantId a)
    (same : b.resources.filter (fun row => row.tenantId == tenantId) =
      a.resources.filter fun row => row.tenantId == tenantId) : DocumentsLinked tenantId b := by
  have documents : ∀ {α : Type} (read : ResourceSpecV1 → Option α),
      b.documents tenantId read = a.documents tenantId read :=
    fun _ => documents_congr same
  obtain ⟨nodes, egresses, candidates, policies, intents, attached⟩ := linked
  constructor
  · rw [documents, documents]
    exact nodes
  · rw [documents, documents]
    exact egresses
  · rw [documents, documents, documents]
    exact candidates
  · rw [documents, documents, documents]
    exact policies
  · rw [documents, documents]
    exact intents
  · rw [documents, documents]
    exact attached

theorem Applied.identified (identified : Identified tenantId cloud)
    (graph : GraphInvariant tenantId cloud.control)
    (applied : Applied cloud mutation fresh clock previous resources queue cloud') :
    Identified tenantId cloud' := by
  intro row live value spec
  rw [applied.topology]
  have member : row ∈ resources := by
    have present := live.1
    rw [applied.result] at present
    exact present
  by_cases own : mutation.tenantId = tenantId
  · subst own
    have table := writeResource_written graph applied.written
    rcases table.only row member with rfl | ⟨old, -⟩
    · have checked := validateCrossResource_live applied.cross live.2.2
      have node : mutation.resource.resource = .node value := spec
      rw [node] at checked
      simp only [Cloud.validateSpec, Cloud.validateNode, unit_bind_ok, reject_ok,
        Bool.not_eq_false', Bool.and_eq_true] at checked
      exact checked.1
    · exact identified row ⟨old, live.2⟩ value spec
  · have old := ((written_other own applied.written).1 row live.2.1).mp member
    exact identified row ⟨old, live.2⟩ value spec

theorem Applied.consistent (consistent : Consistent tenantId cloud)
    (applied : Applied cloud mutation fresh clock previous resources queue cloud')
    (undisturbing : mutation.tenantId = tenantId → mutation.undisturbing cloud.control = true) :
    Consistent tenantId cloud' := by
  have graph := consistent.addressed.graph
  refine ⟨applied_addressed consistent.addressed applied, ?_,
    applied.identified consistent.identified graph⟩
  have written : DocumentsLinked tenantId (mutation.written cloud.control resources) := by
    by_cases own : mutation.tenantId = tenantId
    · subst own
      have table := writeResource_written graph applied.written
      exact linked_written graph consistent.linked applied.cross table (undisturbing rfl)
    · exact consistent.linked.congr (written_other own applied.written).2
  rw [applied.result]
  exact written.congr rfl

/-- An edit of the tenant that is carried out contradicts no active dependent document. -/
def MutationCall.Undisturbing (tenantId : Uuid) (cloud : Cloud) (call : MutationCall) : Prop :=
  call.mutation.tenantId = tenantId →
    call.mutation.carriedOut cloud call.now call.fresh call.clock = true →
      call.mutation.undisturbing cloud.control = true

instance (cloud : Cloud) (call : MutationCall) : Decidable (call.Undisturbing tenantId cloud) :=
  inferInstanceAs (Decidable (_ → _ → _))

theorem mutationStep_consistent (consistent : Consistent tenantId cloud) (call : MutationCall)
    (undisturbing : call.Undisturbing tenantId cloud) :
    Consistent tenantId (mutationStep cloud call) := by
  unfold mutationStep
  cases result : mutate cloud call.mutation call.now call.fresh call.clock with
  | error error =>
      rw [controlStep_error result]
      exact consistent
  | ok pair =>
      obtain ⟨outcome, after⟩ := pair
      rw [controlStep_ok result]
      rcases mutate_ok result with ⟨-, rfl⟩ | ⟨rfl, previous, resources, queue, applied⟩
      · exact consistent
      · refine applied.consistent consistent fun own => undisturbing own ?_
        rw [ResourceMutation.carriedOut, result]

theorem ControlStore.EmptyTenant.consistent (empty : cloud.control.EmptyTenant tenantId) :
    Consistent tenantId cloud := by
  have none : ∀ {α : Type} {read : ResourceSpecV1 → Option α} {id : Uuid} {value : α},
      (id, value) ∉ cloud.control.documents tenantId read := by
    intro α read id value listed
    obtain ⟨row, member, tenant, -⟩ := mem_documents.mp listed
    exact empty.resources row member tenant
  refine ⟨empty.addressed, ?_, fun row live => absurd live.2.1 (empty.resources row live.1)⟩
  exact ⟨fun _ _ _ listed => absurd listed none, fun _ _ _ listed => absurd listed none,
    fun _ _ _ _ _ listed => absurd listed none, fun _ _ listed => absurd listed none,
    fun _ _ listed => absurd listed none, fun _ _ listed => absurd listed none⟩

end Runs

/-- In every run whose edits contradict no active dependent document or are not carried out,
    every fully active resource passes the cross-resource check again. -/
theorem undisturbed_revalidates (tenantId : Uuid) (start : Cloud)
    (empty : start.control.EmptyTenant tenantId) (calls : List MutationCall)
    (along : Along mutationStep (fun cloud call => call.Undisturbing tenantId cloud) start calls) :
    Revalidates tenantId (run mutationStep start calls) := by
  have consistent : Consistent tenantId (run mutationStep start calls) :=
    run_invariant_along (P := Consistent tenantId) (fun _ call before undisturbing =>
      mutationStep_consistent before call undisturbing) empty.consistent calls along
  exact consistent.revalidates

def sampleCall (mutation : ResourceMutation) : MutationCall :=
  ⟨mutation, 0, sampleFresh (10000 * BitVec.ofNat 128 mutation.resource.metadata.revision +
    mutation.id), 0⟩

def attachedGraph : List MutationCall :=
  [sampleCall (sampleMutation 31 (.site ⟨"site-1", .edge⟩)),
    sampleCall (sampleMutation 32 (.site ⟨"site-2", .edge⟩)),
    sampleCall (sampleMutation 3 (.segment ⟨"segment", ⟨0x64400000, 24⟩⟩)),
    sampleCall (sampleMutation 51 (.node ⟨11, 21, 31, "node-1", .linux, "x86_64"⟩)),
    sampleCall (sampleMutation 41 (.attachment ⟨3, 31, 51, 0x64400001, 1⟩)),
    sampleCall (sampleMutation 61 (.prefix_ ⟨31, 3, ⟨0x0a010000, 16⟩, .configured⟩))]

/-- The attachment gets another address; a move of its node is refused, as the revision it
    expects is not the stored one. -/
def readdressedGraph : List MutationCall :=
  attachedGraph ++
    [sampleCall (sampleRewrite 41 1 .active (.attachment ⟨3, 31, 51, 0x64400002, 1⟩)),
      sampleCall (sampleRewrite 51 2 .active (.node ⟨11, 21, 32, "node-1", .linux, "x86_64"⟩))]

theorem undisturbed_revalidates_readdressed :
    Revalidates 1 (run mutationStep sampleCloud readdressedGraph) :=
  undisturbed_revalidates 1 sampleCloud (sampleCloud_empty 1) readdressedGraph (by decide +kernel)

def movedGraph : List MutationCall :=
  attachedGraph ++ [sampleCall (sampleRewrite 51 1 .active
    (.node ⟨11, 21, 32, "node-1", .linux, "x86_64"⟩))]

theorem fullyActive_of_all {tenantId : Uuid} {store : ControlStore}
    (referring : Referring tenantId store) (active : ∀ row ∈ store.resources, row.state = .active)
    {key : ResourceKind × Uuid} {row : ResourceRow}
    (found : store.resource tenantId key.1 key.2 = some row) :
    store.FullyActive tenantId key := by
  intro target path
  induction path with
  | refl => exact ⟨row, found, active row (resource_found found).1⟩
  | @tail source referred _ refers ih =>
      obtain ⟨holder, foundHolder, listed⟩ := refers
      obtain ⟨other, foundOther, state⟩ := ih
      have undeleted : holder.state ≠ .deleted := by
        rw [active holder (resource_found foundHolder).1]
        decide
      obtain ⟨reached, foundReached, -⟩ := referring.integrity.targets source.1 source.2 holder
        foundHolder undeleted referred listed
      exact ⟨reached, foundReached, active reached (resource_found foundReached).1⟩

/-- A node is moved under its attachment, which then no longer validates. -/
theorem moved_node_invalidates :
    ¬ Revalidates 1 (run mutationStep sampleCloud movedGraph) := by
  intro revalidates
  have referring : Referring 1 (run mutationStep sampleCloud movedGraph).control :=
    run_invariant (P := fun after : Cloud => Referring 1 after.control)
      (fun _ call before => controlStep_referring before _) (sampleCloud_empty 1).referring movedGraph
  have active : ∀ row ∈ (run mutationStep sampleCloud movedGraph).control.resources,
      row.state = .active := by
    decide +kernel
  have present : ((run mutationStep sampleCloud movedGraph).control.resource 1 .attachment
      41).isSome = true := by
    decide +kernel
  obtain ⟨row, found⟩ := Option.isSome_iff_exists.mp present
  have again := revalidates .attachment 41 row found (fullyActive_of_all referring active found)
  have refused : ∀ row, (run mutationStep sampleCloud movedGraph).control.resource 1 .attachment 41 =
      some row → (run mutationStep sampleCloud movedGraph).validateCrossResource row.document =
        .error .referenceConflict := by
    decide +kernel
  rw [refused row found] at again
  cases again

end CandyCloud
