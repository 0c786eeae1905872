import CandyCloud.Foundation.Machine
import CandyCloud.Control.Graph

/-! # Addresses of the control graph

Prefixes as sets of addresses, and the claims on addresses, devices and site pairs that no two
live resources of a segment share.
-/

namespace CandyCloud

open Foundation

variable {address : BitVec 32} {a b overlay : Ipv4PrefixV1} {row : ResourceRow}
  {resource : ControlResourceV1} {segment : SegmentV1} {value : PeerV1} {store : ControlStore}

namespace Ipv4PrefixV1

def Covers (block : Ipv4PrefixV1) (address : BitVec 32) : Prop :=
  address &&& mask block.prefixLen = block.network

def Disjoint (a b : Ipv4PrefixV1) : Prop :=
  ∀ address, ¬ (a.Covers address ∧ b.Covers address)

theorem mask_bit (len i : Nat) :
    (mask len).getLsbD i = decide (32 - len ≤ i ∧ i < 32) := by
  unfold mask
  split
  · rename_i empty
    simp [empty]
  · simp only [BitVec.getLsbD_shiftLeft, BitVec.getLsbD_allOnes]
    rw [Bool.eq_iff_iff]
    simp
    omega

theorem mask_and {short long : Nat} (shorter : short ≤ long) :
    mask long &&& mask short = mask short := by
  apply BitVec.eq_of_getLsbD_eq
  intro i inside
  simp only [BitVec.getLsbD_and, mask_bit]
  rw [Bool.eq_iff_iff]
  simp
  omega

theorem Covers.network {block : Ipv4PrefixV1} (covers : block.Covers address) {bits : Nat}
    (shorter : bits ≤ block.prefixLen) :
    block.network &&& mask bits = address &&& mask bits := by
  rw [← covers, BitVec.and_assoc, mask_and shorter]

theorem disjoint_of_overlaps (apart : a.overlaps b = false) :
    a.Disjoint b := by
  rintro address ⟨inA, inB⟩
  have agree : a.overlaps b = true := by
    simp only [overlaps, beq_iff_eq]
    rw [inA.network (Nat.min_le_left _ _), inB.network (Nat.min_le_right _ _)]
  rw [apart] at agree
  cases agree

theorem Disjoint.symm (apart : a.Disjoint b) : b.Disjoint a :=
  fun address both => apart address ⟨both.2, both.1⟩

/-- An address of the overlay that is neither its network nor its broadcast
    address; point-to-point overlays use all of their addresses. -/
def UsableHost (overlay : Ipv4PrefixV1) (address : BitVec 32) : Prop :=
  overlay.Covers address ∧ (overlay.prefixLen ≤ 30 →
    address ≠ overlay.network ∧ address ≠ (overlay.network ||| ~~~(mask overlay.prefixLen)))

theorem usableHost_of_valid (valid : validOverlayHost overlay address = true)
    : overlay.UsableHost address := by
  unfold validOverlayHost at valid
  split at valid
  · cases valid
  · simp only at valid
    split at valid
    · cases valid
    · rename_i inside
      simp only [bne_iff_ne, ne_eq, not_not] at inside
      refine ⟨inside, ?_⟩
      intro wide
      simpa only [wide, if_true, Bool.and_eq_true, bne_iff_ne] using valid

end Ipv4PrefixV1

def ControlStore.Live (store : ControlStore) (tenantId : Uuid) (row : ResourceRow) : Prop :=
  row ∈ store.resources ∧ row.tenantId = tenantId ∧ row.state ≠ .deleted

def ControlStore.Segment (store : ControlStore) (tenantId id : Uuid) (value : SegmentV1) : Prop :=
  ∃ row ∈ store.resources, row.tenantId = tenantId ∧ row.id = id ∧
    row.document.resource = .segment value

/-- Different prefixes of a segment share no address. -/
def PrefixesApart (a b : ResourceRow) : Prop :=
  ∀ p q, a.document.resource = .prefix_ p → b.document.resource = .prefix_ q →
    p.segmentId = q.segmentId → a ≠ b → p.prefix_.Disjoint q.prefix_

/-- A router address of a segment belongs to one attachment. -/
def RoutersApart (a b : ResourceRow) : Prop :=
  ∀ p q, a.document.resource = .attachment p → b.document.resource = .attachment q →
    p.segmentId = q.segmentId → p.overlayRouterIpv4 = q.overlayRouterIpv4 → a = b

def DevicesApart (a b : ResourceRow) : Prop :=
  ∀ p q, a.document.resource = .node p → b.document.resource = .node q →
    p.deviceId = q.deviceId → a = b

/-- An unordered pair of sites has one peer in a segment. -/
def PeersApart (a b : ResourceRow) : Prop :=
  ∀ p q, a.document.resource = .peer p → b.document.resource = .peer q →
    p.segmentId = q.segmentId →
    (p.siteAId = q.siteAId ∧ p.siteBId = q.siteBId ∨
      p.siteAId = q.siteBId ∧ p.siteBId = q.siteAId) → a = b

/-- What no two live resources of a tenant share. -/
structure AddressingInvariant (tenantId : Uuid) (store : ControlStore) : Prop where
  prefixes : ∀ a b, store.Live tenantId a → store.Live tenantId b → PrefixesApart a b
  overlays : ∀ a, store.Live tenantId a → ∀ p, a.document.resource = .prefix_ p →
    ∀ segment, store.Segment tenantId p.segmentId segment →
      p.prefix_.Disjoint segment.overlayPrefix
  routers : ∀ a b, store.Live tenantId a → store.Live tenantId b → RoutersApart a b
  hosts : ∀ a, store.Live tenantId a → ∀ p, a.document.resource = .attachment p →
    ∀ segment, store.Segment tenantId p.segmentId segment →
      segment.overlayPrefix.UsableHost p.overlayRouterIpv4
  devices : ∀ a b, store.Live tenantId a → store.Live tenantId b → DevicesApart a b
  peers : ∀ a b, store.Live tenantId a → store.Live tenantId b → PeersApart a b

section Checks

variable {cloud : Cloud} {tenantId id : Uuid}

theorem validateNode_ok {value : NodeV1} (checked : cloud.validateNode tenantId id value = .ok ())
    (member : row ∈ cloud.control.resources) (tenant : row.tenantId = tenantId)
    (kind : row.kind = .node) (live : row.state ≠ .deleted) (elsewhere : row.id ≠ id)
    {other : NodeV1} (document : row.document.resource = .node other) :
    other.deviceId ≠ value.deviceId := by
  simp only [Cloud.validateNode, unit_bind_ok, reject_ok, List.any_eq_false] at checked
  have free := checked.2 row member
  intro same
  simp [tenant, kind, live, elsewhere, document, ResourceSpecV1.node?, same] at free

theorem validateSegmentOverlay_ok
    (checked : cloud.validateSegmentOverlay tenantId id overlay = .ok ())
    (member : row ∈ cloud.control.resources) (tenant : row.tenantId = tenantId)
    (live : row.state ≠ .deleted) (segment : row.segmentId = some id) :
    (∀ value, row.kind = .attachment → row.document.resource = .attachment value →
      validOverlayHost overlay value.overlayRouterIpv4 = true) ∧
    ∀ value, row.kind = .prefix_ → row.document.resource = .prefix_ value →
      overlay.overlaps value.prefix_ = false := by
  have all := checkEach_all.mp checked
  have each : (row.kind = .attachment ∨ row.kind = .prefix_) →
      Cloud.validateOverlayUse overlay row = .ok () := by
    intro kind
    apply all row
    refine List.mem_filter.mpr ⟨member, ?_⟩
    rcases kind with kind | kind
    · simp [tenant, segment, kind, live]
    · simp [tenant, segment, kind, live]
  constructor
  · intro value kind document
    have use := each (.inl kind)
    simp only [Cloud.validateOverlayUse, bind_ok, decodeResource_ok] at use
    obtain ⟨_, ⟨-, rfl⟩, use⟩ := use
    simpa only [document, reject_ok, Bool.not_eq_false'] using use
  · intro value kind document
    have use := each (.inr kind)
    simp only [Cloud.validateOverlayUse, bind_ok, decodeResource_ok] at use
    obtain ⟨_, ⟨-, rfl⟩, use⟩ := use
    simpa only [document, reject_ok] using use

theorem segment_of_load {segmentId : Uuid}
    (loaded : cloud.control.loadControlResource tenantId .segment segmentId = .ok resource)
    (document : resource.resource.segment? = some segment) :
    cloud.control.Segment tenantId segmentId segment := by
  obtain ⟨row, member, located, -, rfl⟩ := loadControlResource_ok loaded
  obtain ⟨tenant, -, sameId⟩ := ResourceRow.at_iff.mp located
  refine ⟨row, member, tenant, sameId, ?_⟩
  cases spec : row.document.resource with
  | segment value =>
      rw [spec] at document
      exact congrArg _ (Option.some.inj document)
  | node | site | attachment | prefix_ | peer | relay | pathCandidate | egress | servicePolicy
  | dnsIntent =>
      rw [spec] at document
      cases document

theorem validateAttachment_ok {value : AttachmentV1}
    (checked : cloud.validateAttachment tenantId id value = .ok ()) :
    (∃ segment, cloud.control.Segment tenantId value.segmentId segment ∧
      validOverlayHost segment.overlayPrefix value.overlayRouterIpv4 = true) ∧
    ∀ row ∈ cloud.control.resources, row.tenantId = tenantId → row.kind = .attachment →
      row.state ≠ .deleted → row.id ≠ id → ∀ other, row.document.resource = .attachment other →
        other.segmentId = value.segmentId → other.overlayRouterIpv4 ≠ value.overlayRouterIpv4 := by
  simp only [Cloud.validateAttachment, bind_ok (α := ControlResourceV1), orElse_bind_ok,
    unit_bind_ok, reject_ok, Bool.or_eq_false_iff, Bool.not_eq_false', List.any_eq_false] at checked
  obtain ⟨node, -, resource, loaded, _, -, segment, document, ⟨-, host⟩, free⟩ := checked
  refine ⟨⟨segment, segment_of_load loaded document, host⟩, ?_⟩
  intro row member tenant kind live elsewhere other spec sameSegment sameAddress
  have apart := free row member
  simp [tenant, kind, live, elsewhere, spec, ResourceSpecV1.attachment?, sameSegment,
    sameAddress] at apart

theorem validatePrefix_ok {value : PrefixV1}
    (checked : cloud.validatePrefix tenantId id value = .ok ()) :
    (∃ segment, cloud.control.Segment tenantId value.segmentId segment ∧
      value.prefix_.overlaps segment.overlayPrefix = false) ∧
    ∀ row ∈ cloud.control.resources, row.tenantId = tenantId → row.kind = .prefix_ →
      row.state ≠ .deleted → row.id ≠ id → row.segmentId = some value.segmentId →
        ∀ other, row.document.resource = .prefix_ other →
          value.prefix_.overlaps other.prefix_ = false := by
  simp only [Cloud.validatePrefix, bind_ok (α := ControlResourceV1), orElse_bind_ok, unit_bind_ok,
    reject_ok] at checked
  obtain ⟨-, resource, loaded, segment, document, apart, others⟩ := checked
  refine ⟨⟨segment, segment_of_load loaded document, apart⟩, ?_⟩
  intro row member tenant kind live elsewhere sameSegment other spec
  have each := checkEach_all.mp others row (List.mem_filter.mpr
    ⟨member, by simp [tenant, kind, live, elsewhere, sameSegment]⟩)
  simp only [Cloud.validateOtherPrefix, bind_ok, decodeResource_ok] at each
  obtain ⟨_, ⟨-, rfl⟩, each⟩ := each
  simpa [spec, ResourceSpecV1.prefix?] using each

theorem validatePeer_ok (checked : cloud.validatePeer tenantId id value = .ok ())
    (member : row ∈ cloud.control.resources) (tenant : row.tenantId = tenantId)
    (kind : row.kind = .peer) (live : row.state ≠ .deleted) (elsewhere : row.id ≠ id)
    (sameSegment : row.segmentId = some value.segmentId) {other : PeerV1}
    (spec : row.document.resource = .peer other) :
    ¬ (other.siteAId = value.siteAId ∧ other.siteBId = value.siteBId) := by
  simp only [Cloud.validatePeer, unit_bind_ok] at checked
  have each := checkEach_all.mp checked.2 row (List.mem_filter.mpr
    ⟨member, by simp [tenant, kind, live, elsewhere, sameSegment]⟩)
  simp only [Cloud.validateOtherPeer, bind_ok, decodeResource_ok] at each
  obtain ⟨_, ⟨-, rfl⟩, each⟩ := each
  simpa [spec, ResourceSpecV1.peer?] using each

theorem validateCrossResource_deleted (checked : cloud.validateCrossResource resource = .ok ())
    (deleted : resource.metadata.state = .deleted) :
    cloud.control.referenced resource.metadata.tenantId resource.resource.kind
      resource.metadata.id = false := by
  simpa only [Cloud.validateCrossResource, deleted, if_true, reject_ok] using checked

theorem validateCrossResource_live (checked : cloud.validateCrossResource resource = .ok ())
    (live : resource.metadata.state ≠ .deleted) :
    cloud.validateSpec resource.metadata.tenantId resource.metadata.id resource.resource
      = .ok () := by
  simp only [Cloud.validateCrossResource, live, if_false, unit_bind_ok] at checked
  exact checked.2

theorem peer_ordered (valid : resource.validate = .ok ()) (spec : resource.resource = .peer value) :
    value.siteAId < value.siteBId := by
  simp only [ControlResourceV1.validate, unit_bind_ok, spec, ResourceSpecV1.validate, reject_ok,
    Bool.or_eq_false_iff, beq_eq_false_iff_ne, decide_eq_false_iff_not] at valid
  obtain ⟨-, -, distinct, ordered⟩ := valid
  bv_omega

end Checks

section Step

variable {cloud : Cloud} {mutation : ResourceMutation} {resources : List ResourceRow}

theorem live_written (table : Written mutation cloud.control.resources resources)
    (live : (mutation.written cloud.control resources).Live mutation.tenantId row) :
    row = mutation.row ∨ cloud.control.Live mutation.tenantId row ∧
      row.at mutation.tenantId mutation.kind mutation.id = false := by
  obtain ⟨member, tenant, undeleted⟩ := live
  rcases table.only row member with new | ⟨old, elsewhere⟩
  · exact .inl new
  · exact .inr ⟨⟨old, tenant, undeleted⟩, elsewhere⟩

/-- A symmetric relation between live rows survives when the new row satisfies
    it against every other row. -/
theorem pairwise_written (table : Written mutation cloud.control.resources resources)
    {R : ResourceRow → ResourceRow → Prop} (symm : ∀ a b, R a b → R b a)
    (old : ∀ a b, cloud.control.Live mutation.tenantId a →
      cloud.control.Live mutation.tenantId b → R a b)
    (self : R mutation.row mutation.row)
    (new : mutation.resource.metadata.state ≠ .deleted →
      ∀ b, cloud.control.Live mutation.tenantId b →
        b.at mutation.tenantId mutation.kind mutation.id = false → R mutation.row b) :
    ∀ a b, (mutation.written cloud.control resources).Live mutation.tenantId a →
      (mutation.written cloud.control resources).Live mutation.tenantId b → R a b := by
  intro a b liveA liveB
  rcases live_written table liveA with rfl | ⟨oldA, elsewhereA⟩
  · rcases live_written table liveB with rfl | ⟨oldB, elsewhereB⟩
    · exact self
    · exact new liveA.2.2 b oldB elsewhereB
  · rcases live_written table liveB with rfl | ⟨oldB, elsewhereB⟩
    · exact symm _ _ (new liveB.2.2 a oldA elsewhereA)
    · exact old a b oldA oldB

variable {id : Uuid}

theorem segment_written (table : Written mutation cloud.control.resources resources)
    (stored : (mutation.written cloud.control resources).Segment mutation.tenantId id segment) :
    (mutation.id = id ∧ mutation.resource.resource = .segment segment) ∨
      cloud.control.Segment mutation.tenantId id segment := by
  obtain ⟨row, member, tenant, sameId, spec⟩ := stored
  rcases table.only row member with rfl | ⟨old, -⟩
  · exact .inl ⟨sameId, spec⟩
  · exact .inr ⟨row, old, tenant, sameId, spec⟩

theorem segment_unique (graph : GraphInvariant mutation.tenantId cloud.control) {a b : SegmentV1}
    (ha : cloud.control.Segment mutation.tenantId id a)
    (hb : cloud.control.Segment mutation.tenantId id b) : a = b := by
  obtain ⟨rowA, memberA, tenantA, idA, specA⟩ := ha
  obtain ⟨rowB, memberB, tenantB, idB, specB⟩ := hb
  have kindA := (graph.rows rowA memberA tenantA).kind
  have kindB := (graph.rows rowB memberB tenantB).kind
  rw [specA] at kindA
  rw [specB] at kindB
  have same := graph.row_eq memberA memberB tenantA tenantB (kindA.symm.trans kindB)
    (idA.trans idB.symm)
  rw [same, specB] at specA
  exact (ResourceSpecV1.segment.inj specA).symm

theorem other_id (live : cloud.control.Live mutation.tenantId row)
    (elsewhere : row.at mutation.tenantId mutation.kind mutation.id = false)
    (kind : row.kind = mutation.kind) : row.id ≠ mutation.id := by
  intro same
  rw [ResourceRow.at_iff.mpr ⟨live.2.1, kind, same⟩] at elsewhere
  cases elsewhere

variable (graph : GraphInvariant mutation.tenantId cloud.control)
  (addressing : AddressingInvariant mutation.tenantId cloud.control)
  (checked : cloud.validateCrossResource mutation.resource = .ok ())
  (valid : mutation.resource.validate = .ok ())
  (table : Written mutation cloud.control.resources resources)

include graph addressing checked table

theorem prefixes_written : ∀ a b,
    (mutation.written cloud.control resources).Live mutation.tenantId a →
    (mutation.written cloud.control resources).Live mutation.tenantId b → PrefixesApart a b := by
  apply pairwise_written (R := PrefixesApart) table
  · intro a b apart p q specA specB sameSegment distinct
    exact (apart q p specB specA sameSegment.symm distinct.symm).symm
  · exact addressing.prefixes
  · intro p q _ _ _ distinct
    exact absurd rfl distinct
  · intro undeleted b live elsewhere p q specA specB sameSegment _
    have own := validateCrossResource_live checked undeleted
    have specA : mutation.resource.resource = .prefix_ p := specA
    rw [specA] at own
    have faithful := graph.rows b live.1 live.2.1
    have kind : b.kind = .prefix_ := by rw [← faithful.kind, specB]; rfl
    have segment : b.segmentId = some p.segmentId := by
      rw [← faithful.segmentId, affectedSegmentId, specB, sameSegment]
      rfl
    have sameKind : b.kind = mutation.kind := by rw [kind, ResourceMutation.kind, specA]; rfl
    exact Ipv4PrefixV1.disjoint_of_overlaps ((validatePrefix_ok own).2 b live.1 live.2.1 kind
      live.2.2 (other_id live elsewhere sameKind) segment q specB)

theorem routers_written : ∀ a b,
    (mutation.written cloud.control resources).Live mutation.tenantId a →
    (mutation.written cloud.control resources).Live mutation.tenantId b → RoutersApart a b := by
  apply pairwise_written (R := RoutersApart) table
  · intro a b unique p q specA specB sameSegment sameAddress
    exact (unique q p specB specA sameSegment.symm sameAddress.symm).symm
  · exact addressing.routers
  · intro p q _ _ _ _
    rfl
  · intro undeleted b live elsewhere p q specA specB sameSegment sameAddress
    have own := validateCrossResource_live checked undeleted
    have specA : mutation.resource.resource = .attachment p := specA
    rw [specA] at own
    have kind : b.kind = .attachment := by rw [← (graph.rows b live.1 live.2.1).kind, specB]; rfl
    have sameKind : b.kind = mutation.kind := by rw [kind, ResourceMutation.kind, specA]; rfl
    exact absurd sameAddress.symm ((validateAttachment_ok own).2 b live.1 live.2.1 kind live.2.2
      (other_id live elsewhere sameKind) q specB sameSegment.symm)

theorem devices_written : ∀ a b,
    (mutation.written cloud.control resources).Live mutation.tenantId a →
    (mutation.written cloud.control resources).Live mutation.tenantId b → DevicesApart a b := by
  apply pairwise_written (R := DevicesApart) table
  · intro a b unique p q specA specB same
    exact (unique q p specB specA same.symm).symm
  · exact addressing.devices
  · intro p q _ _ _
    rfl
  · intro undeleted b live elsewhere p q specA specB same
    have own := validateCrossResource_live checked undeleted
    have specA : mutation.resource.resource = .node p := specA
    rw [specA] at own
    have kind : b.kind = .node := by rw [← (graph.rows b live.1 live.2.1).kind, specB]; rfl
    have sameKind : b.kind = mutation.kind := by rw [kind, ResourceMutation.kind, specA]; rfl
    exact absurd same.symm (validateNode_ok own live.1 live.2.1 kind live.2.2
      (other_id live elsewhere sameKind) specB)

include valid in
theorem peers_written : ∀ a b,
    (mutation.written cloud.control resources).Live mutation.tenantId a →
    (mutation.written cloud.control resources).Live mutation.tenantId b → PeersApart a b := by
  apply pairwise_written (R := PeersApart) table
  · intro a b unique p q specA specB sameSegment pair
    refine (unique q p specB specA sameSegment.symm ?_).symm
    rcases pair with ⟨same, same'⟩ | ⟨cross, cross'⟩
    · exact .inl ⟨same.symm, same'.symm⟩
    · exact .inr ⟨cross'.symm, cross.symm⟩
  · exact addressing.peers
  · intro p q _ _ _ _
    rfl
  · intro undeleted b live elsewhere p q specA specB sameSegment pair
    have own := validateCrossResource_live checked undeleted
    have specA : mutation.resource.resource = .peer p := specA
    rw [specA] at own
    have faithful := graph.rows b live.1 live.2.1
    have kind : b.kind = .peer := by rw [← faithful.kind, specB]; rfl
    have segment : b.segmentId = some p.segmentId := by
      rw [← faithful.segmentId, affectedSegmentId, specB, sameSegment]
      rfl
    have sameKind : b.kind = mutation.kind := by rw [kind, ResourceMutation.kind, specA]; rfl
    have distinct := validatePeer_ok own live.1 live.2.1 kind live.2.2
      (other_id live elsewhere sameKind) segment specB
    rcases pair with ⟨same, same'⟩ | ⟨cross, cross'⟩
    · exact absurd ⟨same.symm, same'.symm⟩ distinct
    · have orderedA := peer_ordered valid specA
      have orderedB := peer_ordered faithful.valid specB
      rw [cross, cross'] at orderedA
      bv_omega

omit addressing table in
/-- Whatever uses a segment's overlay keeps the segment from being deleted, and
    a changed overlay is checked against it. -/
theorem overlay_checked (live : cloud.control.Live mutation.tenantId row)
    (uses : (.segment, mutation.id) ∈ resourceReferences row.document)
    (spec : mutation.resource.resource = .segment segment) :
    cloud.validateSegmentOverlay mutation.tenantId mutation.id segment.overlayPrefix = .ok () := by
  by_cases deleted : mutation.resource.metadata.state = .deleted
  · have unused := validateCrossResource_deleted checked deleted
    have used := graph.referenced live.1 live.2.1 live.2.2 uses
    rw [spec] at unused
    rw [show cloud.control.referenced mutation.tenantId .segment mutation.id = false from unused]
      at used
    cases used
  · have own := validateCrossResource_live checked deleted
    rw [spec] at own
    exact own

theorem overlays_written : ∀ a,
    (mutation.written cloud.control resources).Live mutation.tenantId a →
    ∀ p, a.document.resource = .prefix_ p → ∀ segment,
      (mutation.written cloud.control resources).Segment mutation.tenantId p.segmentId segment →
      p.prefix_.Disjoint segment.overlayPrefix := by
  intro a live p specA segment stored
  rcases live_written table live with rfl | ⟨old, elsewhere⟩
  · have specA : mutation.resource.resource = .prefix_ p := specA
    have own := validateCrossResource_live checked live.2.2
    rw [specA] at own
    obtain ⟨seen, loaded, apart⟩ := (validatePrefix_ok own).1
    rcases segment_written table stored with ⟨-, spec⟩ | before
    · rw [specA] at spec
      cases spec
    · rw [segment_unique graph before loaded]
      exact Ipv4PrefixV1.disjoint_of_overlaps apart
  · rcases segment_written table stored with ⟨sameId, spec⟩ | before
    · have faithful := graph.rows a old.1 old.2.1
      have uses : (.segment, mutation.id) ∈ resourceReferences a.document := by
        simp [resourceReferences, specReferences, specA, sameId]
      have kind : a.kind = .prefix_ := by rw [← faithful.kind, specA]; rfl
      have segmentId : a.segmentId = some mutation.id := by
        rw [← faithful.segmentId, affectedSegmentId, specA, sameId]
        rfl
      have overlay := overlay_checked graph checked old uses spec
      exact (Ipv4PrefixV1.disjoint_of_overlaps ((validateSegmentOverlay_ok overlay old.1 old.2.1
        old.2.2 segmentId).2 p kind specA)).symm
    · exact addressing.overlays a old p specA segment before

theorem hosts_written : ∀ a,
    (mutation.written cloud.control resources).Live mutation.tenantId a →
    ∀ p, a.document.resource = .attachment p → ∀ segment,
      (mutation.written cloud.control resources).Segment mutation.tenantId p.segmentId segment →
      segment.overlayPrefix.UsableHost p.overlayRouterIpv4 := by
  intro a live p specA segment stored
  rcases live_written table live with rfl | ⟨old, elsewhere⟩
  · have specA : mutation.resource.resource = .attachment p := specA
    have own := validateCrossResource_live checked live.2.2
    rw [specA] at own
    obtain ⟨seen, loaded, host⟩ := (validateAttachment_ok own).1
    rcases segment_written table stored with ⟨-, spec⟩ | before
    · rw [specA] at spec
      cases spec
    · rw [segment_unique graph before loaded]
      exact Ipv4PrefixV1.usableHost_of_valid host
  · rcases segment_written table stored with ⟨sameId, spec⟩ | before
    · have faithful := graph.rows a old.1 old.2.1
      have uses : (.segment, mutation.id) ∈ resourceReferences a.document := by
        simp [resourceReferences, specReferences, specA, sameId]
      have kind : a.kind = .attachment := by rw [← faithful.kind, specA]; rfl
      have segmentId : a.segmentId = some mutation.id := by
        rw [← faithful.segmentId, affectedSegmentId, specA, sameId]
        rfl
      have overlay := overlay_checked graph checked old uses spec
      exact Ipv4PrefixV1.usableHost_of_valid ((validateSegmentOverlay_ok overlay old.1 old.2.1
        old.2.2 segmentId).1 p kind specA)
    · exact addressing.hosts a old p specA segment before

include valid in
theorem written_addressing :
    AddressingInvariant mutation.tenantId (mutation.written cloud.control resources) :=
  ⟨prefixes_written graph addressing checked table, overlays_written graph addressing checked table,
    routers_written graph addressing checked table, hosts_written graph addressing checked table,
    devices_written graph addressing checked table,
    peers_written graph addressing checked valid table⟩

end Step

/-- A mutation, or any change made elsewhere: neither the job queue nor the
    route store nor the transport requests are written by mutations alone. -/
inductive ControlCall where
  | mutate (mutation : ResourceMutation) (now : Instant) (fresh : Uuid → Uuid) (clock : Instant)
  | environment (transportRequests : List TransportRequestRow) (queue : GenerationQueue)
      (route : RouteStore)

/-- One call on the control store; a refused mutation changes nothing. -/
def controlStep (cloud : Cloud) : ControlCall → Cloud
  | .mutate mutation now fresh clock =>
      commit cloud ((mutate cloud mutation now fresh clock).map Prod.snd)
  | .environment transportRequests queue route =>
      { control := { cloud.control with transportRequests }, queue, route }

/-- Nothing is stored for the tenant yet. -/
structure ControlStore.EmptyTenant (store : ControlStore) (tenantId : Uuid) : Prop where
  resources : ∀ row ∈ store.resources, row.tenantId ≠ tenantId
  references : ∀ reference ∈ store.references, reference.tenantId ≠ tenantId

/-- What a run of mutations keeps for a tenant. -/
structure Addressed (tenantId : Uuid) (store : ControlStore) : Prop where
  graph : GraphInvariant tenantId store
  addressing : AddressingInvariant tenantId store

theorem ControlStore.EmptyTenant.addressed {tenantId : Uuid} (empty : store.EmptyTenant tenantId)
    : Addressed tenantId store := by
  have none : ∀ row, ¬ store.Live tenantId row :=
    fun row live => empty.resources row live.1 live.2.1
  constructor
  · constructor
    · have filtered : store.resources.filter (fun row => row.tenantId == tenantId) = [] := by
        rw [List.filter_eq_nil_iff]
        intro row member same
        exact empty.resources row member (beq_iff_eq.mp same)
      rw [filtered]
      exact List.nodup_nil
    · exact fun row member tenant => absurd tenant (empty.resources row member)
    · exact fun row member tenant => absurd tenant (empty.resources row member)
    · exact fun reference member tenant => absurd tenant (empty.references reference member)
  · exact ⟨fun a _ live => absurd live (none a), fun a live => absurd live (none a),
      fun a _ live => absurd live (none a), fun a live => absurd live (none a),
      fun a _ live => absurd live (none a), fun a _ live => absurd live (none a)⟩

theorem addressing_other {tenantId : Uuid} {mutation : ResourceMutation}
    {resources : List ResourceRow} (addressing : AddressingInvariant tenantId store)
    (other : mutation.tenantId ≠ tenantId)
    (done : mutation.writeResource store.resources = .ok resources) :
    AddressingInvariant tenantId (mutation.written store resources) := by
  obtain ⟨same, -⟩ := written_other other done
  have live : ∀ {row}, (mutation.written store resources).Live tenantId row →
      store.Live tenantId row :=
    fun alive => ⟨(same _ alive.2.1).mp alive.1, alive.2⟩
  have segment : ∀ {id value}, (mutation.written store resources).Segment tenantId id value →
      store.Segment tenantId id value := by
    rintro id value ⟨row, member, tenant, rest⟩
    exact ⟨row, (same row tenant).mp member, tenant, rest⟩
  constructor
  · exact fun a b liveA liveB => addressing.prefixes a b (live liveA) (live liveB)
  · exact fun a liveA p spec value stored =>
      addressing.overlays a (live liveA) p spec value (segment stored)
  · exact fun a b liveA liveB => addressing.routers a b (live liveA) (live liveB)
  · exact fun a liveA p spec value stored =>
      addressing.hosts a (live liveA) p spec value (segment stored)
  · exact fun a b liveA liveB => addressing.devices a b (live liveA) (live liveB)
  · exact fun a b liveA liveB => addressing.peers a b (live liveA) (live liveB)

theorem Addressed.congr {tenantId : Uuid} {a b : ControlStore} (addressed : Addressed tenantId a)
    (resources : b.resources = a.resources) (references : b.references = a.references) :
    Addressed tenantId b := by
  obtain ⟨graph, prefixes, overlays, routers, hosts, devices, peers⟩ := addressed
  constructor
  · exact graph.congr resources references
  · have live : ∀ {row}, b.Live tenantId row → a.Live tenantId row := by
      rintro row ⟨member, rest⟩
      exact ⟨resources ▸ member, rest⟩
    have segment : ∀ {id value}, b.Segment tenantId id value → a.Segment tenantId id value := by
      rintro id value ⟨row, member, rest⟩
      exact ⟨row, resources ▸ member, rest⟩
    constructor
    · exact fun x y liveX liveY => prefixes x y (live liveX) (live liveY)
    · exact fun x liveX p spec value stored => overlays x (live liveX) p spec value (segment stored)
    · exact fun x y liveX liveY => routers x y (live liveX) (live liveY)
    · exact fun x liveX p spec value stored => hosts x (live liveX) p spec value (segment stored)
    · exact fun x y liveX liveY => devices x y (live liveX) (live liveY)
    · exact fun x y liveX liveY => peers x y (live liveX) (live liveY)

theorem applied_addressed {tenantId : Uuid} {cloud cloud' : Cloud} {mutation : ResourceMutation}
    {fresh : Uuid → Uuid} {clock : Instant} {previous : Option ControlResourceV1}
    {resources : List ResourceRow} {queue : GenerationQueue}
    (addressed : Addressed tenantId cloud.control)
    (applied : Applied cloud mutation fresh clock previous resources queue cloud') :
    Addressed tenantId cloud'.control := by
  have written : Addressed tenantId (mutation.written cloud.control resources) := by
    by_cases own : mutation.tenantId = tenantId
    · subst own
      have table := writeResource_written addressed.graph applied.written
      exact ⟨written_graph addressed.graph applied.valid applied.written,
        written_addressing addressed.graph addressed.addressing applied.cross applied.valid table⟩
    · exact ⟨written_graph_other addressed.graph own applied.written,
        addressing_other addressed.addressing own applied.written⟩
  rw [applied.result]
  exact written.congr rfl rfl

theorem mutate_addressed {tenantId : Uuid} {cloud : Cloud}
    (addressed : Addressed tenantId cloud.control) (mutation : ResourceMutation) (now : Instant)
    (fresh : Uuid → Uuid) (clock : Instant) :
    Addressed tenantId
      (commit cloud ((mutate cloud mutation now fresh clock).map Prod.snd)).control := by
  refine commit_cases (P := fun after : Cloud => Addressed tenantId after.control) addressed ?_
  intro cloud' done
  cases result : mutate cloud mutation now fresh clock with
  | error error =>
      rw [result] at done
      cases done
  | ok pair =>
      rw [result] at done
      obtain rfl : pair.2 = cloud' := Except.ok.inj done
      rcases mutate_ok result with ⟨-, same⟩ | ⟨-, previous, resources, queue, applied⟩
      · rw [same]
        exact addressed
      · exact applied_addressed addressed applied

theorem controlStep_addressed {tenantId : Uuid} {cloud : Cloud}
    (addressed : Addressed tenantId cloud.control) (call : ControlCall) :
    Addressed tenantId (controlStep cloud call).control := by
  cases call with
  | mutate mutation now fresh clock =>
      exact mutate_addressed addressed mutation now fresh clock
  | environment transportRequests queue route => exact addressed.congr rfl rfl

/-- Every state reached from an empty tenant keeps its addresses apart. -/
theorem control_addressing (tenantId : Uuid) (start : Cloud)
    (empty : start.control.EmptyTenant tenantId) (calls : List ControlCall) :
    AddressingInvariant tenantId (run controlStep start calls).control :=
  (run_invariant (P := fun after : Cloud => Addressed tenantId after.control)
    (fun _ call addressed => controlStep_addressed addressed call) empty.addressed
    calls).addressing

/-- A tenant with two active devices and a private node pool, and no resources
    yet. -/
def sampleCloud : Cloud where
  control := ⟨[], [], [], []⟩
  queue := ⟨[], []⟩
  route :=
    { topology :=
        { organizations := [⟨2, .active⟩]
          tenants := [⟨1, 2, .active⟩]
          devices := [⟨11, 1, "edge-1", .active, none⟩, ⟨12, 1, "edge-2", .active, none⟩]
          deviceKeys := [⟨21, 1, 11, .active⟩, ⟨22, 1, 12, .active⟩]
          sites := []
          sitePrefixes := []
          nodePools := [⟨5, some 1, true, "cloud-private", true, 0⟩]
          subscriptions := [⟨71, 1, true⟩]
          entitlements := [⟨72, 1, 71, 5, "private.tun.connect", 0, 0, true⟩]
          nodes := []
          nodeEndpoints := []
          attachments := [] }
      segments := []
      publications := []
      projections := []
      members := []
      transportCatalog := []
      pathCatalog := []
      expansions := []
      rollouts := []
      statuses := []
      auditEvents := [] }

def sampleMutation (id : Uuid) (spec : ResourceSpecV1) : ResourceMutation where
  context :=
    { actorId := "operator", idempotencyKey := Nat.repr id.toNat, requestMethod := "POST"
      requestPath := "/v1/resources", requestHash := BitVec.ofNat 256 (1000 + id.toNat)
      idempotencyReplayUntil := 1000 }
  resource := ⟨⟨1, id, 1, 1, .active⟩, spec⟩
  expectedRevision := none

def sampleFresh (id segmentId : Uuid) : Uuid := 1000 * id + segmentId

def sampleCreate (id : Uuid) (spec : ResourceSpecV1) : ControlCall :=
  .mutate (sampleMutation id spec) 0 (sampleFresh id) 0

/-- A site with a node attached to a segment, a prefix, and a second prefix
    inside the first. -/
def sampleGraph : List ControlCall :=
  [sampleCreate 31 (.site ⟨"site-1", .edge⟩),
    sampleCreate 3 (.segment ⟨"segment", ⟨0x64400000, 24⟩⟩),
    sampleCreate 51 (.node ⟨11, 21, 31, "node-1", .linux, "x86_64"⟩),
    sampleCreate 41 (.attachment ⟨3, 31, 51, 0x64400001, 1⟩),
    sampleCreate 61 (.prefix_ ⟨31, 3, ⟨0x0a010000, 16⟩, .configured⟩),
    sampleCreate 62 (.prefix_ ⟨31, 3, ⟨0x0a010200, 24⟩, .configured⟩)]

theorem sampleCloud_empty (tenantId : Uuid) : sampleCloud.control.EmptyTenant tenantId :=
  ⟨fun _ member => absurd member List.not_mem_nil, fun _ member => absurd member List.not_mem_nil⟩

theorem control_addressing_sample :
    (run controlStep sampleCloud sampleGraph).control.resources.map (·.id) = [31, 3, 51, 41, 61] ∧
    AddressingInvariant 1 (run controlStep sampleCloud sampleGraph).control :=
  ⟨by decide +kernel, control_addressing 1 sampleCloud (sampleCloud_empty 1) sampleGraph⟩

end CandyCloud
