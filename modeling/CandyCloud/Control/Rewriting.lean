import CandyCloud.Control.Integrity

/-! # Documents rewritten in place

A statement that rewrites rows of the control table but keeps their keys, their states, their
segments and what they refer to leaves the graph as it was.
-/

namespace CandyCloud

open Foundation

/-- The row keeps its key, its place in the graph and its references. -/
structure RewrittenInPlace (set : ResourceRow → ResourceRow) (row : ResourceRow) : Prop where
  tenantId : (set row).tenantId = row.tenantId
  kind : (set row).kind = row.kind
  id : (set row).id = row.id
  state : (set row).state = row.state
  segmentId : (set row).segmentId = row.segmentId
  references : resourceReferences (set row).document = resourceReferences row.document
  faithful : row.Faithful → (set row).Faithful

def ControlStore.rewrite (store : ControlStore) (set : ResourceRow → ResourceRow) : ControlStore :=
  { store with resources := store.resources.map set }

variable {row : ResourceRow}

section InPlace

variable {tenantId : Uuid} {store : ControlStore} {set : ResourceRow → ResourceRow}

theorem RewrittenInPlace.at (inPlace : RewrittenInPlace set row) (tenantId : Uuid)
    (kind : ResourceKind) (id : Uuid) :
    (set row).at tenantId kind id = row.at tenantId kind id := by
  simp only [ResourceRow.at, inPlace.tenantId, inPlace.kind, inPlace.id]

theorem mem_rewrite (member : row ∈ (store.rewrite set).resources) :
    ∃ old ∈ store.resources, set old = row :=
  List.mem_map.mp member

variable (inPlace : ∀ row ∈ store.resources, RewrittenInPlace set row)

include inPlace

theorem filter_rewrite {selected : ResourceRow → Bool}
    (kept : ∀ row, RewrittenInPlace set row → selected (set row) = selected row) :
    (store.rewrite set).resources.filter selected = (store.resources.filter selected).map set := by
  rw [ControlStore.rewrite, List.filter_map]
  congr 1
  apply List.filter_congr
  intro row member
  exact kept row (inPlace row member)

theorem resource_rewrite (tenantId : Uuid) (kind : ResourceKind) (id : Uuid) :
    (store.rewrite set).resource tenantId kind id = (store.resource tenantId kind id).map set := by
  unfold ControlStore.resource
  rw [← List.head?_filter, ← List.head?_filter, filter_rewrite inPlace, List.head?_map]
  intro row same
  exact same.at tenantId kind id

theorem GraphInvariant.rewrite (graph : GraphInvariant tenantId store) :
    GraphInvariant tenantId (store.rewrite set) := by
  constructor
  · rw [filter_rewrite inPlace fun row same => by rw [same.tenantId], List.map_map]
    have keys : ∀ row ∈ store.resources.filter (fun row => row.tenantId == tenantId),
        ((fun row : ResourceRow => (row.kind, row.id)) ∘ set) row = (row.kind, row.id) := by
      intro row member
      have same := inPlace row (List.mem_filter.mp member).1
      rw [Function.comp_apply, same.kind, same.id]
    rw [List.map_congr_left keys]
    exact graph.keys
  · intro row member tenant
    obtain ⟨old, stored, rfl⟩ := mem_rewrite member
    have same := inPlace old stored
    exact same.faithful (graph.rows old stored (same.tenantId.symm.trans tenant))
  · intro row member tenant live target listed
    obtain ⟨old, stored, rfl⟩ := mem_rewrite member
    have same := inPlace old stored
    rw [same.kind, same.id]
    rw [same.references] at listed
    rw [same.state] at live
    exact graph.complete old stored (same.tenantId.symm.trans tenant) live target listed
  · intro reference member tenant
    obtain ⟨row, stored, located, live, listed⟩ := graph.sound reference member tenant
    have same := inPlace row stored
    refine ⟨set row, List.mem_map_of_mem stored, ?_, ?_, ?_⟩
    · rw [same.at]
      exact located
    · rw [same.state]
      exact live
    · rw [same.references]
      exact listed

theorem TargetsLive.rewrite (targets : TargetsLive tenantId store) :
    TargetsLive tenantId (store.rewrite set) := by
  intro row live target listed
  obtain ⟨old, stored, rfl⟩ := mem_rewrite live.1
  have same := inPlace old stored
  obtain ⟨-, tenant, undeleted⟩ := live
  rw [same.tenantId] at tenant
  rw [same.state] at undeleted
  rw [same.references] at listed
  obtain ⟨referred, ⟨present, referredTenant, referredLive⟩, kind, id⟩ :=
    targets old ⟨stored, tenant, undeleted⟩ target listed
  have kept := inPlace referred present
  refine ⟨set referred, ⟨List.mem_map_of_mem present, ?_, ?_⟩, ?_, ?_⟩
  · rw [kept.tenantId]
    exact referredTenant
  · rw [kept.state]
    exact referredLive
  · rw [kept.kind]
    exact kind
  · rw [kept.id]
    exact id

theorem dependentSegments_rewrite (kind : ResourceKind) (id : Uuid) :
    (store.rewrite set).dependentSegments tenantId kind id =
      store.dependentSegments tenantId kind id := by
  have edges : (store.rewrite set).dependentEdges tenantId = store.dependentEdges tenantId := rfl
  simp only [ControlStore.dependentSegments, edges]
  rw [filter_rewrite inPlace fun row same => by
    rw [same.tenantId, same.kind, same.id, same.state], List.filterMap_map]
  congr 1
  apply List.filterMap_congr
  intro row member
  exact (inPlace row (List.mem_filter.mp member).1).segmentId

end InPlace

/-- The row of a node after it is given to another device. -/
def ResourceRow.reenrolled (row : ResourceRow) (node : NodeV1) (deviceId deviceKeyId : Uuid) :
    ResourceRow :=
  { row with
    revision := row.revision + 1
    document :=
      { metadata := { row.document.metadata with revision := row.document.metadata.revision + 1 }
        resource := .node { node with deviceId, deviceKeyId } } }

def reenrollRow (target : ResourceRow) (node : NodeV1) (deviceId deviceKeyId : Uuid)
    (row : ResourceRow) : ResourceRow :=
  if row = target then target.reenrolled node deviceId deviceKeyId else row

section Reenrolling

variable {store : ControlStore} {target : ResourceRow} {node : NodeV1} {deviceId deviceKeyId : Uuid}

theorem reenrolled_valid (valid : target.document.validate = .ok ())
    (isNode : target.document.resource = .node node) (device : isNil deviceId = false)
    (key : isNil deviceKeyId = false) :
    (target.reenrolled node deviceId deviceKeyId).document.validate = .ok () := by
  simp only [ControlResourceV1.validate, ResourceMetadataV1.validate, isNode,
    ResourceSpecV1.validate, requireIds, unit_bind_ok, reject_ok, Bool.or_eq_false_iff,
    List.any_cons, List.any_nil] at valid
  obtain ⟨⟨⟨⟨schema, id⟩, tenant⟩, -⟩, ⟨-, -, site, -⟩, name, architecture⟩ := valid
  simp only [ResourceRow.reenrolled, ControlResourceV1.validate, ResourceMetadataV1.validate,
    ResourceSpecV1.validate, requireIds, unit_bind_ok, reject_ok, Bool.or_eq_false_iff,
    List.any_cons, List.any_nil]
  exact ⟨⟨⟨⟨schema, id⟩, tenant⟩, rfl⟩, ⟨device, key, site, trivial⟩, name, architecture⟩

theorem reenroll_inPlace (isNode : target.document.resource = .node node)
    (device : isNil deviceId = false) (key : isNil deviceKeyId = false) (row : ResourceRow) :
    RewrittenInPlace (reenrollRow target node deviceId deviceKeyId) row := by
  unfold reenrollRow
  by_cases same : row = target
  · subst same
    constructor
    · simp only [if_true, ResourceRow.reenrolled]
    · simp only [if_true, ResourceRow.reenrolled]
    · simp only [if_true, ResourceRow.reenrolled]
    · simp only [if_true, ResourceRow.reenrolled]
    · simp only [if_true, ResourceRow.reenrolled]
    · simp only [if_true, ResourceRow.reenrolled, resourceReferences, isNode, specReferences]
    · intro faithful
      rw [if_pos rfl]
      have kind := faithful.kind
      have segment := faithful.segmentId
      rw [isNode] at kind
      rw [affectedSegmentId, isNode] at segment
      exact ⟨faithful.tenantId, faithful.id, kind, faithful.state, segment,
        reenrolled_valid faithful.valid isNode device key⟩
  · constructor
    · rw [if_neg same]
    · rw [if_neg same]
    · rw [if_neg same]
    · rw [if_neg same]
    · rw [if_neg same]
    · rw [if_neg same]
    · intro faithful
      rw [if_neg same]
      exact faithful

variable {tenantId : Uuid}

theorem live_reenrolled
    (live : (store.rewrite (reenrollRow target node deviceId deviceKeyId)).Live tenantId row) :
    row = target.reenrolled node deviceId deviceKeyId ∨ store.Live tenantId row := by
  obtain ⟨member, rest⟩ := live
  obtain ⟨old, stored, rfl⟩ := mem_rewrite member
  unfold reenrollRow at rest ⊢
  by_cases same : old = target
  · exact .inl (if_pos same)
  · rw [if_neg same] at rest ⊢
    exact .inr ⟨stored, rest⟩

theorem live_other
    (live : (store.rewrite (reenrollRow target node deviceId deviceKeyId)).Live tenantId row)
    (other : row.document.resource.node? = none) : store.Live tenantId row := by
  rcases live_reenrolled live with rfl | before
  · cases other
  · exact before

theorem segment_reenrolled {id : Uuid} {value : SegmentV1}
    (segment : (store.rewrite (reenrollRow target node deviceId deviceKeyId)).Segment tenantId id
      value) : store.Segment tenantId id value := by
  obtain ⟨row, member, tenant, named, document⟩ := segment
  obtain ⟨old, stored, rfl⟩ := mem_rewrite member
  unfold reenrollRow at tenant named document
  by_cases same : old = target
  · rw [if_pos same] at document
    cases document
  · rw [if_neg same] at tenant named document
    exact ⟨old, stored, tenant, named, document⟩

theorem AddressingInvariant.reenroll (addressing : AddressingInvariant tenantId store)
    (unbound : ∀ row, store.Live tenantId row → ∀ other, row.document.resource = .node other →
      other.deviceId ≠ deviceId) :
    AddressingInvariant tenantId
      (store.rewrite (reenrollRow target node deviceId deviceKeyId)) := by
  constructor
  · intro a b liveA liveB p q specA specB
    exact addressing.prefixes a b (live_other liveA (by rw [specA]; rfl))
      (live_other liveB (by rw [specB]; rfl)) p q specA specB
  · intro a live p spec segment stored
    exact addressing.overlays a (live_other live (by rw [spec]; rfl)) p spec segment
      (segment_reenrolled stored)
  · intro a b liveA liveB p q specA specB
    exact addressing.routers a b (live_other liveA (by rw [specA]; rfl))
      (live_other liveB (by rw [specB]; rfl)) p q specA specB
  · intro a live p spec segment stored
    exact addressing.hosts a (live_other live (by rw [spec]; rfl)) p spec segment
      (segment_reenrolled stored)
  · intro a b liveA liveB p q specA specB shared
    rcases live_reenrolled liveA with rfl | beforeA
    · rcases live_reenrolled liveB with rfl | beforeB
      · rfl
      · cases specA
        exact absurd shared.symm (unbound b beforeB q specB)
    · rcases live_reenrolled liveB with rfl | beforeB
      · cases specB
        exact absurd shared (unbound a beforeA p specA)
      · exact addressing.devices a b beforeA beforeB p q specA specB shared
  · intro a b liveA liveB p q specA specB
    exact addressing.peers a b (live_other liveA (by rw [specA]; rfl))
      (live_other liveB (by rw [specB]; rfl)) p q specA specB

end Reenrolling

end CandyCloud
