import CandyCloud.Control.Integrity
import CandyCloud.Worker.Input

/-! # Which snapshots a mutation reaches

`segment_snapshot` follows references from the roots of a segment down to a resource,
`dependent_segments` follows them from the resource back up to the roots.
-/

namespace CandyCloud

open Foundation

variable {segmentId : Uuid} {row : ResourceRow} {before after : ControlStore}
  {current old : ControlResourceV1} {α β : Type}

section Graph

variable {store : ControlStore} {tenantId : Uuid}

variable {a b : ResourceKind × Uuid}

theorem dependentEdges_iff :
    (a, b) ∈ store.dependentEdges tenantId ↔ (b, a) ∈ store.referenceEdges tenantId := by
  simp only [ControlStore.dependentEdges, ControlStore.referenceEdges, List.mem_map,
    Prod.mk.injEq]
  grind

theorem mem_referenceEdges :
    (a, b) ∈ store.referenceEdges tenantId ↔ ⟨tenantId, a, b⟩ ∈ store.references := by
  simp only [ControlStore.referenceEdges, List.mem_map, List.mem_filter, beq_iff_eq, Prod.mk.injEq]
  constructor
  · rintro ⟨reference, ⟨member, rfl⟩, rfl, rfl⟩
    exact member
  · intro member
    exact ⟨_, ⟨member, rfl⟩, rfl, rfl⟩

theorem mem_graphRows :
    row ∈ store.graphRows tenantId segmentId ↔
      row ∈ store.resources ∧ row.tenantId = tenantId ∧ row.state = .active ∧
        ∃ root ∈ store.graphRoots tenantId segmentId,
          Relation.ReflTransGen (fun a b => (a, b) ∈ store.referenceEdges tenantId) root
            (row.kind, row.id) := by
  simp only [ControlStore.graphRows, List.mem_insertionSort, List.mem_filter, Bool.and_eq_true,
    beq_iff_eq, List.contains_eq_mem, decide_eq_true_eq, mem_reachable, and_assoc]

theorem mem_dependentSegments {kind : ResourceKind} {id : Uuid} :
    segmentId ∈ store.dependentSegments tenantId kind id ↔
      ∃ row ∈ store.resources, row.tenantId = tenantId ∧ row.state ≠ .deleted ∧
        row.segmentId = some segmentId ∧
        Relation.ReflTransGen (fun a b => (a, b) ∈ store.dependentEdges tenantId) (kind, id)
          (row.kind, row.id) := by
  simp only [ControlStore.dependentSegments, List.mem_dedup, List.mem_filterMap, List.mem_filter,
    Bool.and_eq_true, beq_iff_eq, bne_iff_ne, List.contains_eq_mem, decide_eq_true_eq,
    mem_reachable, List.mem_singleton, exists_eq_left]
  grind

theorem root_row (graph : GraphInvariant tenantId store) {key : ResourceKind × Uuid}
    (root : key ∈ store.graphRoots tenantId segmentId) :
    ∃ row ∈ store.resources, row.tenantId = tenantId ∧ row.state = .active ∧
      row.segmentId = some segmentId ∧ (row.kind, row.id) = key := by
  simp only [ControlStore.graphRoots, List.mem_map, List.mem_filter, Bool.and_eq_true,
    Bool.or_eq_true, beq_iff_eq] at root
  obtain ⟨row, ⟨member, ⟨tenant, active⟩, place⟩, rfl⟩ := root
  refine ⟨row, member, tenant, active, ?_, rfl⟩
  rcases place with ⟨kind, sameId⟩ | recorded
  · have faithful := graph.rows row member tenant
    have documentKind := faithful.kind.trans kind
    rw [← faithful.segmentId, affectedSegmentId, ← sameId, ← faithful.id]
    cases spec : row.document.resource with
    | segment => rfl
    | node | site | attachment | prefix_ | peer | relay | pathCandidate | egress | servicePolicy
    | dnsIntent =>
        rw [spec] at documentKind
        cases documentKind
  · exact recorded

theorem graph_dependent (graph : GraphInvariant tenantId store)
    (loaded : row ∈ store.graphRows tenantId segmentId) :
    segmentId ∈ store.dependentSegments tenantId row.kind row.id := by
  obtain ⟨-, -, -, key, root, path⟩ := mem_graphRows.mp loaded
  obtain ⟨rootRow, member, tenant, active, recorded, rfl⟩ := root_row graph root
  have undeleted : rootRow.state ≠ .deleted := by
    rw [active]
    decide
  refine mem_dependentSegments.mpr ⟨rootRow, member, tenant, undeleted, recorded, ?_⟩
  have reversed := Relation.reflTransGen_swap.mpr path
  exact Relation.ReflTransGen.mono (fun _ _ edge => dependentEdges_iff.mpr edge) _ _ reversed

end Graph

/-- The snapshot graph of a segment contains the resource. -/
def ControlStore.InGraph (store : ControlStore) (tenantId segmentId : Uuid) (kind : ResourceKind)
    (id : Uuid) : Prop :=
  ∃ row ∈ store.graphRows tenantId segmentId, row.kind = kind ∧ row.id = id

/-- The same document, or a service policy with the same rules and the same
    data-plane hash. -/
def SameDataPlane (a b : ControlResourceV1) : Prop :=
  a = b ∨ ∃ p q, a.resource = .servicePolicy p ∧ b.resource = .servicePolicy q ∧
    a.metadata.id = b.metadata.id ∧ a.metadata.state = b.metadata.state ∧
    p.segmentId = q.segmentId ∧ p.generation = q.generation ∧ p.rules = q.rules ∧
    ∀ encoding, p.dataPlaneHash encoding = q.dataPlaneHash encoding

theorem unpublished_policy {previous : Option ControlResourceV1}
    (unpublished : mutationRequiresPublication previous current = false) :
    ∃ old p q, previous = some old ∧ old.resource = .servicePolicy p ∧
      current.resource = .servicePolicy q ∧ old.metadata.state = current.metadata.state ∧
      p.segmentId = q.segmentId ∧ p.generation = q.generation ∧ p.enabled = q.enabled ∧
      p.rules = q.rules := by
  unfold mutationRequiresPublication at unpublished
  cases previous with
  | none => cases unpublished
  | some old =>
      simp only [Bool.or_eq_false_iff, bne_eq_false_iff_eq] at unpublished
      obtain ⟨state, same⟩ := unpublished
      split at same
      · rename_i p q isOld isCurrent
        simp only [Bool.or_eq_false_iff, bne_eq_false_iff_eq] at same
        obtain ⟨⟨⟨segment, generation⟩, enabled⟩, rules⟩ := same
        exact ⟨old, p, q, rfl, isOld, isCurrent, state, segment, generation, enabled, rules⟩
      · cases same

section Unpublished

variable {cloud : Cloud} {mutation : ResourceMutation} {fresh : Uuid → Uuid} {clock : Instant}
  {previous : Option ControlResourceV1} {resources : List ResourceRow} {queue : GenerationQueue}
  {cloud' : Cloud}

def ResourceMutation.rewrite (mutation : ResourceMutation) (row : ResourceRow) : ResourceRow :=
  if row.at mutation.tenantId mutation.kind mutation.id then mutation.row else row

/-- A mutation that asks for no publication rewrites a row in place. -/
structure Renames (mutation : ResourceMutation) (before after : ControlStore) : Prop where
  resources : after.resources = before.resources.map mutation.rewrite
  old : ∀ row ∈ before.resources, row.at mutation.tenantId mutation.kind mutation.id = true →
    SameDataPlane row.document mutation.resource ∧ row.state = mutation.resource.metadata.state ∧
      row.segmentId = affectedSegmentId mutation.resource ∧
      resourceReferences row.document = resourceReferences mutation.resource
  references : ∀ tenantId, after.referenceEdges tenantId ⊆ before.referenceEdges tenantId ∧
    before.referenceEdges tenantId ⊆ after.referenceEdges tenantId

theorem Applied.replaced
    (applied : Applied cloud mutation fresh clock previous resources queue cloud')
    (replaces : previous = some old) :
    ∃ row ∈ cloud.control.resources, row.at mutation.tenantId mutation.kind mutation.id = true ∧
      row.state ≠ .deleted ∧ row.document = old := by
  have found := applied.found
  rw [replaces] at found
  cases expectation : mutation.expectedRevision with
  | none => simp [ResourceMutation.previous, expectation] at found
  | some expected =>
      simp only [ResourceMutation.previous, expectation, orElse_ok, bind_ok, decodeResource_ok,
        pure_ok, Option.some.injEq] at found
      obtain ⟨row, search, document, ⟨-, rfl⟩, same⟩ := found
      have selects := List.find?_some search
      simp only [Bool.and_eq_true, bne_iff_ne] at selects
      exact ⟨row, List.mem_of_find?_eq_some search, selects.1.1, selects.2, same⟩

theorem writeResource_rewrites (graph : GraphInvariant mutation.tenantId cloud.control)
    (applied : Applied cloud mutation fresh clock previous resources queue cloud')
    (replaces : previous.isSome = true) :
    resources = cloud.control.resources.map mutation.rewrite := by
  have written := applied.written
  have found := applied.found
  cases expectation : mutation.expectedRevision with
  | none =>
      simp only [ResourceMutation.previous, expectation, Except.ok.injEq] at found
      rw [← found] at replaces
      cases replaces
  | some expected =>
      simp only [ResourceMutation.writeResource, expectation, unit_bind_ok, reject_ok,
        bne_eq_false_iff_eq, pure_ok] at written
      obtain ⟨one, rfl⟩ := written
      apply List.map_congr_left
      intro row member
      have same := updates_iff graph one member
      unfold ResourceMutation.rewrite
      by_cases located : row.at mutation.tenantId mutation.kind mutation.id = true
      · rw [if_pos (same.mpr located), if_pos located]
      · rw [if_neg (fun selected => located (same.mp selected)), if_neg located]

theorem sameDataPlane_of_policy {p q : ServicePolicyV1} (isOld : old.resource = .servicePolicy p)
    (isCurrent : current.resource = .servicePolicy q) (id : old.metadata.id = current.metadata.id)
    (state : old.metadata.state = current.metadata.state) (segment : p.segmentId = q.segmentId)
    (generation : p.generation = q.generation) (enabled : p.enabled = q.enabled)
    (rules : p.rules = q.rules) : SameDataPlane old current := by
  have unnamed : { p with name := "" } = { q with name := "" } := by
    rw [segment, generation, enabled, rules]
  refine .inr ⟨p, q, isOld, isCurrent, id, state, segment, generation, rules, ?_⟩
  intro encoding
  rw [ServicePolicyV1.dataPlaneHash, unnamed, ServicePolicyV1.dataPlaneHash]

theorem Applied.renames (graph : GraphInvariant mutation.tenantId cloud.control)
    (applied : Applied cloud mutation fresh clock previous resources queue cloud')
    (unpublished : mutationRequiresPublication previous mutation.resource = false) :
    Renames mutation cloud.control cloud'.control := by
  obtain ⟨old, p, q, replaces, isOld, isCurrent, state, segment, generation, enabled, rules⟩ :=
    unpublished_policy unpublished
  obtain ⟨replacedRow, replacedMember, replacedAt, undeleted, document⟩ :=
    applied.replaced replaces
  obtain ⟨replacedTenant, replacedKind, replacedId⟩ := ResourceRow.at_iff.mp replacedAt
  have written := writeResource_rewrites graph applied (by rw [replaces]; rfl)
  have before : ∀ row ∈ cloud.control.resources,
      row.at mutation.tenantId mutation.kind mutation.id = true →
      SameDataPlane row.document mutation.resource ∧
        row.state = mutation.resource.metadata.state ∧
        row.segmentId = affectedSegmentId mutation.resource ∧
        resourceReferences row.document = resourceReferences mutation.resource := by
    intro row member located
    obtain ⟨tenant, sameKind, sameId⟩ := ResourceRow.at_iff.mp located
    have faithful := graph.rows row member tenant
    obtain rfl : row = replacedRow := graph.row_eq member replacedMember tenant replacedTenant
      (sameKind.trans replacedKind.symm) (sameId.trans replacedId.symm)
    have rowId := faithful.id.trans sameId
    rw [document] at rowId ⊢
    refine ⟨sameDataPlane_of_policy isOld isCurrent rowId state segment generation enabled rules,
      ?_, ?_, ?_⟩
    · rw [← faithful.state, document, state]
    · rw [← faithful.segmentId, document, affectedSegmentId, isOld, affectedSegmentId, isCurrent]
      exact congrArg some segment
    · rw [resourceReferences, resourceReferences, isOld, isCurrent]
      simp only [specReferences, segment, rules]
  have live : mutation.resource.metadata.state ≠ .deleted := by
    rw [← (before replacedRow replacedMember replacedAt).2.1]
    exact undeleted
  rw [applied.result]
  refine ⟨written, before, fun tenantId => ⟨?_, ?_⟩⟩
  · rintro ⟨source, target⟩ edge
    rw [mem_referenceEdges] at edge ⊢
    rcases mem_replaceResourceReferences.mp edge with ⟨old, -⟩ | ⟨-, tenant, own, listed⟩
    · exact old
    · -- The rewritten document refers to what it referred to before.
      rw [← (before replacedRow replacedMember replacedAt).2.2.2] at listed
      have complete := graph.complete replacedRow replacedMember replacedTenant undeleted target
        listed
      rw [replacedKind, replacedId] at complete
      simp only at tenant own
      rw [tenant, own]
      exact complete
  · rintro ⟨source, target⟩ edge
    rw [mem_referenceEdges] at edge ⊢
    refine mem_replaceResourceReferences.mpr ?_
    by_cases own : tenantId = mutation.tenantId ∧ source = (mutation.kind, mutation.id)
    · obtain ⟨rfl, rfl⟩ := own
      obtain ⟨row, member, located, -, listed⟩ := graph.sound _ edge rfl
      rw [(before row member located).2.2.2] at listed
      exact .inr ⟨live, rfl, rfl, listed⟩
    · exact .inl ⟨edge, own⟩

theorem Renames.columns (renames : Renames mutation before after)
    (member : row ∈ before.resources) :
    (mutation.rewrite row).tenantId = row.tenantId ∧ (mutation.rewrite row).kind = row.kind ∧
      (mutation.rewrite row).id = row.id ∧ (mutation.rewrite row).state = row.state ∧
      (mutation.rewrite row).segmentId = row.segmentId := by
  unfold ResourceMutation.rewrite
  split
  · rename_i located
    obtain ⟨tenant, kind, id⟩ := ResourceRow.at_iff.mp located
    obtain ⟨-, state, segment, -⟩ := renames.old row member located
    exact ⟨tenant.symm, kind.symm, id.symm, state.symm, segment.symm⟩
  · exact ⟨rfl, rfl, rfl, rfl, rfl⟩

theorem Renames.graphRoots (renames : Renames mutation before after) (tenantId segmentId : Uuid) :
    after.graphRoots tenantId segmentId = before.graphRoots tenantId segmentId := by
  unfold ControlStore.graphRoots
  rw [renames.resources, List.filter_map, List.map_map]
  have selected : before.resources.filter ((fun row : ResourceRow =>
      row.tenantId == tenantId && row.state == .active &&
        ((row.kind == .segment && row.id == segmentId) || row.segmentId == some segmentId)) ∘
      mutation.rewrite) =
      before.resources.filter fun row =>
        row.tenantId == tenantId && row.state == .active &&
          ((row.kind == .segment && row.id == segmentId) || row.segmentId == some segmentId) := by
    apply List.filter_congr
    intro row member
    obtain ⟨tenant, kind, id, state, segment⟩ := renames.columns member
    simp only [Function.comp_apply, tenant, kind, id, state, segment]
  rw [selected]
  apply List.map_congr_left
  intro row member
  obtain ⟨-, kind, id, -⟩ := renames.columns (List.mem_of_mem_filter member)
  simp only [Function.comp_apply, kind, id]

theorem Renames.graphRows (renames : Renames mutation before after) (tenantId segmentId : Uuid) :
    after.graphRows tenantId segmentId =
      (before.graphRows tenantId segmentId).map mutation.rewrite := by
  obtain ⟨back, into⟩ := renames.references tenantId
  simp only [ControlStore.graphRows]
  rw [renames.graphRoots, renames.resources, List.filter_map]
  have selected : before.resources.filter ((fun row : ResourceRow =>
      row.tenantId == tenantId && row.state == .active &&
        (reachable (after.referenceEdges tenantId)
          (before.graphRoots tenantId segmentId)).contains (row.kind, row.id)) ∘
      mutation.rewrite) =
      before.resources.filter fun row =>
        row.tenantId == tenantId && row.state == .active &&
          (reachable (before.referenceEdges tenantId)
            (before.graphRoots tenantId segmentId)).contains (row.kind, row.id) := by
    apply List.filter_congr
    intro row member
    obtain ⟨tenant, kind, id, state, -⟩ := renames.columns member
    have reached : (row.kind, row.id) ∈ reachable (after.referenceEdges tenantId)
        (before.graphRoots tenantId segmentId) ↔ (row.kind, row.id) ∈
          reachable (before.referenceEdges tenantId) (before.graphRoots tenantId segmentId) :=
      mem_reachable_congr back into
    simp only [Function.comp_apply, tenant, kind, id, state, List.contains_eq_mem, reached]
  rw [selected]
  symm
  apply List.map_insertionSort
  intro a memberA b memberB
  obtain ⟨-, kindA, idA, -⟩ := renames.columns (List.mem_of_mem_filter memberA)
  obtain ⟨-, kindB, idB, -⟩ := renames.columns (List.mem_of_mem_filter memberB)
  simp only [graphOrder, kindA, kindB, idA, idB]

end Unpublished

def IgnoresPolicies {β : Type} (read : ControlResourceV1 → Option β) : Prop :=
  ∀ resource policy, resource.resource = .servicePolicy policy → read resource = none

theorem mapM_filterMap_same {γ ε : Type} {R : α → α → Prop} {read : α → Option β}
    {convert : β → Except ε γ} {a b : List α} (same : List.Forall₂ R a b)
    (related : ∀ x y, R x y → (read x).map convert = (read y).map convert) :
    (a.filterMap read).mapM convert = (b.filterMap read).mapM convert := by
  induction same with
  | nil => rfl
  | @cons x y _ _ first _ ih =>
      have head := related x y first
      cases readX : read x with
      | none =>
          cases readY : read y with
          | none => rw [List.filterMap_cons_none readX, List.filterMap_cons_none readY, ih]
          | some v => simp [readX, readY] at head
      | some u =>
          cases readY : read y with
          | none => simp [readX, readY] at head
          | some v =>
              simp only [readX, readY, Option.map_some, Option.some.injEq] at head
              rw [List.filterMap_cons_some readX, List.filterMap_cons_some readY, List.mapM_cons,
                List.mapM_cons, head, ih]

/-- What differs between the lists is in service policies. -/
def SameApartFromPolicies (a b : List ControlResourceV1) : Prop :=
  ∀ {β : Type} (read : ControlResourceV1 → Option β), IgnoresPolicies read →
    a.filterMap read = b.filterMap read

theorem sameApartFromPolicies {a b : List ControlResourceV1}
    (same : List.Forall₂ SameDataPlane a b) : SameApartFromPolicies a b := by
  intro β read ignores
  induction same with
  | nil => rfl
  | cons first _ ih =>
      rcases first with rfl | ⟨p, q, isOld, isCurrent, -⟩
      · simp only [List.filterMap_cons, ih]
      · rw [List.filterMap_cons_none (ignores _ p isOld),
          List.filterMap_cons_none (ignores _ q isCurrent), ih]

section Readers

variable {a b : List ControlResourceV1} (same : SameApartFromPolicies a b)

include same

theorem findSome_same {read : ControlResourceV1 → Option β} (ignores : IgnoresPolicies read)
    : a.findSome? read = b.findSome? read := by
  rw [← List.head?_filterMap, ← List.head?_filterMap, same read ignores]

theorem reverse_same : SameApartFromPolicies a.reverse b.reverse := by
  intro β read ignores
  rw [List.filterMap_reverse, List.filterMap_reverse, same read ignores]

theorem documentsIn_same (read : ResourceSpecV1 → Option α)
    (ignores : ∀ policy, read (.servicePolicy policy) = none)
    (wanted : ResourceMetadataV1 → α → Bool) :
    documentsIn a read wanted = documentsIn b read wanted := by
  apply same
  intro resource policy isPolicy
  simp only [isPolicy, ignores, Option.bind_none]

theorem activeDocument_same (read : ResourceSpecV1 → Option α)
    (ignores : ∀ policy, read (.servicePolicy policy) = none) :
    activeDocument a read = activeDocument b read := by
  funext id
  apply findSome_same (reverse_same same)
  intro resource policy isPolicy
  simp only [isPolicy, ignores, ite_self]

theorem segmentView_same (segmentId : Uuid) : segmentView segmentId a = segmentView segmentId b := by
  have segment : (a.reverse.findSome? fun resource =>
      if resource.metadata.id = segmentId then resource.resource.segment? else none) =
      b.reverse.findSome? fun resource =>
        if resource.metadata.id = segmentId then resource.resource.segment? else none := by
    apply findSome_same (reverse_same same)
    intro resource policy isPolicy
    simp [isPolicy, ResourceSpecV1.segment?]
  simp only [segmentView, segment,
    documentsIn_same same ResourceSpecV1.attachment? (fun _ => rfl),
    documentsIn_same same ResourceSpecV1.prefix? (fun _ => rfl),
    documentsIn_same same ResourceSpecV1.peer? (fun _ => rfl),
    documentsIn_same same ResourceSpecV1.pathCandidate? (fun _ => rfl),
    activeDocument_same same ResourceSpecV1.relay? (fun _ => rfl),
    activeDocument_same same ResourceSpecV1.node? (fun _ => rfl),
    activeDocument_same same ResourceSpecV1.egress? (fun _ => rfl)]

end Readers

theorem servicePolicyRules_same {a b : List ControlResourceV1}
    (same : List.Forall₂ SameDataPlane a b) (encoding : DocumentEncoding) (geo : GeoProvider)
    (segmentId : Uuid) :
    servicePolicyRules encoding geo segmentId a = servicePolicyRules encoding geo segmentId b := by
  unfold servicePolicyRules servicePolicies
  rw [mapM_filterMap_same same]
  rintro old current (rfl | ⟨p, q, isOld, isCurrent, id, state, segment, generation, rules, hash⟩)
  · rfl
  · have policyRules_eq : policyRules encoding geo old.metadata.id p =
        policyRules encoding geo current.metadata.id q := by
      simp only [policyRules, servicePolicyRefWithGeo, servicePolicyRef, id, generation, rules,
        hash]
    simp only [isOld, isCurrent, ResourceSpecV1.servicePolicy?, Option.bind_some, state, segment]
    split
    · simp only [Option.map_some, policyRules_eq]
    · rfl

/-- Snapshots with the same data plane. -/
structure SnapshotsAgree (a b : SegmentControlSnapshot) : Prop where
  tenantId : a.tenantId = b.tenantId
  segmentId : a.segmentId = b.segmentId
  desiredRevision : a.desiredRevision = b.desiredRevision
  policyOnly : a.policyOnly = b.policyOnly
  resources : List.Forall₂ SameDataPlane a.resources b.resources
  transportBindings : a.transportBindings = b.transportBindings

section Build

variable {a b : SegmentControlSnapshot} (agree : SnapshotsAgree a b) (env : BuildEnvironment)
  (store : RouteStore)

include agree

theorem assembleInput_same (view : SegmentView) (generation : Nat) (previousHash : Hash)
    (segment : SegmentV1) (plan : EgressPlan) :
    assembleInput env store a view generation previousHash segment plan =
      assembleInput env store b view generation previousHash segment plan := by
  simp only [assembleInput, buildProjection, PublicationFrame.outbound, agree.tenantId,
    agree.segmentId, agree.desiredRevision, agree.transportBindings]

theorem buildInput_same : buildInput env store a = buildInput env store b := by
  simp only [buildInput, agree.tenantId, agree.segmentId,
    segmentView_same (sameApartFromPolicies agree.resources),
    servicePolicyRules_same agree.resources, assembleInput_same agree]

end Build

/-- The document is the same, or it is the service policy that the mutation wrote. -/
def ResourceMutation.Renamed (mutation : ResourceMutation) (old current : ControlResourceV1) :
    Prop :=
  old = current ∨ current = mutation.resource ∧ SameDataPlane old current

/-- Two reads of one segment that fail alike, or whose snapshots differ at most
    in the service policy that the mutation wrote. -/
inductive SnapshotRenamed (mutation : ResourceMutation) :
    Except ControlStoreError SegmentControlSnapshot →
      Except ControlStoreError SegmentControlSnapshot → Prop where
  | error (error : ControlStoreError) : SnapshotRenamed mutation (.error error) (.error error)
  | ok {a b : SegmentControlSnapshot} (agree : SnapshotsAgree a b)
      (documents : List.Forall₂ mutation.Renamed a.resources b.resources) :
      SnapshotRenamed mutation (.ok a) (.ok b)

theorem SnapshotRenamed.buildInput {mutation : ResourceMutation}
    {a b : Except ControlStoreError SegmentControlSnapshot} (renamed : SnapshotRenamed mutation a b)
    (env : BuildEnvironment) (store : RouteStore) :
    a.map (CandyCloud.buildInput env store) = b.map (CandyCloud.buildInput env store) := by
  cases renamed with
  | error error => rfl
  | ok agree documents => exact congrArg Except.ok (buildInput_same agree env store)

section Snapshots

variable {cloud : Cloud} {mutation : ResourceMutation} {fresh : Uuid → Uuid} {clock : Instant}
  {previous : Option ControlResourceV1} {resources : List ResourceRow} {queue : GenerationQueue}
  {cloud' : Cloud}

theorem ResourceMutation.Renamed.same (renamed : mutation.Renamed old current)
    : SameDataPlane old current := by
  rcases renamed with same | ⟨-, same⟩
  · exact .inl same
  · exact same

theorem Renames.documents (renames : Renames mutation before after) (tenantId segmentId : Uuid) :
    List.Forall₂ mutation.Renamed ((before.graphRows tenantId segmentId).map (·.document))
      ((after.graphRows tenantId segmentId).map (·.document)) := by
  rw [renames.graphRows, List.map_map, List.forall₂_map_left_iff, List.forall₂_map_right_iff,
    List.forall₂_same]
  intro row loaded
  simp only [Function.comp_apply, ResourceMutation.rewrite]
  split
  · rename_i located
    exact .inr ⟨rfl, (renames.old row (mem_graphRows.mp loaded).1 located).1⟩
  · exact .inl rfl

variable {tenantId : Uuid}

theorem graphRows_decode {store : ControlStore} (graph : GraphInvariant tenantId store)
    (segmentId : Uuid) :
    (store.graphRows tenantId segmentId).mapM (fun row => decodeResource row.document) =
      pure ((store.graphRows tenantId segmentId).map (·.document)) := by
  apply mapM_ok
  intro row loaded
  obtain ⟨member, tenant, -⟩ := mem_graphRows.mp loaded
  exact decodeResource_ok.mpr ⟨(graph.rows row member tenant).valid, rfl⟩

theorem segmentSnapshot_resources (graph : GraphInvariant tenantId cloud.control)
    {topology : Topology} {desiredRevision : Nat} {snapshot : SegmentControlSnapshot}
    (read : segmentSnapshot cloud topology tenantId segmentId desiredRevision = .ok snapshot) :
    snapshot.resources = (cloud.control.graphRows tenantId segmentId).map (·.document) := by
  simp only [segmentSnapshot, readSegment, completeSnapshot, graphRows_decode graph, pure_bind,
    bind_ok, pure_ok] at read
  grind

end Snapshots

end CandyCloud
