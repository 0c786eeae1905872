import CandyCloud.Control.Mutate

/-! # The stored graph

For one tenant: keys are unique, the columns of a row repeat its document, and the reference
table holds exactly the references of the undeleted documents.
-/

namespace CandyCloud

open Foundation

variable {row : ResourceRow} {kind : ResourceKind} {id : Uuid} {resource : ControlResourceV1}
  {expected : Nat}

theorem ResourceRow.at_iff {tenantId : Uuid} : row.at tenantId kind id = true ↔
      row.tenantId = tenantId ∧ row.kind = kind ∧ row.id = id := by
  simp [ResourceRow.at, and_assoc]

/-- The columns of a row are those of its document. -/
structure ResourceRow.Faithful (row : ResourceRow) : Prop where
  tenantId : row.document.metadata.tenantId = row.tenantId
  id : row.document.metadata.id = row.id
  kind : row.document.resource.kind = row.kind
  state : row.document.metadata.state = row.state
  segmentId : affectedSegmentId row.document = row.segmentId
  valid : row.document.validate = .ok ()

structure GraphInvariant (tenantId : Uuid) (store : ControlStore) : Prop where
  keys : ((store.resources.filter fun row => row.tenantId == tenantId).map
    fun row => (row.kind, row.id)).Nodup
  rows : ∀ row ∈ store.resources, row.tenantId = tenantId → row.Faithful
  complete : ∀ row ∈ store.resources, row.tenantId = tenantId → row.state ≠ .deleted →
    ∀ target ∈ resourceReferences row.document,
      ⟨tenantId, (row.kind, row.id), target⟩ ∈ store.references
  sound : ∀ reference ∈ store.references, reference.tenantId = tenantId →
    ∃ row ∈ store.resources, row.at tenantId reference.source.1 reference.source.2 = true ∧
      row.state ≠ .deleted ∧ reference.target ∈ resourceReferences row.document

theorem decodeResource_ok {document : ControlResourceV1} :
    decodeResource document = .ok resource ↔
      document.validate = .ok () ∧ resource = document := by
  unfold decodeResource
  cases document.validate with
  | error error => simp
  | ok value => simp [eq_comm]

theorem loadControlResource_ok {store : ControlStore} {tenantId : Uuid}
    (loaded : store.loadControlResource tenantId kind id = .ok resource) :
    ∃ row ∈ store.resources, row.at tenantId kind id = true ∧ row.state = .active ∧
      resource = row.document := by
  simp only [ControlStore.loadControlResource, orElse_bind_ok, decodeResource_ok] at loaded
  obtain ⟨row, found, -, rfl⟩ := loaded
  have selects := List.find?_some found
  simp only [Bool.and_eq_true, beq_iff_eq] at selects
  exact ⟨row, List.mem_of_find?_eq_some found, selects.1, selects.2, rfl⟩

section Rows

variable {tenantId : Uuid} {store : ControlStore}

theorem GraphInvariant.congr {other : ControlStore} (inv : GraphInvariant tenantId store)
    (resources : other.resources = store.resources)
    (references : other.references = store.references) : GraphInvariant tenantId other := by
  obtain ⟨keys, rows, complete, sound⟩ := inv
  constructor
  · rw [resources]
    exact keys
  · rw [resources]
    exact rows
  · rw [resources, references]
    exact complete
  · rw [resources, references]
    exact sound

theorem GraphInvariant.row_eq (inv : GraphInvariant tenantId store) {a b : ResourceRow}
    (ha : a ∈ store.resources) (hb : b ∈ store.resources) (tenantA : a.tenantId = tenantId)
    (tenantB : b.tenantId = tenantId) (kind : a.kind = b.kind) (id : a.id = b.id) : a = b := by
  apply eq_of_key inv.keys
  · exact List.mem_filter.mpr ⟨ha, by simp [tenantA]⟩
  · exact List.mem_filter.mpr ⟨hb, by simp [tenantB]⟩
  · simp only [kind, id]

theorem GraphInvariant.referenced (inv : GraphInvariant tenantId store)
    (member : row ∈ store.resources) (tenant : row.tenantId = tenantId)
    (live : row.state ≠ .deleted) (refers : (kind, id) ∈ resourceReferences row.document) :
    store.referenced tenantId kind id = true := by
  apply List.any_eq_true.mpr
  refine ⟨_, inv.complete row member tenant live (kind, id) refers, ?_⟩
  have present : (store.resources.any fun source =>
      source.at tenantId row.kind row.id && source.state != .deleted) = true := by
    apply List.any_eq_true.mpr
    refine ⟨row, member, ?_⟩
    simp only [Bool.and_eq_true, bne_iff_ne]
    exact ⟨ResourceRow.at_iff.mpr ⟨tenant, rfl, rfl⟩, live⟩
  simp only [beq_self_eq_true, Bool.true_and, present]

end Rows

section Written

variable {tenantId : Uuid} {store : ControlStore} {mutation : ResourceMutation}
  {resources : List ResourceRow}

/-- How the resource table looks after the write: the mutation's row and every
    row with another key. -/
structure Written (mutation : ResourceMutation) (before after : List ResourceRow) : Prop where
  new : mutation.row ∈ after
  kept : ∀ row ∈ before, row.at mutation.tenantId mutation.kind mutation.id = false → row ∈ after
  only : ∀ row ∈ after, row = mutation.row ∨
    row ∈ before ∧ row.at mutation.tenantId mutation.kind mutation.id = false

theorem inserted_written
    (done : insertRow ResourceRow.conflict store.resources mutation.row = some resources) :
    Written mutation store.resources resources := by
  obtain ⟨free, rfl⟩ := insertRow_some.mp done
  constructor
  · exact List.mem_append_right _ (List.mem_singleton_self _)
  · exact fun row member _ => List.mem_append_left _ member
  · intro row member
    rcases mem_concat.mp member with old | new
    · exact .inr ⟨old, free row old⟩
    · exact .inl new

theorem updated_row (one : (store.resources.filter (mutation.updates expected)).length = 1) :
    ∃ row ∈ store.resources, mutation.updates expected row = true := by
  obtain ⟨row, only⟩ := List.length_eq_one_iff.mp one
  have member : row ∈ store.resources.filter (mutation.updates expected) := by
    rw [only]
    exact List.mem_singleton_self row
  exact ⟨row, List.mem_filter.mp member⟩

theorem updates_iff (inv : GraphInvariant mutation.tenantId store)
    (one : (store.resources.filter (mutation.updates expected)).length = 1)
    (member : row ∈ store.resources) :
    mutation.updates expected row = true ↔
      row.at mutation.tenantId mutation.kind mutation.id = true := by
  constructor
  · intro selected
    simp only [ResourceMutation.updates, Bool.and_eq_true] at selected
    exact selected.1
  · intro located
    obtain ⟨target, present, selected⟩ := updated_row one
    have targetKey := selected
    simp only [ResourceMutation.updates, Bool.and_eq_true, ResourceRow.at_iff] at targetKey
    have key := ResourceRow.at_iff.mp located
    have same : row = target := inv.row_eq member present key.1 targetKey.1.1
      (key.2.1.trans targetKey.1.2.1.symm) (key.2.2.trans targetKey.1.2.2.symm)
    rw [same]
    exact selected

theorem updated_written (inv : GraphInvariant mutation.tenantId store)
    (one : (store.resources.filter (mutation.updates expected)).length = 1) :
    Written mutation store.resources
      (updateWhere (mutation.updates expected) (fun _ => mutation.row) store.resources) := by
  constructor
  · obtain ⟨row, member, selected⟩ := updated_row one
    exact mem_updateWhere.mpr ⟨row, member, by rw [if_pos selected]⟩
  · intro row member elsewhere
    refine mem_updateWhere.mpr ⟨row, member, if_neg ?_⟩
    rw [updates_iff inv one member, elsewhere]
    exact Bool.false_ne_true
  · intro row member
    obtain ⟨old, present, rfl⟩ := mem_updateWhere.mp member
    by_cases selected : mutation.updates expected old = true
    · exact .inl (if_pos selected)
    · rw [if_neg selected]
      rw [updates_iff inv one present] at selected
      exact .inr ⟨present, Bool.eq_false_iff.mpr selected⟩

theorem writeResource_written (inv : GraphInvariant mutation.tenantId store)
    (done : mutation.writeResource store.resources = .ok resources) :
    Written mutation store.resources resources := by
  unfold ResourceMutation.writeResource at done
  split at done
  · exact inserted_written (orElse_ok.mp done)
  · simp only [unit_bind_ok, reject_ok, bne_eq_false_iff_eq, pure_ok] at done
    obtain ⟨one, rfl⟩ := done
    exact updated_written inv one

theorem writeResource_keys (inv : GraphInvariant mutation.tenantId store)
    (done : mutation.writeResource store.resources = .ok resources) :
    ((resources.filter fun row => row.tenantId == mutation.tenantId).map
      fun row => (row.kind, row.id)).Nodup := by
  unfold ResourceMutation.writeResource at done
  split at done
  · obtain ⟨free, rfl⟩ := insertRow_some.mp (orElse_ok.mp done)
    have own : [mutation.row].filter (fun row => row.tenantId == mutation.tenantId) =
        [mutation.row] := by
      simp [ResourceMutation.row]
    rw [List.filter_append, own]
    apply nodup_concat_key inv.keys
    intro old member same
    obtain ⟨present, tenant⟩ := List.mem_filter.mp member
    have clash := free old present
    rw [ResourceRow.conflict, Bool.eq_false_iff] at clash
    simp only [Prod.mk.injEq] at same
    exact clash (ResourceRow.at_iff.mpr ⟨beq_iff_eq.mp tenant, same.1.symm, same.2.symm⟩)
  · rename_i expected _
    simp only [unit_bind_ok, reject_ok, bne_eq_false_iff_eq, pure_ok] at done
    obtain ⟨one, rfl⟩ := done
    have shape : (updateWhere (mutation.updates expected) (fun _ => mutation.row)
        store.resources).map
        (fun row => (row.tenantId, row.kind, row.id)) =
        store.resources.map fun row => (row.tenantId, row.kind, row.id) := by
      simp only [updateWhere, List.map_map]
      apply List.map_congr_left
      intro row member
      simp only [Function.comp_apply]
      split
      · rename_i selected
        simp only [ResourceMutation.updates, Bool.and_eq_true, ResourceRow.at_iff] at selected
        simp only [selected.1.1, selected.1.2.1, selected.1.2.2, ResourceMutation.row]
      · rfl
    have keyed : ∀ rows : List ResourceRow,
        (rows.filter fun row => row.tenantId == mutation.tenantId).map
          (fun row => (row.kind, row.id)) =
        ((rows.map fun row => (row.tenantId, row.kind, row.id)).filter
          fun key => key.1 == mutation.tenantId).map Prod.snd := by
      intro rows
      rw [List.filter_map, List.map_map]
      rfl
    rw [keyed, shape, ← keyed]
    exact inv.keys

end Written

/-- The store after the write, before the idempotency record. -/
def ResourceMutation.written (mutation : ResourceMutation) (store : ControlStore)
    (resources : List ResourceRow) : ControlStore :=
  { store with
    resources
    references := mutation.replaceResourceReferences store.references }

theorem mem_replaceResourceReferences {mutation : ResourceMutation}
    {references : List ReferenceRow} {reference : ReferenceRow} :
    reference ∈ mutation.replaceResourceReferences references ↔
      (reference ∈ references ∧ ¬ (reference.tenantId = mutation.tenantId ∧
        reference.source = (mutation.kind, mutation.id))) ∨
      (mutation.resource.metadata.state ≠ .deleted ∧ reference.tenantId = mutation.tenantId ∧
        reference.source = (mutation.kind, mutation.id) ∧
        reference.target ∈ resourceReferences mutation.resource) := by
  unfold ResourceMutation.replaceResourceReferences
  simp only
  split
  · rename_i deleted
    simp only [List.mem_filter, deleted, Bool.not_eq_true', Bool.and_eq_false_iff,
      beq_eq_false_iff_ne, ne_eq, not_true_eq_false, false_and, or_false]
    tauto
  · rename_i live
    simp only [List.mem_append, List.mem_filter, List.mem_map, Bool.not_eq_true',
      Bool.and_eq_false_iff, beq_eq_false_iff_ne]
    constructor
    · rintro (⟨old, elsewhere⟩ | ⟨target, listed, rfl⟩)
      · refine .inl ⟨old, ?_⟩
        rintro ⟨tenant, source⟩
        rcases elsewhere with other | other
        · exact other tenant
        · exact other source
      · exact .inr ⟨live, rfl, rfl, listed⟩
    · rintro (⟨old, elsewhere⟩ | ⟨-, tenant, source, listed⟩)
      · refine .inl ⟨old, ?_⟩
        by_cases tenant : reference.tenantId = mutation.tenantId
        · exact .inr fun source => elsewhere ⟨tenant, source⟩
        · exact .inl tenant
      · exact .inr ⟨reference.target, listed, by rw [← tenant, ← source]⟩

theorem row_faithful {mutation : ResourceMutation} (valid : mutation.resource.validate = .ok ()) :
    mutation.row.Faithful :=
  ⟨rfl, rfl, rfl, rfl, rfl, valid⟩

theorem written_graph {mutation : ResourceMutation} {store : ControlStore}
    {resources : List ResourceRow} (inv : GraphInvariant mutation.tenantId store)
    (valid : mutation.resource.validate = .ok ())
    (done : mutation.writeResource store.resources = .ok resources) :
    GraphInvariant mutation.tenantId (mutation.written store resources) := by
  have table := writeResource_written inv done
  have elsewhere : ∀ {row : ResourceRow}, row.tenantId = mutation.tenantId →
      row.at mutation.tenantId mutation.kind mutation.id = false →
      ((row.kind, row.id) : ResourceKind × Uuid) ≠ (mutation.kind, mutation.id) := by
    intro row tenant other same
    simp only [Prod.mk.injEq] at same
    rw [ResourceRow.at_iff.mpr ⟨tenant, same⟩] at other
    cases other
  constructor
  · exact writeResource_keys inv done
  · intro row member tenant
    rcases table.only row member with rfl | ⟨old, -⟩
    · exact row_faithful valid
    · exact inv.rows row old tenant
  · intro row member tenant live target listed
    refine mem_replaceResourceReferences.mpr ?_
    rcases table.only row member with rfl | ⟨old, other⟩
    · exact .inr ⟨live, rfl, rfl, listed⟩
    · exact .inl ⟨inv.complete row old tenant live target listed,
        fun same => elsewhere tenant other same.2⟩
  · intro reference member tenant
    rcases mem_replaceResourceReferences.mp member with ⟨old, other⟩ | ⟨live, -, source, listed⟩
    · obtain ⟨row, present, located, live, listed⟩ := inv.sound reference old tenant
      obtain ⟨rowTenant, rowKind, rowId⟩ := ResourceRow.at_iff.mp located
      have unselected : row.at mutation.tenantId mutation.kind mutation.id = false := by
        by_contra selected
        rw [Bool.not_eq_false, ResourceRow.at_iff] at selected
        refine other ⟨tenant, ?_⟩
        rw [← Prod.eta reference.source, ← rowKind, ← rowId, selected.2.1, selected.2.2]
      exact ⟨row, table.kept row present unselected, located, live, listed⟩
    · refine ⟨mutation.row, table.new, ?_, live, listed⟩
      rw [source]
      exact ResourceRow.at_iff.mpr ⟨rfl, rfl, rfl⟩

theorem written_other {tenantId : Uuid} {mutation : ResourceMutation} {store : ControlStore}
    {resources : List ResourceRow} (other : mutation.tenantId ≠ tenantId)
    (done : mutation.writeResource store.resources = .ok resources) :
    (∀ row, row.tenantId = tenantId → (row ∈ resources ↔ row ∈ store.resources)) ∧
      resources.filter (fun row => row.tenantId == tenantId) =
        store.resources.filter fun row => row.tenantId == tenantId := by
  have filtered : resources.filter (fun row => row.tenantId == tenantId) =
      store.resources.filter fun row => row.tenantId == tenantId := by
    have foreign : (mutation.row.tenantId == tenantId) = false := beq_eq_false_iff_ne.mpr other
    unfold ResourceMutation.writeResource at done
    split at done
    · obtain ⟨-, rfl⟩ := insertRow_some.mp (orElse_ok.mp done)
      rw [List.filter_append]
      simp [foreign]
    · simp only [unit_bind_ok, reject_ok, pure_ok] at done
      obtain ⟨-, rfl⟩ := done
      apply filter_updateWhere_unwanted
      · intro row selected
        simp only [ResourceMutation.updates, Bool.and_eq_true, ResourceRow.at_iff] at selected
        rw [beq_eq_false_iff_ne, selected.1.1]
        exact other
      · exact fun _ _ => foreign
  refine ⟨?_, filtered⟩
  intro row tenant
  have member : ∀ rows : List ResourceRow, row ∈ rows ↔
      row ∈ rows.filter fun row => row.tenantId == tenantId := by
    intro rows
    simp [List.mem_filter, tenant]
  rw [member resources, member store.resources, filtered]

theorem written_graph_other {tenantId : Uuid} {mutation : ResourceMutation} {store : ControlStore}
    {resources : List ResourceRow} (inv : GraphInvariant tenantId store)
    (other : mutation.tenantId ≠ tenantId)
    (done : mutation.writeResource store.resources = .ok resources) :
    GraphInvariant tenantId (mutation.written store resources) := by
  obtain ⟨same, filtered⟩ := written_other other done
  constructor
  · simp only [ResourceMutation.written, filtered]
    exact inv.keys
  · intro row member tenant
    exact inv.rows row ((same row tenant).mp member) tenant
  · intro row member tenant live target listed
    refine mem_replaceResourceReferences.mpr (.inl ⟨?_, fun own => other own.1.symm⟩)
    exact inv.complete row ((same row tenant).mp member) tenant live target listed
  · intro reference member tenant
    rcases mem_replaceResourceReferences.mp member with ⟨old, -⟩ | ⟨-, own, -⟩
    · obtain ⟨row, present, located, live, listed⟩ := inv.sound reference old tenant
      have rowTenant := (ResourceRow.at_iff.mp located).1
      exact ⟨row, (same row rowTenant).mpr present, located, live, listed⟩
    · exact absurd (own.symm.trans tenant) other

end CandyCloud
