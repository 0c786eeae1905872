import CandyCloud.Control.Integrity

/-! # The active documents of a tenant

Checks and publications read active documents by kind.
-/

namespace CandyCloud

open Foundation

namespace ResourceSpecV1

variable {spec : ResourceSpecV1}

@[simp] theorem node?_eq_some {value : NodeV1} : spec.node? = some value ↔ spec = .node value := by
  cases spec <;> simp [node?]

@[simp] theorem segment?_eq_some {value : SegmentV1} :
    spec.segment? = some value ↔ spec = .segment value := by
  cases spec <;> simp [segment?]

@[simp] theorem attachment?_eq_some {value : AttachmentV1} :
    spec.attachment? = some value ↔ spec = .attachment value := by
  cases spec <;> simp [attachment?]

@[simp] theorem prefix?_eq_some {value : PrefixV1} :
    spec.prefix? = some value ↔ spec = .prefix_ value := by
  cases spec <;> simp [prefix?]

@[simp] theorem peer?_eq_some {value : PeerV1} : spec.peer? = some value ↔ spec = .peer value := by
  cases spec <;> simp [peer?]

@[simp] theorem pathCandidate?_eq_some {value : PathCandidateV1} :
    spec.pathCandidate? = some value ↔ spec = .pathCandidate value := by
  cases spec <;> simp [pathCandidate?]

@[simp] theorem egress?_eq_some {value : EgressV1} :
    spec.egress? = some value ↔ spec = .egress value := by
  cases spec <;> simp [egress?]

@[simp] theorem servicePolicy?_eq_some {value : ServicePolicyV1} :
    spec.servicePolicy? = some value ↔ spec = .servicePolicy value := by
  cases spec <;> simp [servicePolicy?]

@[simp] theorem dnsIntent?_eq_some {value : DnsIntentV1} :
    spec.dnsIntent? = some value ↔ spec = .dnsIntent value := by
  cases spec <;> simp [dnsIntent?]

def Reads {α : Type} (read : ResourceSpecV1 → Option α) (kind : ResourceKind) : Prop :=
  ∀ spec, (read spec).isSome = true ↔ spec.kind = kind

section Reads

variable {α : Type} {read : ResourceSpecV1 → Option α} {kind : ResourceKind}

theorem Reads.kind_eq (reads : Reads read kind) {value : α} (document : read spec = some value) :
    spec.kind = kind :=
  (reads spec).mp (by rw [document]; rfl)

theorem Reads.value (reads : Reads read kind) (same : spec.kind = kind) :
    ∃ value, read spec = some value :=
  Option.isSome_iff_exists.mp ((reads spec).mpr same)

end Reads

theorem reads_node : Reads node? .node := by
  intro spec
  cases spec <;> simp [node?, ResourceSpecV1.kind]

theorem reads_segment : Reads segment? .segment := by
  intro spec
  cases spec <;> simp [segment?, ResourceSpecV1.kind]

theorem reads_attachment : Reads attachment? .attachment := by
  intro spec
  cases spec <;> simp [attachment?, ResourceSpecV1.kind]

theorem reads_prefix : Reads prefix? .prefix_ := by
  intro spec
  cases spec <;> simp [prefix?, ResourceSpecV1.kind]

theorem reads_peer : Reads peer? .peer := by
  intro spec
  cases spec <;> simp [peer?, ResourceSpecV1.kind]

theorem reads_egress : Reads egress? .egress := by
  intro spec
  cases spec <;> simp [egress?, ResourceSpecV1.kind]

end ResourceSpecV1

open ResourceSpecV1 hiding node site segment attachment prefix_ peer relay pathCandidate egress
  servicePolicy dnsIntent

/-- The active documents that a reader reads, with their ids. -/
def ControlStore.documents {α : Type} (store : ControlStore) (tenantId : Uuid)
    (read : ResourceSpecV1 → Option α) : List (Uuid × α) :=
  (store.resources.filter fun row => row.tenantId == tenantId && row.state == .active).filterMap
    fun row => (read row.document.resource).map fun value => (row.id, value)

section Documents

variable {α : Type} {store : ControlStore} {tenantId : Uuid} {read : ResourceSpecV1 → Option α}
  {kind : ResourceKind} {id : Uuid} {value : α}

theorem mem_documents : (id, value) ∈ store.documents tenantId read ↔
    ∃ row ∈ store.resources, row.tenantId = tenantId ∧ row.state = .active ∧ row.id = id ∧
      read row.document.resource = some value := by
  simp only [ControlStore.documents, List.mem_filterMap, List.mem_filter, Bool.and_eq_true,
    beq_iff_eq, Option.map_eq_some_iff, Prod.mk.injEq]
  constructor
  · rintro ⟨row, ⟨member, tenant, active⟩, _, reads, sameId, rfl⟩
    exact ⟨row, member, tenant, active, sameId, reads⟩
  · rintro ⟨row, member, tenant, active, sameId, reads⟩
    exact ⟨row, ⟨member, tenant, active⟩, value, reads, sameId, rfl⟩

variable (graph : GraphInvariant tenantId store) (reads : Reads read kind)

include graph reads

theorem mem_documents_iff : (id, value) ∈ store.documents tenantId read ↔
    ∃ row, store.resource tenantId kind id = some row ∧ row.state = .active ∧
      read row.document.resource = some value := by
  rw [mem_documents]
  constructor
  · rintro ⟨row, member, tenant, active, sameId, document⟩
    have rowKind : row.kind = kind :=
      (graph.rows row member tenant).kind.symm.trans (reads.kind_eq document)
    have found := graph.resource_iff.mpr
      ⟨member, ResourceRow.at_iff.mpr ⟨tenant, rowKind, sameId⟩⟩
    exact ⟨row, found, active, document⟩
  · rintro ⟨row, found, active, document⟩
    obtain ⟨member, located⟩ := resource_found found
    obtain ⟨tenant, -, sameId⟩ := ResourceRow.at_iff.mp located
    exact ⟨row, member, tenant, active, sameId, document⟩

theorem documents_unique {other : α} (listed : (id, value) ∈ store.documents tenantId read)
    (also : (id, other) ∈ store.documents tenantId read) : value = other := by
  obtain ⟨row, found, -, document⟩ := (mem_documents_iff graph reads).mp listed
  obtain ⟨row', found', -, document'⟩ := (mem_documents_iff graph reads).mp also
  obtain rfl : row = row' := Option.some.inj (found.symm.trans found')
  exact Option.some.inj (document.symm.trans document')

theorem documents_of_active {row : ResourceRow} (found : store.resource tenantId kind id = some row)
    (active : row.state = .active) : ∃ value, (id, value) ∈ store.documents tenantId read := by
  obtain ⟨member, located⟩ := resource_found found
  obtain ⟨tenant, rowKind, -⟩ := ResourceRow.at_iff.mp located
  obtain ⟨value, document⟩ := reads.value ((graph.rows row member tenant).kind.trans rowKind)
  exact ⟨value, (mem_documents_iff graph reads).mpr ⟨row, found, active, document⟩⟩

theorem load_iff : (id, value) ∈ store.documents tenantId read ↔
    ∃ resource, store.loadControlResource tenantId kind id = .ok resource ∧
      read resource.resource = some value := by
  rw [mem_documents_iff graph reads]
  constructor
  · rintro ⟨row, found, active, document⟩
    obtain ⟨member, located⟩ := resource_found found
    have tenant := (ResourceRow.at_iff.mp located).1
    have selected : (store.resources.find? fun row =>
        row.at tenantId kind id && row.state == .active) = some row := by
      rw [find_sole member, if_pos (by simp [located, active])]
      intro other present selects
      simp only [Bool.and_eq_true] at selects
      have looked := graph.resource_iff.mpr ⟨present, selects.1⟩
      exact Option.some.inj (looked.symm.trans found)
    refine ⟨row.document, ?_, document⟩
    simp only [ControlStore.loadControlResource, orElse_bind_ok, decodeResource_ok]
    exact ⟨row, selected, (graph.rows row member tenant).valid, rfl⟩
  · rintro ⟨resource, loaded, document⟩
    obtain ⟨row, member, located, active, rfl⟩ := loadControlResource_ok loaded
    exact ⟨row, graph.resource_iff.mpr ⟨member, located⟩, active, document⟩

end Documents

section Write

variable {α : Type} {store : ControlStore} {mutation : ResourceMutation}
  {resources : List ResourceRow} {read : ResourceSpecV1 → Option α} {kind : ResourceKind}
  {id : Uuid} {value : α}

theorem documents_written (table : Written mutation store.resources resources)
    (listed : (id, value) ∈ (mutation.written store resources).documents mutation.tenantId read) :
    (id, value) ∈ store.documents mutation.tenantId read ∨
      id = mutation.id ∧ mutation.resource.metadata.state = .active ∧
        read mutation.resource.resource = some value := by
  obtain ⟨row, member, tenant, active, sameId, document⟩ := mem_documents.mp listed
  rcases table.only row member with rfl | ⟨old, -⟩
  · exact .inr ⟨sameId.symm, active, document⟩
  · exact .inl (mem_documents.mpr ⟨row, old, tenant, active, sameId, document⟩)

theorem documents_other (table : Written mutation store.resources resources)
    (reads : Reads read kind) {written : ResourceKind} (own : mutation.kind = written)
    (foreign : written ≠ kind)
    (listed : (id, value) ∈ (mutation.written store resources).documents mutation.tenantId read) :
    (id, value) ∈ store.documents mutation.tenantId read := by
  rcases documents_written table listed with old | ⟨-, -, new⟩
  · exact old
  · exact absurd (own.symm.trans (reads.kind_eq new)) foreign

theorem documents_kept (graph : GraphInvariant mutation.tenantId store) (reads : Reads read kind)
    (table : Written mutation store.resources resources)
    (listed : (id, value) ∈ store.documents mutation.tenantId read)
    (elsewhere : mutation.kind = kind → id ≠ mutation.id) :
    (id, value) ∈ (mutation.written store resources).documents mutation.tenantId read := by
  obtain ⟨row, member, tenant, active, sameId, document⟩ := mem_documents.mp listed
  have rowKind := (graph.rows row member tenant).kind.symm.trans (reads.kind_eq document)
  refine mem_documents.mpr ⟨row, table.kept row member ?_, tenant, active, sameId, document⟩
  rw [Bool.eq_false_iff, ne_eq, ResourceRow.at_iff]
  rintro ⟨-, sameKind, key⟩
  exact elsewhere (sameKind.symm.trans rowKind) (sameId.symm.trans key)

theorem documents_new (table : Written mutation store.resources resources)
    (active : mutation.resource.metadata.state = .active)
    (document : read mutation.resource.resource = some value) :
    (mutation.id, value) ∈
      (mutation.written store resources).documents mutation.tenantId read :=
  mem_documents.mpr ⟨mutation.row, table.new, rfl, active, rfl, document⟩

end Write

end CandyCloud
