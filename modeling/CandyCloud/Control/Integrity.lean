import CandyCloud.Control.Addressing

/-! # Referential integrity

An undeleted document refers to undeleted resources only: a document is written when its targets
are active, and a resource is deleted when the reference table names no undeleted source.
-/

namespace CandyCloud

open Foundation

variable {kind : ResourceKind} {id : Uuid} {row : ResourceRow} {target : ResourceKind × Uuid}
  {now : Instant}

section Lookup

variable {tenantId : Uuid} {store : ControlStore}

theorem resource_found (found : store.resource tenantId kind id = some row) :
    row ∈ store.resources ∧ row.at tenantId kind id = true := by
  unfold ControlStore.resource at found
  have selects := List.find?_some found
  exact ⟨List.mem_of_find?_eq_some found, selects⟩

theorem GraphInvariant.resource_iff (graph : GraphInvariant tenantId store) :
    store.resource tenantId kind id = some row ↔
      row ∈ store.resources ∧ row.at tenantId kind id = true := by
  constructor
  · exact resource_found
  · rintro ⟨member, located⟩
    rw [ControlStore.resource, find_sole member, if_pos located]
    intro other present otherLocated
    obtain ⟨otherTenant, otherKind, otherId⟩ := ResourceRow.at_iff.mp otherLocated
    obtain ⟨tenant, rowKind, rowId⟩ := ResourceRow.at_iff.mp located
    exact graph.row_eq present member otherTenant tenant (otherKind.trans rowKind.symm)
      (otherId.trans rowId.symm)

theorem specReferences_kind {spec : ResourceSpecV1} (refers : target ∈ specReferences spec)
    : target.1 ≠ spec.kind := by
  cases spec with
  | site | segment => simp [specReferences] at refers
  | node | attachment | prefix_ | peer | relay | egress =>
      simp only [specReferences, List.mem_cons, List.not_mem_nil, or_false] at refers
      grind [ResourceSpecV1.kind]
  | pathCandidate value =>
      simp only [specReferences, List.mem_append, List.mem_cons, List.not_mem_nil, or_false,
        List.mem_map] at refers
      grind [ResourceSpecV1.kind]
  | servicePolicy value =>
      simp only [specReferences, List.mem_cons, List.mem_flatMap, List.mem_append,
        List.mem_map] at refers
      obtain rfl | ⟨rule, -, ⟨id, -, rfl⟩ | egress⟩ := refers
      · simp [ResourceSpecV1.kind]
      · simp [ResourceSpecV1.kind]
      · unfold ServicePolicyRuleV1.egress at egress
        split at egress
        · simp only [List.mem_singleton] at egress
          rw [egress]
          simp [ResourceSpecV1.kind]
        · cases egress
  | dnsIntent value =>
      simp only [specReferences, List.mem_cons, List.mem_append, List.mem_map,
        List.cons_append] at refers
      grind [ResourceSpecV1.kind]

end Lookup

/-- The targets of undeleted documents are undeleted resources of the tenant
    and of the kind the reference asks for. -/
def TargetsLive (tenantId : Uuid) (store : ControlStore) : Prop :=
  ∀ row, store.Live tenantId row → ∀ target ∈ resourceReferences row.document,
    ∃ referred, store.Live tenantId referred ∧ referred.kind = target.1 ∧ referred.id = target.2

theorem validateCrossResource_targets {cloud : Cloud} {resource : ControlResourceV1}
    (checked : cloud.validateCrossResource resource = .ok ())
    (live : resource.metadata.state ≠ .deleted) (refers : target ∈ resourceReferences resource) :
    ∃ row ∈ cloud.control.resources,
      row.at resource.metadata.tenantId target.1 target.2 = true ∧ row.state = .active := by
  simp only [Cloud.validateCrossResource, live, if_false, unit_bind_ok, reject_ok,
    List.any_eq_false, bne_iff_ne, ne_eq, not_not] at checked
  have active := checked.1 target refers
  obtain ⟨row, found, state⟩ := Option.map_eq_some_iff.mp active
  obtain ⟨member, located⟩ := resource_found found
  exact ⟨row, member, located, state⟩

section Step

variable {tenantId : Uuid} {cloud : Cloud} {mutation : ResourceMutation}
  {resources : List ResourceRow}

theorem live_kept (table : Written mutation cloud.control.resources resources)
    (live : cloud.control.Live mutation.tenantId row)
    (elsewhere : row.at mutation.tenantId mutation.kind mutation.id = false) :
    (mutation.written cloud.control resources).Live mutation.tenantId row :=
  ⟨table.kept row live.1 elsewhere, live.2⟩

theorem targetsLive_written (graph : GraphInvariant mutation.tenantId cloud.control)
    (targets : TargetsLive mutation.tenantId cloud.control)
    (checked : cloud.validateCrossResource mutation.resource = .ok ())
    (table : Written mutation cloud.control.resources resources) :
    TargetsLive mutation.tenantId (mutation.written cloud.control resources) := by
  intro row live target refers
  rcases live_written table live with rfl | ⟨old, elsewhere⟩
  · -- The new document: its targets were active and are not of its own kind.
    obtain ⟨referred, member, located, active⟩ :=
      validateCrossResource_targets checked live.2.2 refers
    obtain ⟨tenant, kind, id⟩ := ResourceRow.at_iff.mp located
    have foreign : target.1 ≠ mutation.kind :=
      specReferences_kind (List.mem_dedup.mp refers)
    have elsewhere : referred.at mutation.tenantId mutation.kind mutation.id = false := by
      rw [Bool.eq_false_iff, ne_eq, ResourceRow.at_iff]
      intro key
      exact foreign (kind.symm.trans key.2.1)
    have undeleted : referred.state ≠ .deleted := by
      rw [active]
      decide
    exact ⟨referred, live_kept table ⟨member, tenant, undeleted⟩ elsewhere, kind, id⟩
  · obtain ⟨referred, liveReferred, kind, id⟩ := targets row old target refers
    cases rewritten : referred.at mutation.tenantId mutation.kind mutation.id with
    | false => exact ⟨referred, live_kept table liveReferred rewritten, kind, id⟩
    | true =>
        -- The target itself is rewritten: the guard keeps it from being deleted.
        obtain ⟨-, sameKind, sameId⟩ := ResourceRow.at_iff.mp rewritten
        have refersHere : (mutation.kind, mutation.id) ∈ resourceReferences row.document := by
          rw [← sameKind, ← sameId, kind, id]
          exact refers
        have undeleted : mutation.resource.metadata.state ≠ .deleted := by
          intro deleted
          have unused := validateCrossResource_deleted checked deleted
          have used := graph.referenced old.1 old.2.1 old.2.2 refersHere
          exact absurd (used.symm.trans unused) Bool.noConfusion
        exact ⟨mutation.row, ⟨table.new, rfl, undeleted⟩, sameKind.symm.trans kind,
          sameId.symm.trans id⟩

variable {fresh : Uuid → Uuid} {clock : Instant} {previous : Option ControlResourceV1}
  {queue : GenerationQueue} {cloud' : Cloud}

theorem Applied.rewrites
    (applied : Applied cloud mutation fresh clock previous resources queue cloud')
    (graph : GraphInvariant mutation.tenantId cloud.control)
    (found : cloud.control.resource mutation.tenantId mutation.kind mutation.id = some row) :
    row.state ≠ .deleted ∧ mutation.resource.metadata.revision = row.revision + 1 := by
  obtain ⟨member, located⟩ := graph.resource_iff.mp found
  have revision := applied.revision
  have written := applied.written
  have opened := applied.found
  cases expectation : mutation.expectedRevision with
  | none =>
      simp only [ResourceMutation.writeResource, expectation] at written
      obtain ⟨free, -⟩ := insertRow_some.mp (orElse_ok.mp written)
      have clash := free row member
      rw [ResourceRow.conflict] at clash
      exact absurd (clash.symm.trans located) Bool.noConfusion
  | some expected =>
      simp only [ResourceMutation.previous, expectation, orElse_bind_ok] at opened
      obtain ⟨other, found', -⟩ := opened
      have selects := List.find?_some found'
      simp only [Bool.and_eq_true, beq_iff_eq, bne_iff_ne] at selects
      have same : other = row := by
        have looked := graph.resource_iff.mpr ⟨List.mem_of_find?_eq_some found', selects.1.1⟩
        exact Option.some.inj (looked.symm.trans found)
      simp only [ResourceMutation.checkRevision, expectation, reject_ok, Bool.or_eq_false_iff,
        beq_eq_false_iff_ne, bne_eq_false_iff_eq] at revision
      subst same
      exact ⟨selects.2, by rw [revision.2, selects.1.2]⟩

theorem Applied.creates
    (applied : Applied cloud mutation fresh clock previous resources queue cloud')
    (absent : cloud.control.resource mutation.tenantId mutation.kind mutation.id = none) :
    mutation.resource.metadata.revision = 1 := by
  have revision := applied.revision
  have opened := applied.found
  cases expectation : mutation.expectedRevision with
  | none =>
      simpa only [ResourceMutation.checkRevision, expectation, reject_ok,
        bne_eq_false_iff_eq] using revision
  | some expected =>
      simp only [ResourceMutation.previous, expectation, orElse_bind_ok] at opened
      obtain ⟨other, found, -⟩ := opened
      have selects := List.find?_some found
      simp only [Bool.and_eq_true] at selects
      exact absurd selects.1.1 (List.find?_eq_none.mp absent other
        (List.mem_of_find?_eq_some found))

theorem resource_other (other : mutation.tenantId ≠ tenantId)
    (done : mutation.writeResource cloud.control.resources = .ok resources) (kind : ResourceKind)
    (id : Uuid) :
    (mutation.written cloud.control resources).resource tenantId kind id =
      cloud.control.resource tenantId kind id := by
  have wanted : ∀ rows : List ResourceRow, rows.find? (fun row => row.at tenantId kind id) =
      (rows.filter fun row => row.tenantId == tenantId).find? fun row =>
        row.at tenantId kind id := by
    intro rows
    rw [List.find?_filter]
    congr 1
    funext row
    rw [Bool.eq_iff_iff]
    simp only [decide_eq_true_eq, ResourceRow.at_iff, beq_iff_eq]
    tauto
  unfold ControlStore.resource
  rw [wanted, wanted cloud.control.resources]
  simp only [ResourceMutation.written, (written_other other done).2]

end Step

/-- The revision of a resource, zero before it exists. -/
def ControlStore.revisionOf (store : ControlStore) (tenantId : Uuid) (kind : ResourceKind)
    (id : Uuid) : Nat :=
  ((store.resource tenantId kind id).map (·.revision)).getD 0

/-- Undeleted documents refer to undeleted resources of the tenant with the
    right kind, and the reference table lists exactly these references. -/
structure ReferentialIntegrity (tenantId : Uuid) (store : ControlStore) : Prop where
  targets : ∀ kind id row, store.resource tenantId kind id = some row → row.state ≠ .deleted →
    ∀ target ∈ resourceReferences row.document, ∃ referred,
      store.resource tenantId target.1 target.2 = some referred ∧ referred.state ≠ .deleted ∧
        referred.document.metadata.tenantId = tenantId ∧
        referred.document.resource.kind = target.1 ∧ referred.document.metadata.id = target.2
  references : ∀ source target, ⟨tenantId, source, target⟩ ∈ store.references ↔
    ∃ row, store.resource tenantId source.1 source.2 = some row ∧ row.state ≠ .deleted ∧
      target ∈ resourceReferences row.document

/-- What a run of mutations keeps about the references of a tenant. -/
structure Referring (tenantId : Uuid) (store : ControlStore) : Prop where
  graph : GraphInvariant tenantId store
  targets : TargetsLive tenantId store

theorem Referring.integrity {tenantId : Uuid} {store : ControlStore}
    (referring : Referring tenantId store) : ReferentialIntegrity tenantId store := by
  obtain ⟨graph, targets⟩ := referring
  constructor
  · intro kind id row found undeleted target refers
    obtain ⟨member, located⟩ := resource_found found
    obtain ⟨referred, live, sameKind, sameId⟩ :=
      targets row ⟨member, (ResourceRow.at_iff.mp located).1, undeleted⟩ target refers
    have faithful := graph.rows referred live.1 live.2.1
    refine ⟨referred, graph.resource_iff.mpr ⟨live.1, ?_⟩, live.2.2, ?_, ?_, ?_⟩
    · exact ResourceRow.at_iff.mpr ⟨live.2.1, sameKind, sameId⟩
    · exact faithful.tenantId.trans live.2.1
    · exact faithful.kind.trans sameKind
    · exact faithful.id.trans sameId
  · intro source target
    constructor
    · intro listed
      obtain ⟨row, member, located, undeleted, refers⟩ := graph.sound _ listed rfl
      exact ⟨row, graph.resource_iff.mpr ⟨member, located⟩, undeleted, refers⟩
    · rintro ⟨row, found, undeleted, refers⟩
      obtain ⟨member, located⟩ := resource_found found
      obtain ⟨tenant, kind, id⟩ := ResourceRow.at_iff.mp located
      have listed := graph.complete row member tenant undeleted target refers
      rw [kind, id] at listed
      exact listed

theorem Referring.congr {tenantId : Uuid} {a b : ControlStore} (referring : Referring tenantId a)
    (graph : GraphInvariant tenantId b) (resources : b.resources = a.resources) :
    Referring tenantId b := by
  have live : ∀ {row}, b.Live tenantId row ↔ a.Live tenantId row := by
    intro row
    unfold ControlStore.Live
    rw [resources]
  refine ⟨graph, ?_⟩
  intro row alive target refers
  obtain ⟨referred, liveReferred, same⟩ := referring.targets row (live.mp alive) target refers
  exact ⟨referred, live.mpr liveReferred, same⟩

section Run

variable {tenantId : Uuid} {cloud cloud' : Cloud} {mutation : ResourceMutation}
  {fresh : Uuid → Uuid} {clock : Instant} {previous : Option ControlResourceV1}
  {resources : List ResourceRow} {queue : GenerationQueue}

theorem Applied.referring (referring : Referring tenantId cloud.control)
    (applied : Applied cloud mutation fresh clock previous resources queue cloud') :
    Referring tenantId cloud'.control := by
  have written : Referring tenantId (mutation.written cloud.control resources) := by
    by_cases own : mutation.tenantId = tenantId
    · subst own
      have table := writeResource_written referring.graph applied.written
      exact ⟨written_graph referring.graph applied.valid applied.written,
        targetsLive_written referring.graph referring.targets applied.cross table⟩
    · obtain ⟨same, -⟩ := written_other own applied.written
      refine ⟨written_graph_other referring.graph own applied.written, ?_⟩
      intro row live target refers
      obtain ⟨referred, liveReferred, key⟩ :=
        referring.targets row ⟨(same row live.2.1).mp live.1, live.2⟩ target refers
      exact ⟨referred, ⟨(same referred liveReferred.2.1).mpr liveReferred.1, liveReferred.2⟩, key⟩
  rw [applied.result]
  exact written.congr (written.graph.congr rfl rfl) rfl

theorem Applied.resource_own (graph : GraphInvariant mutation.tenantId cloud.control)
    (applied : Applied cloud mutation fresh clock previous resources queue cloud') :
    cloud'.control.resource mutation.tenantId mutation.kind mutation.id = some mutation.row := by
  have table := writeResource_written graph applied.written
  have written := written_graph graph applied.valid applied.written
  have found : (mutation.written cloud.control resources).resource mutation.tenantId mutation.kind
      mutation.id = some mutation.row :=
    written.resource_iff.mpr ⟨table.new, ResourceRow.at_iff.mpr ⟨rfl, rfl, rfl⟩⟩
  rw [applied.result]
  exact found

theorem Applied.deleted_kept (graph : GraphInvariant tenantId cloud.control)
    (applied : Applied cloud mutation fresh clock previous resources queue cloud')
    (found : cloud.control.resource tenantId kind id = some row) (deleted : row.state = .deleted) :
    cloud'.control.resource tenantId kind id = some row := by
  have written : (mutation.written cloud.control resources).resource tenantId kind id =
      some row := by
    by_cases own : mutation.tenantId = tenantId
    · subst own
      obtain ⟨member, located⟩ := resource_found found
      have elsewhere : row.at mutation.tenantId mutation.kind mutation.id = false := by
        rw [Bool.eq_false_iff]
        intro rewritten
        exact (applied.rewrites graph (graph.resource_iff.mpr ⟨member, rewritten⟩)).1 deleted
      have table := writeResource_written graph applied.written
      exact (written_graph graph applied.valid applied.written).resource_iff.mpr
        ⟨table.kept row member elsewhere, located⟩
    · rw [resource_other own applied.written]
      exact found
  rw [applied.result]
  exact written

theorem Applied.revision_raised (graph : GraphInvariant mutation.tenantId cloud.control)
    (applied : Applied cloud mutation fresh clock previous resources queue cloud') :
    cloud'.control.revisionOf mutation.tenantId mutation.kind mutation.id =
      cloud.control.revisionOf mutation.tenantId mutation.kind mutation.id + 1 := by
  have after : cloud'.control.revisionOf mutation.tenantId mutation.kind mutation.id =
      mutation.resource.metadata.revision := by
    rw [ControlStore.revisionOf, applied.resource_own graph]
    rfl
  rw [after]
  cases found : cloud.control.resource mutation.tenantId mutation.kind mutation.id with
  | none =>
      rw [applied.creates found, ControlStore.revisionOf, found]
      rfl
  | some row =>
      rw [(applied.rewrites graph found).2, ControlStore.revisionOf, found]
      rfl

theorem controlStep_error {error : ControlStoreError}
    (failed : mutate cloud mutation now fresh clock = .error error) :
    controlStep cloud (.mutate mutation now fresh clock) = cloud := by
  simp only [controlStep, failed]
  rfl

theorem controlStep_ok {outcome : MutationOutcome}
    (done : mutate cloud mutation now fresh clock = .ok (outcome, cloud')) :
    controlStep cloud (.mutate mutation now fresh clock) = cloud' := by
  simp only [controlStep, done]
  rfl

theorem controlStep_keeps {P : ControlStore → Prop}
    (request : ∀ transportRequests, P cloud.control →
      P { cloud.control with transportRequests := transportRequests })
    (keep : ∀ mutation fresh clock previous resources queue after,
      Applied cloud mutation fresh clock previous resources queue after → P after.control)
    (before : P cloud.control) (call : ControlCall) : P (controlStep cloud call).control := by
  cases call with
  | environment transportRequests queue route => exact request transportRequests before
  | mutate mutation now fresh clock =>
      cases result : mutate cloud mutation now fresh clock with
      | error error =>
          rw [controlStep_error result]
          exact before
      | ok pair =>
          obtain ⟨outcome, after⟩ := pair
          rw [controlStep_ok result]
          rcases mutate_ok result with ⟨-, rfl⟩ | ⟨-, previous, resources, queue, applied⟩
          · exact before
          · exact keep mutation fresh clock previous resources queue after applied

theorem controlStep_referring (referring : Referring tenantId cloud.control) (call : ControlCall) :
    Referring tenantId (controlStep cloud call).control := by
  refine controlStep_keeps (P := Referring tenantId) ?_ ?_ referring call
  · exact fun _ before => before.congr (before.graph.congr rfl rfl) rfl
  · exact fun _ _ _ _ _ _ _ applied => applied.referring referring

theorem controlStep_deleted (graph : GraphInvariant tenantId cloud.control)
    (found : cloud.control.resource tenantId kind id = some row) (deleted : row.state = .deleted)
    (call : ControlCall) :
    (controlStep cloud call).control.resource tenantId kind id = some row := by
  refine controlStep_keeps (P := fun store => store.resource tenantId kind id = some row) ?_ ?_
    found call
  · exact fun _ before => before
  · exact fun _ _ _ _ _ _ _ applied => applied.deleted_kept graph found deleted

theorem ControlStore.EmptyTenant.referring {store : ControlStore}
    (empty : store.EmptyTenant tenantId) : Referring tenantId store :=
  ⟨empty.addressed.graph, fun row live => absurd live.2.1 (empty.resources row live.1)⟩

theorem run_referring {start : Cloud} (empty : start.control.EmptyTenant tenantId)
    (calls : List ControlCall) : Referring tenantId (run controlStep start calls).control :=
  run_invariant (P := fun after : Cloud => Referring tenantId after.control)
    (fun _ call referring => controlStep_referring referring call) empty.referring calls

theorem run_deleted (referring : Referring tenantId cloud.control)
    (found : cloud.control.resource tenantId kind id = some row) (deleted : row.state = .deleted)
    (later : List ControlCall) :
    (run controlStep cloud later).control.resource tenantId kind id = some row := by
  have kept := run_invariant (P := fun after : Cloud =>
      Referring tenantId after.control ∧ after.control.resource tenantId kind id = some row)
    (fun _ call before => ⟨controlStep_referring before.1 call,
      controlStep_deleted before.1.graph before.2 deleted call⟩) ⟨referring, found⟩ later
  exact kept.2

end Run

/-- References stay sound, deletions final and revisions consecutive in every run. -/
theorem control_referential_integrity (tenantId : Uuid) (start : Cloud)
    (empty : start.control.EmptyTenant tenantId) (calls : List ControlCall) :
    ReferentialIntegrity tenantId (run controlStep start calls).control ∧
    (∀ kind id row, (run controlStep start calls).control.resource tenantId kind id = some row →
      row.state = .deleted → ∀ later,
        (run controlStep start (calls ++ later)).control.resource tenantId kind id = some row) ∧
    (∀ mutation now fresh clock resource after, mutation.tenantId = tenantId →
      mutate (run controlStep start calls) mutation now fresh clock = .ok (.applied resource, after) →
      after.control.revisionOf tenantId mutation.kind mutation.id =
        (run controlStep start calls).control.revisionOf tenantId mutation.kind mutation.id + 1) ∧
    ∀ mutation now fresh clock error,
      mutate (run controlStep start calls) mutation now fresh clock = .error error →
      run controlStep start (calls ++ [.mutate mutation now fresh clock]) =
        run controlStep start calls := by
  have referring := run_referring empty calls
  refine ⟨referring.integrity, ?_, ?_, ?_⟩
  · intro kind id row found deleted later
    rw [run_append]
    exact run_deleted referring found deleted later
  · intro mutation now fresh clock resource after own done
    subst own
    rcases mutate_ok done with ⟨⟨_, replayed⟩, -⟩ | ⟨-, previous, resources, queue, applied⟩
    · cases replayed
    · exact applied.revision_raised referring.graph
  · intro mutation now fresh clock error failed
    rw [run_concat]
    exact controlStep_error failed

def sampleRewrite (id : Uuid) (revision : Nat) (state : ResourceState) (spec : ResourceSpecV1) :
    ResourceMutation where
  context :=
    { actorId := "operator", idempotencyKey := Nat.repr (10000 * revision + id.toNat)
      requestMethod := "PUT", requestPath := "/v1/resources"
      requestHash := BitVec.ofNat 256 (10000 * revision + id.toNat)
      idempotencyReplayUntil := 1000 }
  resource := ⟨⟨1, id, 1, revision + 1, state⟩, spec⟩
  expectedRevision := some revision

def sampleReplace (id : Uuid) (revision : Nat) (state : ResourceState) (spec : ResourceSpecV1) :
    ControlCall :=
  .mutate (sampleRewrite id revision state spec) 0 (sampleFresh (10000 * revision + id)) 0

def prunedGraph : List ControlCall :=
  sampleGraph ++ [sampleReplace 31 1 .deleted (.site ⟨"site-1", .edge⟩),
    sampleReplace 61 1 .deleted (.prefix_ ⟨31, 3, ⟨0x0a010000, 16⟩, .configured⟩)]

theorem control_referential_integrity_pruned :
    (run controlStep sampleCloud prunedGraph).control.resources.map (fun row => (row.id, row.state)) =
      [(31, .active), (3, .active), (51, .active), (41, .active), (61, .deleted)] ∧
    ReferentialIntegrity 1 (run controlStep sampleCloud prunedGraph).control :=
  ⟨by decide +kernel,
    (control_referential_integrity 1 sampleCloud (sampleCloud_empty 1) prunedGraph).1⟩

end CandyCloud
