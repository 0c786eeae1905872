import CandyCloud.Foundation.Overwriting
import CandyCloud.Control.Integrity

/-! # No lost update

A resource is rewritten by callers who name the revision they have read.
-/

namespace CandyCloud

open Foundation

variable {tenantId : Uuid} {kind : ResourceKind} {id : Uuid} {cloud cloud' : Cloud}

/-- The mutation of a resource that a call applies. A replayed one is not applied again. -/
def applies (tenantId : Uuid) (kind : ResourceKind) (id : Uuid) (cloud : Cloud) :
    ControlCall → Option ResourceMutation
  | .environment _ _ _ => none
  | .mutate mutation now fresh clock =>
      match mutate cloud mutation now fresh clock with
      | .ok (.applied _, _) => if mutation.row.at tenantId kind id then some mutation else none
      | .ok (.replayed _, _) | .error _ => none

section Step

variable {mutation : ResourceMutation} {fresh : Uuid → Uuid} {clock : Instant}
  {previous : Option ControlResourceV1} {resources : List ResourceRow} {queue : GenerationQueue}

/-- An applied mutation leaves the other resources where they are. -/
theorem Applied.resource_elsewhere (graph : GraphInvariant tenantId cloud.control)
    (applied : Applied cloud mutation fresh clock previous resources queue cloud')
    (elsewhere : mutation.row.at tenantId kind id = false) :
    cloud'.control.resource tenantId kind id = cloud.control.resource tenantId kind id := by
  rw [applied.result]
  by_cases own : mutation.tenantId = tenantId
  · subst own
    have table := writeResource_written graph applied.written
    have after := written_graph graph applied.valid applied.written
    apply Option.ext
    intro row
    change (mutation.written cloud.control resources).resource mutation.tenantId kind id =
      some row ↔ _
    rw [after.resource_iff, graph.resource_iff]
    constructor
    · rintro ⟨member, located⟩
      rcases table.only row member with rfl | ⟨old, -⟩
      · exact absurd (elsewhere.symm.trans located) Bool.noConfusion
      · exact ⟨old, located⟩
    · rintro ⟨member, located⟩
      refine ⟨table.kept row member ?_, located⟩
      rw [Bool.eq_false_iff]
      intro rewritten
      obtain ⟨-, sameKind, sameId⟩ := ResourceRow.at_iff.mp rewritten
      obtain ⟨-, rowKind, rowId⟩ := ResourceRow.at_iff.mp located
      have here : mutation.row.at mutation.tenantId kind id = true :=
        ResourceRow.at_iff.mpr ⟨rfl, sameKind.symm.trans rowKind, sameId.symm.trans rowId⟩
      exact absurd (elsewhere.symm.trans here) Bool.noConfusion
  · exact resource_other own applied.written kind id

theorem checkRevision_expected (checked : mutation.checkRevision = .ok ()) :
    mutation.resource.metadata.revision = mutation.expectedRevision.getD 0 + 1 := by
  cases expectation : mutation.expectedRevision with
  | none =>
      simpa [ResourceMutation.checkRevision, expectation, reject_ok] using checked
  | some expected =>
      simp only [ResourceMutation.checkRevision, expectation, reject_ok, Bool.or_eq_false_iff,
        bne_eq_false_iff_eq] at checked
      exact checked.2

end Step

theorem control_overwriting (tenantId : Uuid) (kind : ResourceKind) (id : Uuid) :
    Overwriting controlStep (applies tenantId kind id)
      (fun cloud => cloud.control.resource tenantId kind id) ResourceRow.revision
      (·.expectedRevision.getD 0) ResourceMutation.row
      (fun cloud => Referring tenantId cloud.control) where
  keep := fun _ call referring => controlStep_referring referring call
  accepted := by
    rintro cloud call mutation referring done
    cases call with
    | environment transportRequests queue route => cases done
    | mutate other now fresh clock =>
        rw [applies] at done
        split at done
        · rename_i resource after result
          obtain ⟨here, same⟩ := Option.ite_none_right_eq_some.mp done
          cases same
          obtain ⟨rfl, rfl, rfl⟩ := ResourceRow.at_iff.mp here
          rcases mutate_ok result with ⟨⟨_, replayed⟩, -⟩ | ⟨-, previous, resources, queue, applied⟩
          · cases replayed
          · have raised := applied.revision_raised referring.graph
            have found := applied.resource_own referring.graph
            have next := checkRevision_expected applied.revision
            rw [controlStep_ok result]
            refine ⟨?_, next, found⟩
            rw [ControlStore.revisionOf, found] at raised
            exact Nat.add_right_cancel (next.symm.trans raised)
        · cases done
        · cases done
  refused := by
    rintro cloud call referring unapplied
    cases call with
    | environment transportRequests queue route => rfl
    | mutate mutation now fresh clock =>
        cases result : mutate cloud mutation now fresh clock with
        | error error => rw [controlStep_error result]
        | ok pair =>
            obtain ⟨outcome, after⟩ := pair
            rw [controlStep_ok result]
            rcases mutate_ok result with ⟨-, rfl⟩ | ⟨rfl, previous, resources, queue, applied⟩
            · rfl
            · apply applied.resource_elsewhere referring.graph
              simpa [applies, result] using unapplied

/-- In a tenant that began without resources, the mutations applied to a resource expected its
    revisions one after the other, so no two of them the same, and the last one is its row. -/
theorem control_no_lost_update (tenantId : Uuid) (start : Cloud)
    (empty : start.control.EmptyTenant tenantId) (kind : ResourceKind) (id : Uuid)
    (calls : List ControlCall) :
    (acceptedWrites controlStep (applies tenantId kind id) start calls).map
        (·.expectedRevision.getD 0) =
      List.range (acceptedWrites controlStep (applies tenantId kind id) start calls).length ∧
    (run controlStep start calls).control.resource tenantId kind id =
      (acceptedWrites controlStep (applies tenantId kind id) start calls).getLast?.map (·.row) ∧
    (run controlStep start calls).control.revisionOf tenantId kind id =
      (acceptedWrites controlStep (applies tenantId kind id) start calls).length := by
  have absent : start.control.resource tenantId kind id = none := by
    rw [ControlStore.resource, List.find?_eq_none]
    intro row member located
    exact empty.resources row member (ResourceRow.at_iff.mp located).1
  exact (control_overwriting tenantId kind id).writes_follow empty.referring absent calls

/-- The prefix of the sample is created and deleted, and its site cannot be deleted. -/
theorem control_no_lost_update_pruned :
    (acceptedWrites controlStep (applies 1 .prefix_ 61) sampleCloud prunedGraph).map
      (·.expectedRevision.getD 0) = List.range 2 ∧
    (run controlStep sampleCloud prunedGraph).control.revisionOf 1 .prefix_ 61 = 2 := by
  have two : (acceptedWrites controlStep (applies 1 .prefix_ 61) sampleCloud
      prunedGraph).length = 2 := rfl
  have writes := control_no_lost_update 1 sampleCloud (sampleCloud_empty 1) .prefix_ 61 prunedGraph
  rw [two] at writes
  exact ⟨writes.1, writes.2.2⟩

end CandyCloud
