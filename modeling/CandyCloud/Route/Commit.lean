import CandyCloud.Route.Publish

/-! # What a committed publication does

`Committed` lists everything the transaction of `publish` establishes when it commits: the
guards it passed in the state before and the tables it leaves.
-/

namespace CandyCloud

open Foundation

variable {projection : SiteProjectionPublicationWrite} {store store' : RouteStore}
  {publicationId : Uuid} {sha256 : Bytes → Hash} {policyIsolation : Bool}
  {write : SegmentPublicationWrite}

theorem insertTransport_ok {node : Uuid × Uuid}
    (inserted : insertTransport projection store node = .ok store') :
    ∃ transportCatalog, store' = { store with transportCatalog } := by
  simp only [insertTransport, bind_ok, pure_ok] at inserted
  obtain ⟨-, -, catalog, -, rfl⟩ := inserted
  exact ⟨catalog, rfl⟩

theorem insertTransports_ok {nodes : List (Uuid × Uuid)}
    (inserted : updateEach (insertTransport projection) store nodes = .ok store') :
    ∃ transportCatalog, store' = { store with transportCatalog } := by
  refine updateEach_invariant (P := fun s => ∃ transportCatalog, s = { store with transportCatalog })
    ?_ ⟨store.transportCatalog, rfl⟩ inserted
  rintro _ next node - ⟨catalog, rfl⟩ step
  obtain ⟨catalog, rfl⟩ := insertTransport_ok step
  exact ⟨catalog, rfl⟩

theorem insertPath_ok {path : RuntimeProjectionPathCatalogWrite}
    (inserted : insertPath projection store path = .ok store') :
    ∃ pathCatalog, store' = { store with pathCatalog } := by
  simp only [insertPath, bind_ok, pure_ok] at inserted
  obtain ⟨-, -, catalog, -, rfl⟩ := inserted
  exact ⟨catalog, rfl⟩

theorem insertPaths_ok {paths : List RuntimeProjectionPathCatalogWrite}
    (inserted : updateEach (insertPath projection) store paths = .ok store') :
    ∃ pathCatalog, store' = { store with pathCatalog } := by
  refine updateEach_invariant (P := fun s => ∃ pathCatalog, s = { store with pathCatalog })
    ?_ ⟨store.pathCatalog, rfl⟩ inserted
  rintro _ next path - ⟨catalog, rfl⟩ step
  obtain ⟨catalog, rfl⟩ := insertPath_ok step
  exact ⟨catalog, rfl⟩

theorem insertProjection_ok {numbered : SiteProjectionPublicationWrite × Nat}
    (inserted : insertProjection publicationId store numbered = .ok store') :
    (∀ old ∈ store.projections, (numbered.1.projectionRow publicationId).conflict old = false) ∧
      ∃ transportCatalog pathCatalog, store' = { store with
        projections := store.projections ++ [numbered.1.projectionRow publicationId]
        members := store.members ++ [numbered.1.memberRow publicationId numbered.2]
        transportCatalog, pathCatalog } := by
  simp only [insertProjection, bind_ok, insertInto_ok] at inserted
  obtain ⟨projections, ⟨fresh, rfl⟩, members, ⟨-, rfl⟩, middle, transports, paths⟩ := inserted
  obtain ⟨transportCatalog, rfl⟩ := insertTransports_ok transports
  obtain ⟨pathCatalog, rfl⟩ := insertPaths_ok paths
  exact ⟨fresh, transportCatalog, pathCatalog, rfl⟩

/-- Rows of all projections, in the order in which they are inserted. -/
def projectionRows (publicationId : Uuid)
    (numbered : List (SiteProjectionPublicationWrite × Nat)) : List ProjectionRow :=
  numbered.map fun pair => pair.1.projectionRow publicationId

def memberRows (publicationId : Uuid) (numbered : List (SiteProjectionPublicationWrite × Nat)) :
    List MemberRow :=
  numbered.map fun pair => pair.1.memberRow publicationId pair.2

theorem insertProjections_ok {numbered : List (SiteProjectionPublicationWrite × Nat)}
    (inserted : updateEach (insertProjection publicationId) store numbered = .ok store') :
    (∀ pair ∈ numbered, ∀ old ∈ store.projections,
      (pair.1.projectionRow publicationId).conflict old = false) ∧
      ∃ transportCatalog pathCatalog, store' = { store with
        projections := store.projections ++ projectionRows publicationId numbered
        members := store.members ++ memberRows publicationId numbered
        transportCatalog, pathCatalog } := by
  induction numbered generalizing store with
  | nil =>
      simp only [updateEach, Except.ok.injEq] at inserted
      subst inserted
      refine ⟨fun _ member => absurd member List.not_mem_nil, store.transportCatalog,
        store.pathCatalog, ?_⟩
      simp only [projectionRows, memberRows, List.map_nil, List.append_nil]
  | cons pair rest ih =>
      simp only [updateEach, bind_ok] at inserted
      obtain ⟨middle, first, later⟩ := inserted
      obtain ⟨fresh, transportCatalog, pathCatalog, rfl⟩ := insertProjection_ok first
      obtain ⟨freshLater, transportCatalog', pathCatalog', rfl⟩ := ih later
      constructor
      · intro other member old present
        rcases List.mem_cons.mp member with rfl | member
        · exact fresh old present
        · exact freshLater other member old (List.mem_append_left _ present)
      · refine ⟨transportCatalog', pathCatalog', ?_⟩
        simp only [projectionRows, memberRows, List.map_cons, List.append_assoc,
          List.singleton_append]

theorem insertExpansions_ok {writes : List ExpansionObjectPublicationWrite}
    (inserted : updateEach (insertExpansion publicationId) store writes = .ok store') :
    ∃ expansions, store' = { store with expansions } := by
  refine updateEach_invariant (P := fun s => ∃ expansions, s = { store with expansions })
    ?_ ⟨store.expansions, rfl⟩ inserted
  rintro _ next expansion - ⟨expansions, rfl⟩ step
  simp only [insertExpansion, bind_ok, pure_ok] at step
  obtain ⟨expansions', -, rfl⟩ := step
  exact ⟨expansions', rfl⟩

/-- The guards of the policy block. -/
structure PolicyAdmitted (policyIsolation : Bool) (write : SegmentPublicationWrite)
    (store : RouteStore) : Prop where
  positive : write.expectedPreviousGeneration ≠ 0
  transport : transportState store write.tenantId write.segmentId
    write.expectedPreviousGeneration = some .complete
  previous : policyIsolation = false →
    (store.rollout write.tenantId write.segmentId write.expectedPreviousGeneration).map (·.state)
      = some .complete

structure Committed (policyIsolation : Bool) (write : SegmentPublicationWrite)
    (store store' : RouteStore) : Prop where
  admitted : write.Admitted
  fresh : ∀ old ∈ store.publications, write.publicationRow.conflict old = false
  head : ∃ segment ∈ store.segments, segment.of write.tenantId write.segmentId ∧
    segment.currentGeneration = write.expectedPreviousGeneration ∧
    segment.currentContentHash = write.expectedPreviousHash
  policy : write.policyOnly = true → PolicyAdmitted policyIsolation write store
  owned : ∀ projection ∈ write.projections, ∃ a ∈ store.topology.attachments,
    ownsProjection store.topology projection a = true
  heads : ∀ projection ∈ write.projections, validateProjectionHead store projection = .ok ()
  freshProjections : ∀ projection ∈ write.projections, ∀ old ∈ store.projections,
    (projection.projectionRow write.publicationId).conflict old = false
  freshRollout : ∀ old ∈ store.rollouts, write.rolloutRow.conflict old = false
  topology : store'.topology = store.topology
  publications : store'.publications = store.publications ++ [write.publicationRow]
  projections : store'.projections =
    store.projections ++ write.projections.map (·.projectionRow write.publicationId)
  members : store'.members =
    store.members ++ memberRows write.publicationId (write.projections.zipIdx 1)
  rollouts : store'.rollouts = store.rollouts ++ [write.rolloutRow]
  statuses : store'.statuses = store.statuses
  segments : store'.segments = updateWhere (·.atHead write) (·.advance write) store.segments

theorem projectionRows_zipIdx (publicationId : Uuid)
    (projections : List SiteProjectionPublicationWrite) (n : Nat) :
    projectionRows publicationId (projections.zipIdx n) =
      projections.map (·.projectionRow publicationId) := by
  induction projections generalizing n with
  | nil => rfl
  | cons projection rest ih =>
      have later := ih (n + 1)
      simp only [projectionRows] at later
      simp only [projectionRows, List.zipIdx_cons, List.map_cons, later]

theorem policyGate_ok {auditEvents : List AuditEventRow}
    (passed : policyGate sha256 policyIsolation write write.expectedPreviousGeneration store
      = .ok auditEvents) (policyOnly : write.policyOnly = true) :
    PolicyAdmitted policyIsolation write store := by
  simp only [policyGate, policyOnly, if_true, unit_bind_ok, reject_ok, Bool.and_eq_false_iff,
    Bool.not_eq_false', bne_eq_false_iff_eq, Bool.or_eq_false_iff, beq_eq_false_iff_ne] at passed
  obtain ⟨previous, ⟨positive, transport⟩, -⟩ := passed
  refine ⟨positive, transport, ?_⟩
  intro off
  exact previous.resolve_left (by rw [off]; exact Bool.false_ne_true)

theorem lockedSegment_some {tenantId segmentId : Uuid} {segment : SegmentRow}
    (locked : lockedSegment store tenantId segmentId = some segment) :
    segment ∈ store.segments ∧ segment.of tenantId segmentId := by
  have found := List.find?_some locked
  rw [Bool.and_eq_true] at found
  exact ⟨List.mem_of_find?_eq_some locked, found.1⟩

theorem validateProjectionOwnership_ok {u : Unit}
    (passed : validateProjectionOwnership store write = .ok u) :
    ∀ projection ∈ write.projections, ∃ a ∈ store.topology.attachments,
      ownsProjection store.topology projection a = true := by
  simp only [validateProjectionOwnership, unit_bind_ok, checkEach_ok, reject_ok,
    bne_eq_false_iff_eq] at passed
  obtain ⟨-, -, each⟩ := passed
  intro projection member
  obtain ⟨before, after, split⟩ := List.append_of_mem member
  obtain ⟨a, only⟩ := List.length_eq_one_iff.mp (each before projection after split)
  have present : a ∈ store.topology.attachments.filter
      (ownsProjection store.topology projection) := by
    rw [only]
    exact List.mem_singleton_self a
  exact ⟨a, List.mem_filter.mp present⟩

theorem commitPublication_ok (admitted : write.Admitted)
    (committed : commitPublication sha256 policyIsolation write store = .ok store') :
    Committed policyIsolation write store store' := by
  have nonempty : write.projections.isEmpty = false := by
    cases empty : write.projections with
    | nil => exact absurd empty admitted.nonempty
    | cons => rfl
  simp only [commitPublication, orElse_bind_ok, unit_bind_ok, bind_ok (α := List AuditEventRow),
    reject_ok, Bool.or_eq_false_iff, bne_eq_false_iff_eq] at committed
  obtain ⟨segment, locked, ⟨generation, hash⟩, auditEvents, gate, owners, heads, inserts⟩ :=
    committed
  rw [generation] at gate
  obtain ⟨present, owned⟩ := lockedSegment_some locked
  simp only [insertPublication, bind_ok, nonempty, Bool.false_eq_true, if_false, insertInto_ok,
    reject_ok, pure_ok] at inserts
  obtain ⟨_, ⟨-, rfl⟩, _, ⟨fresh, rfl⟩, middle, projections, late, expansions, rollouts,
    ⟨freshRollout, rfl⟩, _, -, rfl⟩ := inserts
  obtain ⟨freshProjections, transportCatalog, pathCatalog, rfl⟩ := insertProjections_ok projections
  obtain ⟨expansionRows, rfl⟩ := insertExpansions_ok expansions
  constructor
  case admitted => exact admitted
  case fresh => exact fresh
  case head => exact ⟨segment, present, owned, generation, hash⟩
  case policy => exact policyGate_ok gate
  case owned => exact validateProjectionOwnership_ok owners
  case heads =>
    intro projection member
    obtain ⟨before, after, split⟩ := List.append_of_mem member
    exact checkEach_ok.mp heads before projection after split
  case freshProjections =>
    intro projection member old present
    rw [← List.zipIdx_map_fst 1 write.projections] at member
    obtain ⟨pair, numbered, rfl⟩ := List.mem_map.mp member
    exact freshProjections pair numbered old present
  case freshRollout => exact freshRollout
  case projections => simp only [projectionRows_zipIdx]
  all_goals rfl

theorem publish_cases (sha256 : Bytes → Hash) (policyIsolation : Bool)
    (write : SegmentPublicationWrite) (store : RouteStore) :
    (∃ store', publish sha256 policyIsolation write store = (.ok .published, store') ∧
      Committed policyIsolation write store store') ∨
    (∃ result, publish sha256 policyIsolation write store = (result, store) ∧
      result ≠ .ok .published) := by
  unfold publish
  cases valid : write.validate with
  | error error => exact .inr ⟨_, rfl, by simp⟩
  | ok u =>
      simp only
      split
      · split
        · exact .inr ⟨_, rfl, by simp⟩
        · exact .inr ⟨_, rfl, by simp⟩
      · cases commit : commitPublication sha256 policyIsolation write store with
        | error error => exact .inr ⟨_, rfl, by simp⟩
        | ok store' =>
            have admitted := SegmentPublicationWrite.validate_ok valid
            exact .inl ⟨store', rfl, commitPublication_ok admitted commit⟩

end CandyCloud
