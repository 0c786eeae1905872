import CandyCloud.Foundation.Precedence
import CandyCloud.Route.Membership

/-! # Replays of a publication

`publication_matches` compares a repeated write with the rows of its first commit, list by list
in the order of their identifiers.
-/

namespace CandyCloud

open Foundation

/-- The write agrees with the stored rows of its publication, the transport
    catalog apart. -/
structure StoredContent (store : RouteStore) (write : SegmentPublicationWrite) : Prop where
  publication : write.publicationRow ∈ store.publications
  projections : ∀ row, row ∈ store.projections ∧ row.publicationId = write.publicationId ↔
    ∃ projection ∈ write.projections, row = projection.projectionRow write.publicationId
  paths : ∀ projection ∈ write.projections, ∀ row,
    row ∈ store.pathCatalog ∧ row.tenantId = projection.tenantId ∧
        row.projectionPublicationId = projection.publicationId ↔
      ∃ path ∈ projection.runtimePaths, row = projection.pathCatalogRow path
  expansions : ∀ row, row ∈ store.expansions ∧ row.segmentPublicationId = write.publicationId ↔
    ∃ expansion ∈ write.expansions, row = expansion.expansionRow write.publicationId

/-- The write agrees with the stored transport nodes of its projections. -/
def StoredTransport (store : RouteStore) (write : SegmentPublicationWrite) : Prop :=
  ∀ projection ∈ write.projections, ∀ row,
    row ∈ store.transportCatalog ∧ row.tenantId = projection.tenantId ∧
        row.projectionPublicationId = projection.publicationId ↔
      ∃ node ∈ projection.transportNodes, row = projection.transportCatalogRow node

/-- A repeated write is answered as it should be: replayed when it equals what
    was stored, divergent otherwise, and without a change. -/
structure ExactReplay (write : SegmentPublicationWrite)
    (result : Except SdwanError PublicationOutcome) (store store' : RouteStore) : Prop where
  replayed : result = .ok .replayed ↔ StoredContent store write ∧ StoredTransport store write
  divergent : ¬ (StoredContent store write ∧ StoredTransport store write) →
    result = .error .divergentReplay
  unchanged : store' = store

def PathCatalogRow.key (row : PathCatalogRow) : Uuid × Uuid :=
  (row.projectionPublicationId, row.candidateId)

/-- The keys of the tables besides those of `Membership`, and a membership row
    for each projection. -/
structure Catalogued (store : RouteStore) : Prop where
  pathKeys : (store.pathCatalog.map PathCatalogRow.key).Nodup
  expansionIds : (store.expansions.map (·.id)).Nodup
  joined : ∀ projection ∈ store.projections, ∃ member ∈ store.members, MemberLink projection member

/-- No publication yet, and empty catalogs. -/
structure RouteStore.Unwritten (store : RouteStore) : Prop extends store.Unpublished where
  pathCatalog : store.pathCatalog = []
  transportCatalog : store.transportCatalog = []
  expansions : store.expansions = []

theorem RouteStore.Unwritten.catalogued {store : RouteStore} (empty : store.Unwritten) :
    Catalogued store := by
  refine ⟨?_, ?_, ?_⟩
  · simp [empty.pathCatalog]
  · simp [empty.expansions]
  · simp [empty.projections]

variable {projection : SiteProjectionPublicationWrite} {publicationId : Uuid}
  {sha256 : Bytes → Hash} {policyIsolation : Bool}

section Inserts

variable {store store' : RouteStore}

theorem insertTransports_paths {nodes : List (Uuid × Uuid)}
    (inserted : updateEach (insertTransport projection) store nodes = .ok store') :
    store'.pathCatalog = store.pathCatalog ∧ store'.expansions = store.expansions := by
  obtain ⟨_, rfl⟩ := insertTransports_ok inserted
  exact ⟨rfl, rfl⟩

theorem insertPath_keys {path : RuntimeProjectionPathCatalogWrite}
    (unique : (store.pathCatalog.map PathCatalogRow.key).Nodup)
    (inserted : insertPath projection store path = .ok store') :
    (store'.pathCatalog.map PathCatalogRow.key).Nodup := by
  simp only [insertPath, bind_ok, insertInto_ok, pure_ok] at inserted
  obtain ⟨-, -, catalog, ⟨fresh, rfl⟩, rfl⟩ := inserted
  refine nodup_concat_key unique ?_
  intro old member same
  have free := fresh old member
  simp only [PathCatalogRow.conflict, Bool.and_eq_false_iff, beq_eq_false_iff_ne] at free
  rw [PathCatalogRow.key, PathCatalogRow.key, Prod.mk.injEq] at same
  rcases free with other | other
  · exact other same.1
  · exact other same.2

theorem insertProjections_keys {numbered : List (SiteProjectionPublicationWrite × Nat)}
    (unique : (store.pathCatalog.map PathCatalogRow.key).Nodup)
    (inserted : updateEach (insertProjection publicationId) store numbered = .ok store') :
    (store'.pathCatalog.map PathCatalogRow.key).Nodup := by
  refine updateEach_invariant
    (P := fun after : RouteStore => (after.pathCatalog.map PathCatalogRow.key).Nodup) ?_ unique
    inserted
  intro before after pair _ kept step
  simp only [insertProjection, bind_ok] at step
  obtain ⟨projections, -, members, -, middle, transports, paths⟩ := step
  refine updateEach_invariant
    (P := fun after : RouteStore => (after.pathCatalog.map PathCatalogRow.key).Nodup) ?_ ?_ paths
  · exact fun _ _ _ _ kept step => insertPath_keys kept step
  · rw [(insertTransports_paths transports).1]
    exact kept

theorem insertExpansions_ids {writes : List ExpansionObjectPublicationWrite}
    (unique : (store.expansions.map (·.id)).Nodup)
    (inserted : updateEach (insertExpansion publicationId) store writes = .ok store') :
    (store'.expansions.map (·.id)).Nodup := by
  refine updateEach_invariant (P := fun after : RouteStore => (after.expansions.map (·.id)).Nodup)
    ?_ unique inserted
  intro before after expansion _ kept step
  simp only [insertExpansion, bind_ok, insertInto_ok, pure_ok] at step
  obtain ⟨expansions, ⟨fresh, rfl⟩, rfl⟩ := step
  refine nodup_concat_key kept ?_
  intro old member same
  have free := fresh old member
  simp only [ExpansionRow.conflict, Bool.or_eq_false_iff, beq_eq_false_iff_ne] at free
  exact free.1 same

theorem commitPublication_keys {write : SegmentPublicationWrite}
    (pathKeys : (store.pathCatalog.map PathCatalogRow.key).Nodup)
    (expansionIds : (store.expansions.map (·.id)).Nodup)
    (committed : commitPublication sha256 policyIsolation write store = .ok store') :
    (store'.pathCatalog.map PathCatalogRow.key).Nodup ∧ (store'.expansions.map (·.id)).Nodup := by
  simp only [commitPublication, insertPublication, bind_ok] at committed
  obtain ⟨-, -, -, -, auditEvents, -, -, -, -, -, events, -, publications, -, middle, projections,
    late, expansions, finish⟩ := committed
  have kept : store'.pathCatalog = late.pathCatalog ∧ store'.expansions = late.expansions := by
    split at finish
    · simp only [bind_ok, pure_ok] at finish
      obtain ⟨-, -, -, -, rfl⟩ := finish
      exact ⟨rfl, rfl⟩
    · simp only [bind_ok, pure_ok] at finish
      obtain ⟨-, -, -, -, rfl⟩ := finish
      exact ⟨rfl, rfl⟩
  have written : (middle.pathCatalog.map PathCatalogRow.key).Nodup := by
    refine insertProjections_keys ?_ projections
    exact pathKeys
  obtain ⟨-, _, _, same⟩ := insertProjections_ok projections
  obtain ⟨_, final⟩ := insertExpansions_ok expansions
  rw [kept.1, kept.2]
  constructor
  · rw [final]
    exact written
  · refine insertExpansions_ids ?_ expansions
    rw [same]
    exact expansionIds

end Inserts

theorem Committed.joined {write : SegmentPublicationWrite} {store store' : RouteStore}
    (committed : Committed policyIsolation write store store')
    (joined : ∀ projection ∈ store.projections, ∃ member ∈ store.members,
      MemberLink projection member) :
    ∀ projection ∈ store'.projections, ∃ member ∈ store'.members,
      MemberLink projection member := by
  intro row present
  rw [committed.members]
  rcases committed.mem_projections.mp present with old | ⟨projection, written, rfl⟩
  · obtain ⟨member, listed, link⟩ := joined row old
    exact ⟨member, List.mem_append_left _ listed, link⟩
  · rw [← List.zipIdx_map_fst 1 write.projections] at written
    obtain ⟨⟨_, ordinal⟩, numbered, rfl⟩ := List.mem_map.mp written
    exact ⟨_, List.mem_append_right _ (List.mem_map_of_mem numbered), rfl, rfl, rfl⟩

theorem publish_catalogued {write : SegmentPublicationWrite} {store : RouteStore}
    (catalogued : Catalogued store) :
    Catalogued (publish sha256 policyIsolation write store).2 := by
  unfold publish
  cases valid : write.validate with
  | error error => exact catalogued
  | ok u =>
      simp only
      split
      · split
        · exact catalogued
        · exact catalogued
      · cases commit : commitPublication sha256 policyIsolation write store with
        | error error => exact catalogued
        | ok store' =>
            obtain ⟨pathKeys, expansionIds⟩ :=
              commitPublication_keys catalogued.pathKeys catalogued.expansionIds commit
            have committed :=
              commitPublication_ok (SegmentPublicationWrite.validate_ok valid) commit
            exact ⟨pathKeys, expansionIds, committed.joined catalogued.joined⟩

theorem routeStep_catalogued {store : RouteStore} (call : RouteCall)
    (inv : Membership store ∧ Catalogued store) :
    Membership (routeStep sha256 store call) ∧ Catalogued (routeStep sha256 store call) := by
  obtain ⟨membership, catalogued⟩ := inv
  cases call with
  | publish policyIsolation write =>
      refine ⟨?_, publish_catalogued catalogued⟩
      exact routeStep_publish sha256 policyIsolation write membership fun _ committed =>
        committed.membership membership
  | report policyIsolation now auditId status =>
      obtain ⟨devices, statuses, rollouts, auditEvents, writes⟩ :=
        report_writes store now auditId policyIsolation status
      rw [routeStep, writes]
      exact ⟨membership.frame ⟨rfl, rfl, rfl⟩, catalogued.pathKeys, catalogued.expansionIds,
        catalogued.joined⟩
  | environment topology segments =>
      exact ⟨membership.frame ⟨rfl, rfl, rfl⟩, catalogued.pathKeys, catalogued.expansionIds,
        catalogued.joined⟩

theorem run_catalogued (sha256 : Bytes → Hash) {start : RouteStore} (empty : start.Unwritten)
    (calls : List RouteCall) :
    Membership (run (routeStep sha256) start calls) ∧
      Catalogued (run (routeStep sha256) start calls) :=
  run_invariant (P := fun store => Membership store ∧ Catalogued store)
    (fun _ call inv => routeStep_catalogued call inv)
    ⟨empty.toUnpublished.membership, empty.catalogued⟩ calls

/-- The keys by which a valid write can be compared as sets. -/
structure Comparable (write : SegmentPublicationWrite) : Prop where
  projections : (write.projections.map (·.publicationId)).Nodup
  paths : ∀ projection ∈ write.projections, (projection.runtimePaths.map (·.candidateId)).Nodup
  expansions : (write.expansions.map (·.publicationId)).Nodup

theorem validate_comparable {write : SegmentPublicationWrite} {u : Unit}
    (valid : write.validate = .ok u) : Comparable write := by
  have admitted := SegmentPublicationWrite.validate_ok valid
  simp only [SegmentPublicationWrite.validate, unit_bind_ok, orElse_bind_ok] at valid
  obtain ⟨-, -, -, -, -, -, -, -, projections, -, expansions⟩ := valid
  refine ⟨admitted.publicationIds, ?_, ?_⟩
  · intro projection member
    obtain ⟨before, after, split⟩ := List.append_of_mem member
    have checked := checkEach_ok.mp projections before projection after split
    simp only [SegmentPublicationWrite.validateProjection, unit_bind_ok, reject_ok,
      malformedOrRepeated, Bool.or_eq_false_iff, Bool.not_eq_false', decide_eq_true_eq] at checked
    exact checked.2.2.2.2.2.2.2.2
  · rw [List.Nodup, List.pairwise_map]
    refine (checkEach_pairwise ?_ expansions).1
    intro seen expansion accepted earlier before same
    simp only [SegmentPublicationWrite.validateExpansion, unit_bind_ok, reject_ok,
      Bool.or_eq_false_iff, List.any_eq_false] at accepted
    have distinct := accepted.2.1.2 earlier before
    simp only [Bool.or_eq_true, beq_iff_eq, not_or] at distinct
    exact distinct.1 same

theorem forall₂_map_iff {α β : Type} {f : β → α} {Q : β → Prop} {l : List α} {m : List β} :
    List.Forall₂ (fun a b => a = f b ∧ Q b) l m ↔ l = m.map f ∧ ∀ b ∈ m, Q b := by
  induction m generalizing l with
  | nil => simp
  | cons b m ih =>
      cases l with
      | nil => simp
      | cons a l =>
          simp only [List.forall₂_cons, ih, List.map_cons, List.cons.injEq, List.forall_mem_cons]
          grind

section Matching

variable {store : RouteStore} {write : SegmentPublicationWrite}

theorem mem_persistedProjections (membership : Membership store) (catalogued : Catalogued store)
    {row : ProjectionRow} :
    row ∈ store.projections.filter (fun p => store.members.any fun m =>
        m.projectionPublicationId == p.id && m.segmentPublicationId == publicationId) ↔
      row ∈ store.projections ∧ row.publicationId = publicationId := by
  simp only [List.mem_filter, List.any_eq_true, Bool.and_eq_true, beq_iff_eq]
  constructor
  · rintro ⟨present, member, listed, sameProjection, samePublication⟩
    obtain ⟨projection, stored, link⟩ := membership.linked member listed
    obtain rfl : projection = row :=
      membership.projection_of_id stored present (link.projectionId.symm.trans sameProjection)
    exact ⟨present, link.publicationId.symm.trans samePublication⟩
  · rintro ⟨present, rfl⟩
    obtain ⟨member, listed, link⟩ := catalogued.joined row present
    exact ⟨present, member, listed, link.projectionId, link.publicationId⟩

theorem persistedPaths_iff (catalogued : Catalogued store)
    (unique : (projection.runtimePaths.map (·.candidateId)).Nodup) :
    persistedPaths store projection =
        (projection.runtimePaths.insertionSort fun a b => a.candidateId ≤ b.candidateId).map
          projection.pathCatalogRow ↔
      ∀ row, row ∈ store.pathCatalog ∧ row.tenantId = projection.tenantId ∧
          row.projectionPublicationId = projection.publicationId ↔
        ∃ path ∈ projection.runtimePaths, row = projection.pathCatalogRow path := by
  have keys : ((store.pathCatalog.filter fun path => path.tenantId == projection.tenantId &&
      path.projectionPublicationId == projection.publicationId).map
        (·.candidateId)).Nodup := by
    rw [List.Nodup, List.pairwise_map]
    have paired : (store.pathCatalog.filter fun path => path.tenantId == projection.tenantId &&
        path.projectionPublicationId == projection.publicationId).Pairwise
          fun a b => a.key ≠ b.key := by
      rw [← List.pairwise_map, ← List.Nodup]
      exact catalogued.pathKeys.sublist (List.filter_sublist.map _)
    refine paired.imp_of_mem ?_
    intro a b memberA memberB different same
    simp only [List.mem_filter, Bool.and_eq_true, beq_iff_eq] at memberA memberB
    apply different
    rw [PathCatalogRow.key, PathCatalogRow.key, memberA.2.2, memberB.2.2, same]
  unfold persistedPaths
  rw [sortedRows_eq_iff PathCatalogRow.candidateId RuntimeProjectionPathCatalogWrite.candidateId
    projection.pathCatalogRow (fun _ => rfl) keys unique]
  simp only [List.mem_filter, Bool.and_eq_true, beq_iff_eq]

theorem persistedExpansions_iff (catalogued : Catalogued store) (comparable : Comparable write) :
    persistedExpansions store write.publicationId =
        (write.expansions.insertionSort fun a b => a.publicationId ≤ b.publicationId).map
          (·.expansionRow write.publicationId) ↔
      ∀ row, row ∈ store.expansions ∧ row.segmentPublicationId = write.publicationId ↔
        ∃ expansion ∈ write.expansions, row = expansion.expansionRow write.publicationId := by
  have keys : ((store.expansions.filter fun e =>
      e.segmentPublicationId == write.publicationId).map (·.id)).Nodup :=
    catalogued.expansionIds.sublist (List.filter_sublist.map _)
  unfold persistedExpansions
  rw [sortedRows_eq_iff ExpansionRow.id ExpansionObjectPublicationWrite.publicationId
    (·.expansionRow write.publicationId) (fun _ => rfl) keys comparable.expansions]
  simp only [List.mem_filter, beq_iff_eq]

variable (membership : Membership store) (catalogued : Catalogued store)
  (comparable : Comparable write)

include membership catalogued comparable

theorem persistedProjections_iff :
    persistedProjections store write.publicationId =
        (write.projections.insertionSort fun a b => a.publicationId ≤ b.publicationId).map
          (·.projectionRow write.publicationId) ↔
      ∀ row, row ∈ store.projections ∧ row.publicationId = write.publicationId ↔
        ∃ projection ∈ write.projections, row = projection.projectionRow write.publicationId := by
  have keys : ((store.projections.filter fun p => store.members.any fun m =>
      m.projectionPublicationId == p.id &&
        m.segmentPublicationId == write.publicationId).map (·.id)).Nodup :=
    membership.projectionIds.sublist (List.filter_sublist.map _)
  unfold persistedProjections
  rw [sortedRows_eq_iff ProjectionRow.id SiteProjectionPublicationWrite.publicationId
    (·.projectionRow write.publicationId) (fun _ => rfl) keys comparable.projections]
  simp only [mem_persistedProjections membership catalogued]

theorem projectionsMatch_iff :
    ((persistedProjections store write.publicationId).length = write.projections.length ∧
      ((persistedProjections store write.publicationId).zip
        (write.projections.insertionSort fun a b => a.publicationId ≤ b.publicationId)).all
          (fun pair => projectionMatches store pair.1 pair.2) = true) ↔
      (∀ row, row ∈ store.projections ∧ row.publicationId = write.publicationId ↔
        ∃ projection ∈ write.projections, row = projection.projectionRow write.publicationId) ∧
      ∀ projection ∈ write.projections, ∀ row,
        row ∈ store.pathCatalog ∧ row.tenantId = projection.tenantId ∧
            row.projectionPublicationId = projection.publicationId ↔
          ∃ path ∈ projection.runtimePaths, row = projection.pathCatalogRow path := by
  have own : ∀ row ∈ persistedProjections store write.publicationId,
      row.publicationId = write.publicationId := by
    intro row listed
    rw [persistedProjections, List.mem_insertionSort,
      mem_persistedProjections membership catalogued] at listed
    exact listed.2
  have paired : List.Forall₂ (fun row projection => projectionMatches store row projection = true)
      (persistedProjections store write.publicationId)
      (write.projections.insertionSort fun a b => a.publicationId ≤ b.publicationId) ↔
      List.Forall₂ (fun row projection =>
        row = projection.projectionRow write.publicationId ∧
          persistedPaths store projection = (projection.runtimePaths.insertionSort
            fun a b => a.candidateId ≤ b.candidateId).map projection.pathCatalogRow)
      (persistedProjections store write.publicationId)
      (write.projections.insertionSort fun a b => a.publicationId ≤ b.publicationId) := by
    simp only [List.forall₂_iff_zip]
    refine and_congr_right fun _ => forall₂_congr fun row projection => ?_
    refine imp_congr_right fun listed => ?_
    rw [projectionMatches, Bool.and_eq_true, beq_iff_eq, beq_iff_eq,
      own row (List.of_mem_zip listed).1]
  have zipped : ((persistedProjections store write.publicationId).length =
      write.projections.length ∧ ((persistedProjections store write.publicationId).zip
        (write.projections.insertionSort fun a b => a.publicationId ≤ b.publicationId)).all
          (fun pair => projectionMatches store pair.1 pair.2) = true) ↔
      List.Forall₂ (fun row projection => projectionMatches store row projection = true)
        (persistedProjections store write.publicationId)
        (write.projections.insertionSort fun a b => a.publicationId ≤ b.publicationId) := by
    rw [List.forall₂_iff_zip, List.length_insertionSort, List.all_eq_true]
    simp only [Prod.forall]
  rw [zipped, paired, forall₂_map_iff, persistedProjections_iff membership catalogued comparable]
  refine and_congr_right fun _ => ?_
  simp only [List.mem_insertionSort]
  exact forall₂_congr fun projection written =>
    persistedPaths_iff catalogued (comparable.paths projection written)

theorem publicationMatches_iff :
    publicationMatches store write = true ↔ StoredContent store write := by
  have found : store.publications.find? (fun p => p.id == write.publicationId) =
      some write.publicationRow ↔ write.publicationRow ∈ store.publications := by
    constructor
    · exact List.mem_of_find?_eq_some
    · intro member
      exact find_of_key membership.publicationIds member fun _ => beq_iff_eq
  have projections := projectionsMatch_iff membership catalogued comparable
  simp only [publicationMatches, Bool.and_eq_true, beq_iff_eq, found,
    persistedExpansions_iff catalogued comparable]
  constructor
  · rintro ⟨⟨⟨publication, length⟩, all⟩, expansions⟩
    obtain ⟨rows, paths⟩ := projections.mp ⟨length, all⟩
    exact ⟨publication, rows, paths, expansions⟩
  · intro stored
    obtain ⟨length, all⟩ := projections.mpr ⟨stored.projections, stored.paths⟩
    exact ⟨⟨⟨stored.publication, length⟩, all⟩, stored.expansions⟩

end Matching

/-- A repeated write is answered as it should be exactly when it does not differ
    from what was stored in the transport nodes alone. -/
theorem exact_replay_iff (sha256 : Bytes → Hash) (start : RouteStore) (empty : start.Unwritten)
    (calls : List RouteCall) (policyIsolation : Bool) (write : SegmentPublicationWrite)
    (valid : write.validate = .ok ())
    (stored : publicationExists (run (routeStep sha256) start calls) write.publicationId = true) :
    ExactReplay write
        (publish sha256 policyIsolation write (run (routeStep sha256) start calls)).1
        (run (routeStep sha256) start calls)
        (publish sha256 policyIsolation write (run (routeStep sha256) start calls)).2 ↔
      (StoredContent (run (routeStep sha256) start calls) write →
        StoredTransport (run (routeStep sha256) start calls) write) := by
  obtain ⟨membership, catalogued⟩ := run_catalogued sha256 empty calls
  have compared := publicationMatches_iff membership catalogued (validate_comparable valid)
  have answer : publish sha256 policyIsolation write (run (routeStep sha256) start calls) =
      if publicationMatches (run (routeStep sha256) start calls) write then
        (.ok .replayed, run (routeStep sha256) start calls)
      else (.error .divergentReplay, run (routeStep sha256) start calls) := by
    rw [publish, valid]
    simp only [stored, if_true]
  rw [answer]
  by_cases content : StoredContent (run (routeStep sha256) start calls) write
  · rw [if_pos (compared.mpr content)]
    constructor
    · intro exact_ _
      exact (exact_.replayed.mp rfl).2
    · intro transported
      refine ⟨⟨fun _ => ⟨content, transported content⟩, fun _ => rfl⟩, ?_, rfl⟩
      intro different
      exact absurd ⟨content, transported content⟩ different
  · rw [if_neg (fun same => content (compared.mp same))]
    constructor
    · intro _ same
      exact absurd same content
    · intro _
      refine ⟨⟨?_, fun same => absurd same.1 content⟩, fun _ => rfl, rfl⟩
      intro replayed
      cases replayed

theorem twoSiteStore_unwritten : twoSiteStore.Unwritten :=
  ⟨twoSiteStore_unpublished, rfl, rfl, rfl⟩

def firstPublication : List RouteCall := [.publish false (sampleWrite 1 false)]

/-- The first publication again, the first site with the transport node of the
    second. -/
def reroutedWrite : SegmentPublicationWrite :=
  { sampleWrite 1 false with
    projections := [{ sampleProjection 1 1 with transportNodes := [(52, 22)] },
      sampleProjection 1 2] }

theorem exact_replay_first :
    ExactReplay (sampleWrite 1 false)
      (publish (fun _ => 0) false (sampleWrite 1 false)
        (run (routeStep fun _ => 0) twoSiteStore firstPublication)).1
      (run (routeStep fun _ => 0) twoSiteStore firstPublication)
      (publish (fun _ => 0) false (sampleWrite 1 false)
        (run (routeStep fun _ => 0) twoSiteStore firstPublication)).2 := by
  refine (exact_replay_iff (fun _ => 0) twoSiteStore twoSiteStore_unwritten firstPublication false
    (sampleWrite 1 false) (by decide +kernel) (by decide +kernel)).mpr ?_
  intro _ projection written row
  have catalog : ∀ projection ∈ (sampleWrite 1 false).projections,
      (run (routeStep fun _ => 0) twoSiteStore firstPublication).transportCatalog.filter
        (fun row => row.tenantId == projection.tenantId &&
          row.projectionPublicationId == projection.publicationId) =
      projection.transportNodes.map projection.transportCatalogRow := by
    decide +kernel
  have members : row ∈ (run (routeStep fun _ => 0) twoSiteStore
      firstPublication).transportCatalog.filter (fun row =>
        row.tenantId == projection.tenantId &&
          row.projectionPublicationId == projection.publicationId) ↔
      row ∈ projection.transportNodes.map projection.transportCatalogRow := by
    rw [catalog projection written]
  simp only [List.mem_filter, Bool.and_eq_true, beq_iff_eq, List.mem_map] at members
  rw [members]
  exact exists_congr fun node => and_congr_right fun _ => eq_comm

/-- A replay with another transport node is taken for the first publication. -/
theorem rerouted_replay_accepted :
    reroutedWrite.validate = .ok () ∧
    publicationExists (run (routeStep fun _ => 0) twoSiteStore firstPublication)
      reroutedWrite.publicationId = true ∧
    ¬ ExactReplay reroutedWrite
      (publish (fun _ => 0) false reroutedWrite
        (run (routeStep fun _ => 0) twoSiteStore firstPublication)).1
      (run (routeStep fun _ => 0) twoSiteStore firstPublication)
      (publish (fun _ => 0) false reroutedWrite
        (run (routeStep fun _ => 0) twoSiteStore firstPublication)).2 := by
  refine ⟨by decide +kernel, by decide +kernel, ?_⟩
  intro exact_
  have answered : (publish (fun _ => 0) false reroutedWrite
      (run (routeStep fun _ => 0) twoSiteStore firstPublication)).1 = .ok .replayed := by
    decide +kernel
  -- The stored node of the first site is not among the nodes of the write.
  have present : (sampleProjection 1 1).transportCatalogRow (51, 21) ∈
      (run (routeStep fun _ => 0) twoSiteStore firstPublication).transportCatalog := by
    decide +kernel
  have transported := (exact_.replayed.mp answered).2
  obtain ⟨node, listed, same⟩ := (transported { sampleProjection 1 1 with
    transportNodes := [(52, 22)] } List.mem_cons_self _).mp ⟨present, rfl, rfl⟩
  obtain rfl := List.mem_singleton.mp listed
  exact absurd same (by decide)

end CandyCloud
