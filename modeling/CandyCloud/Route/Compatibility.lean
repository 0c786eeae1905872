import CandyCloud.Route.Barrier
import CandyCloud.Route.Catalog

/-! # The compatibility catalog

Which older generations of its peers a device is told about.
-/

namespace CandyCloud

open Foundation

/-- Projections are identified by their attachments, as the publisher writes them. -/
def NamesAttachments (store : RouteStore) : Prop :=
  ∀ p ∈ store.projections, p.projectionId = p.attachmentId

variable {a : AttachmentRow} {p : ProjectionRow} {record : RuntimeConfigurationRecord}

theorem mem_activeProjection {store : RouteStore} (active : store.activeProjection a = some p)
    : p ∈ store.projections := by
  obtain ⟨status, -, found⟩ := Option.bind_eq_some_iff.mp active
  exact List.mem_of_find?_eq_some found

theorem Cataloged.compatible_le_one {store : RouteStore} (inv : Cataloged store)
    (a : AttachmentRow) {generation : Nat} {test : ProjectionRow → Bool}
    (older : ∀ p, test p = true → p.segmentGeneration < generation) :
    ((store.compatibleProjections a generation).filter test).length ≤ 1 := by
  rw [RouteStore.compatibleProjections, List.filter_filter]
  cases active : store.activeProjection a with
  | none =>
      refine length_filter_key_le_one inv.places (a.tenantId, a.segmentId, generation - 1, a.id) ?_
      intro p _ selected
      simp only [Option.map_none, Bool.and_eq_true, beq_iff_eq, Bool.or_eq_true,
        reduceCtorEq, false_or] at selected
      obtain ⟨-, ⟨⟨⟨⟨⟨tenant, segment⟩, -⟩, attachment⟩, -⟩, -⟩, -, previous⟩ := selected
      rw [ProjectionRow.place, tenant, segment, previous, attachment]
  | some running =>
      by_cases current : running.segmentGeneration = generation
      · refine length_filter_key_le_one inv.places (a.tenantId, a.segmentId, generation - 1, a.id) ?_
        intro p member selected
        simp only [Option.map_some, Bool.and_eq_true, beq_iff_eq, Bool.or_eq_true,
          Option.some.injEq] at selected
        obtain ⟨passes, ⟨⟨⟨⟨⟨tenant, segment⟩, -⟩, attachment⟩, -⟩, -⟩, chosen⟩ := selected
        rcases chosen with same | ⟨-, previous⟩
        · -- what a peer runs of the delivered generation is not older than it
          have equal := inv.rollout.membership.projection_of_id member (mem_activeProjection active)
            same
          have below := older p passes
          rw [equal, current] at below
          exact absurd below (Nat.lt_irrefl _)
        · rw [ProjectionRow.place, tenant, segment, previous, attachment]
      · refine length_filter_key_le_one inv.rollout.membership.projectionIds running.id ?_
        intro p _ selected
        simp only [Option.map_some, Option.isNone_some, Bool.false_or, Bool.and_eq_true,
          beq_iff_eq, Bool.or_eq_true, Option.some.injEq] at selected
        rcases selected.2.2 with same | ⟨differs, -⟩
        · exact same
        · exact absurd differs current

def RouteStore.compatibleOf (store : RouteStore) (policyIsolation : Bool) (now : Instant)
    (generation : Nat) (projectionId : Uuid) (a : AttachmentRow) :
    List (ProjectionRow × PublicationRow) :=
  ((store.compatibleProjections a generation).filter fun p =>
    p.projectionId != projectionId && decide (p.segmentGeneration < generation) &&
    (!policyIsolation || decide (generation - maxCompatibilityGenerations ≤ p.segmentGeneration)) &&
    (p.segmentGeneration == generation - 1 ||
      (policyIsolation && store.onlyPolicySince p generation))).flatMap fun p =>
    (store.retainedPublications now p).map fun publication => (p, publication)

section Query

variable {store : RouteStore} {policyIsolation : Bool} {now : Instant}
  {lookup : RuntimeConfigurationLookup} {segmentId : Uuid} {generation : Nat} {projectionId : Uuid}

theorem compatibleCatalogRows_eq :
    store.compatibleCatalogRows policyIsolation now lookup segmentId generation projectionId =
      if store.servesTransport lookup segmentId generation projectionId then
        ((store.compatiblePeers lookup.tenantId segmentId generation).flatMap
          (store.compatibleOf policyIsolation now generation projectionId)).insertionSort
            RouteStore.compatibleOrder
      else [] := rfl

/-- What the query says about one of its rows. -/
structure CompatibleRow (store : RouteStore) (tenantId segmentId : Uuid) (generation : Nat)
    (projectionId : Uuid) (row : ProjectionRow × PublicationRow) : Prop where
  projection : row.1 ∈ store.projections
  publication : row.2 ∈ store.publications
  link : ProjectionLink row.2 row.1
  tenant : row.1.tenantId = tenantId
  segment : row.1.segmentId = segmentId
  remote : row.1.projectionId ≠ projectionId
  older : row.1.segmentGeneration < generation
  window : generation ≤ row.1.segmentGeneration + maxCompatibilityGenerations
  policyOnly : row.1.segmentGeneration + 1 < generation →
    store.onlyPolicySince row.1 generation = true
  targeted : ∃ target ∈ store.projections, target.tenantId = tenantId ∧
    target.segmentId = segmentId ∧ target.segmentGeneration = generation ∧
    target.attachmentId = row.1.attachmentId

variable {row : ProjectionRow × PublicationRow}

theorem mem_compatibleOf
    (member : row ∈ store.compatibleOf policyIsolation now generation projectionId a) :
    row.1 ∈ store.projections ∧ row.2 ∈ store.publications ∧ ProjectionLink row.2 row.1 ∧
      row.1.tenantId = a.tenantId ∧ row.1.segmentId = a.segmentId ∧ row.1.attachmentId = a.id ∧
      row.1.projectionId ≠ projectionId ∧ row.1.segmentGeneration < generation ∧
      generation ≤ row.1.segmentGeneration + maxCompatibilityGenerations ∧
      (row.1.segmentGeneration + 1 < generation →
        store.onlyPolicySince row.1 generation = true) := by
  simp only [RouteStore.compatibleOf, RouteStore.compatibleProjections,
    RouteStore.retainedPublications, List.mem_flatMap, List.mem_map, List.mem_filter,
    Bool.and_eq_true, Bool.or_eq_true, beq_iff_eq, bne_iff_ne, decide_eq_true_eq,
    Bool.not_eq_true'] at member
  obtain ⟨p, ⟨⟨projected, place⟩, ⟨⟨remote, older⟩, window⟩, unchanged⟩, publication, kept, rfl⟩ :=
    member
  obtain ⟨publication', ⟨published, link⟩, -, -, rfl⟩ := kept
  obtain ⟨⟨⟨⟨⟨⟨tenant, segment⟩, -⟩, attachment⟩, -⟩, -⟩, -⟩ := place
  obtain ⟨⟨⟨⟨id, publicationTenant⟩, publicationSegment⟩, publicationGeneration⟩, -⟩ := link
  refine ⟨projected, published, ?_, tenant, segment, attachment, remote, older, ?_, ?_⟩
  · exact ⟨id.symm, publicationTenant.symm, publicationSegment.symm, publicationGeneration.symm⟩
  · unfold maxCompatibilityGenerations at window ⊢
    change generation ≤ p.segmentGeneration + 32
    rcases unchanged with previous | ⟨isolated, -⟩
    · omega
    · rcases window with off | window
      · rw [isolated] at off
        cases off
      · omega
  · intro behind
    change p.segmentGeneration + 1 < generation at behind
    rcases unchanged with previous | ⟨-, unchanged⟩
    · omega
    · exact unchanged

theorem compatibleRow_of_mem
    (member : row ∈ store.compatibleCatalogRows policyIsolation now lookup segmentId generation
      projectionId) :
    CompatibleRow store lookup.tenantId segmentId generation projectionId row := by
  rw [compatibleCatalogRows_eq] at member
  split at member
  · rw [List.mem_insertionSort, List.mem_flatMap] at member
    obtain ⟨a, peer, listed⟩ := member
    simp only [RouteStore.compatiblePeers, List.mem_flatMap, List.mem_map, List.mem_filter,
      Bool.and_eq_true, beq_iff_eq] at peer
    obtain ⟨a', ⟨-, ⟨⟨⟨⟨tenant, segment⟩, -⟩, -⟩, -⟩, -⟩, target, ⟨projected, place⟩, rfl⟩ := peer
    obtain ⟨⟨⟨⟨⟨targetTenant, targetSegment⟩, targetAttachment⟩, -⟩, -⟩, targetGeneration⟩ := place
    obtain ⟨projection, publication, link, rowTenant, rowSegment, rowAttachment, remote, older,
      window, policyOnly⟩ := mem_compatibleOf listed
    refine ⟨projection, publication, link, rowTenant.trans tenant, rowSegment.trans segment, remote,
      older, window, policyOnly, target, projected, ?_, ?_, targetGeneration, ?_⟩
    · exact targetTenant.trans tenant
    · exact targetSegment.trans segment
    · exact targetAttachment.trans rowAttachment.symm
  · cases member

theorem Cataloged.compatibleOf_le_one (inv : Cataloged store) (a : AttachmentRow) :
    (store.compatibleOf policyIsolation now generation projectionId a).length ≤ 1 := by
  refine length_flatMap_le_one (inv.compatible_le_one a ?_) fun p _ => ?_
  · intro p passes
    simp only [Bool.and_eq_true, decide_eq_true_eq] at passes
    exact passes.1.1.2
  · rw [List.length_map]
    exact inv.retained_le_one now p

theorem Cataloged.peers_nodup (inv : Cataloged store)
    (keys : (store.topology.attachments.map (·.id)).Nodup) (tenantId : Uuid) :
    ((store.compatiblePeers tenantId segmentId generation).map (·.id)).Nodup := by
  have sub : ((store.compatiblePeers tenantId segmentId generation).map (·.id)).Sublist
      ((store.topology.attachments.filter fun a =>
        a.tenantId == tenantId && a.segmentId == segmentId && a.routed &&
          store.topology.activeSite a.tenantId a.siteId &&
          store.topology.activeDevice a.tenantId a.deviceId &&
          store.topology.activeDeviceKey a.tenantId a.deviceId a.deviceKeyId).map (·.id)) := by
    refine map_flatMap_sublist ?_ ?_
    · intro a _
      rw [List.length_map]
      refine length_filter_key_le_one inv.places (a.tenantId, a.segmentId, generation, a.id) ?_
      intro target _ selected
      simp only [Bool.and_eq_true, beq_iff_eq] at selected
      obtain ⟨⟨⟨⟨⟨tenant, segment⟩, attachment⟩, -⟩, -⟩, number⟩ := selected
      rw [ProjectionRow.place, tenant, segment, number, attachment]
    · intro a _ joined listed
      obtain ⟨-, -, rfl⟩ := List.mem_map.mp listed
      rfl
  exact sub.nodup ((List.Sublist.map _ List.filter_sublist).nodup keys)

theorem Cataloged.compatible_nodup (inv : Cataloged store)
    (keys : (store.topology.attachments.map (·.id)).Nodup) :
    ((store.compatibleCatalogRows policyIsolation now lookup segmentId generation
      projectionId).map (·.1.attachmentId)).Nodup := by
  rw [compatibleCatalogRows_eq]
  split
  · refine ((List.perm_insertionSort _ _).map _).nodup_iff.mpr ?_
    have sub : (((store.compatiblePeers lookup.tenantId segmentId generation).flatMap
        (store.compatibleOf policyIsolation now generation projectionId)).map
          (·.1.attachmentId)).Sublist
        ((store.compatiblePeers lookup.tenantId segmentId generation).map (·.id)) := by
      refine map_flatMap_sublist (fun a _ => inv.compatibleOf_le_one a) ?_
      intro a _ row listed
      exact (mem_compatibleOf listed).2.2.2.2.2.1
    exact sub.nodup (inv.peers_nodup keys lookup.tenantId)
  · exact List.nodup_nil

end Query

/-- The groups that some rows have been sorted into. -/
structure Grouped (rows : List (ProjectionRow × PublicationRow))
    (groups : List RuntimeCompatibilityGeneration) : Prop where
  peers : groups.flatMap (·.peerProjectionCatalog) = rows.map (·.1.peer)
  ascending : (groups.map (·.segmentGeneration)).Pairwise (· < ·)
  nonempty : ∀ group ∈ groups, group.peerProjectionCatalog ≠ []
  made : ∀ group ∈ groups, ∃ row ∈ rows, group.segmentGeneration = row.2.generation ∧
    group.segmentContentHash = row.2.contentHash ∧
    group.signedSegmentEnvelope = row.2.signedEnvelope
  listed : ∀ row ∈ rows, ∃ group ∈ groups, group.segmentGeneration = row.2.generation ∧
    row.1.peer ∈ group.peerProjectionCatalog

theorem grouped_nil : Grouped [] [] := by
  constructor
  case peers => rfl
  case ascending => exact List.Pairwise.nil
  all_goals
    intro _ member
    cases member

section Grouping

variable {rows : List (ProjectionRow × PublicationRow)}
  {groups : List RuntimeCompatibilityGeneration} {row : ProjectionRow × PublicationRow}

theorem Grouped.opens (grouped : Grouped rows groups)
    (above : ∀ group ∈ groups, group.segmentGeneration < row.2.generation) :
    Grouped (rows ++ [row])
      (groups ++ [⟨row.2.generation, row.2.contentHash, row.2.signedEnvelope, [row.1.peer]⟩]) where
  peers := by
    rw [List.flatMap_append, grouped.peers, List.map_append]
    rfl
  ascending := by
    rw [List.map_append, List.pairwise_append]
    refine ⟨grouped.ascending, List.pairwise_singleton _ _, ?_⟩
    intro generation earlier last member
    obtain ⟨group, present, rfl⟩ := List.mem_map.mp earlier
    obtain rfl := List.mem_singleton.mp member
    exact above group present
  nonempty := by
    intro group member
    rcases mem_concat.mp member with old | new
    · exact grouped.nonempty group old
    · rw [new]
      exact List.cons_ne_nil _ _
  made := by
    intro group member
    rcases mem_concat.mp member with old | new
    · obtain ⟨origin, present, facts⟩ := grouped.made group old
      exact ⟨origin, List.mem_append_left _ present, facts⟩
    · rw [new]
      exact ⟨row, List.mem_append_right _ (List.mem_singleton_self row), rfl, rfl, rfl⟩
  listed := by
    intro other member
    rcases mem_concat.mp member with old | new
    · obtain ⟨group, present, facts⟩ := grouped.listed other old
      exact ⟨group, List.mem_append_left _ present, facts⟩
    · rw [new]
      exact ⟨_, List.mem_append_right _ (List.mem_singleton_self _), rfl, List.mem_singleton_self _⟩

theorem Grouped.joins {init : List RuntimeCompatibilityGeneration}
    {last : RuntimeCompatibilityGeneration} (grouped : Grouped rows (init ++ [last]))
    (same : last.segmentGeneration = row.2.generation) :
    Grouped (rows ++ [row]) (init ++
      [{ last with peerProjectionCatalog := last.peerProjectionCatalog ++ [row.1.peer] }]) where
  peers := by
    have peers := grouped.peers
    rw [List.flatMap_append, List.flatMap_singleton] at peers
    rw [List.flatMap_append, List.flatMap_singleton, List.map_append, ← peers, List.append_assoc]
    rfl
  ascending := by
    have ascending := grouped.ascending
    rw [List.map_append] at ascending ⊢
    exact ascending
  nonempty := by
    intro group member
    rcases mem_concat.mp member with old | new
    · exact grouped.nonempty group (List.mem_append_left _ old)
    · rw [new]
      exact List.append_ne_nil_of_right_ne_nil _ (List.cons_ne_nil _ _)
  made := by
    intro group member
    rcases mem_concat.mp member with old | new
    · obtain ⟨origin, present, facts⟩ := grouped.made group (List.mem_append_left _ old)
      exact ⟨origin, List.mem_append_left _ present, facts⟩
    · rw [new]
      obtain ⟨origin, present, facts⟩ :=
        grouped.made last (List.mem_append_right _ (List.mem_singleton_self last))
      exact ⟨origin, List.mem_append_left _ present, facts⟩
  listed := by
    intro other member
    rcases mem_concat.mp member with old | new
    · obtain ⟨group, present, generation, peer⟩ := grouped.listed other old
      rcases mem_concat.mp present with earlier | here
      · exact ⟨group, List.mem_append_left _ earlier, generation, peer⟩
      · obtain rfl := here
        exact ⟨_, List.mem_append_right _ (List.mem_singleton_self _), generation,
          List.mem_append_left _ peer⟩
    · rw [new]
      exact ⟨_, List.mem_append_right _ (List.mem_singleton_self _), same,
        List.mem_append_right _ (List.mem_singleton_self _)⟩

theorem ascending_length_le {numbers : List Nat} (low width : Nat)
    (ascending : numbers.Pairwise (· < ·)) (within : ∀ n ∈ numbers, low ≤ n ∧ n < low + width) :
    numbers.length ≤ width := by
  have distinct : numbers.Nodup := ascending.imp fun below => Nat.ne_of_lt below
  have subset : numbers ⊆ List.range' low width := by
    intro n member
    obtain ⟨lower, upper⟩ := within n member
    exact List.mem_range'_1.mpr ⟨lower, upper⟩
  simpa using (List.subperm_of_subset distinct subset).length_le

theorem Grouped.unlisted (grouped : Grouped rows groups)
    (fresh : ∀ seen ∈ rows, seen.1.projectionId ≠ row.1.projectionId) :
    (groups.any fun group => group.peerProjectionCatalog.any fun peer =>
      peer.projectionId == row.1.projectionId) = false := by
  rw [List.any_eq_false]
  intro group member repeated
  obtain ⟨peer, listed, same⟩ := List.any_eq_true.mp repeated
  have present : peer ∈ rows.map (·.1.peer) := by
    rw [← grouped.peers]
    exact List.mem_flatMap.mpr ⟨group, member, listed⟩
  obtain ⟨seen, earlier, rfl⟩ := List.mem_map.mp present
  exact fresh seen earlier (beq_iff_eq.mp same)

theorem Grouped.round {low : Nat} (grouped : Grouped rows groups)
    (fresh : ∀ seen ∈ rows, seen.1.projectionId ≠ row.1.projectionId)
    (sorted : ∀ seen ∈ rows, seen.2.generation ≤ row.2.generation)
    (within : ∀ seen ∈ rows ++ [row], low ≤ seen.2.generation ∧
      seen.2.generation < low + maxCompatibilityGenerations) :
    ∃ groups', groupCompatible groups row = .ok groups' ∧ Grouped (rows ++ [row]) groups' := by
  have below : ∀ group ∈ groups, group.segmentGeneration ≤ row.2.generation := by
    intro group member
    obtain ⟨seen, present, generation, -⟩ := grouped.made group member
    rw [generation]
    exact sorted seen present
  unfold groupCompatible
  rw [grouped.unlisted fresh]
  cases found : groups.getLast? with
  | none =>
      obtain rfl := List.getLast?_eq_none_iff.mp found
      refine ⟨_, rfl, grouped.opens ?_⟩
      intro group member
      cases member
  | some last =>
      obtain ⟨init, rfl⟩ := List.getLast?_eq_some_iff.mp found
      by_cases same : last.segmentGeneration = row.2.generation
      · refine ⟨_, ?_, grouped.joins same⟩
        simp [reject, same, bind, Except.bind, pure, Except.pure]
      · have above : ∀ group ∈ init ++ [last], group.segmentGeneration < row.2.generation := by
          intro group member
          have ascending := grouped.ascending
          rw [List.map_append, List.pairwise_append] at ascending
          have top := below last (List.mem_append_right _ (List.mem_singleton_self last))
          rcases mem_concat.mp member with earlier | here
          · have step := ascending.2.2 group.segmentGeneration (List.mem_map_of_mem earlier)
              last.segmentGeneration (List.mem_singleton_self _)
            omega
          · rw [here]
            omega
        have opened := grouped.opens above
        have few := ascending_length_le low maxCompatibilityGenerations opened.ascending (by
            intro n member
            obtain ⟨group, present, rfl⟩ := List.mem_map.mp member
            obtain ⟨seen, listed, generation, -⟩ := opened.made group present
            rw [generation]
            exact within seen listed)
        have room : ((init ++ [last]).length == maxCompatibilityGenerations) = false := by
          rw [List.length_map, List.length_append, List.length_singleton] at few
          exact beq_eq_false_iff_ne.mpr (by omega)
        have other : (last.segmentGeneration == row.2.generation) = false :=
          beq_eq_false_iff_ne.mpr same
        refine ⟨_, ?_, opened⟩
        simp only [room, other]
        rfl

end Grouping

instance : IsTrans (ProjectionRow × PublicationRow) RouteStore.compatibleOrder where
  trans a b c := by
    simp only [RouteStore.compatibleOrder, RouteStore.projectionOrder, BitVec.lt_def,
      ← BitVec.toNat_inj]
    omega

instance : Std.Total RouteStore.compatibleOrder where
  total a b := by
    simp only [RouteStore.compatibleOrder, RouteStore.projectionOrder, BitVec.lt_def,
      ← BitVec.toNat_inj]
    omega

section Loop

variable {store : RouteStore} {policyIsolation : Bool} {now : Instant}
  {lookup : RuntimeConfigurationLookup} {segmentId : Uuid} {generation : Nat} {projectionId : Uuid}

theorem compatible_sorted : (store.compatibleCatalogRows policyIsolation now lookup segmentId
    generation projectionId).Pairwise fun a b => a.2.generation ≤ b.2.generation := by
  rw [compatibleCatalogRows_eq]
  split
  · refine (List.pairwise_insertionSort RouteStore.compatibleOrder _).imp ?_
    intro a b order
    rcases order with below | ⟨same, -⟩
    · exact Nat.le_of_lt below
    · exact Nat.le_of_eq same
  · exact List.Pairwise.nil

theorem Cataloged.compatible_ids (inv : Cataloged store) (named : NamesAttachments store)
    (keys : (store.topology.attachments.map (·.id)).Nodup) :
    ((store.compatibleCatalogRows policyIsolation now lookup segmentId generation
      projectionId).map (·.1.projectionId)).Nodup := by
  have same : (store.compatibleCatalogRows policyIsolation now lookup segmentId generation
      projectionId).map (·.1.projectionId) = (store.compatibleCatalogRows policyIsolation now lookup
        segmentId generation projectionId).map (·.1.attachmentId) :=
    List.map_congr_left fun row member => named row.1 (compatibleRow_of_mem member).projection
  rw [same]
  exact inv.compatible_nodup keys

theorem Cataloged.compatible_bounded (inv : Cataloged store)
    (keys : (store.topology.attachments.map (·.id)).Nodup) :
    (store.compatibleCatalogRows policyIsolation now lookup segmentId generation
      projectionId).length ≤ maxProjections := by
  obtain ⟨attachments, few, all⟩ := inv.attachments_bounded lookup.tenantId segmentId generation
  refine (length_le_of_keys (inv.compatible_nodup keys) ?_).trans few
  intro row member
  obtain ⟨target, projected, tenant, segment, number, attachment⟩ :=
    (compatibleRow_of_mem member).targeted
  rw [← attachment]
  exact all target projected tenant segment number

theorem Cataloged.groups (inv : Cataloged store) (named : NamesAttachments store)
    (keys : (store.topology.attachments.map (·.id)).Nodup) :
    ∃ groups, updateEach groupCompatible [] (store.compatibleCatalogRows policyIsolation now lookup
        segmentId generation projectionId) = .ok groups ∧
      Grouped (store.compatibleCatalogRows policyIsolation now lookup segmentId generation
        projectionId) groups := by
  have unique : ((store.compatibleCatalogRows policyIsolation now lookup segmentId generation
      projectionId).map (·.1.projectionId)).Nodup := inv.compatible_ids named keys
  have order : (store.compatibleCatalogRows policyIsolation now lookup segmentId generation
      projectionId).Pairwise fun a b => a.2.generation ≤ b.2.generation := compatible_sorted
  refine updateEach_succeeds ?_ grouped_nil
  intro seen row rest groups split grouped
  have within : ∀ other ∈ seen ++ [row], generation - maxCompatibilityGenerations ≤
      other.2.generation ∧ other.2.generation <
        generation - maxCompatibilityGenerations + maxCompatibilityGenerations := by
    intro other member
    have listed : other ∈ store.compatibleCatalogRows policyIsolation now lookup segmentId
        generation projectionId := by
      rw [split, List.append_cons]
      exact List.mem_append_left rest member
    have facts := compatibleRow_of_mem listed
    have window := facts.window
    have older := facts.older
    rw [facts.link.generation] at window older
    omega
  rw [split, List.map_append, List.map_cons, List.nodup_append] at unique
  rw [split, List.pairwise_append] at order
  refine grouped.round ?_ ?_ within
  · intro other member
    exact unique.2.2 other.1.projectionId (List.mem_map_of_mem member) row.1.projectionId
      List.mem_cons_self
  · intro other member
    exact order.2.2 other member row List.mem_cons_self

end Loop

section Catalog

variable {store : RouteStore} {tenantId segmentId : Uuid} {generation : Nat} {projectionId : Uuid}

theorem mem_catalogRows
    (member : p ∈ store.catalogRows tenantId segmentId generation projectionId) :
    p ∈ store.projections ∧ p.tenantId = tenantId ∧ p.segmentId = segmentId ∧
      p.segmentGeneration = generation ∧ p.projectionId ≠ projectionId := by
  simp only [RouteStore.catalogRows, List.mem_insertionSort, List.mem_map, List.mem_filter,
    List.mem_flatMap, Bool.and_eq_true, beq_iff_eq, bne_iff_ne] at member
  obtain ⟨delivery, ⟨⟨q, ⟨projected, ⟨⟨tenant, segment⟩, number⟩, remote⟩, joined⟩, -⟩, rfl⟩ := member
  simp only [RouteStore.deliveriesOf, List.mem_flatMap, List.mem_map] at joined
  obtain ⟨_, -, _, -, _, -, rfl⟩ := joined
  exact ⟨projected, tenant, segment, number, remote⟩

theorem Cataloged.catalog_part (inv : Cataloged store) :
    ∃ rows : List ProjectionRow, rows.Sublist store.projections ∧
      (store.catalogRows tenantId segmentId generation projectionId).Perm rows := by
  refine ⟨_, ?_, List.perm_insertionSort _ _⟩
  have joined : (((store.projections.filter fun p =>
      p.tenantId == tenantId && p.segmentId == segmentId && p.segmentGeneration == generation &&
        p.projectionId != projectionId).flatMap store.deliveriesOf).map (·.projection)).Sublist
      ((store.projections.filter fun p =>
        p.tenantId == tenantId && p.segmentId == segmentId && p.segmentGeneration == generation &&
          p.projectionId != projectionId).map id) := by
    refine map_flatMap_sublist (fun p _ => inv.deliveriesOf_le_one p) ?_
    intro p _ delivery member
    simp only [RouteStore.deliveriesOf, List.mem_flatMap, List.mem_map] at member
    obtain ⟨_, -, _, -, _, -, rfl⟩ := member
    rfl
  rw [List.map_id] at joined
  exact (List.Sublist.map _ List.filter_sublist).trans (joined.trans List.filter_sublist)

theorem Cataloged.catalog_nodup (inv : Cataloged store) :
    ((store.catalogRows tenantId segmentId generation projectionId).map
      (·.attachmentId)).Nodup := by
  obtain ⟨rows, part, perm⟩ := inv.catalog_part
  have within : ∀ p ∈ rows, p.tenantId = tenantId ∧ p.segmentId = segmentId ∧
      p.segmentGeneration = generation := by
    intro p member
    obtain ⟨-, tenant, segment, number, -⟩ := mem_catalogRows (perm.mem_iff.mpr member)
    exact ⟨tenant, segment, number⟩
  exact (perm.map _).nodup_iff.mpr (inv.attachments_nodup part within)

theorem Cataloged.catalog_bounded (inv : Cataloged store) :
    (store.catalogRows tenantId segmentId generation projectionId).length ≤ maxProjections := by
  obtain ⟨attachments, few, all⟩ := inv.attachments_bounded tenantId segmentId generation
  refine (length_le_of_keys inv.catalog_nodup ?_).trans few
  intro p member
  obtain ⟨projected, tenant, segment, number, -⟩ := mem_catalogRows member
  exact all p projected tenant segment number

theorem Cataloged.catalog_ids (inv : Cataloged store) (named : NamesAttachments store) :
    ((store.catalogRows tenantId segmentId generation projectionId).map
      (·.projectionId)).Nodup := by
  have same : (store.catalogRows tenantId segmentId generation projectionId).map (·.projectionId) =
      (store.catalogRows tenantId segmentId generation projectionId).map (·.attachmentId) :=
    List.map_congr_left fun p member => named p (mem_catalogRows member).1
  rw [same]
  exact inv.catalog_nodup

end Catalog

/-- What a device is told about the older generations of its peers. -/
structure Compatible (store : RouteStore) (record : RuntimeConfigurationRecord) : Prop where
  ascending : (record.compatibilityGenerations.map (·.segmentGeneration)).SortedLT
  window : ∀ entry ∈ record.compatibilityGenerations,
    record.segmentGeneration ≤ entry.segmentGeneration + maxCompatibilityGenerations ∧
      entry.segmentGeneration + 1 ≤ record.segmentGeneration
  peers : (record.compatiblePeers.map (·.projectionId)).Nodup
  remote : ∀ peer ∈ record.compatiblePeers, peer.projectionId ≠ record.projectionId
  policyOnly : ∀ entry ∈ record.compatibilityGenerations,
    entry.segmentGeneration + 1 < record.segmentGeneration →
      ∀ publication ∈ store.publications, publication.tenantId = record.tenantId →
        publication.segmentId = record.segmentId →
        entry.segmentGeneration < publication.generation →
        publication.generation ≤ record.segmentGeneration →
        publication.activationMode = .policyOnly

theorem invalidPeer_sound (sound : p.Sound) (remote : p.projectionId ≠ record.projectionId)
    : record.invalidPeer p.peer = false := by
  simp only [RuntimeConfigurationRecord.invalidPeer, ProjectionRow.peer, Bool.or_eq_false_iff,
    beq_eq_false_iff_ne]
  exact ⟨⟨⟨⟨remote, sound.projectionId⟩, sound.generation⟩, sound.hash⟩, sound.envelope⟩

section Record

variable {store : RouteStore} {policyIsolation : Bool} {now : Instant}
  {lookup : RuntimeConfigurationLookup} {delivery : Delivery}
  {groups : List RuntimeCompatibilityGeneration}

/-- The rows that the delivered projection is compatible with. -/
def compatibleWith (store : RouteStore) (policyIsolation : Bool) (now : Instant)
    (lookup : RuntimeConfigurationLookup) (p : ProjectionRow) :
    List (ProjectionRow × PublicationRow) :=
  store.compatibleCatalogRows policyIsolation now lookup p.segmentId p.segmentGeneration
    p.projectionId

def deliveredRecord (store : RouteStore) (lookup : RuntimeConfigurationLookup) (delivery : Delivery)
    (phase : RuntimeConfigurationActivationPhase) (groups : List RuntimeCompatibilityGeneration) :
    RuntimeConfigurationRecord :=
  assembleRecord delivery phase (store.catalogRows lookup.tenantId delivery.projection.segmentId
    delivery.projection.segmentGeneration delivery.projection.projectionId) groups

theorem Grouped.compatible (inv : Cataloged store) (named : NamesAttachments store)
    (keys : (store.topology.attachments.map (·.id)).Nodup)
    (tenant : delivery.projection.tenantId = lookup.tenantId)
    (grouped : Grouped (compatibleWith store policyIsolation now lookup delivery.projection) groups)
    (phase : RuntimeConfigurationActivationPhase) :
    Compatible store (deliveredRecord store lookup delivery phase groups) where
  ascending := grouped.ascending.sortedLT
  window := by
    intro entry member
    obtain ⟨row, listed, generation, -⟩ := grouped.made entry member
    have facts := compatibleRow_of_mem listed
    have window := facts.window
    have older := facts.older
    rw [facts.link.generation, ← generation] at window older
    exact ⟨window, older⟩
  peers := by
    have unique : ((compatibleWith store policyIsolation now lookup delivery.projection).map
        (·.1.projectionId)).Nodup := inv.compatible_ids named keys
    rw [show (deliveredRecord store lookup delivery phase groups).compatiblePeers = _ from
      grouped.peers, List.map_map]
    exact unique
  remote := by
    intro peer member
    rw [show (deliveredRecord store lookup delivery phase groups).compatiblePeers = _ from
      grouped.peers] at member
    obtain ⟨row, listed, rfl⟩ := List.mem_map.mp member
    exact (compatibleRow_of_mem listed).remote
  policyOnly := by
    intro entry member behind publication published publicationTenant publicationSegment later upto
    obtain ⟨row, listed, generation, -⟩ := grouped.made entry member
    have facts := compatibleRow_of_mem listed
    rw [generation, ← facts.link.generation] at behind later
    have unchanged := facts.policyOnly behind
    simp only [RouteStore.onlyPolicySince, Bool.not_eq_true', List.any_eq_false, Bool.and_eq_true,
      beq_iff_eq, decide_eq_true_eq, bne_iff_ne, not_and, not_not] at unchanged
    refine unchanged publication published ⟨⟨⟨?_, ?_⟩, later⟩, upto⟩
    · exact publicationTenant.trans (tenant.trans facts.tenant.symm)
    · exact publicationSegment.trans facts.segment.symm

theorem Grouped.valid (inv : Cataloged store)
    (grouped : Grouped (compatibleWith store policyIsolation now lookup delivery.projection) groups)
    (few : (compatibleWith store policyIsolation now lookup delivery.projection).length
      ≤ maxProjections) (projectionId : record.projectionId = delivery.projection.projectionId)
    (generation : record.segmentGeneration = delivery.projection.segmentGeneration)
    (fits : record.segmentGeneration ≤ u64Max) {group : RuntimeCompatibilityGeneration}
    (member : group ∈ groups) : record.invalidCompatibility group = false := by
  obtain ⟨row, listed, number, hash, envelope⟩ := grouped.made group member
  have facts := compatibleRow_of_mem listed
  have sound := inv.publications row.2 facts.publication
  have positive := inv.rollout.chain.positive facts.publication
  have window := facts.window
  have older := facts.older
  rw [facts.link.generation, ← generation] at window older
  have kept : ∀ peer ∈ group.peerProjectionCatalog, ∃ origin ∈ compatibleWith store policyIsolation
      now lookup delivery.projection, peer = origin.1.peer := by
    intro peer present
    have inside : peer ∈ groups.flatMap (·.peerProjectionCatalog) :=
      List.mem_flatMap.mpr ⟨group, member, present⟩
    rw [grouped.peers] at inside
    obtain ⟨origin, there, rfl⟩ := List.mem_map.mp inside
    exact ⟨origin, there, rfl⟩
  have short : group.peerProjectionCatalog.length ≤ maxProjections := by
    have part : group.peerProjectionCatalog.length
        ≤ (groups.flatMap (·.peerProjectionCatalog)).length := by
      rw [List.flatMap_def]
      exact (List.sublist_flatten_of_mem (List.mem_map_of_mem member)).length_le
    rw [grouped.peers, List.length_map] at part
    exact part.trans few
  simp only [RuntimeConfigurationRecord.invalidCompatibility, Bool.or_eq_false_iff,
    beq_eq_false_iff_ne, decide_eq_false_iff_not, List.any_eq_false, List.isEmpty_eq_false_iff]
  refine ⟨⟨⟨⟨⟨⟨⟨?_, ?_⟩, ?_⟩, ?_⟩, ?_⟩, ?_⟩, ?_⟩, ?_⟩
  · omega
  · omega
  · unfold saturatingAdd
    omega
  · rw [hash]
    exact sound.hash
  · rw [envelope]
    exact sound.envelope
  · exact grouped.nonempty group member
  · omega
  · intro peer present invalid
    obtain ⟨origin, there, rfl⟩ := kept peer present
    have from_ := compatibleRow_of_mem there
    rw [invalidPeer_sound (inv.projections origin.1 from_.projection)
      (by rw [projectionId]; exact from_.remote)] at invalid
    cases invalid

theorem Grouped.validates (inv : Cataloged store) (named : NamesAttachments store)
    (keys : (store.topology.attachments.map (·.id)).Nodup)
    (projected : delivery.projection ∈ store.projections)
    (published : delivery.publication ∈ store.publications)
    (link : ProjectionLink delivery.publication delivery.projection)
    (owner : delivery.projection.deviceKey = lookup.key)
    (grouped : Grouped (compatibleWith store policyIsolation now lookup delivery.projection) groups)
    (phase : RuntimeConfigurationActivationPhase) :
    (deliveredRecord store lookup delivery phase groups).validate lookup = .ok () := by
  have sound := inv.projections delivery.projection projected
  have publication := inv.publications delivery.publication published
  have positive := inv.rollout.chain.positive published
  rw [← link.generation] at positive
  have fits := publication.generation
  rw [← link.generation] at fits
  simp only [ProjectionRow.deviceKey, RuntimeConfigurationLookup.key, Prod.mk.injEq] at owner
  obtain ⟨tenant, device, key⟩ := owner
  have few : (compatibleWith store policyIsolation now lookup delivery.projection).length
    ≤ maxProjections := inv.compatible_bounded keys
  have catalog : (deliveredRecord store lookup delivery phase groups).peerProjectionCatalog.length
      ≤ maxProjections := (List.length_map _).trans_le inv.catalog_bounded
  have compatible := grouped.compatible inv named keys tenant phase
  have total : (deliveredRecord store lookup delivery phase groups).compatiblePeers.length
      ≤ maxProjections := by
    rw [show (deliveredRecord store lookup delivery phase groups).compatiblePeers = _ from
      grouped.peers, List.length_map]
    exact few
  have generations : groups.length ≤ maxCompatibilityGenerations := by
    have bound := ascending_length_le
      (delivery.projection.segmentGeneration - maxCompatibilityGenerations)
      maxCompatibilityGenerations grouped.ascending (by
        intro n member
        obtain ⟨group, present, rfl⟩ := List.mem_map.mp member
        obtain ⟨window, older⟩ := compatible.window group present
        change delivery.projection.segmentGeneration ≤ _ at window
        change _ ≤ delivery.projection.segmentGeneration at older
        omega)
    rwa [List.length_map] at bound
  simp only [RuntimeConfigurationRecord.validate, unit_bind_ok, reject_ok, Bool.or_eq_false_iff,
    Bool.not_eq_false', decide_eq_true_eq, decide_eq_false_iff_not, List.any_eq_false,
    bne_eq_false_iff_eq, beq_eq_false_iff_ne]
  refine ⟨⟨⟨⟨⟨⟨⟨⟨⟨⟨⟨⟨⟨⟨⟨⟨⟨⟨?_, ?_⟩, ?_⟩, ?_⟩, ?_⟩, ?_⟩, ?_⟩, ?_⟩, ?_⟩, ?_⟩, ?_⟩, ?_⟩, ?_⟩, ?_⟩, ?_⟩,
    ?_⟩, ?_⟩, ?_⟩, ⟨compatible.ascending, compatible.peers⟩, ?_, ?_⟩
  · exact sound.id
  · exact sound.projectionId
  · exact sound.segmentId
  · exact sound.siteId
  · exact sound.attachmentId
  · exact Nat.ne_of_gt positive
  · exact sound.generation
  · exact sound.segmentHash
  · exact sound.hash
  · exact publication.envelope
  · exact sound.envelope
  · exact tenant
  · exact device
  · exact key
  · exact Nat.not_lt.mpr catalog
  · exact Nat.not_lt.mpr generations
  · intro peer member invalid
    obtain ⟨p, listed, rfl⟩ := List.mem_map.mp member
    obtain ⟨present, -, -, -, remote⟩ := mem_catalogRows listed
    rw [invalidPeer_sound (inv.projections p present) remote] at invalid
    cases invalid
  · intro group member invalid
    rw [grouped.valid inv few rfl rfl fits member] at invalid
    cases invalid
  · exact Nat.not_lt.mpr total
  · unfold maxCatalogEntries
    omega

end Record

theorem routeStep_namesAttachments (sha256 : Bytes → Hash) {store : RouteStore} {call : RouteCall}
    (own : ∀ policyIsolation write, call = .publish policyIsolation write →
      ∀ projection ∈ write.projections, projection.projectionId = projection.attachmentId)
    (named : NamesAttachments store) : NamesAttachments (routeStep sha256 store call) := by
  cases call with
  | publish policyIsolation write =>
      refine routeStep_publish sha256 policyIsolation write named fun _ committed => ?_
      intro p member
      rcases committed.mem_projections.mp member with old | ⟨projection, written, rfl⟩
      · exact named p old
      · exact own policyIsolation write rfl projection written
  | report policyIsolation now auditId status =>
      obtain ⟨same, -⟩ := report_frame store now auditId policyIsolation status
      intro p member
      rw [routeStep, same.projections] at member
      exact named p member
  | environment topology segments => exact named

theorem run_namesAttachments (sha256 : Bytes → Hash) {start : RouteStore} {calls : List RouteCall}
    (own : ∀ policyIsolation write, .publish policyIsolation write ∈ calls →
      ∀ projection ∈ write.projections, projection.projectionId = projection.attachmentId)
    (named : NamesAttachments start) : NamesAttachments (run (routeStep sha256) start calls) := by
  induction calls generalizing start with
  | nil => exact named
  | cons call rest ih =>
      refine ih ?_ (routeStep_namesAttachments sha256 ?_ named)
      · intro policyIsolation write later
        exact own policyIsolation write (List.mem_cons_of_mem call later)
      · intro policyIsolation write here
        exact own policyIsolation write (here ▸ List.mem_cons_self)

theorem RouteStore.Unpublished.namesAttachments {store : RouteStore} (empty : store.Unpublished) :
    NamesAttachments store := by
  intro p member
  rw [empty.projections] at member
  cases member

/-- A record that is delivered for an attachment of the lookup. -/
structure Assigned (store : RouteStore) (policyIsolation : Bool) (now : Instant)
    (lookup : RuntimeConfigurationLookup) (a : AttachmentRow) (segment : SegmentRow)
    (delivery : Delivery) (groups : List RuntimeCompatibilityGeneration) : Prop where
  attached : (a, segment) ∈ store.attachedSegments lookup
  joined : delivery ∈ store.deliveries a segment.currentGeneration
  grouped : Grouped (compatibleWith store policyIsolation now lookup delivery.projection) groups

theorem Assigned.owner {store : RouteStore} {policyIsolation : Bool} {now : Instant}
    {lookup : RuntimeConfigurationLookup} {segment : SegmentRow} {delivery : Delivery}
    {groups : List RuntimeCompatibilityGeneration}
    (assigned : Assigned store policyIsolation now lookup a segment delivery groups) :
    delivery.projection.deviceKey = lookup.key := by
  obtain ⟨-, -, -, -, tenant, device, key⟩ := mem_attachedSegments assigned.attached
  obtain ⟨-, -, -, -, -, -, -, rowTenant, -, -, rowDevice, rowKey, -⟩ :=
    mem_deliveries assigned.joined
  rw [device] at rowDevice
  rw [key] at rowKey
  rw [ProjectionRow.deviceKey, RuntimeConfigurationLookup.key, rowTenant, tenant,
    Option.some.inj rowDevice, Option.some.inj rowKey]

/-- After the first query a device is told its configuration, or that there is
    no projection for it. -/
theorem loadAssigned_outcome {store : RouteStore} (inv : Cataloged store)
    (named : NamesAttachments store) (keys : (store.topology.attachments.map (·.id)).Nodup)
    (now : Instant) (policyIsolation : Bool) {lookup : RuntimeConfigurationLookup}
    {pair : AttachmentRow × SegmentRow} (only : store.currentAttachments lookup = [pair]) :
    loadAssigned store now policyIsolation lookup = .error .missingCurrentProjection ∨
      ∃ a segment delivery phase groups,
        Assigned store policyIsolation now lookup a segment delivery groups ∧
        loadAssigned store now policyIsolation lookup
          = .ok (deliveredRecord store lookup delivery phase groups) := by
  obtain ⟨a, segment⟩ := pair
  have attached := attachedSegments_of_current only
  have member : (a, segment) ∈ store.attachedSegments lookup := by
    rw [attached]
    exact List.mem_singleton_self _
  cases head : (store.rolloutPositions lookup).head? with
  | none =>
      left
      rw [loadAssigned, head]
      rfl
  | some position =>
      have positioned := List.mem_of_head? head
      simp only [RouteStore.rolloutPositions, attached, List.flatMap_singleton, List.mem_map,
        List.mem_filter] at positioned
      obtain ⟨top, ⟨joined, -⟩, rfl⟩ := positioned
      have current : deliveryGeneration (segment, top) = .ok segment.currentGeneration :=
        deliveryGeneration_current inv.rollout joined
      have rows : deliveredRows store now lookup segment.currentGeneration segment.currentGeneration
          = store.projectionRowsAt now lookup segment.currentGeneration := by
        simp only [deliveredRows, bne_self_eq_false, Bool.and_false, Bool.false_eq_true, if_false]
      have single : (store.projectionRowsAt now lookup segment.currentGeneration).length ≤ 1 := by
        rw [RouteStore.projectionRowsAt, attached, List.flatMap_singleton]
        exact (List.length_filter_le _ _).trans (inv.deliveries_le_one a _)
      cases found : store.projectionRowsAt now lookup segment.currentGeneration with
      | nil =>
          left
          rw [loadAssigned, head]
          change (deliveryGeneration (segment, top) >>= _) = _
          rw [current]
          change (onlyRow (deliveredRows store now lookup segment.currentGeneration
            segment.currentGeneration) >>= _) = _
          rw [rows, found]
          rfl
      | cons delivery rest =>
          rw [found, List.length_cons] at single
          obtain rfl := List.eq_nil_of_length_eq_zero (Nat.le_zero.mp (Nat.le_of_succ_le_succ single))
          have listed : delivery ∈ store.projectionRowsAt now lookup segment.currentGeneration := by
            rw [found]
            exact List.mem_singleton_self delivery
          rw [RouteStore.projectionRowsAt, attached, List.flatMap_singleton] at listed
          have delivered := (List.mem_filter.mp listed).1
          obtain ⟨groups, looped, grouped⟩ : ∃ groups, updateEach groupCompatible []
              (compatibleWith store policyIsolation now lookup delivery.projection) = .ok groups ∧
              Grouped (compatibleWith store policyIsolation now lookup delivery.projection) groups :=
            inv.groups named keys
          have assigned : Assigned store policyIsolation now lookup a segment delivery groups :=
            ⟨member, delivered, grouped⟩
          obtain ⟨projected, published, link, -⟩ := mem_deliveries delivered
          have valid := grouped.validates inv named keys projected published link assigned.owner
            (activationPhase top.rollout)
          refine .inr ⟨a, segment, delivery, activationPhase top.rollout, groups, assigned, ?_⟩
          have catalog : (store.catalogRows lookup.tenantId delivery.projection.segmentId
              delivery.projection.segmentGeneration delivery.projection.projectionId).length
                ≤ maxProjections := inv.catalog_bounded
          have compatible : (compatibleWith store policyIsolation now lookup
              delivery.projection).length ≤ maxProjections := inv.compatible_bounded keys
          have distinct : ((store.catalogRows lookup.tenantId delivery.projection.segmentId
              delivery.projection.segmentGeneration delivery.projection.projectionId).map
                (·.projectionId)).Nodup := inv.catalog_ids named
          simp only [loadAssigned, orElse_bind_ok, bind_ok (α := Nat), bind_ok (α := Delivery),
            unit_bind_ok, bind_ok (α := List RuntimeCompatibilityGeneration), pure_ok, reject_ok,
            Bool.or_eq_false_iff, decide_eq_false_iff_not, Bool.not_eq_false', decide_eq_true_eq]
          refine ⟨(segment, top), head, segment.currentGeneration, current, delivery, ?_, ?_, ?_,
            groups, looped, valid, rfl⟩
          · rw [rows, found]
            rfl
          · exact ⟨Nat.not_lt.mpr catalog, distinct⟩
          · unfold compatibleWith at compatible
            unfold maxCatalogEntries
            omega

theorem load_assigned {store : RouteStore} (inv : Cataloged store) (named : NamesAttachments store)
    (keys : (store.topology.attachments.map (·.id)).Nodup) {now : Instant} {policyIsolation : Bool}
    {lookup : RuntimeConfigurationLookup}
    (loaded : loadCurrentRuntimeConfiguration store now policyIsolation lookup
      = .ok (.current record)) :
    ∃ a segment delivery phase groups,
      Assigned store policyIsolation now lookup a segment delivery groups ∧
      record = deliveredRecord store lookup delivery phase groups := by
  unfold loadCurrentRuntimeConfiguration at loaded
  split at loaded
  · cases loaded
  · rename_i pair only
    simp only [bind_ok, pure_ok, RuntimeConfigurationState.current.injEq] at loaded
    obtain ⟨_, done, rfl⟩ := loaded
    rcases loadAssigned_outcome inv named keys now policyIsolation only with
      missing | ⟨a, segment, delivery, phase, groups, assigned, outcome⟩
    · rw [missing] at done
      cases done
    · rw [outcome] at done
      exact ⟨a, segment, delivery, phase, groups, assigned, (Except.ok.inj done).symm⟩
  · cases loaded

/-- In every state reached by publications that name attachments, reports and
    changes of the environment, the older generations of a delivered
    configuration are ascending, lie in the window below the delivered one and
    name each peer once and never the device itself, and those before the last
    one precede policy-only publications; and neither catalog is refused. -/
theorem compatibility_catalog (sha256 : Bytes → Hash) {start : RouteStore}
    (empty : start.Unpublished) (calls : List RouteCall)
    (own : ∀ policyIsolation write, .publish policyIsolation write ∈ calls →
      ∀ projection ∈ write.projections, projection.projectionId = projection.attachmentId)
    (keys : ((run (routeStep sha256) start calls).topology.attachments.map (·.id)).Nodup)
    (now : Instant) (policyIsolation : Bool) (lookup : RuntimeConfigurationLookup) :
    let store := run (routeStep sha256) start calls
    let loaded := loadCurrentRuntimeConfiguration store now policyIsolation lookup
    (∀ record, loaded = .ok (.current record) → Compatible store record) ∧
      Avoids .invalidRecord loaded ∧
      (loaded = .error .ambiguousConfiguration → 1 < (store.currentAttachments lookup).length) := by
  intro store loaded
  have inv : Cataloged store := run_cataloged sha256 empty calls
  have named : NamesAttachments store := run_namesAttachments sha256 own empty.namesAttachments
  cases found : store.currentAttachments lookup with
  | nil =>
      have none : loaded = .ok .unassigned := by
        simp only [loaded, loadCurrentRuntimeConfiguration, found]
      rw [none]
      refine ⟨?_, avoids_ok _, ?_⟩
      · intro record delivered
        cases delivered
      · intro failed
        cases failed
  | cons pair rest =>
      cases rest with
      | nil =>
          have single : loaded = loadAssigned store now policyIsolation lookup >>= fun record =>
              return .current record := by
            simp only [loaded, loadCurrentRuntimeConfiguration, found]
          rcases loadAssigned_outcome inv named keys now policyIsolation found with
            missing | ⟨a, segment, delivery, phase, groups, assigned, done⟩
          · rw [single, missing]
            refine ⟨?_, ?_, ?_⟩
            · intro record delivered
              cases delivered
            · intro failed
              cases failed
            · intro failed
              cases failed
          · rw [single, done]
            refine ⟨?_, avoids_ok _, ?_⟩
            · intro record delivered
              obtain rfl : deliveredRecord store lookup delivery phase groups = record :=
                RuntimeConfigurationState.current.inj (Except.ok.inj delivered)
              have tenant : delivery.projection.tenantId = lookup.tenantId :=
                congrArg (·.1) assigned.owner
              exact assigned.grouped.compatible inv named keys tenant phase
            · intro failed
              cases failed
      | cons next rest =>
          have several : loaded = .error .ambiguousConfiguration := by
            simp only [loaded, loadCurrentRuntimeConfiguration, found]
          rw [several]
          refine ⟨?_, ?_, ?_⟩
          · intro record delivered
            cases delivered
          · intro failed
            cases failed
          · intro _
            rw [List.length_cons, List.length_cons]
            omega

/-- The sample projection under the identity of its attachment, served by the
    nodes of both sites. -/
def attachmentProjection (generation site : Nat) : SiteProjectionPublicationWrite :=
  { sampleProjection generation site with
    projectionId := BitVec.ofNat 128 (40 + site)
    transportNodes := [(51, 21), (52, 22)] }

def attachmentWrite (generation : Nat) (policyOnly : Bool) : SegmentPublicationWrite :=
  { sampleWrite generation policyOnly with
    projections := [attachmentProjection generation 1, attachmentProjection generation 2] }

def servedTopology : Topology :=
  { twoSiteTopology with
    nodeEndpoints := [⟨91, 51, "198.51.100.1:443", "eu", true, some "node-1.example", some 1,
        some .current, true⟩,
      ⟨92, 52, "198.51.100.2:443", "eu", true, some "node-2.example", some 1, some .current,
        true⟩] }

def attachmentRun : List RouteCall :=
  [.environment servedTopology [], .publish false (attachmentWrite 1 false),
    .publish false (attachmentWrite 2 false)]

def attachmentRecord : RuntimeConfigurationRecord :=
  assembleRecord
    { projection := (attachmentProjection 2 1).projectionRow 0x9002
      publication := (attachmentWrite 2 false).publicationRow
      member := (attachmentProjection 2 1).memberRow 0x9002 1
      rollout := (attachmentWrite 2 false).rolloutRow }
    .prepare [(attachmentProjection 2 2).projectionRow 0x9002]
    [⟨1, sampleHash 1, [1], [((attachmentProjection 1 2).projectionRow 0x9001).peer]⟩]

theorem compatibility_catalog_two_sites :
    loadCurrentRuntimeConfiguration (run (routeStep fun _ => 0) twoSiteStore attachmentRun) 0 true
      (sampleLookup 1) = .ok (.current attachmentRecord) ∧
    Compatible (run (routeStep fun _ => 0) twoSiteStore attachmentRun) attachmentRecord := by
  have delivered : loadCurrentRuntimeConfiguration
      (run (routeStep fun _ => 0) twoSiteStore attachmentRun) 0 true (sampleLookup 1)
        = .ok (.current attachmentRecord) := by
    decide +kernel
  refine ⟨delivered, (compatibility_catalog (fun _ => 0) twoSiteStore_unpublished attachmentRun ?_
    (by decide +kernel) 0 true (sampleLookup 1)).1 attachmentRecord delivered⟩
  intro policyIsolation write published
  simp only [attachmentRun, List.mem_cons, RouteCall.publish.injEq, reduceCtorEq, false_or,
    List.not_mem_nil, or_false] at published
  rcases published with ⟨-, rfl⟩ | ⟨-, rfl⟩
  · decide
  · decide

end CandyCloud
