import CandyCloud.Foundation.Chain
import CandyCloud.Route.System

/-! # The publication chains

Every segment carries a chain of publications and every attachment a chain of projections.
-/

namespace CandyCloud

open Foundation

/-- The loop over the projections of an attachment. -/
def walkProjections (expectedGeneration : Nat) (previousContentHash : Hash)
    (head : Option (Nat × Hash)) :
    List ProjectionRow → Except SdwanError (Option (Nat × Hash))
  | [] => .ok head
  | row :: rest => do
      reject (row.projectionGeneration != expectedGeneration ||
        (row.projectionGeneration == 1 && row.previousHash != zeroHash) ||
        (decide (row.projectionGeneration > 1) && row.previousHash != previousContentHash) ||
        row.contentHash == zeroHash) .invalidContentHash
      let next ← orElse .generationGap (checkedAdd expectedGeneration 1)
      walkProjections next row.contentHash (some (row.projectionGeneration, row.contentHash)) rest

/-- The generation and hash that the next projection of an attachment extends. -/
def projectionHead (store : RouteStore) (tenantId segmentId attachmentId : Uuid) :
    Except SdwanError (Option (Nat × Hash)) :=
  walkProjections 1 zeroHash none
    ((store.attachmentProjections tenantId segmentId attachmentId).insertionSort
      fun a b => a.projectionGeneration ≤ b.projectionGeneration)

/-- Generation and hash of the newest publication, or the empty head. -/
def publicationHead (publications : List PublicationRow) (tenantId segmentId : Uuid) : Nat × Hash :=
  tip (·.generation) (·.contentHash) 0 zeroHash
    (publications.filter fun p => p.tenantId == tenantId && p.segmentId == segmentId)

def PublicationsLinked (rows : List PublicationRow) : Prop :=
  Linked (·.generation) (·.expectedPreviousHash) (·.contentHash) 0 zeroHash rows

def ProjectionsLinked (rows : List ProjectionRow) : Prop :=
  Linked (·.projectionGeneration) (·.previousHash) (·.contentHash) 0 zeroHash rows

/-- The segment rows name the newest publications, and every publication
    belongs to a segment row. -/
structure HeadsAgree (publications : List PublicationRow) (segments : List SegmentRow) : Prop where
  ids : (segments.map (·.id)).Nodup
  owned : ∀ p ∈ publications, ∃ segment ∈ segments, segment.id = p.segmentId
  heads : ∀ segment ∈ segments, (segment.currentGeneration, segment.currentContentHash)
    = publicationHead publications segment.tenantId segment.id

structure ChainInvariant (store : RouteStore) : Prop where
  heads : HeadsAgree store.publications store.segments
  publications : ∀ tenantId segmentId,
    PublicationsLinked (store.segmentPublications tenantId segmentId)
  projections : ∀ tenantId segmentId attachmentId,
    ProjectionsLinked (store.attachmentProjections tenantId segmentId attachmentId)
  hashed : ∀ p ∈ store.projections, p.contentHash ≠ zeroHash

theorem RouteStore.Unpublished.chainInvariant {store : RouteStore} (empty : store.Unpublished) :
    ChainInvariant store := by
  refine ⟨⟨empty.segmentIds, ?_, ?_⟩, ?_, ?_, ?_⟩
  · simp [empty.publications]
  · intro segment member
    simp [publicationHead, empty.publications, tip, empty.heads segment member]
  · intro tenantId segmentId
    simp [RouteStore.segmentPublications, empty.publications, PublicationsLinked, Linked]
  · intro tenantId segmentId attachmentId
    simp [RouteStore.attachmentProjections, empty.projections, ProjectionsLinked, Linked]
  · simp [empty.projections]

theorem walkProjections_linked {n : Nat} {h : Hash} {rows : List ProjectionRow}
    (chain : Linked (·.projectionGeneration) (·.previousHash) (·.contentHash) n h rows)
    (genesis : n = 0 → h = zeroHash) (hashed : ∀ p ∈ rows, p.contentHash ≠ zeroHash)
    (fits : n + rows.length < u64Max) (head : Option (Nat × Hash)) :
    walkProjections (n + 1) h head rows =
      .ok ((rows.getLast?.map fun row => (row.projectionGeneration, row.contentHash)).or head) := by
  induction rows generalizing n h head with
  | nil => rfl
  | cons row rest ih =>
      obtain ⟨number, back, later⟩ := chain
      have next : checkedAdd (n + 1) 1 = some (n + 1 + 1) := by
        apply checkedAdd_fits
        rw [List.length_cons] at fits
        omega
      have passes : (row.projectionGeneration != n + 1 ||
          (row.projectionGeneration == 1 && row.previousHash != zeroHash) ||
          (decide (row.projectionGeneration > 1) && row.previousHash != h) ||
          row.contentHash == zeroHash) = false := by
        have nonzero : (row.contentHash == zeroHash) = false :=
          beq_eq_false_iff_ne.mpr (hashed row List.mem_cons_self)
        rw [show row.projectionGeneration = n + 1 from number,
          show row.previousHash = h from back, nonzero]
        cases n with
        | zero => simp [genesis rfl]
        | succ n => simp
      have rest := ih later (fun zero => absurd zero (Nat.succ_ne_zero n))
        (fun p member => hashed p (List.mem_cons_of_mem row member))
        (by rw [List.length_cons] at fits; omega)
        (some (row.projectionGeneration, row.contentHash))
      simp only [walkProjections, passes, next]
      refine Eq.trans rest ?_
      rw [List.getLast?_cons]
      cases List.getLast? _ with
      | none => rfl
      | some last => rfl

variable {publications : List PublicationRow} {publication : PublicationRow}

theorem publicationHead_absent {tenantId segmentId : Uuid}
    (absent : ∀ p ∈ publications, p.segmentId ≠ segmentId) :
    publicationHead publications tenantId segmentId = (0, zeroHash) := by
  have none : (publications.filter fun p =>
      p.tenantId == tenantId && p.segmentId == segmentId) = [] := by
    rw [List.filter_eq_nil_iff]
    intro p member
    simp [absent p member]
  rw [publicationHead, none, tip]

theorem reshapeSegment_agrees (segments : List SegmentRow) (row : SegmentRow)
    (agree : HeadsAgree publications segments) :
    HeadsAgree publications (reshapeSegment segments row) := by
  unfold reshapeSegment upsert
  split
  · refine ⟨?_, ?_, ?_⟩
    · rw [map_updateWhere]
      · exact agree.ids
      · exact fun _ => rfl
    · intro p member
      obtain ⟨segment, present, same⟩ := agree.owned p member
      refine ⟨_, List.mem_map_of_mem present, ?_⟩
      split
      · exact same
      · exact same
    · intro segment member
      obtain ⟨old, present, rfl⟩ := mem_updateWhere.mp member
      split
      · exact agree.heads old present
      · exact agree.heads old present
  · rename_i absent
    have absent : ∀ old ∈ segments, row.id ≠ old.id := by
      intro old present same
      exact absent (List.any_eq_true.mpr ⟨old, present, by simp [same]⟩)
    refine ⟨?_, ?_, ?_⟩
    · exact nodup_concat_key agree.ids absent
    · intro p member
      obtain ⟨segment, present, same⟩ := agree.owned p member
      exact ⟨segment, List.mem_append_left _ present, same⟩
    · intro segment member
      rcases mem_concat.mp member with present | new
      · exact agree.heads segment present
      · rw [new]
        rw [publicationHead_absent]
        intro p published same
        obtain ⟨owner, present, owned⟩ := agree.owned p published
        exact absent owner present (same.symm.trans owned.symm)

theorem reshape_chainInvariant {store : RouteStore} (topology : Topology)
    (segments : List SegmentRow) (inv : ChainInvariant store) :
    ChainInvariant (store.reshape topology segments) where
  heads := run_invariant (fun segments row => reshapeSegment_agrees segments row) inv.heads segments
  publications := inv.publications
  projections := inv.projections
  hashed := inv.hashed

theorem validateProjectionHead_ok {store : RouteStore}
    {projection : SiteProjectionPublicationWrite}
    (chain : ProjectionsLinked (store.attachmentProjections projection.tenantId
      projection.segmentId projection.attachmentId))
    (passed : validateProjectionHead store projection = .ok ()) :
    let newest := tip (·.projectionGeneration) (·.contentHash) 0 zeroHash
      (store.attachmentProjections projection.tenantId projection.segmentId
        projection.attachmentId)
    projection.projectionGeneration = newest.1 + 1 ∧ projection.previousHash = newest.2 := by
  intro newest
  have latest : latestProjection store projection = (store.attachmentProjections
      projection.tenantId projection.segmentId projection.attachmentId).getLast? :=
    chain.head_sort_desc
  unfold validateProjectionHead at passed
  rw [latest] at passed
  cases last : (store.attachmentProjections projection.tenantId projection.segmentId
      projection.attachmentId).getLast? with
  | none =>
      rw [last] at passed
      simp only [reject_ok, Bool.or_eq_false_iff, bne_eq_false_iff_eq] at passed
      rw [show newest = (0, zeroHash) by simp [newest, List.getLast?_eq_none_iff.mp last, tip]]
      exact passed
  | some row =>
      rw [last] at passed
      simp only [orElse_bind_ok, reject_ok, Bool.or_eq_false_iff, bne_eq_false_iff_eq] at passed
      obtain ⟨expected, sum, generation, hash⟩ := passed
      rw [show newest = (row.projectionGeneration, row.contentHash) from tip_of_last _ _ last]
      exact ⟨generation.trans (checkedAdd_some sum), hash⟩

section Commit

variable {policyIsolation : Bool} {write : SegmentPublicationWrite} {store store' : RouteStore}
  (committed : Committed policyIsolation write store store')

include committed

theorem Committed.segmentPublications (tenantId segmentId : Uuid) :
    store'.segmentPublications tenantId segmentId =
      if write.tenantId = tenantId ∧ write.segmentId = segmentId then
        store.segmentPublications tenantId segmentId ++ [write.publicationRow]
      else store.segmentPublications tenantId segmentId := by
  simp only [RouteStore.segmentPublications, committed.publications, List.filter_append]
  by_cases same : write.tenantId = tenantId ∧ write.segmentId = segmentId
  · rw [if_pos same, List.filter_cons_of_pos, List.filter_nil]
    simp [SegmentPublicationWrite.publicationRow, same]
  · rw [if_neg same, List.filter_cons_of_neg, List.filter_nil, List.append_nil]
    simpa [SegmentPublicationWrite.publicationRow] using same

theorem Committed.publicationHead (tenantId segmentId : Uuid) :
    publicationHead store'.publications tenantId segmentId =
      if write.tenantId = tenantId ∧ write.segmentId = segmentId then
        (write.generation, write.snapshot.contentHash)
      else CandyCloud.publicationHead store.publications tenantId segmentId := by
  have rows := committed.segmentPublications tenantId segmentId
  unfold CandyCloud.publicationHead
  unfold RouteStore.segmentPublications at rows
  rw [rows]
  split
  · exact tip_concat _ _ _ _
  · rfl

theorem Committed.previousHead (agree : HeadsAgree store.publications store.segments) :
    CandyCloud.publicationHead store.publications write.tenantId write.segmentId =
      (write.expectedPreviousGeneration, write.expectedPreviousHash) := by
  obtain ⟨segment, present, owned, generation, hash⟩ := committed.head
  simp only [SegmentRow.of, Bool.and_eq_true, beq_iff_eq] at owned
  rw [← owned.1, ← owned.2, ← agree.heads segment present, generation, hash]

theorem Committed.headsAgree (agree : HeadsAgree store.publications store.segments) :
    HeadsAgree store'.publications store'.segments := by
  obtain ⟨locked, present, owned, generation, hash⟩ := committed.head
  simp only [SegmentRow.of, Bool.and_eq_true, beq_iff_eq] at owned
  rw [committed.segments]
  refine ⟨?_, ?_, ?_⟩
  · rw [map_updateWhere]
    · exact agree.ids
    · exact fun _ => rfl
  · have keepOwner : ∀ segment ∈ store.segments, ∃ segment' ∈ updateWhere (·.atHead write)
        (·.advance write) store.segments, segment'.id = segment.id := by
      intro segment member
      refine ⟨_, List.mem_map_of_mem member, ?_⟩
      split
      · rfl
      · rfl
    intro p member
    rw [committed.publications] at member
    rcases mem_concat.mp member with old | new
    · obtain ⟨segment, member, same⟩ := agree.owned p old
      obtain ⟨segment', member', kept⟩ := keepOwner segment member
      exact ⟨segment', member', kept.trans same⟩
    · obtain ⟨segment', member', kept⟩ := keepOwner locked present
      rw [new]
      exact ⟨segment', member', kept.trans owned.2⟩
  · intro segment member
    obtain ⟨old, existing, rfl⟩ := mem_updateWhere.mp member
    split
    · rename_i advanced
      simp only [SegmentRow.atHead, SegmentRow.of, Bool.and_eq_true, beq_iff_eq] at advanced
      rw [committed.publicationHead, if_pos ⟨advanced.1.1.1.symm, advanced.1.1.2.symm⟩]
      rfl
    · rename_i kept
      rw [agree.heads old existing, committed.publicationHead, if_neg]
      rintro ⟨tenant, segment⟩
      have same : old = locked :=
        eq_of_key agree.ids existing present (segment.symm.trans owned.2.symm)
      subst same
      apply kept
      simp only [SegmentRow.atHead, SegmentRow.of, Bool.and_eq_true, beq_iff_eq]
      exact ⟨⟨owned, generation⟩, hash⟩

theorem Committed.publicationsLinked (inv : ChainInvariant store) (tenantId segmentId : Uuid) :
    PublicationsLinked (store'.segmentPublications tenantId segmentId) := by
  rw [committed.segmentPublications]
  split
  · rename_i same
    have head := committed.previousHead inv.heads
    rw [same.1, same.2] at head
    refine linked_concat.mpr ⟨inv.publications tenantId segmentId, ?_, ?_⟩
    · exact committed.admitted.generation.trans (congrArg (·.1 + 1) head.symm)
    · exact (congrArg (·.2) head).symm
  · exact inv.publications tenantId segmentId

theorem Committed.attachmentProjections (tenantId segmentId attachmentId : Uuid) :
    store'.attachmentProjections tenantId segmentId attachmentId =
        store.attachmentProjections tenantId segmentId attachmentId ∨
      ∃ projection ∈ write.projections, projection.tenantId = tenantId ∧
        projection.segmentId = segmentId ∧ projection.attachmentId = attachmentId ∧
        store'.attachmentProjections tenantId segmentId attachmentId =
          store.attachmentProjections tenantId segmentId attachmentId ++
            [projection.projectionRow write.publicationId] := by
  simp only [RouteStore.attachmentProjections, committed.projections, List.filter_append,
    List.filter_map]
  by_cases projected : ∃ projection ∈ write.projections, projection.tenantId = tenantId ∧
      projection.segmentId = segmentId ∧ projection.attachmentId = attachmentId
  · obtain ⟨projection, member, rfl, rfl, rfl⟩ := projected
    refine .inr ⟨projection, member, rfl, rfl, rfl, ?_⟩
    rw [filter_of_key committed.admitted.attachments member, List.map_singleton]
    intro other present
    have a := committed.admitted.projections other present
    have b := committed.admitted.projections projection member
    simp [SiteProjectionPublicationWrite.projectionRow, a.tenant, a.segment, b.tenant, b.segment]
  · left
    rw [List.append_right_eq_self, List.map_eq_nil_iff, List.filter_eq_nil_iff]
    intro projection member matched
    simp only [Function.comp_apply, SiteProjectionPublicationWrite.projectionRow,
      Bool.and_eq_true, beq_iff_eq] at matched
    exact projected ⟨projection, member, matched.1.1, matched.1.2, matched.2⟩

theorem Committed.chainInvariant (inv : ChainInvariant store) : ChainInvariant store' where
  heads := committed.headsAgree inv.heads
  publications := committed.publicationsLinked inv
  projections := by
    intro tenantId segmentId attachmentId
    rcases committed.attachmentProjections tenantId segmentId attachmentId with
      same | ⟨projection, member, rfl, rfl, rfl, extended⟩
    · rw [same]
      exact inv.projections tenantId segmentId attachmentId
    · have chain := inv.projections projection.tenantId projection.segmentId
        projection.attachmentId
      rw [extended]
      exact linked_concat.mpr
        ⟨chain, validateProjectionHead_ok chain (committed.heads projection member)⟩
  hashed := by
    intro p member
    rw [committed.projections] at member
    rcases List.mem_append.mp member with old | new
    · exact inv.hashed p old
    · obtain ⟨projection, present, rfl⟩ := List.mem_map.mp new
      exact (committed.admitted.projections projection present).hashed

end Commit

theorem ChainInvariant.generation_le {store : RouteStore} (inv : ChainInvariant store)
    (published : publication ∈ store.publications) :
    publication.generation ≤
      (publicationHead store.publications publication.tenantId publication.segmentId).1 := by
  have chain := inv.publications publication.tenantId publication.segmentId
  have member : publication ∈
      store.segmentPublications publication.tenantId publication.segmentId :=
    List.mem_filter.mpr ⟨published, by simp⟩
  have bound := (chain.index_le member).2
  have tip := chain.tip_index
  rw [show publicationHead store.publications publication.tenantId publication.segmentId
    = Foundation.tip _ _ 0 zeroHash
      (store.segmentPublications publication.tenantId publication.segmentId) from rfl, tip]
  exact bound

theorem ChainInvariant.positive {store : RouteStore} (inv : ChainInvariant store)
    (published : publication ∈ store.publications) :
    0 < publication.generation := by
  have chain := inv.publications publication.tenantId publication.segmentId
  have member : publication ∈
      store.segmentPublications publication.tenantId publication.segmentId :=
    List.mem_filter.mpr ⟨published, by simp⟩
  exact (chain.index_le member).1

theorem Committed.above {policyIsolation : Bool} {write : SegmentPublicationWrite}
    {store store' : RouteStore} (committed : Committed policyIsolation write store store')
    (inv : ChainInvariant store) (published : publication ∈ store.publications)
    (tenant : publication.tenantId = write.tenantId)
    (segment : publication.segmentId = write.segmentId) :
    publication.generation < write.generation := by
  have bound := inv.generation_le published
  rw [tenant, segment, committed.previousHead inv.heads] at bound
  have next := committed.admitted.generation
  omega

theorem ChainInvariant.frame {store store' : RouteStore} (inv : ChainInvariant store)
    (same : SamePublications store store') (segments : store'.segments = store.segments) :
    ChainInvariant store' := by
  refine ⟨?_, ?_, ?_, ?_⟩
  · rw [same.publications, segments]
    exact inv.heads
  · unfold RouteStore.segmentPublications
    rw [same.publications]
    exact inv.publications
  · unfold RouteStore.attachmentProjections
    rw [same.projections]
    exact inv.projections
  · rw [same.projections]
    exact inv.hashed

theorem routeStep_chainInvariant (sha256 : Bytes → Hash) (store : RouteStore) (call : RouteCall)
    (inv : ChainInvariant store) : ChainInvariant (routeStep sha256 store call) := by
  cases call with
  | publish policyIsolation write =>
      exact routeStep_publish sha256 policyIsolation write inv fun _ committed =>
        committed.chainInvariant inv
  | report policyIsolation now auditId status =>
      obtain ⟨same, segments⟩ := report_frame store now auditId policyIsolation status
      exact inv.frame same segments
  | environment topology segments => exact reshape_chainInvariant topology segments inv

theorem run_chainInvariant (sha256 : Bytes → Hash) {start : RouteStore}
    (empty : start.Unpublished) (calls : List RouteCall) :
    ChainInvariant (run (routeStep sha256) start calls) :=
  run_invariant (routeStep_chainInvariant sha256) empty.chainInvariant calls

/-- Both chains, their heads and the effect of failed calls, after any run. -/
theorem publication_chains (sha256 : Bytes → Hash) (start : RouteStore)
    (empty : start.Unpublished) (calls : List RouteCall)
    (fits : (run (routeStep sha256) start calls).projections.length < u64Max) :
    let store := run (routeStep sha256) start calls
    (∀ tenantId segmentId, GenerationChain (·.generation) (·.expectedPreviousHash) (·.contentHash)
      zeroHash (store.segmentPublications tenantId segmentId)) ∧
    (∀ segment ∈ store.segments, (segment.currentGeneration, segment.currentContentHash) =
      match (store.segmentPublications segment.tenantId segment.id).getLast? with
      | none => (0, zeroHash)
      | some newest => (newest.generation, newest.contentHash)) ∧
    (∀ tenantId segmentId attachmentId,
      GenerationChain (·.projectionGeneration) (·.previousHash) (·.contentHash) zeroHash
        (store.attachmentProjections tenantId segmentId attachmentId) ∧
      projectionHead store tenantId segmentId attachmentId =
        .ok ((store.attachmentProjections tenantId segmentId attachmentId).getLast?.map
          fun newest => (newest.projectionGeneration, newest.contentHash))) ∧
    ∀ policyIsolation write error, (publish sha256 policyIsolation write store).1 = .error error →
      (publish sha256 policyIsolation write store).2 = store := by
  intro store
  have inv : ChainInvariant store := run_chainInvariant sha256 empty calls
  refine ⟨?_, ?_, ?_, ?_⟩
  · intro tenantId segmentId
    exact (inv.publications tenantId segmentId).generationChain
  · intro segment member
    rw [inv.heads.heads segment member]
    cases last : (store.segmentPublications segment.tenantId segment.id).getLast? with
    | none =>
        have none : store.segmentPublications segment.tenantId segment.id = [] :=
          List.getLast?_eq_none_iff.mp last
        exact congrArg (tip _ _ 0 zeroHash) none
    | some newest => exact tip_of_last 0 zeroHash last
  · intro tenantId segmentId attachmentId
    have chain := inv.projections tenantId segmentId attachmentId
    refine ⟨chain.generationChain, ?_⟩
    rw [projectionHead, List.Pairwise.insertionSort_eq chain.sorted,
      walkProjections_linked chain (fun _ => rfl), Option.or_none]
    · intro p member
      exact inv.hashed p (List.mem_of_mem_filter member)
    · have bound := List.length_filter_le (fun p : ProjectionRow => p.tenantId == tenantId &&
        p.segmentId == segmentId && p.attachmentId == attachmentId) store.projections
      rw [Nat.zero_add]
      exact lt_of_le_of_lt bound fits
  · intro policyIsolation write error failed
    rcases publish_cases sha256 policyIsolation write store with
      ⟨store', outcome, -⟩ | ⟨result, outcome, -⟩
    · rw [outcome] at failed
      cases failed
    · rw [outcome]

/-- The smallest topology in which a rollout has more than one member: two edge
sites, each with one device, one attachment and one transport node. -/
def twoSiteTopology : Topology where
  organizations := [⟨2, .active⟩]
  tenants := [⟨1, 2, .active⟩]
  devices := [⟨11, 1, "edge-1", .active, none⟩, ⟨12, 1, "edge-2", .active, none⟩]
  deviceKeys := [⟨21, 1, 11, .active⟩, ⟨22, 1, 12, .active⟩]
  sites := [⟨31, 1, "site-1", .edge, .active⟩, ⟨32, 1, "site-2", .edge, .active⟩]
  sitePrefixes := [⟨61, 1, 31, 0x0a010000, 16, true⟩, ⟨62, 1, 32, 0x0a020000, 16, true⟩]
  nodePools := [⟨5, some 1, true, "cloud-private", true, 0⟩]
  subscriptions := []
  entitlements := []
  nodes := [⟨51, some 1, 5, "node-1", some 11, some 21, .active⟩,
    ⟨52, some 1, 5, "node-2", some 12, some 22, .active⟩]
  nodeEndpoints := []
  attachments := [⟨41, 1, 3, some 31, .device, some 11, some 21, 0x64400001, .active, 1⟩,
    ⟨42, 1, 3, some 32, .device, some 12, some 22, 0x64400002, .active, 1⟩]

def twoSiteStore : RouteStore where
  topology := twoSiteTopology
  segments := [⟨3, 1, "segment", 5, 0x64400000, 24, .active, 0, zeroHash⟩]
  publications := []
  projections := []
  members := []
  transportCatalog := []
  pathCatalog := []
  expansions := []
  rollouts := []
  statuses := []
  auditEvents := []

theorem twoSiteStore_unpublished : twoSiteStore.Unpublished := by
  refine ⟨rfl, rfl, rfl, rfl, rfl, ?_, ?_⟩
  · decide
  · intro segment member
    rw [List.mem_singleton.mp member]
    exact ⟨rfl, rfl⟩

def sampleHash (generation : Nat) : Hash := if generation = 0 then zeroHash else
  BitVec.ofNat 256 (0xb000 + generation)

/-- The projection for site `site` (1 or 2) in the given generation. -/
def sampleProjection (generation site : Nat) : SiteProjectionPublicationWrite where
  publicationId := BitVec.ofNat 128 (0x1000 * generation + site)
  projectionId := BitVec.ofNat 128 (70 + site)
  tenantId := 1
  segmentId := 3
  siteId := BitVec.ofNat 128 (30 + site)
  attachmentId := BitVec.ofNat 128 (40 + site)
  deviceId := BitVec.ofNat 128 (10 + site)
  deviceKeyId := BitVec.ofNat 128 (20 + site)
  segmentGeneration := generation
  segmentContentHash := sampleHash generation
  projectionGeneration := generation
  previousHash := sampleHash (generation - 1)
  object := ⟨sampleHash generation, [1]⟩
  transportNodes := [(BitVec.ofNat 128 (50 + site), BitVec.ofNat 128 (20 + site))]
  runtimePaths := [⟨BitVec.ofNat 128 (80 + site), BitVec.ofNat 128 (43 - site), .direct⟩]

def sampleWrite (generation : Nat) (policyOnly : Bool) : SegmentPublicationWrite where
  publicationId := BitVec.ofNat 128 (0x9000 + generation)
  tenantId := 1
  segmentId := 3
  expectedPreviousGeneration := generation - 1
  expectedPreviousHash := sampleHash (generation - 1)
  generation := generation
  policyOnly := policyOnly
  expiresAt := 1
  staleUntil := 2
  snapshot := ⟨sampleHash generation, [1]⟩
  projections := [sampleProjection generation 1, sampleProjection generation 2]
  expansions := []
  auditEventId := BitVec.ofNat 128 (0xa000 + generation)
  actorId := "worker"

def twoPublications : List RouteCall :=
  [.publish false (sampleWrite 1 false), .publish false (sampleWrite 2 false),
    .publish false (sampleWrite 2 false)]

theorem publication_chains_two_sites :
    (run (routeStep fun _ => 0) twoSiteStore twoPublications).publications.length = 2 ∧
    projectionHead (run (routeStep fun _ => 0) twoSiteStore twoPublications) 1 3 41 =
      .ok ((((run (routeStep fun _ => 0) twoSiteStore twoPublications).attachmentProjections
        1 3 41).getLast?.map fun newest => (newest.projectionGeneration, newest.contentHash))) :=
  ⟨by decide +kernel, ((publication_chains (fun _ => 0) twoSiteStore twoSiteStore_unpublished
    twoPublications (by decide +kernel)).2.2.1 1 3 41).2⟩

end CandyCloud
