import CandyCloud.Client.Issuance
import CandyCloud.Foundation.Firsts
import Mathlib.Data.List.Lex
import Mathlib.Data.List.TakeWhile
import Mathlib.Data.Prod.Lex

/-! # Selected nodes

A selection is made of the first endpoint of every node, in the order of region, node and
endpoint.
-/

namespace CandyCloud

open Foundation
open scoped Prod.Lex

theorem ranks_lt {a b : Bytes} : a.map UInt8.toNat < b.map UInt8.toNat ↔ a < b := by
  induction a generalizing b with
  | nil =>
      cases b with
      | nil => simp
      | cons y ys => simp
  | cons x xs ih =>
      cases b with
      | nil => simp
      | cons y ys =>
          simp only [List.map_cons, List.cons_lt_cons_iff, ih, UInt8.toNat_inj,
            UInt8.lt_iff_toNat_lt]

def ClientNodeCandidate.place (candidate : ClientNodeCandidate) : List Nat ×ₗ Nat ×ₗ Nat :=
  toLex ((utf8 candidate.region).map UInt8.toNat,
    toLex (candidate.nodeId.toNat, candidate.endpointId.toNat))

variable {a b : ClientNodeCandidate} {backupCount : Nat}
  {selected active : List ClientNodeCandidate} {stored : List AssignedNode}

theorem selectionOrder_iff :
    selectionOrder a b = true ↔ a.place ≤ b.place := by
  have same : (utf8 a.region).map UInt8.toNat = (utf8 b.region).map UInt8.toNat ↔
      utf8 a.region = utf8 b.region :=
    List.map_inj_right fun _ _ => UInt8.toNat_inj.mp
  simp only [ClientNodeCandidate.place, Prod.Lex.toLex_le_toLex, same]
  simp only [selectionOrder, Bool.or_eq_true, Bool.and_eq_true, decide_eq_true_eq, BitVec.lt_def,
    BitVec.le_def, ← BitVec.toNat_inj, ← ranks_lt]

theorem selectionOrder_refl (a : ClientNodeCandidate) : selectionOrder a a = true :=
  selectionOrder_iff.mpr (le_refl _)

theorem selectionOrder_total (a b : ClientNodeCandidate) :
    selectionOrder a b = true ∨ selectionOrder b a = true := by
  rw [selectionOrder_iff, selectionOrder_iff]
  exact le_total _ _

theorem selectionOrder_trans {c : ClientNodeCandidate} (first : selectionOrder a b = true)
    (second : selectionOrder b c = true) : selectionOrder a c = true := by
  rw [selectionOrder_iff] at first second ⊢
  exact le_trans first second

theorem selectionOrder_antisymm (first : selectionOrder a b = true)
    (second : selectionOrder b a = true) : a.nodeId = b.nodeId := by
  rw [selectionOrder_iff] at first second
  have same := le_antisymm first second
  simp only [ClientNodeCandidate.place, toLex_inj, Prod.mk.injEq, BitVec.toNat_inj] at same
  exact same.2.1

instance : Std.Total fun a b => selectionOrder a b = true where
  total := selectionOrder_total

instance : IsTrans ClientNodeCandidate fun a b => selectionOrder a b = true where
  trans _ _ _ := selectionOrder_trans

def distinctNodes (candidates : List ClientNodeCandidate) : Nat :=
  (candidates.map (·.nodeId)).dedup.length

theorem firstOfNode_eq (kept candidates : List ClientNodeCandidate) :
    firstOfNode kept candidates =
      kept ++ (firsts (·.nodeId) candidates).filter fun candidate =>
        !kept.any fun other => decide (other.nodeId = candidate.nodeId) := by
  induction candidates generalizing kept with
  | nil => simp [firstOfNode, firsts]
  | cons candidate rest ih =>
      rw [firstOfNode, firsts]
      split
      · rename_i held
        rw [ih, List.filter_cons_of_neg (by simpa using held), List.filter_filter]
        congr 1
        refine List.filter_congr fun later _ => ?_
        by_cases same : later.nodeId = candidate.nodeId
        · simp only [same, held, Bool.not_true, Bool.false_and]
        · simp only [ne_eq, same, not_false_eq_true, decide_true, Bool.and_true]
      · rename_i fresh
        rw [ih, List.filter_cons_of_pos (by simpa using fresh), List.filter_filter,
          List.append_assoc, List.singleton_append]
        congr 2
        refine List.filter_congr fun later _ => ?_
        simp only [List.any_append, List.any_cons, List.any_nil, Bool.or_false, Bool.not_or,
          ne_eq, decide_not, eq_comm]

def firstEndpoints (candidates : List ClientNodeCandidate) : List ClientNodeCandidate :=
  firsts (·.nodeId) (candidates.insertionSort fun a b => selectionOrder a b = true)

theorem length_firstEndpoints (candidates : List ClientNodeCandidate) :
    (firstEndpoints candidates).length = distinctNodes candidates := by
  rw [firstEndpoints, length_firsts, distinctNodes]
  exact ((List.perm_insertionSort (fun a b => selectionOrder a b = true) candidates).map
    (·.nodeId)).dedup.length_eq

theorem selectNodes_ok {candidates nodes : List ClientNodeCandidate} :
    selectNodes candidates backupCount = .ok nodes ↔
      backupCount ≤ maxClientNodeBackups ∧
      (∀ candidate ∈ candidates, candidate.validate = .ok ()) ∧
      backupCount < distinctNodes candidates ∧
      nodes = (firstEndpoints candidates).take (backupCount + 1) := by
  rw [selectNodes, unit_bind_ok, unit_bind_ok, reject_ok, checkEach_all, ← length_firstEndpoints]
  simp only [unit_bind_ok, pure_ok, reject_ok, decide_eq_false_iff_not, not_lt, firstOfNode_eq,
    List.any_nil, Bool.not_false, List.filter_true, List.nil_append, firstEndpoints,
    Nat.succ_le_iff, eq_comm (a := nodes)]

/-- The first nodes in order, three at most, each by its first endpoint. -/
structure FirstNodes (candidates nodes : List ClientNodeCandidate) : Prop where
  count : nodes.length = min (maxClientNodeBackups + 1) (distinctNodes candidates)
  distinct : (nodes.map (·.nodeId)).Nodup
  offered : ∀ node ∈ nodes, node ∈ candidates
  sorted : nodes.Pairwise fun a b => selectionOrder a b = true
  first : ∀ candidate ∈ candidates,
    (∃ node ∈ nodes, node.nodeId = candidate.nodeId ∧ selectionOrder node candidate = true) ∨
      ∀ node ∈ nodes, selectionOrder node candidate = true

theorem found_before {test : ClientNodeCandidate → Bool} {candidates : List ClientNodeCandidate}
    (sorted : candidates.Pairwise fun a b => selectionOrder a b = true)
    (found : candidates.find? test = some a) (member : b ∈ candidates) (passes : test b = true)
    : selectionOrder a b = true := by
  obtain ⟨-, before, after, rfl, missed⟩ := List.find?_eq_some_iff_append.mp found
  rcases List.mem_append.mp member with early | late
  · exact absurd passes (by simpa using missed b early)
  · rcases List.mem_cons.mp late with rfl | behind
    · exact selectionOrder_refl _
    · exact List.rel_of_pairwise_cons (List.pairwise_append.mp sorted).2.1 behind

theorem firstEndpoints_first (candidates : List ClientNodeCandidate) :
    FirstNodes candidates ((firstEndpoints candidates).take (maxClientNodeBackups + 1)) := by
  have ordered := List.pairwise_insertionSort (fun a b => selectionOrder a b = true) candidates
  have sorted : (firstEndpoints candidates).Pairwise fun a b => selectionOrder a b = true :=
    ordered.sublist firsts_sublist
  constructor
  · rw [List.length_take, length_firstEndpoints]
  · exact firsts_nodup.sublist ((List.take_sublist _ _).map _)
  · intro node member
    exact (List.mem_insertionSort _).mp (firsts_sublist.subset (List.mem_of_mem_take member))
  · exact sorted.sublist (List.take_sublist _ _)
  · intro candidate member
    have listed := (List.mem_insertionSort fun a b => selectionOrder a b = true).mpr member
    obtain ⟨leader, kept, named⟩ := List.mem_map.mp
      (key_mem_firsts.mpr (List.mem_map_of_mem (f := ClientNodeCandidate.nodeId) listed))
    have before : selectionOrder leader candidate = true :=
      found_before ordered (mem_firsts.mp kept) listed (decide_eq_true named.symm)
    change leader ∈ firstEndpoints candidates at kept
    rw [← List.take_append_drop (maxClientNodeBackups + 1) (firstEndpoints candidates)] at kept sorted
    rcases List.mem_append.mp kept with taken | left
    · exact .inl ⟨leader, taken, named, before⟩
    · refine .inr fun node chosen => ?_
      exact selectionOrder_trans ((List.pairwise_append.mp sorted).2.2 node chosen leader left) before

/-- A first endpoint of one of the first three nodes. -/
def ClientNodeCandidate.Leads (candidates : List ClientNodeCandidate) (a : ClientNodeCandidate) :
    Prop :=
  a ∈ candidates ∧
    (∀ b ∈ candidates, b.nodeId = a.nodeId → selectionOrder a b = true) ∧
    distinctNodes (candidates.filter fun b => !selectionOrder a b) ≤ maxClientNodeBackups

namespace FirstNodes

variable {candidates nodes : List ClientNodeCandidate} (first : FirstNodes candidates nodes)
include first

theorem leads (member : a ∈ nodes) : a.Leads candidates := by
  refine ⟨first.offered a member, ?_, ?_⟩
  · intro b listed same
    rcases first.first b listed with ⟨node, chosen, named, before⟩ | all
    · rwa [eq_of_key first.distinct chosen member (named.trans same)] at before
    · exact all a member
  · have others : (((candidates.filter fun b => !selectionOrder a b).map (·.nodeId)).dedup) ⊆
        (nodes.map (·.nodeId)).erase a.nodeId := by
      intro id listed
      obtain ⟨b, kept, rfl⟩ := List.mem_map.mp (List.mem_dedup.mp listed)
      obtain ⟨offered, earlier⟩ := List.mem_filter.mp kept
      rw [first.distinct.mem_erase_iff]
      rcases first.first b offered with ⟨node, chosen, named, before⟩ | all
      · refine ⟨?_, named ▸ List.mem_map_of_mem chosen⟩
        intro same
        rw [eq_of_key first.distinct chosen member (named.trans same)] at before
        rw [before] at earlier
        cases earlier
      · rw [all a member] at earlier
        cases earlier
    have bound := (List.subperm_of_subset (List.nodup_dedup _) others).length_le
    rw [List.length_erase_of_mem (List.mem_map_of_mem member), List.length_map, first.count] at bound
    rw [distinctNodes]
    omega

theorem of_leads (leads : a.Leads candidates) :
    ∃ node ∈ nodes, node.nodeId = a.nodeId := by
  obtain ⟨offered, -, few⟩ := leads
  by_contra none
  simp only [not_exists, not_and] at none
  have before : ∀ node ∈ nodes, selectionOrder node a = true := by
    rcases first.first a offered with ⟨node, chosen, named, -⟩ | all
    · exact absurd named (none node chosen)
    · exact all
  have earlier : nodes.map (·.nodeId) ⊆
      ((candidates.filter fun b => !selectionOrder a b).map (·.nodeId)).dedup := by
    intro id listed
    obtain ⟨node, chosen, rfl⟩ := List.mem_map.mp listed
    rw [List.mem_dedup]
    refine List.mem_map_of_mem (List.mem_filter.mpr ⟨first.offered node chosen, ?_⟩)
    rw [Bool.not_eq_true']
    by_contra after
    rw [Bool.not_eq_false] at after
    exact none node chosen (selectionOrder_antisymm (before node chosen) after)
  have fewer := (List.subperm_of_subset first.distinct earlier).length_le
  have missing : (a.nodeId :: nodes.map (·.nodeId)) ⊆ (candidates.map (·.nodeId)).dedup := by
    intro id listed
    rw [List.mem_dedup]
    rcases List.mem_cons.mp listed with rfl | chosen
    · exact List.mem_map_of_mem offered
    · obtain ⟨node, member, rfl⟩ := List.mem_map.mp chosen
      exact List.mem_map_of_mem (first.offered node member)
  have distinct : (a.nodeId :: nodes.map (·.nodeId)).Nodup := by
    rw [List.nodup_cons]
    refine ⟨?_, first.distinct⟩
    intro listed
    obtain ⟨node, chosen, named⟩ := List.mem_map.mp listed
    exact none node chosen named
  have more := (List.subperm_of_subset distinct missing).length_le
  have count := first.count
  rw [List.length_cons, List.length_map] at more
  rw [List.length_map] at fewer
  rw [distinctNodes] at few count
  omega

end FirstNodes

theorem FirstNodes.perm {candidates other nodes : List ClientNodeCandidate}
    (first : FirstNodes candidates nodes) (perm : other.Perm candidates) :
    FirstNodes other nodes := by
  refine ⟨?_, first.distinct, ?_, first.sorted, ?_⟩
  · rw [distinctNodes, (perm.map (·.nodeId)).dedup.length_eq]
    exact first.count
  · exact fun node member => perm.mem_iff.mpr (first.offered node member)
  · exact fun candidate member => first.first candidate (perm.mem_iff.mp member)

theorem FirstNodes.unique {candidates nodes nodes' : List ClientNodeCandidate}
    (single : ∀ a b : ClientNodeCandidate, a.Leads candidates → b.Leads candidates →
      a.nodeId = b.nodeId → a = b)
    (first : FirstNodes candidates nodes) (first' : FirstNodes candidates nodes') :
    nodes = nodes' := by
  have listed : ∀ {xs ys : List ClientNodeCandidate}, FirstNodes candidates xs →
      FirstNodes candidates ys → ∀ a ∈ xs, a ∈ ys := by
    intro xs ys one two a member
    obtain ⟨b, chosen, named⟩ := two.of_leads (one.leads member)
    rw [single a b (one.leads member) (two.leads chosen) named.symm]
    exact chosen
  have perm : nodes.Perm nodes' := by
    rw [List.perm_ext_iff_of_nodup first.distinct.of_map first'.distinct.of_map]
    exact fun a => ⟨listed first first' a, listed first' first a⟩
  refine perm.eq_of_pairwise ?_ first.sorted first'.sorted
  intro a b one two before after
  exact single a b (first.leads one) (first'.leads two) (selectionOrder_antisymm before after)

theorem selectFreshNodes_ok {candidates nodes : List ClientNodeCandidate} (some : candidates ≠ [])
    (valid : ∀ candidate ∈ candidates, candidate.validate = .ok ()) :
    ClientIssuance.selectFreshNodes candidates = .ok nodes ↔
      min (maxClientNodeBackups + 1) candidates.length ≤ distinctNodes candidates ∧
      nodes = (firstEndpoints candidates).take (maxClientNodeBackups + 1) := by
  have filled := List.length_pos_iff.mpr some
  have fewer : distinctNodes candidates ≤ candidates.length := by
    have bound := (List.dedup_sublist (candidates.map (·.nodeId))).length_le
    rwa [List.length_map] at bound
  have length := length_firstEndpoints candidates
  have taken : (firstEndpoints candidates).take
        (min (candidates.length - 1) maxClientNodeBackups + 1) =
      (firstEndpoints candidates).take (maxClientNodeBackups + 1) := by
    rw [List.take_eq_take_iff]
    omega
  rw [ClientIssuance.selectFreshNodes, mapError_ok, selectNodes_ok, taken]
  constructor
  · rintro ⟨-, -, enough, chosen⟩
    exact ⟨by omega, chosen⟩
  · rintro ⟨enough, chosen⟩
    exact ⟨by omega, valid, by omega, chosen⟩

theorem leads_selected {candidates : List ClientNodeCandidate} (leads : a.Leads candidates)
    : a ∈ firstEndpoints (a :: candidates.erase a) := by
  rw [firstEndpoints, List.insertionSort_cons_eq_take_drop]
  refine mem_firsts_append ?_
  intro b member same
  have after := List.mem_takeWhile_imp member
  rw [decide_eq_true_eq] at after
  have listed := (List.mem_insertionSort _).mp ((List.takeWhile_subset _) member)
  exact after (leads.2.1 b (List.mem_of_mem_erase listed) same)

/-- Fresh selection finds the first nodes, however the candidates are listed, exactly
    when the list has as many nodes as endpoints, or three, and none of the first
    nodes has two different endpoints in first place. -/
theorem fresh_selection_iff (candidates : List ClientNodeCandidate) (some : candidates ≠ [])
    (valid : ∀ candidate ∈ candidates, candidate.validate = .ok ()) :
    (∃ nodes, FirstNodes candidates nodes ∧ ∀ other, other.Perm candidates →
        ClientIssuance.selectFreshNodes other = .ok nodes) ↔
      min (maxClientNodeBackups + 1) candidates.length ≤ distinctNodes candidates ∧
      ∀ a b : ClientNodeCandidate, a.Leads candidates → b.Leads candidates →
        a.nodeId = b.nodeId → a = b := by
  have checked : ∀ other, other.Perm candidates → other ≠ [] ∧
      ∀ candidate ∈ other, candidate.validate = .ok () := by
    intro other perm
    refine ⟨?_, fun candidate member => valid candidate (perm.mem_iff.mp member)⟩
    rintro rfl
    exact some perm.nil_eq.symm
  constructor
  · rintro ⟨nodes, first, selected⟩
    have chosen : ∀ a : ClientNodeCandidate, a.Leads candidates → a ∈ nodes := by
      intro a leads
      have perm := (List.perm_cons_erase leads.1).symm
      obtain ⟨filled, formed⟩ := checked _ perm
      obtain ⟨-, taken⟩ := (selectFreshNodes_ok filled formed).mp (selected _ perm)
      obtain ⟨node, member, named⟩ := first.of_leads leads
      have kept : node ∈ firstEndpoints (a :: candidates.erase a) :=
        List.mem_of_mem_take (taken ▸ member)
      rw [← eq_of_key firsts_nodup kept (leads_selected leads) named]
      exact member
    constructor
    · exact ((selectFreshNodes_ok some valid).mp (selected candidates (.refl _))).1
    · intro a b leads leads' same
      exact eq_of_key first.distinct (chosen a leads) (chosen b leads') same
  · rintro ⟨enough, single⟩
    refine ⟨_, firstEndpoints_first candidates, ?_⟩
    intro other perm
    obtain ⟨filled, formed⟩ := checked other perm
    rw [selectFreshNodes_ok filled formed]
    constructor
    · rw [perm.length_eq, distinctNodes, (perm.map (·.nodeId)).dedup.length_eq]
      exact enough
    · exact FirstNodes.unique single (firstEndpoints_first candidates)
        ((firstEndpoints_first other).perm perm.symm)

def sampleCandidate (nodeId endpointId : Uuid) (region : String) : ClientNodeCandidate :=
  ⟨nodeId, nodeId + 100, endpointId, "edge.example.test:443", region, "edge.example.test", 7⟩

theorem fresh_selection_two :
    ∃ nodes, FirstNodes [sampleCandidate 2 20 "eu", sampleCandidate 1 10 "ap"] nodes ∧
      ∀ other, other.Perm [sampleCandidate 2 20 "eu", sampleCandidate 1 10 "ap"] →
        ClientIssuance.selectFreshNodes other = .ok nodes := by
  have valid : ∀ candidate ∈ [sampleCandidate 2 20 "eu", sampleCandidate 1 10 "ap"],
      candidate.validate = .ok () := by decide +kernel
  rw [fresh_selection_iff _ (List.cons_ne_nil _ _) valid]
  constructor
  · decide
  · intro a b leads leads' same
    have distinct : ([sampleCandidate 2 20 "eu", sampleCandidate 1 10 "ap"].map
        (·.nodeId)).Nodup := by decide
    exact eq_of_key distinct leads.1 leads'.1 same

/-- A tenant with one node that has two endpoints. -/
theorem two_endpoints_no_node :
    (∀ candidate ∈ [sampleCandidate 1 10 "ap", sampleCandidate 1 11 "eu"],
      candidate.validate = .ok ()) ∧
    ClientIssuance.selectFreshNodes [sampleCandidate 1 10 "ap", sampleCandidate 1 11 "eu"] =
      .error .noActiveNode := by
  decide +kernel

/-- The order of `select_nodes`: a preferred region comes first. -/
def preferenceOrder (preferredRegion : Option String) (a b : ClientNodeCandidate) : Bool :=
  let aPreferred := decide (preferredRegion = some a.region)
  let bPreferred := decide (preferredRegion = some b.region)
  (aPreferred && !bPreferred) || (aPreferred == bPreferred && selectionOrder a b)

/-- `select_nodes` with the region its caller prefers. -/
def selectNodesPreferring (candidates : List ClientNodeCandidate) (preferredRegion : Option String)
    (backupCount : Nat) : Except ClientRoutingError (List ClientNodeCandidate) := do
  reject (decide (maxClientNodeBackups < backupCount)) .invalidBackupCount
  reject (preferredRegion.any fun region => region.isEmpty || decide (80 < region.utf8ByteSize))
    .invalidCandidate
  checkEach (fun _ candidate => candidate.validate) [] candidates
  let kept := firstOfNode []
    (candidates.insertionSort fun a b => preferenceOrder preferredRegion a b = true)
  reject (decide (kept.length < backupCount + 1)) .noActiveNode
  return kept.take (backupCount + 1)

theorem selectNodesPreferring_none (candidates : List ClientNodeCandidate) (backupCount : Nat) :
    selectNodesPreferring candidates none backupCount = selectNodes candidates backupCount := by
  have order : preferenceOrder none = selectionOrder := by
    funext a b
    simp [preferenceOrder]
  rw [selectNodesPreferring, order]
  rfl

theorem selectNodesPreferring_selected {candidates : List ClientNodeCandidate}
    {preferredRegion : Option String}
    (done : selectNodesPreferring candidates preferredRegion backupCount = .ok selected) :
    selected ≠ [] ∧ (selected.map (·.nodeId)).Nodup ∧
      ∀ node ∈ selected, node ∈ candidates ∧ node.validate = .ok () := by
  rw [selectNodesPreferring, unit_bind_ok, unit_bind_ok, unit_bind_ok, checkEach_all] at done
  obtain ⟨-, -, valid, done⟩ := done
  simp only [unit_bind_ok, pure_ok, reject_ok, decide_eq_false_iff_not, not_lt, firstOfNode_eq,
    List.any_nil, Bool.not_false, List.filter_true, List.nil_append] at done
  obtain ⟨enough, rfl⟩ := done
  refine ⟨?_, firsts_nodup.sublist ((List.take_sublist _ _).map _), ?_⟩
  · rw [← List.length_pos_iff, List.length_take]
    omega
  · intro node member
    have offered := (List.mem_insertionSort _).mp
      (firsts_sublist.subset (List.mem_of_mem_take member))
    exact ⟨offered, valid node offered⟩

def ClientNodeCandidate.assigned (candidate : ClientNodeCandidate) : AssignedNode :=
  ⟨candidate.nodeId, candidate.nodeKeyId⟩

def AssignedNode.offer (assigned : AssignedNode) (active : List ClientNodeCandidate) :
    Option ClientNodeCandidate :=
  active.find? fun candidate => decide (candidate.assigned = assigned)

/-- An assignment that a plan reuses. -/
structure PreviousAssignment.Reusable (stored : PreviousAssignment) (now : Nat)
    (active : List ClientNodeCandidate) : Prop where
  live : now < stored.leaseUntil
  filled : stored.nodes ≠ []
  named : ∀ assigned ∈ stored.nodes, isNil assigned.nodeId = false
  distinct : (stored.nodes.map (·.nodeId)).Nodup
  offered : ∀ assigned ∈ stored.nodes, ∃ candidate ∈ active, candidate.assigned = assigned

theorem reuseNodes_some {nodes : List ClientNodeCandidate} {seen : List Uuid} :
    reuseNodes active seen stored = some nodes ↔
      (∀ assigned ∈ stored, isNil assigned.nodeId = false ∧ assigned.nodeId ∉ seen) ∧
      (stored.map (·.nodeId)).Nodup ∧
      List.Forall₂ (fun assigned node => assigned.offer active = some node) stored nodes := by
  have offer : ∀ assigned : AssignedNode, assigned.offer active = active.find? fun candidate =>
      decide (candidate.nodeId = assigned.nodeId) &&
        decide (candidate.nodeKeyId = assigned.nodeKeyId) := by
    intro assigned
    cases assigned with
    | mk nodeId nodeKeyId =>
        simp only [AssignedNode.offer, ClientNodeCandidate.assigned, AssignedNode.mk.injEq,
          Bool.decide_and]
  induction stored generalizing seen nodes with
  | nil =>
      simp only [reuseNodes, Option.some.injEq, List.not_mem_nil, false_implies, implies_true,
        List.map_nil, List.nodup_nil, List.forall₂_nil_left_iff, true_and, eq_comm]
  | cons assigned rest ih =>
      rw [reuseNodes, List.forall_mem_cons, List.map_cons, List.nodup_cons,
        List.forall₂_cons_left_iff]
      split
      · rename_i refused
        rw [Bool.or_eq_true, List.contains_iff_mem] at refused
        constructor
        · intro done
          cases done
        · rintro ⟨⟨⟨named, fresh⟩, -⟩, -⟩
          rcases refused with nil | repeated
          · rw [named] at nil
            cases nil
          · exact absurd repeated fresh
      · rename_i accepted
        simp only [Bool.or_eq_true, List.contains_iff_mem, not_or, Bool.not_eq_true] at accepted
        simp only [Option.bind_eq_bind, Option.bind_eq_some_iff, Option.pure_def,
          Option.some.injEq, ← offer, ih]
        constructor
        · rintro ⟨node, found, others, ⟨named, distinct, offers⟩, rfl⟩
          refine ⟨⟨accepted, fun other member => ?_⟩, ⟨?_, distinct⟩, node, others, found, offers, rfl⟩
          · exact ⟨(named other member).1, fun seen => (named other member).2 (List.mem_cons_of_mem _ seen)⟩
          · intro again
            obtain ⟨other, member, same⟩ := List.mem_map.mp again
            exact (named other member).2 (List.mem_cons.mpr (.inl same))
        · rintro ⟨⟨-, named⟩, ⟨fresh, distinct⟩, node, others, found, offers, rfl⟩
          refine ⟨node, found, others, ⟨fun other member => ⟨(named other member).1, ?_⟩, distinct,
            offers⟩, rfl⟩
          intro seen
          rcases List.mem_cons.mp seen with same | earlier
          · exact fresh (same ▸ List.mem_map_of_mem member)
          · exact (named other member).2 earlier

theorem offer_assigned {assigned : AssignedNode} {node : ClientNodeCandidate}
    (offer : assigned.offer active = some node) :
    node ∈ active ∧ node.assigned = assigned := by
  have named := List.find?_some offer
  rw [decide_eq_true_eq] at named
  exact ⟨List.mem_of_find?_eq_some offer, named⟩

theorem offers_assigned {nodes : List ClientNodeCandidate}
    (offers : List.Forall₂ (fun assigned node => assigned.offer active = some node) stored nodes) :
    ∀ assigned ∈ stored, ∃ candidate ∈ active, candidate.assigned = assigned := by
  induction offers with
  | nil =>
      intro assigned member
      cases member
  | cons offer rest ih =>
      rw [List.forall_mem_cons]
      exact ⟨⟨_, offer_assigned offer⟩, ih⟩

theorem planAssignment_some {now : Nat} {previous : Option PreviousAssignment}
    {nodes : List ClientNodeCandidate} :
    planAssignment now previous active = some nodes ↔
      ∃ stored, previous = some stored ∧ stored.Reusable now active ∧
        List.Forall₂ (fun assigned node => assigned.offer active = some node) stored.nodes nodes := by
  cases previous with
  | none => simp [planAssignment]
  | some stored =>
      simp only [planAssignment, Option.bind_eq_bind, Option.bind_some, Option.some.injEq,
        exists_eq_left']
      by_cases refused :
          (!assignmentLeaseReusable now stored.leaseUntil || stored.nodes.isEmpty) = true
      · rw [if_pos refused]
        constructor
        · intro done
          cases done
        · rintro ⟨reusable, -⟩
          rw [assignmentLeaseReusable, decide_eq_true reusable.live, Bool.not_true,
            Bool.false_or, List.isEmpty_iff] at refused
          exact absurd refused reusable.filled
      · rw [if_neg refused]
        simp only [assignmentLeaseReusable, Bool.or_eq_true, Bool.not_eq_true',
          decide_eq_false_iff_not, not_or, not_not, List.isEmpty_iff] at refused
        rw [reuseNodes_some]
        constructor
        · rintro ⟨named, distinct, offers⟩
          refine ⟨⟨refused.1, refused.2, fun assigned member => (named assigned member).1,
            distinct, offers_assigned offers⟩, offers⟩
        · rintro ⟨reusable, offers⟩
          exact ⟨fun assigned member => ⟨reusable.named assigned member, List.not_mem_nil⟩,
            reusable.distinct, offers⟩

theorem offers_exist
    (offered : ∀ assigned ∈ stored, ∃ candidate ∈ active, candidate.assigned = assigned) :
    ∃ nodes, List.Forall₂ (fun assigned node => assigned.offer active = some node) stored nodes := by
  induction stored with
  | nil => exact ⟨[], .nil⟩
  | cons assigned rest ih =>
      rw [List.forall_mem_cons] at offered
      obtain ⟨⟨candidate, member, named⟩, others⟩ := offered
      obtain ⟨nodes, offers⟩ := ih others
      have some : (assigned.offer active).isSome := by
        rw [AssignedNode.offer, List.find?_isSome]
        exact ⟨candidate, member, decide_eq_true named⟩
      obtain ⟨node, offer⟩ := Option.isSome_iff_exists.mp some
      exact ⟨node :: nodes, .cons offer offers⟩

/-- In a list in order, a selection without a preferred region takes the first
    candidate of each of its nodes. -/
theorem selected_offered (sorted : active.Pairwise fun a b => selectionOrder a b = true)
    (done : selectNodes active backupCount = .ok selected) :
    ∀ node ∈ selected, node.assigned.offer active = some node := by
  obtain ⟨-, -, -, rfl⟩ := selectNodes_ok.mp done
  intro node member
  have first := List.mem_of_mem_take member
  rw [firstEndpoints, sorted.insertionSort_eq, mem_firsts] at first
  obtain ⟨-, before, after, rfl, missed⟩ := List.find?_eq_some_iff_append.mp first
  rw [AssignedNode.offer, List.find?_eq_some_iff_append]
  refine ⟨decide_eq_true rfl, before, after, rfl, ?_⟩
  intro other earlier
  have different := missed other earlier
  simp only [Bool.not_eq_true', decide_eq_false_iff_not] at different ⊢
  exact fun same => different (congrArg AssignedNode.nodeId same)

/-- A plan reuses exactly a live assignment of distinct nodes that are all still
    offered, in its order. The nodes of a selection are reused in its order; the
    endpoints are those of the selection when these come first in the list, as they do
    without a preferred region. -/
theorem assignment_stable (now : Nat) (active : List ClientNodeCandidate)
    (sorted : active.Pairwise fun a b => selectionOrder a b = true) :
    (∀ previous, (∃ nodes, planAssignment now previous active = some nodes) ↔
      ∃ stored, previous = some stored ∧ stored.Reusable now active) ∧
    (∀ stored nodes, planAssignment now (some stored) active = some nodes →
      List.Forall₂ (fun assigned node => assigned.offer active = some node) stored.nodes nodes) ∧
    ∀ preferredRegion backupCount selected leaseUntil,
      selectNodesPreferring active preferredRegion backupCount = .ok selected →
      now < leaseUntil →
      ∃ reused,
        planAssignment now (some ⟨leaseUntil, selected.map (·.assigned)⟩) active = some reused ∧
        reused.map (·.assigned) = selected.map (·.assigned) ∧
        (reused = selected ↔ ∀ node ∈ selected, node.assigned.offer active = some node) ∧
        (preferredRegion = none → reused = selected) := by
  refine ⟨?_, ?_, ?_⟩
  · intro previous
    simp only [planAssignment_some]
    constructor
    · rintro ⟨nodes, stored, held, reusable, -⟩
      exact ⟨stored, held, reusable⟩
    · rintro ⟨stored, held, reusable⟩
      obtain ⟨nodes, offers⟩ := offers_exist reusable.offered
      exact ⟨nodes, stored, held, reusable, offers⟩
  · intro stored nodes planned
    obtain ⟨other, held, -, offers⟩ := planAssignment_some.mp planned
    cases held
    exact offers
  · intro preferredRegion backupCount selected leaseUntil done live
    obtain ⟨filled, distinct, offered⟩ := selectNodesPreferring_selected done
    have reusable : PreviousAssignment.Reusable ⟨leaseUntil, selected.map (·.assigned)⟩ now
        active := by
      refine ⟨live, ?_, ?_, ?_, ?_⟩
      · simpa using filled
      · intro assigned member
        obtain ⟨node, chosen, rfl⟩ := List.mem_map.mp member
        have valid := (offered node chosen).2
        rw [ClientNodeCandidate.validate, reject_ok] at valid
        simp only [List.any_cons, Bool.or_eq_false_iff] at valid
        exact valid.1.1.1.1.1.1.1.1.1
      · rw [List.map_map]
        exact distinct
      · intro assigned member
        obtain ⟨node, chosen, rfl⟩ := List.mem_map.mp member
        exact ⟨node, (offered node chosen).1, rfl⟩
    obtain ⟨reused, offers⟩ := offers_exist reusable.offered
    have planned := planAssignment_some.mpr ⟨_, rfl, reusable, offers⟩
    rw [List.forall₂_map_left_iff] at offers
    have same : reused = selected ↔ ∀ node ∈ selected, node.assigned.offer active = some node := by
      constructor
      · rintro rfl
        exact List.forall₂_same.mp offers
      · intro first
        exact List.right_unique_forall₂'
          (fun _ _ _ one two => Option.some.inj (one.symm.trans two)) offers
          (List.forall₂_same.mpr first)
    refine ⟨reused, planned, ?_, same, ?_⟩
    · rw [← List.forall₂_eq_eq_eq, List.forall₂_map_left_iff, List.forall₂_map_right_iff]
      exact offers.flip.imp fun _ _ offer => (offer_assigned offer).2
    · rintro rfl
      rw [selectNodesPreferring_none] at done
      exact same.mpr (selected_offered sorted done)

theorem assignment_stable_two :
    ∃ reused, planAssignment 100 (some ⟨200, [⟨1, 101⟩, ⟨2, 102⟩]⟩)
        [sampleCandidate 1 10 "ap", sampleCandidate 1 11 "eu", sampleCandidate 2 20 "eu"] =
        some reused ∧
      reused.map (·.endpointId) = [10, 20] := by
  have selected : selectNodesPreferring
      [sampleCandidate 1 10 "ap", sampleCandidate 1 11 "eu", sampleCandidate 2 20 "eu"] none 1 =
        .ok [sampleCandidate 1 10 "ap", sampleCandidate 2 20 "eu"] := by decide +kernel
  obtain ⟨reused, planned, -, -, same⟩ := (assignment_stable 100
    [sampleCandidate 1 10 "ap", sampleCandidate 1 11 "eu", sampleCandidate 2 20 "eu"]
    (by decide +kernel)).2.2 none 1 _ 200 selected (by decide)
  obtain rfl := same rfl
  exact ⟨_, planned, rfl⟩

/-- The preferred region of the selection is forgotten when its node is looked up
    again. -/
theorem preferred_endpoint_lost :
    [sampleCandidate 1 10 "ap", sampleCandidate 1 11 "eu"].Pairwise
      (fun a b => selectionOrder a b = true) ∧
    selectNodesPreferring [sampleCandidate 1 10 "ap", sampleCandidate 1 11 "eu"] (some "eu") 0 =
      .ok [sampleCandidate 1 11 "eu"] ∧
    planAssignment 100 (some ⟨200, [(sampleCandidate 1 11 "eu").assigned]⟩)
        [sampleCandidate 1 10 "ap", sampleCandidate 1 11 "eu"] =
      some [sampleCandidate 1 10 "ap"] := by
  decide +kernel

end CandyCloud
