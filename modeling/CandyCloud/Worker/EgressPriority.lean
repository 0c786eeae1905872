import CandyCloud.Worker.EgressRules

/-! # Local rules and remote routes

Priorities are compared for equal destinations only, while an address belongs to every prefix
around it.
-/

namespace CandyCloud

open Foundation

section Rules

variable (attachmentSites : List Uuid) (egresses : Uuid → Option EgressV1)
  (rules : List PolicyRule) (siteId : Uuid)

def ServicePolicyRuleV1.Contains (rule : ServicePolicyRuleV1) (address : BitVec 32) : Prop :=
  ∃ block ∈ rule.destinationPrefixes, block.Covers address

/-- A rule of the lowest number for the site and the address is local. -/
def LocalFirst (address : BitVec 32) : Prop :=
  ∃ entry ∈ rules, entry.2.AppliesTo attachmentSites egresses siteId ∧
    entry.2.Contains address ∧ entry.2.action = .localEgress ∧
    ∀ other ∈ rules, other.2.AppliesTo attachmentSites egresses siteId →
      other.2.Contains address → entry.2.priority ≤ other.2.priority

/-- No local rule for the site shares an address with the destination of a remote
    rule in force that it precedes. -/
def Separate : Prop :=
  ∀ remote destination egressId,
    Foremost attachmentSites egresses rules siteId destination remote →
    remote.2.action = .remoteEgress egressId →
    ∀ entry ∈ rules, entry.2.AppliesTo attachmentSites egresses siteId →
      entry.2.action = .localEgress → entry.2.priority ≤ remote.2.priority →
      ∀ block ∈ entry.2.destinationPrefixes, block.Disjoint destination

end Rules

def SegmentView.ProjectsFor (view : SegmentView) (projection : DeviceProjectionInput)
    (siteId : Uuid) : Prop :=
  ∀ entry ∈ view.attachments, entry.1.id = projection.attachmentId → entry.2.siteId = siteId

/-- An address that a local rule decides is covered by no remote rule of the site
    and by no egress route of its projections. -/
structure LocalPrevails (view : SegmentView) (rules : List PolicyRule)
    (effective : List EffectiveRemoteEgressRule) (input : RoutePublicationInput)
    (siteId : Uuid) : Prop where
  effective : ∀ address, LocalFirst view.attachmentSites view.egresses rules siteId address →
    ∀ rule ∈ effective, rule.sourceSiteId = siteId → ¬ rule.destination.Covers address
  routes : ∀ address, LocalFirst view.attachmentSites view.egresses rules siteId address →
    ∀ projection ∈ input.projections, view.ProjectsFor projection siteId →
      ∀ route ∈ projection.egressRoutes, ¬ route.destinationPrefix.Covers address

theorem masked_half (address : BitVec 32) :
    address &&& Ipv4PrefixV1.mask 1 = if address.getLsbD 31 then BitVec.twoPow 32 31 else 0 := by
  apply BitVec.eq_of_getLsbD_eq
  intro i inside
  rw [BitVec.getLsbD_and, Ipv4PrefixV1.mask_bit]
  by_cases last : i = 31
  · subst last
    cases address.getLsbD 31 with
    | false => rfl
    | true => rfl
  · have low : ¬ (32 - 1 ≤ i ∧ i < 32) := by omega
    split
    · simp [low, BitVec.getLsbD_twoPow, Ne.symm last]
    · simp [low]

theorem normalized_covers {prefixes : List Ipv4PrefixV1} {address : BitVec 32} :
    (∃ block ∈ normalizedPolicyDestinations prefixes, block.Covers address) ↔
      ∃ block ∈ prefixes, block.Covers address := by
  unfold normalizedPolicyDestinations
  simp only
  split
  · rename_i halves
    simp only [List.all_cons, List.all_nil, Bool.and_true, Bool.and_eq_true,
      List.contains_iff_mem] at halves
    constructor
    · intro _
      cases top : address.getLsbD 31 with
      | false =>
          refine ⟨_, halves.2.1, ?_⟩
          rw [Ipv4PrefixV1.Covers, masked_half, top]
          rfl
      | true =>
          refine ⟨_, halves.2.2, ?_⟩
          rw [Ipv4PrefixV1.Covers, masked_half, top]
          rfl
    · intro _
      exact ⟨_, List.mem_singleton.mpr rfl, by simp [Ipv4PrefixV1.Covers, Ipv4PrefixV1.mask]⟩
  · exact Iff.rfl

instance (block : Ipv4PrefixV1) (address : BitVec 32) : Decidable (block.Covers address) :=
  inferInstanceAs (Decidable (address &&& Ipv4PrefixV1.mask block.prefixLen = block.network))

theorem Ipv4PrefixV1.overlaps_comm (a b : Ipv4PrefixV1) : a.overlaps b = b.overlaps a := by
  simp only [overlaps, Nat.min_comm]
  exact Bool.beq_comm

/-- No two of the blocks share an address. -/
def NonOverlapping (blocks : List Ipv4PrefixV1) : Prop :=
  ∀ a ∈ blocks, ∀ b ∈ blocks, a ≠ b → a.overlaps b = false

/-- What planning some effective rules leaves. -/
structure Planned (rules : List EffectiveRemoteEgressRule) (plan : EgressPlan) : Prop where
  listed : ∀ rule ∈ rules, rule.destination ∈ plan.destinations rule.sourceSiteId
  apart : ∀ siteId, NonOverlapping (plan.destinations siteId)
  routes : ∀ siteId, ∀ route ∈ plan.routes siteId, ∃ rule ∈ rules,
    rule.sourceSiteId = siteId ∧ rule.destination = route.destinationPrefix

theorem mergeEgressDestinations_ok {destinations merged : List Ipv4PrefixV1}
    {addition : Ipv4PrefixV1}
    (done : mergeEgressDestinations destinations addition = .ok merged) :
    (∀ block, block ∈ merged ↔ block ∈ destinations ∨ block = addition) ∧
      (addition ∈ destinations ∨ ∀ block ∈ destinations, block.overlaps addition = false) := by
  simp only [mergeEgressDestinations] at done
  split at done
  · rename_i present
    cases done
    have present := List.contains_iff_mem.mp present
    refine ⟨?_, .inl present⟩
    intro block
    rw [List.mem_insertionSort]
    constructor
    · exact .inl
    · rintro (member | rfl)
      · exact member
      · exact present
  · simp only [unit_bind_ok, reject_ok, pure_ok, List.any_eq_false, Bool.not_eq_true] at done
    obtain ⟨free, rfl⟩ := done
    refine ⟨?_, .inr free⟩
    intro block
    rw [List.mem_insertionSort, List.mem_append, List.mem_singleton]

theorem authorize_ok {plan plan' : EgressPlan} {learner : Uuid} {policyRef : PolicyRefV1}
    {destination : Ipv4PrefixV1} {conflict : String}
    (done : plan.authorize learner policyRef destination conflict = .ok plan') :
    plan'.routes = plan.routes ∧
    (∀ siteId block, block ∈ plan'.destinations siteId ↔
      block ∈ plan.destinations siteId ∨ siteId = learner ∧ block = destination) ∧
    ((∀ siteId, NonOverlapping (plan.destinations siteId)) →
      ∀ siteId, NonOverlapping (plan'.destinations siteId)) := by
  simp only [EgressPlan.authorize, bind_ok, pure_ok] at done
  obtain ⟨-, -, destinations, merged, rfl⟩ := done
  obtain ⟨members, free⟩ := mergeEgressDestinations_ok merged
  have learned : ∀ siteId block, block ∈ (if siteId = learner then destinations
      else plan.destinations siteId) ↔
      block ∈ plan.destinations siteId ∨ siteId = learner ∧ block = destination := by
    intro siteId block
    split
    · rename_i own
      rw [members, own]
      simp
    · rename_i foreign
      simp [foreign]
  refine ⟨rfl, learned, ?_⟩
  intro apart siteId a memberA b memberB different
  have fresh : ∀ block ∈ plan.destinations learner, block ≠ destination →
      block.overlaps destination = false := by
    intro block member other
    rcases free with present | free
    · exact apart learner block member destination present other
    · exact free block member
  rcases (learned siteId a).mp memberA with oldA | ⟨rfl, rfl⟩
  · rcases (learned siteId b).mp memberB with oldB | ⟨rfl, rfl⟩
    · exact apart siteId a oldA b oldB different
    · exact fresh a oldA different
  · rcases (learned siteId b).mp memberB with oldB | ⟨-, rfl⟩
    · rw [Ipv4PrefixV1.overlaps_comm]
      exact fresh b oldB different.symm
    · exact absurd rfl different

theorem Planned.rule {seen : List EffectiveRemoteEgressRule} {plan plan' : EgressPlan}
    {egresses : Uuid → Option EgressV1} {rule : EffectiveRemoteEgressRule}
    (planned : Planned seen plan) (done : planRule egresses plan rule = .ok plan') :
    Planned (seen ++ [rule]) plan' := by
  simp only [planRule, bind_ok, pure_ok] at done
  obtain ⟨egress, -, gatewayPlan, first, sourcePlan, second, -, -, rfl⟩ := done
  obtain ⟨sameRoutes, learned, apart⟩ := authorize_ok first
  obtain ⟨sameRoutes', learned', apart'⟩ := authorize_ok second
  constructor
  · intro listed member
    refine (learned' _ _).mpr ?_
    rcases mem_concat.mp member with old | new
    · exact .inl ((learned _ _).mpr (.inl (planned.listed listed old)))
    · rw [new]
      exact .inr ⟨rfl, rfl⟩
  · exact apart' (apart planned.apart)
  · intro siteId route member
    have before : ∀ {siteId route}, route ∈ sourcePlan.routes siteId → ∃ rule' ∈ seen ++ [rule],
        rule'.sourceSiteId = siteId ∧ rule'.destination = route.destinationPrefix := by
      intro siteId route member
      rw [sameRoutes', sameRoutes] at member
      obtain ⟨other, present, facts⟩ := planned.routes siteId route member
      exact ⟨other, List.mem_append_left _ present, facts⟩
    simp only at member
    split at member
    · rename_i own
      rcases mem_concat.mp member with old | new
      · exact before old
      · rw [new]
        exact ⟨rule, List.mem_concat_self, own.1.symm, rfl⟩
    · exact before member

theorem planEgress_planned {egresses : Uuid → Option EgressV1}
    {rules : List EffectiveRemoteEgressRule} {plan : EgressPlan}
    (done : planEgress egresses rules = .ok plan) : Planned rules plan := by
  refine updateEach_processed ?_ ?_ done
  · intro seen rule plan plan' _ _ planned step
    exact planned.rule step
  · refine ⟨?_, ?_, ?_⟩
    · intro rule member
      cases member
    · intro siteId a member
      cases member
    · intro siteId route member
      cases member

theorem buildInput_plan {env : BuildEnvironment} {store : RouteStore}
    {snapshot : SegmentControlSnapshot} {input : RoutePublicationInput} {rules : List PolicyRule}
    {effective : List EffectiveRemoteEgressRule}
    (collected : servicePolicyRules env.encoding env.geo snapshot.segmentId snapshot.resources =
      .ok rules)
    (selected : selectRemoteEgressRules
      (segmentView snapshot.segmentId snapshot.resources).attachmentSites
      (segmentView snapshot.segmentId snapshot.resources).egresses rules = .ok effective)
    (built : buildInput env store snapshot = .ok input) :
    ∃ plan, Planned effective plan ∧ ∀ projection ∈ input.projections,
      ∃ entry ∈ (segmentView snapshot.segmentId snapshot.resources).attachments,
        entry.1.id = projection.attachmentId ∧
          projection.egressRoutes = plan.routes entry.2.siteId := by
  simp only [buildInput, bind_ok] at built
  obtain ⟨_, -, _, -, -, -, rules', collected', segment, -, effective', selected', plan, planned,
    assembled⟩ := built
  rw [collected, Except.ok.injEq] at collected'
  rw [← collected', selected, Except.ok.injEq] at selected'
  rw [← selected'] at planned
  refine ⟨plan, planEgress_planned planned, ?_⟩
  simp only [assembleInput, bind_ok] at assembled
  obtain ⟨core, -, _, -, pathMap, -, projections, converted, returned⟩ := assembled
  have kept : input.projections = projections := by
    split at returned
    · simp only [bind_ok, pure_ok] at returned
      obtain ⟨_, -, rfl⟩ := returned
      rfl
    · cases returned
  rw [kept]
  intro projection member
  obtain ⟨entry, listed, projected⟩ := mem_mapM converted member
  simp only [buildProjection, bind_ok, pure_ok] at projected
  obtain ⟨_, -, _, -, _, -, _, -, _, -, _, -, _, -, rfl⟩ := projected
  exact ⟨entry, List.mem_of_mem_filter listed, rfl, rfl⟩

section Addresses

variable {attachmentSites : List Uuid} {egresses : Uuid → Option EgressV1}
  {rules : List PolicyRule} {effective : List EffectiveRemoteEgressRule} {siteId : Uuid}
  {plan : EgressPlan} {entry : PolicyRule} {address : BitVec 32}

theorem Foremost.contains {destination : Ipv4PrefixV1}
    (foremost : Foremost attachmentSites egresses rules siteId destination entry)
    (covers : destination.Covers address) : entry.2.Contains address :=
  normalized_covers.mp ⟨destination, foremost.concerns.2, covers⟩

theorem contains_foremost (member : entry ∈ rules)
    (applies : entry.2.AppliesTo attachmentSites egresses siteId)
    (contains : entry.2.Contains address) :
    ∃ destination first, destination.Covers address ∧
      Foremost attachmentSites egresses rules siteId destination first ∧
      first.2.priority ≤ entry.2.priority := by
  obtain ⟨destination, listed, covers⟩ := normalized_covers.mpr contains
  obtain ⟨first, present, concerns, least⟩ := exists_least
    (fun entry : PolicyRule => entry.2.priority)
    (fun entry => entry.2.Concerns attachmentSites egresses siteId destination)
    ⟨entry, member, applies, listed⟩
  exact ⟨destination, first, covers, ⟨present, concerns, least⟩,
    least entry member ⟨applies, listed⟩⟩

theorem Planned.same_destination (planned : Planned effective plan)
    {a b : EffectiveRemoteEgressRule} (memberA : a ∈ effective) (memberB : b ∈ effective)
    (sites : a.sourceSiteId = b.sourceSiteId) (coversA : a.destination.Covers address)
    (coversB : b.destination.Covers address) : a.destination = b.destination := by
  by_contra different
  have apart := planned.apart a.sourceSiteId a.destination (planned.listed a memberA)
    b.destination (sites ▸ planned.listed b memberB) different
  exact Ipv4PrefixV1.disjoint_of_overlaps apart address ⟨coversA, coversB⟩

/-- Where a local rule precedes a remote one at some address, there is an address
    of the remote destination that a local rule has first. -/
theorem local_first_inside (spec : EffectiveSelection attachmentSites egresses rules effective)
    (planned : Planned effective plan) {rule : EffectiveRemoteEgressRule}
    (inEffect : rule ∈ effective) (own : rule.sourceSiteId = siteId) {remote : PolicyRule}
    (foremost : Foremost attachmentSites egresses rules siteId rule.destination remote)
    (member : entry ∈ rules) (applies : entry.2.AppliesTo attachmentSites egresses siteId)
    (local_ : entry.2.action = .localEgress) (precedes : entry.2.priority ≤ remote.2.priority)
    (contains : entry.2.Contains address) (covers : rule.destination.Covers address) :
    ∃ address, rule.destination.Covers address ∧
      LocalFirst attachmentSites egresses rules siteId address := by
  -- The local rule of the lowest number that meets the destination has the address first.
  obtain ⟨first, listed, ⟨appliesFirst, localFirst, inside, coversInside, containsInside⟩, least⟩ :=
    exists_least (fun entry : PolicyRule => entry.2.priority)
      (fun entry => entry.2.AppliesTo attachmentSites egresses siteId ∧
        entry.2.action = .localEgress ∧ ∃ address, rule.destination.Covers address ∧
          entry.2.Contains address)
      ⟨entry, member, applies, local_, address, covers, contains⟩
  have low : first.2.priority ≤ remote.2.priority :=
    Nat.le_trans (least entry member ⟨applies, local_, address, covers, contains⟩) precedes
  refine ⟨inside, coversInside, first, listed, appliesFirst, containsInside, localFirst, ?_⟩
  intro other present appliesOther containsOther
  obtain ⟨destination, decisive, coversDecisive, foremostDecisive, below⟩ :=
    contains_foremost present appliesOther containsOther
  refine Nat.le_trans ?_ below
  cases action : decisive.2.action with
  | localEgress =>
      exact least decisive foremostDecisive.member ⟨foremostDecisive.concerns.1, action, inside,
        coversInside, foremostDecisive.contains coversDecisive⟩
  | remoteEgress egressId =>
      obtain ⟨rival, inEffect', pair, -⟩ := spec.complete siteId destination decisive egressId
        foremostDecisive action
      obtain ⟨site', destination'⟩ := Prod.mk.inj pair
      have same := planned.same_destination inEffect inEffect' (own.trans site'.symm) coversInside
        (destination' ▸ coversDecisive)
      rw [destination'] at same
      rw [← same] at foremostDecisive
      exact Nat.le_trans low
        (foremost.least decisive foremostDecisive.member foremostDecisive.concerns)

end Addresses

/-- In a build that succeeds a local rule prevails wherever it comes first exactly
    when no remote rule in force that it precedes shares an address with it. -/
theorem local_rules_prevail_iff (env : BuildEnvironment) (store : RouteStore)
    (snapshot : SegmentControlSnapshot) {input : RoutePublicationInput} {rules : List PolicyRule}
    {effective : List EffectiveRemoteEgressRule}
    (collected : servicePolicyRules env.encoding env.geo snapshot.segmentId snapshot.resources =
      .ok rules)
    (selected : effectiveRules env snapshot = .ok effective)
    (built : buildInput env store snapshot = .ok input) (siteId : Uuid) :
    LocalPrevails (segmentView snapshot.segmentId snapshot.resources) rules effective input siteId ↔
      Separate (segmentView snapshot.segmentId snapshot.resources).attachmentSites
        (segmentView snapshot.segmentId snapshot.resources).egresses rules siteId := by
  have chosen : selectRemoteEgressRules
      (segmentView snapshot.segmentId snapshot.resources).attachmentSites
      (segmentView snapshot.segmentId snapshot.resources).egresses rules = .ok effective := by
    rw [effectiveRules, collected] at selected
    exact selected
  have spec := selection_effective chosen
  obtain ⟨plan, planned, projected⟩ := buildInput_plan collected chosen built
  constructor
  · intro prevails remote destination egressId foremost action entry member applies local_ precedes
      block listed address shared
    obtain ⟨rule, inEffect, pair, -⟩ := spec.complete siteId destination remote egressId foremost
      action
    obtain ⟨own, rfl⟩ := Prod.mk.inj pair
    obtain ⟨inside, covers, first⟩ := local_first_inside spec planned inEffect own foremost member
      applies local_ precedes ⟨block, listed, shared.1⟩ shared.2
    exact prevails.effective inside first rule inEffect own covers
  · intro separate
    have free : ∀ address, LocalFirst
        (segmentView snapshot.segmentId snapshot.resources).attachmentSites
        (segmentView snapshot.segmentId snapshot.resources).egresses rules siteId address →
        ∀ rule ∈ effective, rule.sourceSiteId = siteId → ¬ rule.destination.Covers address := by
      intro address first rule inEffect own covers
      obtain ⟨entry, member, applies, ⟨block, listed, inside⟩, local_, least⟩ := first
      obtain ⟨remote, foremost, action, -, -⟩ := spec.sound rule inEffect
      rw [own] at foremost
      have precedes := least remote foremost.member foremost.concerns.1 (foremost.contains covers)
      exact separate remote rule.destination rule.egressId foremost action entry member applies
        local_ precedes block listed address ⟨inside, covers⟩
    refine ⟨free, ?_⟩
    intro address first projection member own route listed covers
    obtain ⟨entry, present, named, routes⟩ := projected projection member
    rw [routes, own entry present named] at listed
    obtain ⟨rule, inEffect, site, destination⟩ := planned.routes siteId route listed
    exact free address first rule inEffect site (destination ▸ covers)

/-- The first site keeps one prefix local; the rest of a remote prefix goes through
the egress of the second. -/
def exceptionRules (remote : Ipv4PrefixV1) : List ServicePolicyRuleV1 :=
  [⟨96, 10, [31], [⟨0xc6336400, 24⟩], none, [], [], .localEgress⟩,
    ⟨97, 20, [31], [remote], none, [], [], .remoteEgress 91⟩]

def exceptionText (remote : String) : String :=
  "\x7b\"kind\":\"SERVICE_POLICY\",\"spec\":\x7b\"segment_id\":" ++ quotedId 3 ++
    ",\"generation\":1,\"rules\":[\x7b\"id\":" ++ quotedId 96 ++
    ",\"priority\":10,\"source_site_ids\":[" ++ quotedId 31 ++
    "],\"destination_prefixes\":[\x7b\"network\":\"198.51.100.0\",\"prefix_len\":24\x7d]" ++
    ",\"domains\":[],\"traffic_classes\":[],\"action\":\x7b\"type\":\"LOCAL_EGRESS\"\x7d\x7d" ++
    ",\x7b\"id\":" ++ quotedId 97 ++ ",\"priority\":20,\"source_site_ids\":[" ++ quotedId 31 ++
    "],\"destination_prefixes\":[\x7b" ++ remote ++ "\x7d],\"domains\":[],\"traffic_classes\":[]" ++
    ",\"action\":\x7b\"type\":\"REMOTE_EGRESS\",\"egress_id\":" ++ quotedId 91 ++
    "\x7d\x7d]\x7d\x7d"

def defaultText : String := exceptionText "\"network\":\"0.0.0.0\",\"prefix_len\":0"

def otherText : String := exceptionText "\"network\":\"203.0.113.0\",\"prefix_len\":24"

def exceptionJson : ResourceSpecV1 → Bytes
  | .servicePolicy policy =>
      if policy.rules = exceptionRules ⟨0, 0⟩ then utf8 defaultText else utf8 otherText
  | spec => sampleJson spec

def exceptionHashes : List (Bytes × Hash) :=
  buildHashes ++
    [(utf8 defaultText, 0x06129f03013c01e547eae804495541379f531a216fd624a9b5ce709fdf61b075),
      (utf8 otherText, 0x2cdaa6c794fb3acd62328d73891144c36d3a3abdf6d4496dd594b158c35a5314)]

def exceptionEnvironment : BuildEnvironment :=
  { egressEnvironment with
    encoding := ⟨fun bytes => (exceptionHashes.lookup bytes).getD 0, exceptionJson⟩ }

def exceptionSnapshot (remote : Ipv4PrefixV1) : Except ControlStoreError SegmentControlSnapshot :=
  segmentSnapshot (run controlStep sampleCloud ((egressGraph .localEgress).dropLast ++
    [sampleCreate 95 (.servicePolicy ⟨3, 1, "", true, exceptionRules remote⟩)])) egressTopology 1 3 9

def exceptionEntries (remote : Ipv4PrefixV1) (contentHash : Hash) : List PolicyRule :=
  (exceptionRules remote).map fun rule => (⟨95, 1, contentHash⟩, rule)

/-- What a build of the sample reads and gives. -/
structure ExceptionBuild where
  rules : Except InputError (List PolicyRule)
  effective : Except InputError (List EffectiveRemoteEgressRule)
  routes : Except InputError (List (List RemoteRouteV1))
deriving DecidableEq

def exceptionBuild (snapshot : SegmentControlSnapshot) : ExceptionBuild where
  rules := servicePolicyRules exceptionEnvironment.encoding exceptionEnvironment.geo
    snapshot.segmentId snapshot.resources
  effective := effectiveRules exceptionEnvironment snapshot
  routes := (buildInput exceptionEnvironment egressStore snapshot).map fun input =>
    input.projections.map (·.egressRoutes)

theorem exception_local_first (attachmentSites : List Uuid) (egresses : Uuid → Option EgressV1)
    (remote : Ipv4PrefixV1) (contentHash : Hash) :
    LocalFirst attachmentSites egresses (exceptionEntries remote contentHash) 31 0xc6336401 := by
  refine ⟨(⟨95, 1, contentHash⟩, ⟨96, 10, [31], [⟨0xc6336400, 24⟩], none, [], [], .localEgress⟩),
    List.mem_cons_self, ⟨.inl List.mem_cons_self, ?_⟩, ?_, rfl, ?_⟩
  · intro egressId egress action
    cases action
  · exact ⟨_, List.mem_cons_self, by decide⟩
  · intro other member _ _
    rcases List.mem_cons.mp member with rfl | member
    · exact Nat.le_refl 10
    · rw [List.mem_singleton.mp member]
      show 10 ≤ 20
      omega

/-- The route to the default destination takes the local exception along. -/
theorem exception_routed_away :
    ∃ snapshot rules effective input, exceptionSnapshot ⟨0, 0⟩ = .ok snapshot ∧
      servicePolicyRules exceptionEnvironment.encoding exceptionEnvironment.geo snapshot.segmentId
        snapshot.resources = .ok rules ∧
      effectiveRules exceptionEnvironment snapshot = .ok effective ∧
      buildInput exceptionEnvironment egressStore snapshot = .ok input ∧
      input.projections.map (·.egressRoutes) = [[⟨⟨0, 0⟩, 32, [42]⟩], []] ∧
      ¬ LocalPrevails (segmentView snapshot.segmentId snapshot.resources) rules effective input
        31 := by
  have read : (exceptionSnapshot ⟨0, 0⟩).map exceptionBuild =
      .ok ⟨.ok (exceptionEntries ⟨0, 0⟩
          0x06129f03013c01e547eae804495541379f531a216fd624a9b5ce709fdf61b075),
        .ok [⟨⟨95, 1, 0x06129f03013c01e547eae804495541379f531a216fd624a9b5ce709fdf61b075⟩, 20, 31,
          ⟨0, 0⟩, 91⟩],
        .ok [[⟨⟨0, 0⟩, 32, [42]⟩], []]⟩ := by
    decide +kernel
  obtain ⟨snapshot, taken, facts⟩ := map_ok.mp read
  simp only [exceptionBuild, ExceptionBuild.mk.injEq] at facts
  obtain ⟨collected, selected, routes⟩ := facts
  obtain ⟨input, built, listed⟩ := map_ok.mp routes
  refine ⟨snapshot, _, _, input, taken, collected, selected, built, listed, ?_⟩
  intro prevails
  refine prevails.effective 0xc6336401 (exception_local_first _ _ _ _) _ List.mem_cons_self rfl ?_
  decide

/-- Beside another remote prefix the exception holds. -/
theorem exception_kept :
    ∃ snapshot rules effective input, exceptionSnapshot ⟨0xcb007100, 24⟩ = .ok snapshot ∧
      input.projections.map (·.egressRoutes) = [[⟨⟨0xcb007100, 24⟩, 32, [42]⟩], []] ∧
      LocalPrevails (segmentView snapshot.segmentId snapshot.resources) rules effective input
        31 := by
  have read : (exceptionSnapshot ⟨0xcb007100, 24⟩).map exceptionBuild =
      .ok ⟨.ok (exceptionEntries ⟨0xcb007100, 24⟩
          0x2cdaa6c794fb3acd62328d73891144c36d3a3abdf6d4496dd594b158c35a5314),
        .ok [⟨⟨95, 1, 0x2cdaa6c794fb3acd62328d73891144c36d3a3abdf6d4496dd594b158c35a5314⟩, 20, 31,
          ⟨0xcb007100, 24⟩, 91⟩],
        .ok [[⟨⟨0xcb007100, 24⟩, 32, [42]⟩], []]⟩ := by
    decide +kernel
  obtain ⟨snapshot, taken, facts⟩ := map_ok.mp read
  simp only [exceptionBuild, ExceptionBuild.mk.injEq] at facts
  obtain ⟨collected, selected, routes⟩ := facts
  obtain ⟨input, built, listed⟩ := map_ok.mp routes
  refine ⟨snapshot, _, _, input, taken, listed,
    (local_rules_prevail_iff exceptionEnvironment egressStore snapshot collected selected built
      31).mpr ?_⟩
  intro remote destination egressId foremost action entry member _ local_ _ block inside
  have remoteIs : destination = ⟨0xcb007100, 24⟩ := by
    rcases List.mem_cons.mp foremost.member with rfl | later
    · cases action
    · rw [List.mem_singleton.mp later] at foremost
      exact List.mem_singleton.mp foremost.concerns.2
  have blockIs : block = ⟨0xc6336400, 24⟩ := by
    rcases List.mem_cons.mp member with rfl | later
    · exact List.mem_singleton.mp inside
    · rw [List.mem_singleton.mp later] at local_
      cases local_
  rw [remoteIs, blockIs]
  exact Ipv4PrefixV1.disjoint_of_overlaps (by decide)

end CandyCloud
