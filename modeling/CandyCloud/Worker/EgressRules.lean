import CandyCloud.Worker.DisabledPolicy
import CandyCloud.Control.Stability

/-! # Effective egress rules by priority

What the selection of remote egress rules returns, said without its loop: for a source site and
a destination the applicable rules of least priority, which must agree, decide.
-/

namespace CandyCloud

open Foundation

abbrev PolicyRule := PolicyRefV1 × ServicePolicyRuleV1

inductive RouteTypeError where
  | invalidIpv4Prefix
deriving DecidableEq, Repr

/-- `new_with_default`, which both constructors of a route prefix call. -/
def Ipv4PrefixV1.newWithDefault (network : BitVec 32) (prefixLen : Nat) (allowDefault : Bool) :
    Except RouteTypeError Ipv4PrefixV1 := do
  reject (decide (32 < prefixLen) || (!allowDefault && prefixLen == 0)) .invalidIpv4Prefix
  reject (network &&& mask prefixLen != network) .invalidIpv4Prefix
  return ⟨network, prefixLen⟩

def Ipv4PrefixV1.newEgressDestination (network : BitVec 32) (prefixLen : Nat) :
    Except RouteTypeError Ipv4PrefixV1 :=
  newWithDefault network prefixLen true

/-- A selection ends in a panic or in an error. -/
inductive SelectionFault where
  | unconverted
  | rejected (error : InputError)
deriving DecidableEq, Repr

def convertPair (policyRef : PolicyRefV1) (priority : Nat) (egressId : Option Uuid)
    (selection : Selection) (pair : Uuid × Ipv4PrefixV1) : Except SelectionFault Selection := do
  let destination ← (Ipv4PrefixV1.newEgressDestination pair.2.network pair.2.prefixLen).mapError
    fun _ => .unconverted
  (selectPair policyRef priority egressId selection (pair.1, destination)).mapError .rejected

def convertRule (attachmentSites : List Uuid) (egresses : Uuid → Option EgressV1)
    (selection : Selection) (entry : PolicyRule) : Except SelectionFault Selection := do
  let egress ← (ruleEgress egresses entry.2).mapError .rejected
  updateEach (convertPair entry.1 entry.2.priority (egress.map Prod.fst)) selection
    (rulePairs attachmentSites entry.2 (egress.map Prod.snd))

/-- `select_remote_egress_rules` with the conversion of every destination. -/
def convertRemoteEgressRules (attachmentSites : List Uuid) (egresses : Uuid → Option EgressV1)
    (rules : List PolicyRule) : Except SelectionFault (List EffectiveRemoteEgressRule) := do
  let selection ← updateEach (convertRule attachmentSites egresses) ⟨[], []⟩
    (rules.insertionSort ruleOrder)
  return selection.selected.insertionSort effectiveOrder

def PolicyActionV1.egress : PolicyActionV1 → Option Uuid
  | .localEgress => none
  | .remoteEgress egressId => some egressId

section Specification

variable (attachmentSites : List Uuid) (egresses : Uuid → Option EgressV1)

/-- A rule speaks for the sites it lists, or else for all attached ones, but not
    for the site of its own egress. -/
def ServicePolicyRuleV1.AppliesTo (rule : ServicePolicyRuleV1) (siteId : Uuid) : Prop :=
  (siteId ∈ rule.sourceSiteIds ∨ rule.sourceSiteIds = [] ∧ siteId ∈ attachmentSites) ∧
    ∀ egressId egress, rule.action = .remoteEgress egressId → egresses egressId = some egress →
      siteId ≠ egress.siteId

def ServicePolicyRuleV1.Concerns (rule : ServicePolicyRuleV1) (siteId : Uuid)
    (destination : Ipv4PrefixV1) : Prop :=
  rule.AppliesTo attachmentSites egresses siteId ∧
    destination ∈ normalizedPolicyDestinations rule.destinationPrefixes

variable (rules : List PolicyRule)

/-- No rule for the site and the destination has a smaller priority. -/
structure Foremost (siteId : Uuid) (destination : Ipv4PrefixV1) (entry : PolicyRule) : Prop where
  member : entry ∈ rules
  concerns : entry.2.Concerns attachmentSites egresses siteId destination
  least : ∀ other ∈ rules, other.2.Concerns attachmentSites egresses siteId destination →
    entry.2.priority ≤ other.2.priority

def KnownEgresses : Prop :=
  ∀ entry ∈ rules, ∀ egressId, entry.2.action = .remoteEgress egressId → egresses egressId ≠ none

/-- The foremost rules for a site and a destination say the same. -/
def Unanimous : Prop :=
  ∀ siteId destination a b, Foremost attachmentSites egresses rules siteId destination a →
    Foremost attachmentSites egresses rules siteId destination b → a.2.action = b.2.action

/-- The identifier of a policy stands for one reference. -/
def Identifying : Prop :=
  ∀ a ∈ rules, ∀ b ∈ rules, a.1.policyId = b.1.policyId → a.1 = b.1

/-- What a successful selection returns. -/
structure EffectiveSelection (effective : List EffectiveRemoteEgressRule) : Prop where
  sound : ∀ rule ∈ effective, ∃ entry,
    Foremost attachmentSites egresses rules rule.sourceSiteId rule.destination entry ∧
      entry.2.action = .remoteEgress rule.egressId ∧ rule.policyRef = entry.1 ∧
      rule.priority = entry.2.priority
  complete : ∀ siteId destination entry egressId,
    Foremost attachmentSites egresses rules siteId destination entry →
    entry.2.action = .remoteEgress egressId →
    ∃ rule ∈ effective, rule.pair = (siteId, destination) ∧ rule.egressId = egressId
  once : (effective.map EffectiveRemoteEgressRule.pair).Nodup
  sorted : effective.Pairwise effectiveOrder
  unordered : ∀ attachmentSites' rules', (∀ siteId, siteId ∈ attachmentSites' ↔
      siteId ∈ attachmentSites) → rules'.Perm rules → Identifying rules →
    selectRemoteEgressRules attachmentSites' egresses rules' = .ok effective

end Specification

namespace Ipv4PrefixV1

theorem newEgressDestination_valid {block : Ipv4PrefixV1} {allowDefault : Bool}
    (valid : block.validateWithDefault allowDefault = .ok ()) :
    newEgressDestination block.network block.prefixLen = .ok block := by
  have masked := network_masked_default valid
  simp only [validateWithDefault, unit_bind_ok, reject_ok, Bool.or_eq_false_iff] at valid
  simp only [newEgressDestination, newWithDefault, unit_bind_ok, reject_ok, pure_ok, masked,
    Bool.or_eq_false_iff, bne_self_eq_false, and_true]
  exact ⟨valid.1.1, rfl⟩

end Ipv4PrefixV1

/-- What the control service has validated about the destinations of the rules. -/
def ValidDestinations (rules : List PolicyRule) : Prop :=
  ∀ entry ∈ rules, ∀ block ∈ entry.2.destinationPrefixes,
    block.validateWithDefault entry.2.action.isRemote = .ok ()

variable {rule : ServicePolicyRuleV1}

theorem normalized_converts {destination : Ipv4PrefixV1}
    (valid : ∀ block ∈ rule.destinationPrefixes,
      block.validateWithDefault rule.action.isRemote = .ok ())
    (member : destination ∈ normalizedPolicyDestinations rule.destinationPrefixes) :
    Ipv4PrefixV1.newEgressDestination destination.network destination.prefixLen =
      .ok destination := by
  unfold normalizedPolicyDestinations at member
  simp only at member
  split at member
  · rw [List.mem_singleton.mp member]
    decide
  · exact Ipv4PrefixV1.newEgressDestination_valid (valid destination member)

section Converting

variable {attachmentSites : List Uuid} {egresses : Uuid → Option EgressV1}
  {rules : List PolicyRule} {effective : List EffectiveRemoteEgressRule}

theorem convertRule_valid {entry : PolicyRule} (valid : ∀ block ∈ entry.2.destinationPrefixes,
      block.validateWithDefault entry.2.action.isRemote = .ok ()) (selection : Selection) :
    convertRule attachmentSites egresses selection entry =
      (selectRule attachmentSites egresses selection entry).mapError .rejected := by
  unfold convertRule selectRule
  cases ruleEgress egresses entry.2 with
  | error error => rfl
  | ok egress =>
      refine updateEach_mapError ?_ selection
      intro pair member selection
      obtain ⟨siteId, -, destinations⟩ := List.mem_flatMap.mp member
      obtain ⟨destination, listed, rfl⟩ := List.mem_map.mp destinations
      rw [convertPair, normalized_converts valid listed]
      rfl

theorem convertRemoteEgressRules_valid (valid : ValidDestinations rules) :
    convertRemoteEgressRules attachmentSites egresses rules =
      (selectRemoteEgressRules attachmentSites egresses rules).mapError .rejected := by
  have rounds : updateEach (convertRule attachmentSites egresses) ⟨[], []⟩
      (rules.insertionSort ruleOrder) = (updateEach (selectRule attachmentSites egresses) ⟨[], []⟩
        (rules.insertionSort ruleOrder)).mapError .rejected := by
    refine updateEach_mapError ?_ _
    intro entry member selection
    exact convertRule_valid (valid entry ((List.mem_insertionSort _).mp member)) selection
  unfold convertRemoteEgressRules selectRemoteEgressRules
  rw [rounds]
  cases updateEach (selectRule attachmentSites egresses) ⟨[], []⟩
      (rules.insertionSort ruleOrder) with
  | error error => rfl
  | ok selection => rfl

theorem ruleEgress_ok {egress : Option (Uuid × EgressV1)} :
    ruleEgress egresses rule = .ok egress ↔
      (rule.action = .localEgress ∧ egress = none) ∨ ∃ egressId value,
        rule.action = .remoteEgress egressId ∧ egresses egressId = some value ∧
          egress = some (egressId, value) := by
  unfold ruleEgress
  cases rule.action with
  | localEgress => simp [eq_comm]
  | remoteEgress egressId =>
      simp only [orElse_bind_ok, pure_ok, PolicyActionV1.remoteEgress.injEq, reduceCtorEq,
        false_and, false_or]
      constructor
      · rintro ⟨value, known, rfl⟩
        exact ⟨egressId, value, rfl, known, rfl⟩
      · rintro ⟨_, value, rfl, known, rfl⟩
        exact ⟨value, known, rfl⟩

theorem knownEgresses_iff :
    KnownEgresses egresses rules ↔
      ∀ entry ∈ rules, ∃ egress, ruleEgress egresses entry.2 = .ok egress := by
  refine forall₂_congr fun entry _ => ?_
  simp only [ruleEgress_ok]
  cases entry.2.action with
  | localEgress => simp
  | remoteEgress egressId =>
      cases known : egresses egressId with
      | none => simp [known]
      | some value => simp [known]

theorem mem_rulePairs {egress : Option (Uuid × EgressV1)}
    (found : ruleEgress egresses rule = .ok egress) {pair : Uuid × Ipv4PrefixV1} :
    pair ∈ rulePairs attachmentSites rule (egress.map Prod.snd) ↔
      rule.Concerns attachmentSites egresses pair.1 pair.2 := by
  obtain ⟨siteId, destination⟩ := pair
  have sites : ∀ value, siteId ∈ ruleSources attachmentSites rule value ↔
      (siteId ∈ rule.sourceSiteIds ∨ rule.sourceSiteIds = [] ∧ siteId ∈ attachmentSites) ∧
        ∀ egress, value = some egress → siteId ≠ egress.siteId := by
    intro value
    unfold ruleSources
    cases value with
    | none =>
        cases empty : rule.sourceSiteIds with
        | nil => simp
        | cons => simp
    | some egress =>
        cases empty : rule.sourceSiteIds with
        | nil => simp
        | cons => simp
  simp only [rulePairs, List.mem_flatMap, List.mem_map, Prod.mk.injEq,
    ServicePolicyRuleV1.Concerns, ServicePolicyRuleV1.AppliesTo]
  rcases ruleEgress_ok.mp found with ⟨local_, rfl⟩ | ⟨egressId, value, remote, known, rfl⟩
  · simp [sites, local_]
  · have own : (∀ id egress, rule.action = .remoteEgress id → egresses id = some egress →
        siteId ≠ egress.siteId) ↔ siteId ≠ value.siteId := by
      rw [remote]
      constructor
      · intro apart
        exact apart egressId value rfl known
      · intro apart id egress same found
        cases same
        rw [known] at found
        cases found
        exact apart
    simp [sites, own]

/-- What an entry offers for a site and a destination. -/
def entryOffer (entry : PolicyRule) (pair : Uuid × Ipv4PrefixV1) : Offer :=
  ⟨entry.1, entry.2.priority, entry.2.action.egress, pair⟩

theorem mem_rankedOffers (known : KnownEgresses egresses rules) {offer : Offer} :
    offer ∈ rankedOffers attachmentSites egresses rules ↔ ∃ entry ∈ rules,
      offer = entryOffer entry offer.pair ∧
        entry.2.Concerns attachmentSites egresses offer.pair.1 offer.pair.2 := by
  simp only [rankedOffers, List.mem_flatMap, List.mem_insertionSort]
  refine exists_congr fun entry => and_congr_right fun member => ?_
  obtain ⟨egress, found⟩ := knownEgresses_iff.mp known entry member
  have action : egress.map Prod.fst = entry.2.action.egress := by
    rcases ruleEgress_ok.mp found with ⟨local_, rfl⟩ | ⟨egressId, value, remote, -, rfl⟩
    · rw [local_]
      rfl
    · rw [remote]
      rfl
  rw [ruleOffers, found]
  simp only [List.mem_map, action]
  constructor
  · rintro ⟨pair, listed, rfl⟩
    exact ⟨rfl, (mem_rulePairs found).mp listed⟩
  · rintro ⟨same, concerns⟩
    exact ⟨offer.pair, (mem_rulePairs found).mpr concerns, same.symm⟩

end Converting

section Deciding

variable {attachmentSites : List Uuid} {egresses : Uuid → Option EgressV1}
  {rules : List PolicyRule} {siteId : Uuid} {destination : Ipv4PrefixV1} {entry : PolicyRule}

theorem concerns_offer (known : KnownEgresses egresses rules) (member : entry ∈ rules)
    (concerns : entry.2.Concerns attachmentSites egresses siteId destination) :
    entryOffer entry (siteId, destination) ∈ rankedOffers attachmentSites egresses rules :=
  (mem_rankedOffers known).mpr ⟨entry, member, rfl, concerns⟩

theorem foremost_of_decider (known : KnownEgresses egresses rules) {first : Offer}
    (decides : decider Offer.pair (rankedOffers attachmentSites egresses rules)
      (siteId, destination) = some first) :
    ∃ entry, Foremost attachmentSites egresses rules siteId destination entry ∧
      first = entryOffer entry (siteId, destination) := by
  obtain ⟨member, concerned⟩ := decider_mem decides
  obtain ⟨entry, listed, same, concerns⟩ := (mem_rankedOffers known).mp member
  rw [concerned] at same concerns
  refine ⟨entry, ⟨listed, concerns, ?_⟩, same⟩
  intro other present theirs
  have before := decider_priority rankedOffers_ranked decides (concerns_offer known present theirs)
    rfl
  rw [same] at before
  exact before

theorem Foremost.decider (known : KnownEgresses egresses rules)
    (foremost : Foremost attachmentSites egresses rules siteId destination entry) :
    ∃ first, decider Offer.pair (rankedOffers attachmentSites egresses rules)
      (siteId, destination) = some first ∧ first.priority = entry.2.priority := by
  have offered := concerns_offer known foremost.member foremost.concerns
  obtain ⟨first, decides⟩ := decider_isSome Offer.pair offered
  obtain ⟨other, theirs, same⟩ := foremost_of_decider known decides
  refine ⟨first, decides, ?_⟩
  have above := theirs.least entry foremost.member foremost.concerns
  have below := foremost.least other theirs.member theirs.concerns
  rw [same]
  exact Nat.le_antisymm above below

theorem PolicyActionV1.egress_inj {a b : PolicyActionV1} (same : a.egress = b.egress) : a = b := by
  cases a with
  | localEgress =>
      cases b with
      | localEgress => rfl
      | remoteEgress => cases same
  | remoteEgress =>
      cases b with
      | localEgress => cases same
      | remoteEgress =>
          cases same
          rfl

theorem agreeing_iff (known : KnownEgresses egresses rules) :
    Agreeing (rankedOffers attachmentSites egresses rules) ↔
      Unanimous attachmentSites egresses rules := by
  constructor
  · intro agreeing siteId destination
    have decided : ∀ entry, Foremost attachmentSites egresses rules siteId destination entry →
        ∀ first, decider Offer.pair (rankedOffers attachmentSites egresses rules)
          (siteId, destination) = some first → first.egressId = entry.2.action.egress := by
      intro entry foremost first decides
      obtain ⟨other, found, priority⟩ := foremost.decider known
      rw [decides, Option.some.injEq] at found
      exact agreeing _ (concerns_offer known foremost.member foremost.concerns) first decides
        (found ▸ priority)
    intro a b foremostA foremostB
    obtain ⟨first, decides, -⟩ := foremostA.decider known
    apply PolicyActionV1.egress_inj
    rw [← decided a foremostA first decides, decided b foremostB first decides]
  · intro unanimous offer member first decides priority
    obtain ⟨entry, foremost, rfl⟩ := foremost_of_decider known decides
    obtain ⟨other, listed, same, concerns⟩ := (mem_rankedOffers known).mp member
    have level : entry.2.priority = other.2.priority := by
      rw [same] at priority
      exact priority
    have theirs : Foremost attachmentSites egresses rules offer.pair.1 offer.pair.2 other :=
      ⟨listed, concerns, fun rival present rivals => level ▸ foremost.least rival present rivals⟩
    rw [same]
    exact congrArg PolicyActionV1.egress (unanimous _ _ entry other foremost theirs)

def offerOrder (a b : Offer) : Prop :=
  a.priority < b.priority ∨ a.priority = b.priority ∧ a.policyId ≤ b.policyId

theorem rankedOffers_ordered :
    (rankedOffers attachmentSites egresses rules).Pairwise offerOrder := by
  unfold rankedOffers
  rw [List.pairwise_flatMap]
  constructor
  · intro entry _
    apply List.pairwise_of_forall_mem_list
    intro a memberA b memberB
    rw [offerOrder, Offer.policyId, Offer.policyId, (mem_ruleOffers memberA).1,
      (mem_ruleOffers memberA).2, (mem_ruleOffers memberB).1, (mem_ruleOffers memberB).2]
    exact .inr ⟨rfl, BitVec.le_refl _⟩
  · refine (List.pairwise_insertionSort ruleOrder rules).imp ?_
    intro first second before a memberA b memberB
    rw [offerOrder, Offer.policyId, Offer.policyId, (mem_ruleOffers memberA).1,
      (mem_ruleOffers memberA).2, (mem_ruleOffers memberB).1, (mem_ruleOffers memberB).2]
    rcases before with less | ⟨same, less | ⟨policy, -⟩⟩
    · exact .inl less
    · exact .inr ⟨same, BitVec.le_of_lt less⟩
    · exact .inr ⟨same, policy ▸ BitVec.le_refl _⟩

variable {effective : List EffectiveRemoteEgressRule}

section Reordered

variable {attachmentSites' : List Uuid} {rules' : List PolicyRule}

theorem concerns_reordered (sites : ∀ siteId, siteId ∈ attachmentSites' ↔ siteId ∈ attachmentSites)
    (rule : ServicePolicyRuleV1) :
    rule.Concerns attachmentSites' egresses siteId destination ↔
      rule.Concerns attachmentSites egresses siteId destination := by
  rw [ServicePolicyRuleV1.Concerns, ServicePolicyRuleV1.Concerns, ServicePolicyRuleV1.AppliesTo,
    ServicePolicyRuleV1.AppliesTo, sites]

theorem mem_reordered (known : KnownEgresses egresses rules)
    (sites : ∀ siteId, siteId ∈ attachmentSites' ↔ siteId ∈ attachmentSites)
    (perm : rules'.Perm rules) (offer : Offer) :
    offer ∈ rankedOffers attachmentSites' egresses rules' ↔
      offer ∈ rankedOffers attachmentSites egresses rules := by
  have known' : KnownEgresses egresses rules' := fun entry member =>
    known entry (perm.mem_iff.mp member)
  rw [mem_rankedOffers known, mem_rankedOffers known']
  simp only [perm.mem_iff, concerns_reordered sites]

theorem decider_reordered (known : KnownEgresses egresses rules)
    (agreeing : Agreeing (rankedOffers attachmentSites egresses rules))
    (sites : ∀ siteId, siteId ∈ attachmentSites' ↔ siteId ∈ attachmentSites)
    (perm : rules'.Perm rules) (identifying : Identifying rules) (pair : Uuid × Ipv4PrefixV1) :
    decider Offer.pair (rankedOffers attachmentSites' egresses rules') pair =
      decider Offer.pair (rankedOffers attachmentSites egresses rules) pair := by
  have members := mem_reordered known sites perm
  cases decides : decider Offer.pair (rankedOffers attachmentSites egresses rules) pair with
  | none =>
      rw [decider_none] at decides ⊢
      exact fun offer member => decides offer ((members offer).mp member)
  | some first =>
      obtain ⟨member, rfl⟩ := decider_mem decides
      obtain ⟨first', decides'⟩ := decider_isSome Offer.pair ((members first).mpr member)
      obtain ⟨member', same⟩ := decider_mem decides'
      have listed := (members first').mp member'
      rw [decides', Option.some.injEq]
      rcases decider_least rankedOffers_ordered decides' ((members first).mpr member)
        with rfl | below
      · rfl
      rcases decider_least rankedOffers_ordered (same ▸ decides) listed with equal | above
      · exact equal.symm
      have priority : first.priority = first'.priority := by
        rcases below with less | ⟨level, -⟩
        · rcases above with less' | ⟨level, -⟩
          · omega
          · exact level
        · exact level.symm
      have policyId : first'.policyId = first.policyId := by
        rcases below with less | ⟨-, below⟩
        · omega
        rcases above with less | ⟨-, above⟩
        · omega
        exact BitVec.le_antisymm below above
      have reference : first'.policyRef = first.policyRef := by
        obtain ⟨entry', present', own', -⟩ := (mem_rankedOffers known).mp listed
        obtain ⟨entry, present, own, -⟩ := (mem_rankedOffers known).mp member
        have named' : first'.policyRef = entry'.1 := congrArg Offer.policyRef own'
        have named : first.policyRef = entry.1 := congrArg Offer.policyRef own
        rw [Offer.policyId, Offer.policyId, named', named] at policyId
        rw [named', named]
        exact identifying entry' present' entry present policyId
      have egressId := agreeing first' listed first (same ▸ decides) priority
      cases first
      cases first'
      simp_all

theorem selectRemoteEgressRules_reordered
    (done : selectRemoteEgressRules attachmentSites egresses rules = .ok effective)
    (sites : ∀ siteId, siteId ∈ attachmentSites' ↔ siteId ∈ attachmentSites)
    (perm : rules'.Perm rules) (identifying : Identifying rules) :
    selectRemoteEgressRules attachmentSites' egresses rules' = .ok effective := by
  obtain ⟨live, agreeing, spec⟩ := selectRemoteEgressRules_ok.mp done
  have known := knownEgresses_iff.mpr live
  have same := decider_reordered known agreeing sites perm identifying
  refine selectRemoteEgressRules_ok.mpr ⟨?_, ?_, spec.sorted, spec.distinct, ?_⟩
  · exact fun entry member => live entry (perm.mem_iff.mp member)
  · intro offer member first decides
    rw [same] at decides
    exact agreeing offer ((mem_reordered known sites perm offer).mp member) first decides
  · intro rule
    rw [spec.mem, InEffect, InEffect, same]

end Reordered

theorem selection_effective
    (done : selectRemoteEgressRules attachmentSites egresses rules = .ok effective) :
    EffectiveSelection attachmentSites egresses rules effective := by
  obtain ⟨live, agreeing, spec⟩ := selectRemoteEgressRules_ok.mp done
  have known := knownEgresses_iff.mpr live
  constructor
  · intro rule member
    obtain ⟨first, decides, inEffect⟩ := (spec.mem rule).mp member
    obtain ⟨entry, foremost, rfl⟩ := foremost_of_decider known decides
    obtain ⟨egressId, remote, same⟩ := Option.map_eq_some_iff.mp inEffect
    have named : egressId = rule.egressId := congrArg EffectiveRemoteEgressRule.egressId same
    refine ⟨entry, foremost, PolicyActionV1.egress_inj (named ▸ remote), ?_, ?_⟩
    · exact (congrArg EffectiveRemoteEgressRule.policyRef same).symm
    · exact (congrArg EffectiveRemoteEgressRule.priority same).symm
  · intro siteId destination entry egressId foremost remote
    obtain ⟨first, decides, -⟩ := foremost.decider known
    obtain ⟨decisive, theirs, same⟩ := foremost_of_decider known decides
    have action : first.egressId = some egressId := by
      rw [same, entryOffer, (agreeing_iff known).mp agreeing _ _ decisive entry theirs foremost,
        remote]
      rfl
    refine ⟨⟨first.policyRef, first.priority, siteId, destination, egressId⟩, ?_, rfl, rfl⟩
    refine (spec.mem _).mpr ⟨first, decides, ?_⟩
    rw [Offer.effective, action, same]
    rfl
  · exact List.pairwise_map.mpr spec.distinct
  · exact spec.sorted
  · exact fun attachmentSites' rules' sites perm identifying =>
      selectRemoteEgressRules_reordered done sites perm identifying

end Deciding

/-- With validated destinations no conversion fails, a selection succeeds exactly
    when the egresses are known and the foremost rules agree, and it returns the
    rules that these make remote. -/
theorem remote_egress_selection (attachmentSites : List Uuid) (egresses : Uuid → Option EgressV1)
    (rules : List PolicyRule) (valid : ValidDestinations rules) :
    convertRemoteEgressRules attachmentSites egresses rules =
      (selectRemoteEgressRules attachmentSites egresses rules).mapError .rejected ∧
    ((∃ effective, selectRemoteEgressRules attachmentSites egresses rules = .ok effective) ↔
      KnownEgresses egresses rules ∧ Unanimous attachmentSites egresses rules) ∧
    ∀ effective, selectRemoteEgressRules attachmentSites egresses rules = .ok effective →
      EffectiveSelection attachmentSites egresses rules effective := by
  refine ⟨convertRemoteEgressRules_valid valid, ?_, fun effective => selection_effective⟩
  constructor
  · rintro ⟨effective, done⟩
    obtain ⟨live, agreeing, -⟩ := selectRemoteEgressRules_ok.mp done
    have known := knownEgresses_iff.mpr live
    exact ⟨known, (agreeing_iff known).mp agreeing⟩
  · rintro ⟨known, unanimous⟩
    have live := knownEgresses_iff.mp known
    obtain ⟨selection, done⟩ := (select_spec _).1 ((agreeing_iff known).mpr unanimous)
    refine ⟨selection.selected.insertionSort effectiveOrder, ?_⟩
    have chosen : updateEach (selectRule attachmentSites egresses) ⟨[], []⟩
        (rules.insertionSort ruleOrder) = .ok selection :=
      selectRule_offers.mpr ⟨fun entry member =>
        live entry ((List.mem_insertionSort _).mp member), done⟩
    rw [selectRemoteEgressRules, chosen]
    rfl

def branchRule (id : Uuid) (priority : Nat) (action : PolicyActionV1) : PolicyRule :=
  (⟨id, 1, 0⟩, ⟨id, priority, [31], [⟨0x0a000000, 8⟩], none, [], [], action⟩)

def branchEgresses (id : Uuid) : Option EgressV1 :=
  if id = 91 then some ⟨"egress", 32, 42, 100, 1000000⟩ else none

def branchRules : List PolicyRule :=
  [branchRule 96 20 .localEgress, branchRule 97 10 (.remoteEgress 91)]

/-- The rule of smaller priority decides, whichever comes first. -/
theorem branchRules_reordered :
    selectRemoteEgressRules [] branchEgresses branchRules.reverse =
      .ok [⟨⟨97, 1, 0⟩, 10, 31, ⟨0x0a000000, 8⟩, 91⟩] := by
  have law := remote_egress_selection [] branchEgresses branchRules
    (by decide : ∀ entry ∈ branchRules, ∀ block ∈ entry.2.destinationPrefixes,
      block.validateWithDefault entry.2.action.isRemote = .ok ())
  refine (law.2.2 _ (by decide +kernel)).unordered [] branchRules.reverse (fun _ => Iff.rfl)
    (List.reverse_perm _) ?_
  intro a memberA b memberB same
  revert a b
  decide

end CandyCloud
