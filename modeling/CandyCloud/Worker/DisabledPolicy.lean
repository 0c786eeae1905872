import CandyCloud.Foundation.Precedence
import CandyCloud.Worker.Coverage

/-! # Service policies that are switched off

A build takes the rules of every active service policy and never reads `enabled`.
-/

namespace CandyCloud

open Foundation

/-- What a rule says about one source site and destination. -/
structure Offer where
  policyRef : PolicyRefV1
  priority : Nat
  egressId : Option Uuid
  pair : Uuid × Ipv4PrefixV1
deriving DecidableEq, Repr

def Offer.policyId (offer : Offer) : Uuid := offer.policyRef.policyId

def Offer.decision (offer : Offer) : Decision :=
  ⟨offer.pair.1, offer.pair.2, offer.priority, offer.egressId⟩

/-- The rule that a deciding offer puts into effect. -/
def Offer.effective (offer : Offer) : Option EffectiveRemoteEgressRule :=
  offer.egressId.map fun egressId =>
    { policyRef := offer.policyRef
      priority := offer.priority
      sourceSiteId := offer.pair.1
      destination := offer.pair.2
      egressId }

def EffectiveRemoteEgressRule.pair (rule : EffectiveRemoteEgressRule) : Uuid × Ipv4PrefixV1 :=
  (rule.sourceSiteId, rule.destination)

def selectOffer (selection : Selection) (offer : Offer) : Except InputError Selection :=
  selectPair offer.policyRef offer.priority offer.egressId selection offer.pair

def ruleOffers (attachmentSites : List Uuid) (egresses : Uuid → Option EgressV1)
    (entry : PolicyRefV1 × ServicePolicyRuleV1) : List Offer :=
  match ruleEgress egresses entry.2 with
  | .error _ => []
  | .ok egress => (rulePairs attachmentSites entry.2 (egress.map Prod.snd)).map fun pair =>
      ⟨entry.1, entry.2.priority, egress.map Prod.fst, pair⟩

/-- All offers in the order in which they are considered. -/
def rankedOffers (attachmentSites : List Uuid) (egresses : Uuid → Option EgressV1)
    (rules : List (PolicyRefV1 × ServicePolicyRuleV1)) : List Offer :=
  (rules.insertionSort ruleOrder).flatMap (ruleOffers attachmentSites egresses)

section Offers

variable {attachmentSites : List Uuid} {egresses : Uuid → Option EgressV1}

theorem mem_ruleOffers {entry : PolicyRefV1 × ServicePolicyRuleV1} {offer : Offer}
    (member : offer ∈ ruleOffers attachmentSites egresses entry) :
    offer.policyRef = entry.1 ∧ offer.priority = entry.2.priority := by
  unfold ruleOffers at member
  split at member
  · cases member
  · obtain ⟨pair, -, rfl⟩ := List.mem_map.mp member
    exact ⟨rfl, rfl⟩

theorem selectRule_offers {rules : List (PolicyRefV1 × ServicePolicyRuleV1)}
    {selection final : Selection} :
    updateEach (selectRule attachmentSites egresses) selection rules = .ok final ↔
      (∀ entry ∈ rules, ∃ egress, ruleEgress egresses entry.2 = .ok egress) ∧
        updateEach selectOffer selection (rules.flatMap (ruleOffers attachmentSites egresses)) =
          .ok final := by
  induction rules generalizing selection with
  | nil => simp [updateEach]
  | cons entry rules ih =>
      rw [List.flatMap_cons, updateEach_append, List.forall_mem_cons]
      simp only [updateEach, selectRule, bind_ok]
      cases egress : ruleEgress egresses entry.2 with
      | error error => simp
      | ok found =>
          have offers : ruleOffers attachmentSites egresses entry =
              (rulePairs attachmentSites entry.2 (found.map Prod.snd)).map fun pair =>
                ⟨entry.1, entry.2.priority, found.map Prod.fst, pair⟩ := by
            rw [ruleOffers, egress]
          rw [offers, updateEach_map]
          simp only [selectOffer, Except.ok.injEq, exists_eq_left', ih]
          grind

end Offers

instance : IsTrans (PolicyRefV1 × ServicePolicyRuleV1) ruleOrder where
  trans a b c first second := by
    simp only [ruleOrder, BitVec.lt_def, BitVec.le_def, ← BitVec.toNat_inj] at *
    omega

instance : Std.Total ruleOrder where
  total a b := by
    simp only [ruleOrder, BitVec.lt_def, BitVec.le_def, ← BitVec.toNat_inj]
    omega

instance : IsTrans EffectiveRemoteEgressRule effectiveOrder where
  trans a b c first second := by
    simp only [effectiveOrder, prefixOrder, BitVec.lt_def, ← BitVec.toNat_inj] at *
    omega

instance : Std.Total effectiveOrder where
  total a b := by
    simp only [effectiveOrder, prefixOrder, BitVec.lt_def, ← BitVec.toNat_inj]
    omega

theorem effectiveOrder_antisymm {a b : EffectiveRemoteEgressRule} (le : effectiveOrder a b)
    (ge : effectiveOrder b a) : a.pair = b.pair := by
  simp only [effectiveOrder, prefixOrder, BitVec.lt_def, ← BitVec.toNat_inj] at le ge
  have site : a.sourceSiteId = b.sourceSiteId := by
    apply BitVec.eq_of_toNat_eq
    omega
  have network : a.destination.network = b.destination.network := by
    apply BitVec.eq_of_toNat_eq
    omega
  have length : a.destination.prefixLen = b.destination.prefixLen := by
    omega
  have destination : a.destination = b.destination := by
    cases first : a.destination
    cases second : b.destination
    simp_all
  rw [EffectiveRemoteEgressRule.pair, site, destination, EffectiveRemoteEgressRule.pair]

/-- An offer that comes later at the priority of the decider says the same. -/
def Agreeing (offers : List Offer) : Prop :=
  ∀ offer ∈ offers, ∀ first, decider Offer.pair offers offer.pair = some first →
    first.priority = offer.priority → first.egressId = offer.egressId

/-- The state of the loop after some offers. -/
structure Selected (offers : List Offer) (selection : Selection) : Prop where
  decisions : ∀ pair, selection.decisions.find? (fun decision => decision.concerns pair) =
    (decider Offer.pair offers pair).map Offer.decision
  selected : ∀ rule, rule ∈ selection.selected ↔
    ∃ offer, decider Offer.pair offers rule.pair = some offer ∧ offer.effective = some rule
  distinct : selection.selected.Pairwise fun a b => a.pair ≠ b.pair

variable {rule : EffectiveRemoteEgressRule} {first other : Offer}

theorem Offer.effective_pair {offer : Offer} (effective : offer.effective = some rule)
    : rule.pair = offer.pair := by
  obtain ⟨_, -, rfl⟩ := Option.map_eq_some_iff.mp effective
  rfl

theorem Offer.decision_concerns (offer : Offer) (pair : Uuid × Ipv4PrefixV1) :
    offer.decision.concerns pair = decide (offer.pair = pair) := by
  simp only [Decision.concerns, Offer.decision, Prod.ext_iff, Bool.decide_and, beq_eq_decide]

theorem agreeing_concat {offers : List Offer} {offer : Offer} :
    Agreeing (offers ++ [offer]) ↔
      Agreeing offers ∧ ∀ first, decider Offer.pair offers offer.pair = some first →
        first.priority = offer.priority → first.egressId = offer.egressId := by
  have earlier : ∀ other ∈ offers, decider Offer.pair (offers ++ [offer]) other.pair =
      decider Offer.pair offers other.pair := by
    intro other member
    obtain ⟨first, decides⟩ := decider_isSome Offer.pair member
    rw [decider_concat, decides, Option.some_or]
  constructor
  · intro agreeing
    constructor
    · intro other member first decides
      apply agreeing other (List.mem_append_left _ member)
      rw [earlier other member]
      exact decides
    · intro first decides
      apply agreeing offer (by simp)
      rw [decider_concat, decides, Option.some_or]
  · rintro ⟨agreeing, last⟩ other member first decides
    rcases mem_concat.mp member with before | after
    · rw [earlier other before] at decides
      exact agreeing other before first decides
    · obtain rfl := after
      cases found : decider Offer.pair offers other.pair with
      | some decided =>
          rw [decider_concat, found, Option.some_or, Option.some.injEq] at decides
          exact last first (by rw [found, decides])
      | none =>
          rw [decider_concat, found, Option.none_or, if_pos rfl, Option.some.injEq] at decides
          intro _
          rw [decides]

section Selecting

variable {offers : List Offer} {offer : Offer} {selection final : Selection}

theorem Selected.decided (selected : Selected offers selection)
    (decides : decider Offer.pair offers offer.pair = some first) :
    selectOffer selection offer = .ok final ↔
      (first.priority = offer.priority → first.egressId = offer.egressId) ∧ final = selection := by
  unfold selectOffer selectPair
  rw [selected.decisions, decides, Option.map_some]
  simp only [unit_bind_ok, reject_ok, pure_ok, Offer.decision, Bool.and_eq_false_iff,
    beq_eq_false_iff_ne, bne_eq_false_iff_eq]
  grind

theorem Selected.undecided (selected : Selected offers selection)
    (open_ : decider Offer.pair offers offer.pair = none) :
    selectOffer selection offer = .ok
      { decisions := selection.decisions ++ [offer.decision]
        selected := selection.selected ++ offer.effective.toList } := by
  unfold selectOffer selectPair
  rw [selected.decisions, open_, Option.map_none]
  cases egress : offer.egressId with
  | none => simp [Offer.decision, Offer.effective, egress]
  | some egressId => simp [Offer.decision, Offer.effective, egress]

theorem Selected.skip (selected : Selected offers selection)
    (decides : decider Offer.pair offers offer.pair = some first) :
    Selected (offers ++ [offer]) selection := by
  have same : ∀ pair, decider Offer.pair (offers ++ [offer]) pair =
      decider Offer.pair offers pair := by
    intro pair
    rw [decider_concat]
    split
    · rename_i own
      rw [← own, decides, Option.some_or]
    · rw [Option.or_none]
  refine ⟨?_, ?_, selected.distinct⟩
  · intro pair
    rw [same]
    exact selected.decisions pair
  · intro rule
    rw [same]
    exact selected.selected rule

theorem Selected.decide (selected : Selected offers selection)
    (open_ : decider Offer.pair offers offer.pair = none) :
    Selected (offers ++ [offer])
      { decisions := selection.decisions ++ [offer.decision]
        selected := selection.selected ++ offer.effective.toList } := by
  refine ⟨?_, ?_, ?_⟩
  · intro pair
    rw [List.find?_append, selected.decisions, decider_concat, List.find?_singleton,
      Offer.decision_concerns]
    by_cases own : offer.pair = pair
    · rw [← own, open_]
      simp
    · simp [own]
  · intro rule
    rw [List.mem_append, Option.mem_toList, selected.selected, decider_concat]
    constructor
    · rintro (⟨other, decides, effective⟩ | effective)
      · exact ⟨other, by rw [decides, Option.some_or], effective⟩
      · refine ⟨offer, ?_, effective⟩
        rw [Offer.effective_pair effective, open_, Option.none_or, if_pos rfl]
    · rintro ⟨other, decides, effective⟩
      by_cases own : offer.pair = rule.pair
      · rw [← own, open_, Option.none_or, if_pos rfl, Option.some.injEq] at decides
        subst decides
        exact .inr effective
      · rw [if_neg own, Option.or_none] at decides
        exact .inl ⟨other, decides, effective⟩
  · rw [List.pairwise_append]
    refine ⟨selected.distinct, ?_, ?_⟩
    · cases offer.effective with
      | none => exact .nil
      | some rule => exact List.pairwise_singleton _ rule
    · intro earlier member rule added same
      obtain ⟨other, decides, -⟩ := (selected.selected earlier).mp member
      rw [same, Offer.effective_pair (Option.mem_toList.mp added), open_] at decides
      cases decides

end Selecting

theorem select_spec (offers : List Offer) :
    (Agreeing offers → ∃ selection, updateEach selectOffer ⟨[], []⟩ offers = .ok selection) ∧
      ∀ selection, updateEach selectOffer ⟨[], []⟩ offers = .ok selection →
        Agreeing offers ∧ Selected offers selection := by
  induction offers using List.reverseRecOn with
  | nil =>
      refine ⟨fun _ => ⟨_, rfl⟩, ?_⟩
      intro selection done
      obtain rfl := Except.ok.inj done
      exact ⟨by simp [Agreeing], ⟨fun _ => rfl, by simp [decider], .nil⟩⟩
  | append_singleton offers offer ih =>
      obtain ⟨succeeds, spec⟩ := ih
      have last : ∀ selection, updateEach selectOffer selection [offer] =
          selectOffer selection offer :=
        fun selection => bind_pure (selectOffer selection offer)
      rw [updateEach_append]
      simp only [last, bind_ok, agreeing_concat]
      constructor
      · rintro ⟨agreeing, later⟩
        obtain ⟨selection, done⟩ := succeeds agreeing
        have selected := (spec selection done).2
        cases decided : decider Offer.pair offers offer.pair with
        | some first =>
            exact ⟨selection, selection, done,
              (selected.decided decided).mpr ⟨later first decided, rfl⟩⟩
        | none => exact ⟨_, selection, done, selected.undecided decided⟩
      · rintro final ⟨selection, done, step⟩
        obtain ⟨agreeing, selected⟩ := spec selection done
        cases decided : decider Offer.pair offers offer.pair with
        | some first =>
            obtain ⟨same, rfl⟩ := (selected.decided decided).mp step
            refine ⟨⟨agreeing, ?_⟩, selected.skip decided⟩
            intro other decides
            rw [← Option.some.inj decides]
            exact same
        | none =>
            rw [selected.undecided decided, Except.ok.injEq] at step
            rw [← step]
            exact ⟨⟨agreeing, by simp⟩, selected.decide decided⟩

/-- Nothing changes when the offers of the policy are taken away: where one of
    them decides it is local, and so are the best offers of the other policies. -/
def Passive (policyId : Uuid) (offers : List Offer) : Prop :=
  ∀ pair first, decider Offer.pair offers pair = some first → first.policyId = policyId →
    first.egressId = none ∧
    ∀ other ∈ offers, other.pair = pair → other.policyId ≠ policyId →
      (∀ rival ∈ offers, rival.pair = pair → rival.policyId ≠ policyId →
        other.priority ≤ rival.priority) →
      other.egressId = none

def offersOfOthers (policyId : Uuid) (offers : List Offer) : List Offer :=
  offers.filter fun offer => offer.policyId != policyId

section Without

variable {policyId : Uuid} {offers : List Offer}

theorem mem_offersOfOthers {offer : Offer} :
    offer ∈ offersOfOthers policyId offers ↔ offer ∈ offers ∧ offer.policyId ≠ policyId := by
  simp [offersOfOthers]

def InEffect (offers : List Offer) (rule : EffectiveRemoteEgressRule) : Prop :=
  ∃ offer, decider Offer.pair offers rule.pair = some offer ∧ offer.effective = some rule

theorem decider_priority (ranked : offers.Pairwise fun a b => a.priority ≤ b.priority)
    {pair : Uuid × Ipv4PrefixV1} (decides : decider Offer.pair offers pair = some first)
    (member : other ∈ offers) (concerns : other.pair = pair) : first.priority ≤ other.priority := by
  subst concerns
  rcases decider_least ranked decides member with rfl | before
  · exact le_rfl
  · exact before

theorem offersOfOthers_ranked (ranked : offers.Pairwise fun a b => a.priority ≤ b.priority) :
    (offersOfOthers policyId offers).Pairwise fun a b => a.priority ≤ b.priority :=
  ranked.filter _

theorem decider_others {pair : Uuid × Ipv4PrefixV1}
    (decides : decider Offer.pair offers pair = some first) (other : first.policyId ≠ policyId) :
    decider Offer.pair (offersOfOthers policyId offers) pair = some first :=
  decider_filter_kept decides (bne_iff_ne.mpr other)

theorem Passive.next_local (ranked : offers.Pairwise fun a b => a.priority ≤ b.priority)
    (passive : Passive policyId offers) {pair : Uuid × Ipv4PrefixV1} {next : Offer}
    (decides : decider Offer.pair offers pair = some first) (own : first.policyId = policyId)
    (decidesNext : decider Offer.pair (offersOfOthers policyId offers) pair = some next)
    (member : other ∈ offers) (concerns : other.pair = pair) (foreign : other.policyId ≠ policyId)
    (best : other.priority = next.priority) : other.egressId = none := by
  refine (passive pair first decides own).2 other member concerns foreign ?_
  intro rival rivalMember rivalConcerns rivalForeign
  rw [best]
  exact decider_priority (offersOfOthers_ranked ranked) decidesNext
    (mem_offersOfOthers.mpr ⟨rivalMember, rivalForeign⟩) rivalConcerns

theorem Passive.agreeing (ranked : offers.Pairwise fun a b => a.priority ≤ b.priority)
    (agreeing : Agreeing offers) (passive : Passive policyId offers) :
    Agreeing (offersOfOthers policyId offers) := by
  intro offer member next decidesNext same
  obtain ⟨present, foreign⟩ := mem_offersOfOthers.mp member
  obtain ⟨first, decides⟩ := decider_isSome Offer.pair present
  by_cases own : first.policyId = policyId
  · obtain ⟨nextMember, nextConcerns⟩ := decider_mem decidesNext
    obtain ⟨nextPresent, nextForeign⟩ := mem_offersOfOthers.mp nextMember
    rw [passive.next_local ranked decides own decidesNext present rfl foreign same.symm,
      passive.next_local ranked decides own decidesNext nextPresent nextConcerns nextForeign rfl]
  · rw [decider_others decides own, Option.some.injEq] at decidesNext
    subst decidesNext
    exact agreeing offer present first decides same

theorem Passive.inEffect_iff (ranked : offers.Pairwise fun a b => a.priority ≤ b.priority)
    (passive : Passive policyId offers) (rule : EffectiveRemoteEgressRule) :
    InEffect (offersOfOthers policyId offers) rule ↔ InEffect offers rule := by
  cases decides : decider Offer.pair offers rule.pair with
  | none =>
      have none : decider Offer.pair (offersOfOthers policyId offers) rule.pair = none := by
        rw [decider_none] at decides ⊢
        exact fun other member => decides other (mem_offersOfOthers.mp member).1
      simp only [InEffect, decides, none]
  | some first =>
      by_cases own : first.policyId = policyId
      · -- The policy decides locally, and so does whoever decides without it.
        have local_ : ¬ InEffect offers rule := by
          rintro ⟨offer, found, effective⟩
          rw [decides, Option.some.injEq] at found
          subst found
          rw [Offer.effective, (passive _ first decides own).1] at effective
          cases effective
        have next_local : ¬ InEffect (offersOfOthers policyId offers) rule := by
          rintro ⟨next, found, effective⟩
          obtain ⟨member, concerns⟩ := decider_mem found
          obtain ⟨present, foreign⟩ := mem_offersOfOthers.mp member
          rw [Offer.effective,
            passive.next_local ranked decides own found present concerns foreign rfl] at effective
          cases effective
        exact iff_of_false next_local local_
      · simp only [InEffect, decides, decider_others decides own]

theorem inEffect_of_decider {pair : Uuid × Ipv4PrefixV1} {egressId : Uuid}
    (decides : decider Offer.pair offers pair = some first)
    (remote : first.egressId = some egressId) :
    ∃ rule, InEffect offers rule ∧ rule.pair = pair ∧ rule.policyRef = first.policyRef := by
  obtain ⟨-, rfl⟩ := decider_mem decides
  refine ⟨⟨first.policyRef, first.priority, first.pair.1, first.pair.2, egressId⟩,
    ⟨first, decides, ?_⟩, rfl, rfl⟩
  rw [Offer.effective, remote]
  rfl

theorem InEffect.decider (inEffect : InEffect offers rule) :
    ∃ first, decider Offer.pair offers rule.pair = some first ∧
      first.policyRef = rule.policyRef ∧ first.egressId ≠ none := by
  obtain ⟨first, decides, effective⟩ := inEffect
  obtain ⟨egressId, remote, rfl⟩ := Option.map_eq_some_iff.mp effective
  exact ⟨first, decides, rfl, by simp [remote]⟩

theorem passive_of_unchanged (ranked : offers.Pairwise fun a b => a.priority ≤ b.priority)
    (agreeing : Agreeing (offersOfOthers policyId offers))
    (same : ∀ rule, InEffect (offersOfOthers policyId offers) rule ↔ InEffect offers rule) :
    Passive policyId offers := by
  intro pair first decides own
  have local_ : first.egressId = none := by
    rw [Option.eq_none_iff_forall_ne_some]
    intro egressId remote
    -- The rule of the policy would be the rule of another policy.
    obtain ⟨rule, inEffect, -, ownRef⟩ := inEffect_of_decider decides remote
    obtain ⟨next, decidesNext, nextRef, -⟩ := ((same rule).mpr inEffect).decider
    have foreign := (mem_offersOfOthers.mp (decider_mem decidesNext).1).2
    apply foreign
    rw [Offer.policyId, nextRef, ownRef]
    exact own
  refine ⟨local_, ?_⟩
  intro other member concerns foreign best
  subst concerns
  have present := mem_offersOfOthers.mpr ⟨member, foreign⟩
  obtain ⟨next, decidesNext⟩ := decider_isSome Offer.pair present
  obtain ⟨nextMember, nextConcerns⟩ := decider_mem decidesNext
  obtain ⟨nextPresent, nextForeign⟩ := mem_offersOfOthers.mp nextMember
  have priority : next.priority = other.priority :=
    le_antisymm (decider_priority (offersOfOthers_ranked ranked) decidesNext present rfl)
      (best next nextPresent nextConcerns nextForeign)
  rw [← agreeing other present next decidesNext priority, Option.eq_none_iff_forall_ne_some]
  intro egressId remote
  -- A rule that is in effect without the policy but not with it.
  obtain ⟨rule, inEffect, rulePair, -⟩ := inEffect_of_decider decidesNext remote
  obtain ⟨decided, decidesRule, -, isRemote⟩ := ((same rule).mp inEffect).decider
  rw [rulePair, decides, Option.some.injEq] at decidesRule
  rw [← decidesRule] at isRemote
  exact isRemote local_

end Without

structure EffectiveFor (offers : List Offer) (effective : List EffectiveRemoteEgressRule) :
    Prop where
  sorted : effective.Pairwise effectiveOrder
  distinct : effective.Pairwise fun a b => a.pair ≠ b.pair
  mem : ∀ rule, rule ∈ effective ↔ InEffect offers rule

theorem EffectiveFor.eq {offers offers' : List Offer}
    {effective effective' : List EffectiveRemoteEgressRule} (spec : EffectiveFor offers effective)
    (spec' : EffectiveFor offers' effective')
    (same : ∀ rule, InEffect offers rule ↔ InEffect offers' rule) : effective = effective' := by
  have members : ∀ rule, rule ∈ effective ↔ rule ∈ effective' := by
    intro rule
    rw [spec.mem, spec'.mem, same]
  have nodup : ∀ {rules : List EffectiveRemoteEgressRule},
      rules.Pairwise (fun a b => a.pair ≠ b.pair) → rules.Nodup :=
    fun distinct => distinct.imp fun different same => different (congrArg _ same)
  have perm : effective.Perm effective' :=
    (List.perm_ext_iff_of_nodup (nodup spec.distinct) (nodup spec'.distinct)).mpr members
  refine perm.eq_of_pairwise ?_ spec.sorted spec'.sorted
  intro a b memberA memberB le ge
  -- Rules for one pair come from one decider.
  have pair := effectiveOrder_antisymm le ge
  obtain ⟨first, decides, effectiveA⟩ := (spec.mem a).mp memberA
  obtain ⟨second, decides', effectiveB⟩ := (spec.mem b).mp ((members b).mpr memberB)
  rw [← pair, decides, Option.some.injEq] at decides'
  rw [← decides', effectiveA, Option.some.injEq] at effectiveB
  exact effectiveB

section Rules

variable {attachmentSites : List Uuid} {egresses : Uuid → Option EgressV1}
  {rules : List (PolicyRefV1 × ServicePolicyRuleV1)}
  {effective : List EffectiveRemoteEgressRule}

theorem rankedOffers_ranked :
    (rankedOffers attachmentSites egresses rules).Pairwise fun a b => a.priority ≤ b.priority := by
  unfold rankedOffers
  rw [List.pairwise_flatMap]
  constructor
  · intro entry _
    apply List.pairwise_of_forall_mem_list
    intro a memberA b memberB
    rw [(mem_ruleOffers memberA).2, (mem_ruleOffers memberB).2]
  · refine (List.pairwise_insertionSort ruleOrder rules).imp ?_
    intro first second before a memberA b memberB
    rw [(mem_ruleOffers memberA).2, (mem_ruleOffers memberB).2]
    rcases before with less | ⟨same, -⟩
    · exact less.le
    · exact same.le

theorem rankedOffers_others (policyId : Uuid) :
    rankedOffers attachmentSites egresses (rules.filter fun entry => entry.1.policyId != policyId) =
      offersOfOthers policyId (rankedOffers attachmentSites egresses rules) := by
  unfold rankedOffers offersOfOthers
  rw [insertionSort_filter]
  induction rules.insertionSort ruleOrder with
  | nil => rfl
  | cons entry rest ih =>
      have own : ∀ offer ∈ ruleOffers attachmentSites egresses entry,
          (offer.policyId != policyId) = (entry.1.policyId != policyId) := by
        intro offer member
        rw [Offer.policyId, (mem_ruleOffers member).1]
      rw [List.flatMap_cons, List.filter_append, List.filter_cons, ← ih]
      cases kept : entry.1.policyId != policyId with
      | true =>
          have all : (ruleOffers attachmentSites egresses entry).filter
              (fun offer => offer.policyId != policyId) =
              ruleOffers attachmentSites egresses entry := by
            apply List.filter_eq_self.mpr
            intro offer member
            rw [own offer member, kept]
          rw [if_pos rfl, List.flatMap_cons, all]
      | false =>
          have empty : (ruleOffers attachmentSites egresses entry).filter
              (fun offer => offer.policyId != policyId) = [] := by
            apply List.filter_eq_nil_iff.mpr
            intro offer member
            rw [own offer member, kept]
            exact Bool.false_ne_true
          rw [if_neg Bool.false_ne_true, empty, List.nil_append]

theorem selectRemoteEgressRules_ok :
    selectRemoteEgressRules attachmentSites egresses rules = .ok effective ↔
      (∀ entry ∈ rules, ∃ egress, ruleEgress egresses entry.2 = .ok egress) ∧
        Agreeing (rankedOffers attachmentSites egresses rules) ∧
        EffectiveFor (rankedOffers attachmentSites egresses rules) effective := by
  have returned : ∀ selection, Selected (rankedOffers attachmentSites egresses rules) selection →
      EffectiveFor (rankedOffers attachmentSites egresses rules)
        (selection.selected.insertionSort effectiveOrder) := by
    intro selection selected
    refine ⟨List.pairwise_insertionSort _ _, ?_, ?_⟩
    · exact ((List.perm_insertionSort _ _).pairwise_iff fun different => different.symm).mpr
        selected.distinct
    · intro rule
      rw [List.mem_insertionSort, selected.selected]
      rfl
  unfold selectRemoteEgressRules
  simp only [bind_ok, selectRule_offers, List.mem_insertionSort, pure_ok]
  constructor
  · rintro ⟨selection, ⟨live, done⟩, rfl⟩
    obtain ⟨agreeing, selected⟩ := (select_spec _).2 selection done
    exact ⟨live, agreeing, returned selection selected⟩
  · rintro ⟨live, agreeing, spec⟩
    obtain ⟨selection, done⟩ := (select_spec _).1 agreeing
    have selected := ((select_spec _).2 selection done).2
    exact ⟨selection, ⟨live, done⟩, (returned selection selected).eq spec fun _ => Iff.rfl⟩

theorem selectRemoteEgressRules_others {policyId : Uuid}
    (done : selectRemoteEgressRules attachmentSites egresses rules = .ok effective) :
    selectRemoteEgressRules attachmentSites egresses
        (rules.filter fun entry => entry.1.policyId != policyId) = .ok effective ↔
      Passive policyId (rankedOffers attachmentSites egresses rules) := by
  obtain ⟨live, agreeing, spec⟩ := selectRemoteEgressRules_ok.mp done
  rw [selectRemoteEgressRules_ok, rankedOffers_others]
  constructor
  · rintro ⟨-, agreeing', spec'⟩
    refine passive_of_unchanged rankedOffers_ranked agreeing' ?_
    intro rule
    rw [← spec'.mem, spec.mem]
  · intro passive
    refine ⟨?_, passive.agreeing rankedOffers_ranked agreeing, spec.sorted, spec.distinct, ?_⟩
    · exact fun entry member => live entry (List.mem_of_mem_filter member)
    · intro rule
      rw [spec.mem, passive.inEffect_iff rankedOffers_ranked]

end Rules

/-- The document is the service policy with the given id. -/
def ControlResourceV1.isPolicy (policyId : Uuid) (resource : ControlResourceV1) : Bool :=
  resource.metadata.id == policyId && resource.resource.servicePolicy?.isSome

def SegmentControlSnapshot.without (snapshot : SegmentControlSnapshot) (policyId : Uuid) :
    SegmentControlSnapshot :=
  { snapshot with
    resources := snapshot.resources.filter fun resource => !resource.isPolicy policyId }

/-- The snapshot holds the policy, and it is switched off. -/
def SegmentControlSnapshot.Disabled (snapshot : SegmentControlSnapshot) (policyId : Uuid) : Prop :=
  ∃ resource ∈ snapshot.resources, resource.metadata.id = policyId ∧
    ∃ policy, resource.resource = .servicePolicy policy ∧ policy.enabled = false

def policyOffers (env : BuildEnvironment) (snapshot : SegmentControlSnapshot) :
    Except InputError (List Offer) :=
  (servicePolicyRules env.encoding env.geo snapshot.segmentId snapshot.resources).map
    (rankedOffers (segmentView snapshot.segmentId snapshot.resources).attachmentSites
      (segmentView snapshot.segmentId snapshot.resources).egresses)

def effectiveRules (env : BuildEnvironment) (snapshot : SegmentControlSnapshot) :
    Except InputError (List EffectiveRemoteEgressRule) := do
  let rules ← servicePolicyRules env.encoding env.geo snapshot.segmentId snapshot.resources
  let view := segmentView snapshot.segmentId snapshot.resources
  selectRemoteEgressRules view.attachmentSites view.egresses rules

/-- The policy has no effect: no effective rule is one of its rules, and rules
    and publication are those of the snapshot without it. -/
structure WithoutEffect (env : BuildEnvironment) (store : RouteStore)
    (snapshot : SegmentControlSnapshot) (policyId : Uuid) : Prop where
  absent : ∀ effective, effectiveRules env snapshot = .ok effective →
    ∀ rule ∈ effective, rule.policyRef.policyId ≠ policyId
  rules : effectiveRules env (snapshot.without policyId) = effectiveRules env snapshot
  input : buildInput env store (snapshot.without policyId) = buildInput env store snapshot

section Builds

variable {env : BuildEnvironment} {store : RouteStore} {snapshot : SegmentControlSnapshot}
  {policyId : Uuid}

theorem without_same : SameApartFromPolicies (snapshot.without policyId).resources
    snapshot.resources := by
  intro β read ignores
  rw [SegmentControlSnapshot.without, List.filterMap_filter]
  apply List.filterMap_congr
  intro resource _
  cases isPolicy : resource.isPolicy policyId with
  | false => rfl
  | true =>
      simp only [ControlResourceV1.isPolicy, Bool.and_eq_true] at isPolicy
      obtain ⟨policy, reads⟩ := Option.isSome_iff_exists.mp isPolicy.2
      have spec : resource.resource = .servicePolicy policy := by
        cases kind : resource.resource with
        | servicePolicy other =>
            rw [kind] at reads
            rw [Option.some.inj reads]
        | node | site | segment | attachment | prefix_ | peer | relay | pathCandidate | egress
        | dnsIntent =>
            rw [kind] at reads
            cases reads
      rw [ignores resource policy spec]
      rfl

theorem without_view (segmentId : Uuid) :
    segmentView segmentId (snapshot.without policyId).resources =
      segmentView segmentId snapshot.resources :=
  segmentView_same without_same segmentId

theorem servicePolicies_without (segmentId : Uuid) :
    servicePolicies segmentId (snapshot.without policyId).resources =
      (servicePolicies segmentId snapshot.resources).filter fun entry => entry.1 != policyId := by
  unfold servicePolicies SegmentControlSnapshot.without
  rw [List.filterMap_filter, List.filter_filterMap]
  apply List.filterMap_congr
  intro resource _
  cases policy : resource.resource.servicePolicy? with
  | none => simp
  | some value =>
      by_cases own : resource.metadata.id = policyId
      · by_cases wanted : resource.metadata.state = .active ∧ value.segmentId = segmentId
        · simp [ControlResourceV1.isPolicy, policy, own, wanted, Option.filter]
        · simp [ControlResourceV1.isPolicy, policy, own, wanted, Option.filter]
      · by_cases wanted : resource.metadata.state = .active ∧ value.segmentId = segmentId
        · simp [ControlResourceV1.isPolicy, policy, own, wanted, Option.filter]
        · simp [ControlResourceV1.isPolicy, policy, own, wanted, Option.filter]

variable {rules : List (PolicyRefV1 × ServicePolicyRuleV1)}

theorem policyRules_ref {encoding : DocumentEncoding} {geo : GeoProvider} {resourceId : Uuid}
    {policy : ServicePolicyV1} (done : policyRules encoding geo resourceId policy = .ok rules) :
    ∀ entry ∈ rules, entry.1.policyId = resourceId := by
  simp only [policyRules, bind_ok, pure_ok] at done
  obtain ⟨-, -, expanded, -, reference, referenced, -, -, rfl⟩ := done
  simp only [servicePolicyRefWithGeo, servicePolicyRef, bind_ok, pure_ok] at referenced
  obtain ⟨base, ⟨contentHash, -, rfl⟩, bound⟩ := referenced
  intro entry member
  obtain ⟨_, -, rfl⟩ := List.mem_map.mp member
  split at bound
  · rw [← pure_ok.mp bound]
  · rw [← pure_ok.mp bound]

theorem mapM_flatten_filter {α β ε : Type} {convert : α → Except ε (List β)} {keep : α → Bool}
    {keepEach : β → Bool}
    (own : ∀ a bs, convert a = .ok bs → ∀ b ∈ bs, keepEach b = keep a) {l : List α}
    {results : List (List β)} (done : l.mapM convert = .ok results) :
    ∃ kept, (l.filter keep).mapM convert = .ok kept ∧
      kept.flatten = results.flatten.filter keepEach := by
  induction l generalizing results with
  | nil =>
      simp only [List.mapM_nil, pure_ok] at done
      subst done
      exact ⟨[], rfl, rfl⟩
  | cons a l ih =>
      simp only [List.mapM_cons, bind_ok, pure_ok] at done
      obtain ⟨bs, first, rest, later, rfl⟩ := done
      obtain ⟨kept, converted, flat⟩ := ih later
      rw [List.flatten_cons, List.filter_append, ← flat]
      cases keepA : keep a with
      | true =>
          have all : bs.filter keepEach = bs := by
            apply List.filter_eq_self.mpr
            intro b member
            rw [own a bs first b member, keepA]
          refine ⟨bs :: kept, ?_, by rw [List.flatten_cons, all]⟩
          rw [List.filter_cons_of_pos keepA, List.mapM_cons, first, converted]
          rfl
      | false =>
          have empty : bs.filter keepEach = [] := by
            apply List.filter_eq_nil_iff.mpr
            intro b member
            rw [own a bs first b member, keepA]
            exact Bool.false_ne_true
          refine ⟨kept, ?_, by rw [empty, List.nil_append]⟩
          rw [List.filter_cons_of_neg (by simp [keepA]), converted]

theorem servicePolicyRules_without
    (done : servicePolicyRules env.encoding env.geo snapshot.segmentId snapshot.resources =
      .ok rules) :
    servicePolicyRules env.encoding env.geo snapshot.segmentId
        (snapshot.without policyId).resources =
      .ok (rules.filter fun entry => entry.1.policyId != policyId) := by
  simp only [servicePolicyRules, bind_ok, pure_ok] at done ⊢
  obtain ⟨results, collected, rfl⟩ := done
  rw [servicePolicies_without]
  refine mapM_flatten_filter ?_ collected
  rintro ⟨resourceId, policy⟩ entries converted entry member
  rw [policyRules_ref converted entry member]

theorem buildInput_effective {input : RoutePublicationInput}
    (built : buildInput env store snapshot = .ok input) :
    ∃ rules effective,
      servicePolicyRules env.encoding env.geo snapshot.segmentId snapshot.resources = .ok rules ∧
      selectRemoteEgressRules (segmentView snapshot.segmentId snapshot.resources).attachmentSites
        (segmentView snapshot.segmentId snapshot.resources).egresses rules = .ok effective := by
  simp only [buildInput, bind_ok] at built
  obtain ⟨-, -, -, -, -, -, rules, collected, -, -, effective, selected, -⟩ := built
  exact ⟨rules, effective, collected, selected⟩

theorem buildInput_without {effective : List EffectiveRemoteEgressRule}
    (collected : servicePolicyRules env.encoding env.geo snapshot.segmentId snapshot.resources =
      pure rules) (selected : selectRemoteEgressRules
      (segmentView snapshot.segmentId snapshot.resources).attachmentSites
      (segmentView snapshot.segmentId snapshot.resources).egresses rules = pure effective)
    (others : selectRemoteEgressRules
      (segmentView snapshot.segmentId snapshot.resources).attachmentSites
      (segmentView snapshot.segmentId snapshot.resources).egresses
      (rules.filter fun entry => entry.1.policyId != policyId) = pure effective) :
    buildInput env store (snapshot.without policyId) = buildInput env store snapshot := by
  have collected' : servicePolicyRules env.encoding env.geo snapshot.segmentId
      (snapshot.without policyId).resources =
      pure (rules.filter fun entry => entry.1.policyId != policyId) :=
    servicePolicyRules_without collected
  have tenantId : (snapshot.without policyId).tenantId = snapshot.tenantId := rfl
  have segmentId : (snapshot.without policyId).segmentId = snapshot.segmentId := rfl
  simp only [buildInput, tenantId, segmentId, collected, collected', without_view, pure_bind,
    selected, others]
  rfl

theorem effectiveRules_without :
    effectiveRules env (snapshot.without policyId) =
      (do
        let rules ← servicePolicyRules env.encoding env.geo snapshot.segmentId
          (snapshot.without policyId).resources
        selectRemoteEgressRules
          (segmentView snapshot.segmentId snapshot.resources).attachmentSites
          (segmentView snapshot.segmentId snapshot.resources).egresses rules) := by
  have segmentId : (snapshot.without policyId).segmentId = snapshot.segmentId := rfl
  simp only [effectiveRules, segmentId, without_view]

end Builds

/-- In a build that succeeds the disabled policies are without effect exactly
    when their offers are passive. -/
theorem disabled_policies_without_effect_iff (env : BuildEnvironment) (store : RouteStore)
    (snapshot : SegmentControlSnapshot) (input : RoutePublicationInput)
    (built : buildInput env store snapshot = .ok input) :
    (∀ policyId, snapshot.Disabled policyId → WithoutEffect env store snapshot policyId) ↔
      ∀ policyId, snapshot.Disabled policyId →
        ∀ offers, policyOffers env snapshot = .ok offers → Passive policyId offers := by
  obtain ⟨rules, effective, collected, selected⟩ := buildInput_effective built
  have selection : effectiveRules env snapshot = .ok effective := by
    simp only [effectiveRules, collected]
    exact selected
  have offered : policyOffers env snapshot = .ok (rankedOffers
      (segmentView snapshot.segmentId snapshot.resources).attachmentSites
      (segmentView snapshot.segmentId snapshot.resources).egresses rules) := by
    simp only [policyOffers, collected]
    rfl
  refine forall₂_congr fun policyId _ => ?_
  have without : effectiveRules env (snapshot.without policyId) = selectRemoteEgressRules
      (segmentView snapshot.segmentId snapshot.resources).attachmentSites
      (segmentView snapshot.segmentId snapshot.resources).egresses
      (rules.filter fun entry => entry.1.policyId != policyId) := by
    rw [effectiveRules_without, servicePolicyRules_without collected]
    rfl
  rw [offered]
  constructor
  · rintro ⟨-, same, -⟩ offers found
    obtain rfl := Except.ok.inj found
    rw [without, selection] at same
    exact (selectRemoteEgressRules_others selected).mp same
  · intro passive
    have others := (selectRemoteEgressRules_others selected).mpr (passive _ rfl)
    refine ⟨?_, ?_, buildInput_without collected selected others⟩
    · intro found isEffective rule member
      rw [selection, Except.ok.injEq] at isEffective
      subst isEffective
      obtain ⟨-, -, spec⟩ := selectRemoteEgressRules_ok.mp others
      rw [rankedOffers_others] at spec
      obtain ⟨first, decides, reference, -⟩ := ((spec.mem rule).mp member).decider
      have foreign := (mem_offersOfOthers.mp (decider_mem decides).1).2
      rw [← reference]
      exact foreign
    · rw [without, selection]
      exact others

/-- The policy of the sample sends one prefix from the first site through the egress
of the second, or leaves it local. -/
def sampleRule (action : PolicyActionV1) : ServicePolicyRuleV1 where
  id := 96
  priority := 100
  sourceSiteIds := [31]
  destinationPrefixes := [⟨0xcb007100, 24⟩]
  destinationGeo := none
  domains := []
  trafficClasses := []
  action := action

def egressGraph (action : PolicyActionV1) : List ControlCall :=
  [sampleCreate 31 (.site ⟨"site-1", .edge⟩), sampleCreate 32 (.site ⟨"site-2", .edge⟩),
    sampleCreate 3 (.segment ⟨"segment", ⟨0x64400000, 24⟩⟩),
    sampleCreate 51 (.node ⟨11, 21, 31, "node-1", .linux, "x86_64"⟩),
    sampleCreate 52 (.node ⟨12, 22, 32, "node-2", .linux, "x86_64"⟩),
    sampleCreate 41 (.attachment ⟨3, 31, 51, 0x64400001, 1⟩),
    sampleCreate 42 (.attachment ⟨3, 32, 52, 0x64400002, 1⟩),
    sampleCreate 61 (.prefix_ ⟨31, 3, ⟨0x0a010000, 16⟩, .configured⟩),
    sampleCreate 62 (.prefix_ ⟨32, 3, ⟨0x0a020000, 16⟩, .configured⟩),
    sampleCreate 75 (.peer ⟨3, 31, 32, .directOnly⟩),
    sampleCreate 81 (.pathCandidate ⟨3, 75, 41, 42, .direct, none, 52, 10⟩),
    sampleCreate 82 (.pathCandidate ⟨3, 75, 42, 41, .direct, none, 52, 10⟩),
    sampleCreate 91 (.egress ⟨"egress", 32, 42, 100, 1000000⟩),
    sampleCreate 95 (.servicePolicy ⟨3, 1, "", false, [sampleRule action]⟩)]

def egressTopology : Topology :=
  { sampleCloud.route.topology with
    nodes := [⟨101, some 1, 5, "node-2", some 12, some 22, .active⟩]
    nodeEndpoints := [⟨102, 101, "198.51.100.2:443", "eu", true, some "node-2.example", some 1,
      some .current, true⟩] }

def egressStore : RouteStore :=
  { sampleCloud.route with
    topology := egressTopology
    segments := [⟨3, 1, "segment", 5, 0x64400000, 24, .active, 0, zeroHash⟩] }

def quotedId (id : Uuid) : String := "\"" ++ uuidText id ++ "\""

def pathText (source destination : Uuid) : String :=
  "\x7b\"kind\":\"PATH_CANDIDATE\",\"spec\":\x7b\"segment_id\":" ++ quotedId 3 ++
    ",\"peer_id\":" ++ quotedId 75 ++ ",\"source_attachment_id\":" ++ quotedId source ++
    ",\"destination_attachment_id\":" ++ quotedId destination ++
    ",\"kind\":\"DIRECT\",\"relay_id\":null,\"transport_node_id\":" ++ quotedId 52 ++
    ",\"priority\":10\x7d\x7d"

def policyText (enabled : String) (ruleId : Uuid) (priority action : String) : String :=
  "\x7b\"kind\":\"SERVICE_POLICY\",\"spec\":\x7b\"segment_id\":" ++ quotedId 3 ++
    ",\"generation\":1," ++ enabled ++ "\"rules\":[\x7b\"id\":" ++ quotedId ruleId ++
    ",\"priority\":" ++ priority ++ ",\"source_site_ids\":[" ++ quotedId 31 ++
    "],\"destination_prefixes\":[\x7b\"network\":\"203.0.113.0\",\"prefix_len\":24\x7d]" ++
    ",\"domains\":[],\"traffic_classes\":[],\"action\":\x7b" ++ action ++ "\x7d\x7d]\x7d\x7d"

def remoteAction : String := "\"type\":\"REMOTE_EGRESS\",\"egress_id\":" ++ quotedId 91

def remoteText : String := policyText "\"enabled\":false," 96 "100" remoteAction

def localText : String := policyText "\"enabled\":false," 96 "100" "\"type\":\"LOCAL_EGRESS\""

/-- A policy that is enabled leaves the field out. -/
def precedingText : String := policyText "" 98 "10" remoteAction

def sampleJson : ResourceSpecV1 → Bytes
  | .pathCandidate path =>
      utf8 (pathText path.sourceAttachmentId path.destinationAttachmentId)
  | .servicePolicy policy =>
      if policy.enabled then utf8 precedingText
      else if policy.rules.any (·.action.isRemote) then utf8 remoteText else utf8 localText
  | _ => []

def buildHashes : List (Bytes × Hash) :=
  [(utf8 (pathText 41 42), 0x2db870d046323f2d376b6768085161c7c6963e6066819f88114879e74dbe333c),
    (utf8 (pathText 42 41), 0xa8fb30e221c026787cd88963ca75d78560070e2e051189cfa91de6f5a85c3732),
    (utf8 remoteText, 0x38ccedc6ece7c3dea05bbc2e950abdcb0c517373430b4eae11e8927046087918),
    (utf8 localText, 0x32b7b16db77fa2ceb881e20693964cd8798535e6a7d19e477a951dfd43b5e3ad),
    (utf8 precedingText, 0x390ec5649d2f09e827672269c98c8ffc68f3f2b3507d1c04a350bc508a35e63b),
    (uuidBytes 1 ++ uuidBytes 3 ++ bigEndian 8 9,
      0xd5571a325bfc099c7a104de8eea5757356903647ceade7113b5d0dd49bc11779),
    (uuidBytes 3 ++ uuidBytes 1 ++ bigEndian 8 42412,
      0x0491cd0e38a21ccd8f339e8bc3258051cff27e2f6cbec51067e72bab75197e5e),
    (uuidBytes 3 ++ uuidBytes 41 ++ bigEndian 8 9,
      0x398b5f3454113616971bc9aa01a35d34bd8f7dc001c89a461e33443bf653da91),
    (uuidBytes 3 ++ uuidBytes 42 ++ bigEndian 8 9,
      0x071b3ce09928b0f82ac467ce856d25afbe816dd72b345039733082d0b3333b90),
    (utf8 "candy/path-endpoint-candidate-v1" ++ [0] ++ uuidBytes 81 ++ uuidBytes 102,
      0xe79dedfc53fc8627eca6b4ae7d0900d31b3d86d7b8e634e2d9bedff9a729f6f2),
    (utf8 "candy/path-endpoint-candidate-v1" ++ [0] ++ uuidBytes 82 ++ uuidBytes 102,
      0xa56bf082039ca3cf42c3ac1ef95a44a0aae60c762639537e4254de5920fdbae4)]

def egressEnvironment : BuildEnvironment where
  encoding := ⟨fun bytes => (buildHashes.lookup bytes).getD 0, sampleJson⟩
  geo := ⟨none, .ok (), fun _ => .ok (), fun _ _ => .error .geoProviderBusy⟩
  now := 1000

def egressSnapshot (action : PolicyActionV1) : Except ControlStoreError SegmentControlSnapshot :=
  segmentSnapshot (run controlStep sampleCloud (egressGraph action)) egressTopology 1 3 9

def samplePolicy (action : PolicyActionV1) : ControlResourceV1 :=
  ⟨⟨1, 95, 1, 1, .active⟩, .servicePolicy ⟨3, 1, "", false, [sampleRule action]⟩⟩

theorem samplePolicy_disabled {snapshot : SegmentControlSnapshot} {action : PolicyActionV1}
    (member : samplePolicy action ∈ snapshot.resources) : snapshot.Disabled 95 :=
  ⟨samplePolicy action, member, rfl, _, rfl, rfl⟩

def builtRoutes (snapshot : SegmentControlSnapshot) :
    Except InputError (List (List RemoteRouteV1)) :=
  (buildInput egressEnvironment egressStore snapshot).map fun input =>
    input.projections.map (·.egressRoutes)

/-- The rule of a disabled policy sends a site through an egress. -/
theorem disabled_policy_takes_effect :
    ∃ snapshot input, egressSnapshot (.remoteEgress 91) = .ok snapshot ∧ snapshot.Disabled 95 ∧
      buildInput egressEnvironment egressStore snapshot = .ok input ∧
      input.projections.map (·.egressRoutes) = [[⟨⟨0xcb007100, 24⟩, 32, [42]⟩], []] ∧
      ¬ WithoutEffect egressEnvironment egressStore snapshot 95 := by
  have read : (egressSnapshot (.remoteEgress 91)).map (fun snapshot =>
      (decide (samplePolicy (.remoteEgress 91) ∈ snapshot.resources), builtRoutes snapshot,
        builtRoutes (snapshot.without 95))) =
      .ok (true, .ok [[⟨⟨0xcb007100, 24⟩, 32, [42]⟩], []], .ok [[], []]) := by
    decide +kernel
  obtain ⟨snapshot, taken, facts⟩ := map_ok.mp read
  simp only [Prod.mk.injEq, decide_eq_true_eq] at facts
  obtain ⟨member, routes, without⟩ := facts
  obtain ⟨input, built, listed⟩ := map_ok.mp routes
  refine ⟨snapshot, input, taken, samplePolicy_disabled member, built, listed, ?_⟩
  intro ineffective
  rw [builtRoutes, ineffective.input, ← builtRoutes, routes] at without
  exact absurd without (by decide)

/-- An enabled policy sends the destination through the same egress, at a better priority. -/
def precededSnapshot : Except ControlStoreError SegmentControlSnapshot :=
  segmentSnapshot (run controlStep sampleCloud (egressGraph (.remoteEgress 91) ++
    [sampleCreate 94 (.servicePolicy ⟨3, 1, "", true,
      [{ sampleRule (.remoteEgress 91) with id := 98, priority := 10 }]⟩)])) egressTopology 1 3 9

/-- What a build of the sample reads and gives. -/
structure PrecededBuild where
  policy : Bool
  othersEnabled : Bool
  routes : Except InputError (List (List RemoteRouteV1))
  offers : Except InputError (List (Uuid × Uuid × Ipv4PrefixV1))
deriving DecidableEq

def precededBuild (snapshot : SegmentControlSnapshot) : PrecededBuild where
  policy := decide (samplePolicy (.remoteEgress 91) ∈ snapshot.resources)
  othersEnabled := snapshot.resources.all fun resource =>
    decide (resource.metadata.id = 95) || match resource.resource with
      | .servicePolicy policy => policy.enabled
      | _ => true
  routes := builtRoutes snapshot
  offers := (policyOffers egressEnvironment snapshot).map fun offers =>
    offers.map fun offer => (offer.policyId, offer.pair)

theorem disabled_policies_without_effect_preceded :
    ∃ snapshot, precededSnapshot = .ok snapshot ∧ snapshot.Disabled 95 ∧
      builtRoutes snapshot = .ok [[⟨⟨0xcb007100, 24⟩, 32, [42]⟩], []] ∧
      ∀ policyId, snapshot.Disabled policyId →
        WithoutEffect egressEnvironment egressStore snapshot policyId := by
  have read : precededSnapshot.map precededBuild =
      .ok ⟨true, true, .ok [[⟨⟨0xcb007100, 24⟩, 32, [42]⟩], []],
        .ok [(94, 31, ⟨0xcb007100, 24⟩), (95, 31, ⟨0xcb007100, 24⟩)]⟩ := by
    decide +kernel
  obtain ⟨snapshot, taken, facts⟩ := map_ok.mp read
  simp only [precededBuild, PrecededBuild.mk.injEq, decide_eq_true_eq] at facts
  obtain ⟨member, others, routes, offered⟩ := facts
  obtain ⟨input, built, -⟩ := map_ok.mp routes
  refine ⟨snapshot, taken, samplePolicy_disabled member, routes, ?_⟩
  refine (disabled_policies_without_effect_iff _ _ snapshot input built).mpr ?_
  rintro _ ⟨resource, present, rfl, policy, spec, off⟩ offers found pair first decides own
  have sample : resource.metadata.id = 95 := by
    simpa [spec, off] using List.all_eq_true.mp others resource present
  obtain ⟨_, same, listed⟩ := map_ok.mp offered
  rw [found, Except.ok.injEq] at same
  subst same
  obtain ⟨preceding, rest, rfl, firstIs, listed⟩ := List.map_eq_cons_iff.mp listed
  obtain ⟨policyOffer, rest, rfl, secondIs, none⟩ := List.map_eq_cons_iff.mp listed
  obtain rfl := List.map_eq_nil_iff.mp none
  simp only [Prod.mk.injEq] at firstIs secondIs
  rw [decider, List.find?_cons] at decides
  split at decides
  · obtain rfl := Option.some.inj decides
    rw [sample, firstIs.1] at own
    exact absurd own (by decide)
  · rename_i elsewhere
    have inside := List.mem_of_find?_eq_some decides
    have concerns : first.pair = pair := by simpa using List.find?_some decides
    rw [List.mem_singleton] at inside
    rw [← concerns, inside, firstIs.2, secondIs.2] at elsewhere
    simp at elsewhere

end CandyCloud
