import CandyCloud.Worker.Snapshot

/-! # Service policies in a publication

The rules of the service policies of a snapshot become effective remote egress rules, one
decision for each source site and destination, and these become the egress routes and
authorizations of the sites.
-/

namespace CandyCloud

open Foundation

inductive InputReadinessError where
  | pathCandidates
  | transportIdentity
  | peerPolicy
  | nodeIdentity
deriving DecidableEq, Repr

/-- How `build_input` fails. A message whose text is fixed is kept as such. -/
inductive InputError where
  | readiness (error : InputReadinessError)
  | store (error : SdwanError) (context : String)
  | geoProviderBusy
  | failed (message : String)
  | invalidHead (generation : Nat)
  | foreignGeoProvider (provider : String)
  | conflictingActions (sourceSiteId : Uuid) (destination : Ipv4PrefixV1)
deriving DecidableEq, Repr

structure PolicyRefV1 where
  policyId : Uuid
  generation : Nat
  contentHash : Hash
deriving DecidableEq, Repr

/-- A destination that another site carries. -/
structure RemoteRouteV1 where
  destinationPrefix : Ipv4PrefixV1
  ownerSiteId : Uuid
  ownerAttachmentIds : List Uuid
deriving DecidableEq, Repr

/-- A rule that won its destination for one source site. -/
structure EffectiveRemoteEgressRule where
  policyRef : PolicyRefV1
  priority : Nat
  sourceSiteId : Uuid
  destination : Ipv4PrefixV1
  egressId : Uuid
deriving DecidableEq, Repr

/-- The digest and the JSON form of a document. -/
structure DocumentEncoding where
  sha256 : Bytes → Hash
  json : ResourceSpecV1 → Bytes

def documentHash (encoding : DocumentEncoding) (spec : ResourceSpecV1) :
    Except ContractError Hash := do
  spec.validate
  return encoding.sha256 (encoding.json spec)

def ServicePolicyV1.dataPlaneHash (encoding : DocumentEncoding) (policy : ServicePolicyV1) :
    Except ContractError Hash :=
  documentHash encoding (.servicePolicy { policy with name := "" })

def servicePolicyRef (encoding : DocumentEncoding) (resourceId : Uuid) (policy : ServicePolicyV1) :
    Except InputError PolicyRefV1 := do
  let contentHash ← (policy.dataPlaneHash encoding).mapError fun _ =>
    .failed "service policy hash failed"
  return { policyId := resourceId, generation := policy.generation, contentHash }

/-- The digests of the expanded rules are bound into the hash. -/
def servicePolicyRefWithGeo (encoding : DocumentEncoding) (resourceId : Uuid)
    (policy : ServicePolicyV1) (geoDigests : List (Uuid × Hash)) :
    Except InputError PolicyRefV1 := do
  let reference ← servicePolicyRef encoding resourceId policy
  if geoDigests.isEmpty then return reference
  else return { reference with
    contentHash := encoding.sha256 (hashBytes reference.contentHash ++
      geoDigests.flatMap fun (ruleId, digest) => uuidBytes ruleId ++ hashBytes digest) }

structure GeoProviderSettings where
  enabled : Bool
  provider : String
  countries : List String
deriving DecidableEq, Repr

/-- The provider at the moment of a build: `lock` and `refresh` stand for the
    file lock and the download, `expand` for the metadata check and the reading
    of the country files. -/
structure GeoProvider where
  settings : Option GeoProviderSettings
  lock : Except InputError Unit
  refresh : GeoProviderSettings → Except InputError Unit
  expand : PolicyGeoSelectorV1 → List Ipv4PrefixV1 →
    Except InputError (List Ipv4PrefixV1 × Hash)

def eqIgnoreAsciiCase (a b : String) : Bool :=
  let lower := fun byte : UInt8 => if asciiUpper byte then byte + 32 else byte
  (utf8 a).map lower == (utf8 b).map lower

def GeoProvider.enabledSettings (geo : GeoProvider) : Except InputError GeoProviderSettings := do
  let settings ← orElse (.failed "Geo policy requires a platform Geo provider configuration")
    geo.settings
  reject (!settings.enabled) (.failed "platform Geo provider is disabled")
  return settings

/-- A rule with its selector expanded, and the digest of the expansion. -/
def expandGeoRule (geo : GeoProvider) (rule : ServicePolicyRuleV1) :
    Except InputError (ServicePolicyRuleV1 × Option Hash) :=
  match rule.destinationGeo with
  | none => .ok (rule, none)
  | some selector => do
      let settings ← geo.enabledSettings
      reject (settings.provider != selector.provider) (.foreignGeoProvider selector.provider)
      reject (selector.countries.any fun country =>
        !settings.countries.any fun allowed => eqIgnoreAsciiCase allowed country)
        (.failed "Geo policy selects a country outside the platform provider scope")
      let (destinationPrefixes, digest) ← geo.expand selector rule.destinationPrefixes
      return ({ rule with destinationPrefixes }, some digest)

def prepareGeo (geo : GeoProvider) (rules : List ServicePolicyRuleV1) :
    Except InputError Unit :=
  if rules.any (·.destinationGeo.isSome) then do
    geo.lock
    let settings ← geo.enabledSettings
    geo.refresh settings
  else .ok ()

def policyRules (encoding : DocumentEncoding) (geo : GeoProvider) (resourceId : Uuid)
    (policy : ServicePolicyV1) : Except InputError (List (PolicyRefV1 × ServicePolicyRuleV1)) := do
  prepareGeo geo policy.rules
  let expanded ← policy.rules.mapM (expandGeoRule geo)
  let digests := (expanded.filterMap fun (rule, digest) =>
    digest.map fun digest => (rule.id, digest)).insertionSort fun a b => a.1 ≤ b.1
  let reference ← servicePolicyRefWithGeo encoding resourceId policy digests
  reject (expanded.any fun (rule, _) => rule.action.isRemote && rule.destinationPrefixes.isEmpty)
    (.failed "remote egress policy requires an explicit CIDR or GeoIP destination selector")
  return expanded.map fun (rule, _) => (reference, rule)

def servicePolicies (segmentId : Uuid) (resources : List ControlResourceV1) :
    List (Uuid × ServicePolicyV1) :=
  resources.filterMap fun resource =>
    resource.resource.servicePolicy?.bind fun policy =>
      if resource.metadata.state = .active ∧ policy.segmentId = segmentId then
        some (resource.metadata.id, policy)
      else none

/-- The rules of the segment's policies, their selectors expanded. -/
def servicePolicyRules (encoding : DocumentEncoding) (geo : GeoProvider) (segmentId : Uuid)
    (resources : List ControlResourceV1) :
    Except InputError (List (PolicyRefV1 × ServicePolicyRuleV1)) := do
  let rules ← (servicePolicies segmentId resources).mapM fun (resourceId, policy) =>
    policyRules encoding geo resourceId policy
  return rules.flatten

/-- Two halves of the address space are one default destination. -/
def normalizedPolicyDestinations (prefixes : List Ipv4PrefixV1) : List Ipv4PrefixV1 :=
  let legacyDefault : List Ipv4PrefixV1 := [⟨0, 1⟩, ⟨0x80000000, 1⟩]
  if prefixes.length = legacyDefault.length ∧ legacyDefault.all prefixes.contains then [⟨0, 0⟩]
  else prefixes

/-- `sort_unstable_by_key` on priority, policy and rule. -/
def ruleOrder (a b : PolicyRefV1 × ServicePolicyRuleV1) : Prop :=
  a.2.priority < b.2.priority ∨ a.2.priority = b.2.priority ∧
    (a.1.policyId < b.1.policyId ∨ a.1.policyId = b.1.policyId ∧ a.2.id ≤ b.2.id)

instance : DecidableRel ruleOrder := fun a b =>
  inferInstanceAs (Decidable (a.2.priority < b.2.priority ∨ a.2.priority = b.2.priority ∧
    (a.1.policyId < b.1.policyId ∨ a.1.policyId = b.1.policyId ∧ a.2.id ≤ b.2.id)))

def prefixOrder (a b : Ipv4PrefixV1) : Prop :=
  a.network < b.network ∨ a.network = b.network ∧ a.prefixLen ≤ b.prefixLen

instance : DecidableRel prefixOrder := fun a b =>
  inferInstanceAs (Decidable (a.network < b.network ∨ a.network = b.network ∧
    a.prefixLen ≤ b.prefixLen))

/-- The final order; no two selected rules share site and destination. -/
def effectiveOrder (a b : EffectiveRemoteEgressRule) : Prop :=
  a.sourceSiteId < b.sourceSiteId ∨ a.sourceSiteId = b.sourceSiteId ∧
    prefixOrder a.destination b.destination

instance : DecidableRel effectiveOrder := fun a b =>
  inferInstanceAs (Decidable (a.sourceSiteId < b.sourceSiteId ∨ a.sourceSiteId = b.sourceSiteId ∧
    prefixOrder a.destination b.destination))

/-- What has been decided for a source site and a destination: the priority and
    the egress, none for local traffic. -/
structure Decision where
  sourceSiteId : Uuid
  destination : Ipv4PrefixV1
  priority : Nat
  egressId : Option Uuid
deriving DecidableEq, Repr

structure Selection where
  decisions : List Decision
  selected : List EffectiveRemoteEgressRule
deriving DecidableEq, Repr

def Decision.concerns (decision : Decision) (pair : Uuid × Ipv4PrefixV1) : Bool :=
  decision.sourceSiteId == pair.1 && decision.destination == pair.2

/-- One source site and destination of a rule; the first rule decides. -/
def selectPair (policyRef : PolicyRefV1) (priority : Nat) (egressId : Option Uuid)
    (selection : Selection) (pair : Uuid × Ipv4PrefixV1) : Except InputError Selection :=
  match selection.decisions.find? fun decision => decision.concerns pair with
  | some decision => do
      reject (decision.priority == priority && decision.egressId != egressId)
        (.conflictingActions pair.1 pair.2)
      return selection
  | none => .ok
      { decisions := selection.decisions ++ [⟨pair.1, pair.2, priority, egressId⟩]
        selected := selection.selected ++ egressId.toList.map fun egressId =>
          { policyRef, priority, sourceSiteId := pair.1, destination := pair.2, egressId } }

/-- The sites a rule speaks for; a site does not egress through itself. -/
def ruleSources (attachmentSites : List Uuid) (rule : ServicePolicyRuleV1)
    (egress : Option EgressV1) : List Uuid :=
  let sites := if rule.sourceSiteIds.isEmpty then attachmentSites else rule.sourceSiteIds
  match egress with
  | none => sites
  | some egress => sites.filter (· != egress.siteId)

def ruleEgress (egresses : Uuid → Option EgressV1) (rule : ServicePolicyRuleV1) :
    Except InputError (Option (Uuid × EgressV1)) :=
  match rule.action with
  | .localEgress => .ok none
  | .remoteEgress egressId => do
      let egress ← orElse (.failed "remote egress rule references an inactive Egress")
        (egresses egressId)
      return some (egressId, egress)

def rulePairs (attachmentSites : List Uuid) (rule : ServicePolicyRuleV1)
    (egress : Option EgressV1) : List (Uuid × Ipv4PrefixV1) :=
  (ruleSources attachmentSites rule egress).flatMap fun siteId =>
    (normalizedPolicyDestinations rule.destinationPrefixes).map fun destination =>
      (siteId, destination)

def selectRule (attachmentSites : List Uuid) (egresses : Uuid → Option EgressV1)
    (selection : Selection) (entry : PolicyRefV1 × ServicePolicyRuleV1) :
    Except InputError Selection := do
  let egress ← ruleEgress egresses entry.2
  updateEach (selectPair entry.1 entry.2.priority (egress.map Prod.fst)) selection
    (rulePairs attachmentSites entry.2 (egress.map Prod.snd))

/-- The rules in force, by priority. -/
def selectRemoteEgressRules (attachmentSites : List Uuid) (egresses : Uuid → Option EgressV1)
    (rules : List (PolicyRefV1 × ServicePolicyRuleV1)) :
    Except InputError (List EffectiveRemoteEgressRule) := do
  let selection ← updateEach (selectRule attachmentSites egresses) ⟨[], []⟩
    (rules.insertionSort ruleOrder)
  return selection.selected.insertionSort effectiveOrder

/-- The maps that the loop over the effective rules fills. -/
structure EgressPlan where
  policy : Uuid → Option PolicyRefV1
  destinations : Uuid → List Ipv4PrefixV1
  routes : Uuid → List RemoteRouteV1
  gateway : Uuid → Bool

def EgressPlan.empty : EgressPlan :=
  ⟨fun _ => none, fun _ => [], fun _ => [], fun _ => false⟩

def mergeEgressDestinations (destinations : List Ipv4PrefixV1) (addition : Ipv4PrefixV1) :
    Except InputError (List Ipv4PrefixV1) :=
  if destinations.contains addition then .ok (destinations.insertionSort prefixOrder)
  else do
    reject (destinations.any fun existing => existing.overlaps addition)
      (.failed "remote egress policy contains overlapping destination prefixes")
    return (destinations ++ [addition]).insertionSort prefixOrder

/-- The site carries one policy only and learns a destination. -/
def EgressPlan.authorize (plan : EgressPlan) (siteId : Uuid) (policyRef : PolicyRefV1)
    (destination : Ipv4PrefixV1) (conflict : String) : Except InputError EgressPlan := do
  reject ((plan.policy siteId).any (· != policyRef)) (.failed conflict)
  let destinations ← mergeEgressDestinations (plan.destinations siteId) destination
  return { plan with
    policy := fun site => if site = siteId then some policyRef else plan.policy site
    destinations := fun site => if site = siteId then destinations else plan.destinations site }

def planRule (egresses : Uuid → Option EgressV1) (plan : EgressPlan)
    (effective : EffectiveRemoteEgressRule) : Except InputError EgressPlan := do
  let egress ← orElse (.failed "remote egress rule references an inactive Egress")
    (egresses effective.egressId)
  let plan ← plan.authorize egress.siteId effective.policyRef effective.destination
    "Egress Site has conflicting remote egress policies"
  let plan := { plan with gateway := fun site => site == egress.siteId || plan.gateway site }
  let plan ← plan.authorize effective.sourceSiteId effective.policyRef effective.destination
    "source Site has conflicting effective remote egress policies"
  let addition : RemoteRouteV1 := ⟨effective.destination, egress.siteId, [egress.attachmentId]⟩
  reject ((plan.routes effective.sourceSiteId).any fun existing =>
    existing.destinationPrefix.overlaps addition.destinationPrefix &&
      existing.ownerAttachmentIds != addition.ownerAttachmentIds)
    (.failed "source Site has overlapping effective remote egress destinations")
  return { plan with
    routes := fun site =>
      if site = effective.sourceSiteId ∧ addition ∉ plan.routes site then
        plan.routes site ++ [addition]
      else plan.routes site }

def planEgress (egresses : Uuid → Option EgressV1) (rules : List EffectiveRemoteEgressRule) :
    Except InputError EgressPlan :=
  updateEach (planRule egresses) EgressPlan.empty rules

end CandyCloud
