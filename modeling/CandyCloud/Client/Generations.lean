import CandyCloud.Client.Policies
import CandyCloud.Foundation.Supersession

/-! # Generations of policies and settings

Both repositories supersede the active document of the tenant and insert the new one.
-/

namespace CandyCloud

open Foundation

/-- A publication of policies or settings. -/
inductive PublishCall where
  | accounts (accounts : Accounts)
  | policy (request : ClientPolicyPublication)
  | settings (request : ClientSettingsPublication)

/-- One publication; a refused one changes nothing. -/
def publishStep (codec : ClientCodec) (plane : ClientPlane) : PublishCall → ClientPlane
  | .accounts accounts => { plane with accounts }
  | .policy request => commit plane ((publishPolicy codec plane request).map Prod.snd)
  | .settings request => commit plane ((publishSettings codec plane request).map Prod.snd)

/-- The versions of a tenant's access policy. -/
def policyVersions : Versioned ClientAccessPolicyRow Uuid Uuid where
  group row := row.tenantId
  key row := row.id
  version row := row.generation
  live row := decide (row.status = .active)
  retire row := { row with status := .superseded }
  group_retire _ := rfl
  key_retire _ := rfl
  version_retire _ := rfl
  live_retire _ := rfl

variable {tenantId : Uuid} {outcome : ClientPublished} {plane' : ClientPlane}

section Policies

variable (codec : ClientCodec) (plane : ClientPlane) (request : ClientPolicyPublication)

def ClientPolicyPublication.newRow : ClientAccessPolicyRow :=
  request.row codec (codec.sha256 (codec.policyJson request.policy))

/-- The publication passes every check, its request is new and no unique key is
    taken. -/
def PolicyAccepted : Prop :=
  request.policy.validate = .ok () ∧
    [request.organizationId, request.actorId, request.requestId].any isNil = false ∧
    plane.accounts.publisherOrganization request.policy.tenantId request.actorId =
      some request.organizationId ∧
    plane.policies.find? request.requested = none ∧
    ∀ old ∈ plane.policies, (request.newRow codec).clashes old = false

instance : Decidable (PolicyAccepted codec plane request) :=
  inferInstanceAs (Decidable (_ ∧ _ ∧ _ ∧ _ ∧ _))

def acceptedPolicy : PublishCall → Option ClientAccessPolicyRow
  | .policy request =>
      if PolicyAccepted codec plane request then some (request.newRow codec) else none
  | .accounts _ | .settings _ => none

variable {codec plane request}

theorem policyContentHash_ok {hash : Hash} {policy : ClientAccessPolicy}
    (done : policy.contentHash codec = .ok hash) : hash = codec.sha256 (codec.policyJson policy) := by
  rw [ClientAccessPolicy.contentHash, unit_bind_ok, pure_ok] at done
  exact done.2.symm

theorem insert_superseded {row : ClientAccessPolicyRow}
    {policies rows : List ClientAccessPolicyRow} :
    insertRow ClientAccessPolicyRow.clashes (supersedePolicies tenantId policies) row = some rows ↔
      (∀ old ∈ policies, row.clashes old = false) ∧
        rows = supersedePolicies tenantId policies ++ [row] :=
  insertRow_updateWhere fun _ => rfl

theorem publishPolicy_accepted (accepted : PolicyAccepted codec plane request) :
    publishPolicy codec plane request = .ok (⟨request.policy.policyId, false⟩,
      { plane with policies := policyVersions.publish plane.policies (request.newRow codec) }) := by
  obtain ⟨valid, ids, scope, unanswered, free⟩ := accepted
  have hashed : request.policy.contentHash codec =
      .ok (codec.sha256 (codec.policyJson request.policy)) := by
    rw [ClientAccessPolicy.contentHash, valid]
    rfl
  have inserted : insertRow ClientAccessPolicyRow.clashes
      (supersedePolicies request.policy.tenantId plane.policies) (request.newRow codec) =
      some (policyVersions.publish plane.policies (request.newRow codec)) :=
    insert_superseded.mpr ⟨free, rfl⟩
  rw [publishPolicy, valid, ids, hashed, unanswered, scope]
  simp only [ne_eq, not_true_eq_false, decide_false, reject]
  change (orElse _ (insertRow _ _ (request.newRow codec)) >>= _) = _
  rw [inserted]
  rfl

theorem publishPolicy_ok (done : publishPolicy codec plane request = .ok (outcome, plane')) :
    plane' = plane ∨ PolicyAccepted codec plane request := by
  rw [publishPolicy, unit_bind_ok, unit_bind_ok, bind_ok] at done
  obtain ⟨valid, ids, contentHash, hashed, done⟩ := done
  rw [unit_bind_ok] at done
  obtain ⟨scope, done⟩ := done
  cases found : plane.policies.find? request.requested with
  | some stored =>
      rw [found] at done
      obtain ⟨-, ⟨⟩⟩ := ite_ok.mp done
      exact .inl rfl
  | none =>
      rw [found, orElse_bind_ok] at done
      obtain ⟨rows, inserted, -⟩ := done
      obtain ⟨free, -⟩ := insert_superseded.mp inserted
      rw [policyContentHash_ok hashed] at free
      rw [reject_ok] at ids scope
      refine .inr ⟨valid, ids, ?_, found, free⟩
      simpa using scope

theorem publishStep_policy : publishStep codec plane (.policy request) =
    if PolicyAccepted codec plane request then
      { plane with policies := policyVersions.publish plane.policies (request.newRow codec) }
    else plane := by
  by_cases accepted : PolicyAccepted codec plane request
  · rw [if_pos accepted, publishStep, publishPolicy_accepted accepted]
    rfl
  · rw [if_neg accepted]
    refine commit_cases (P := (· = plane)) rfl ?_
    intro plane' done
    obtain ⟨⟨outcome, _⟩, published, rfl⟩ := map_ok.mp done
    exact (publishPolicy_ok published).resolve_right accepted

theorem acceptedPolicy_some {call : PublishCall} {row : ClientAccessPolicyRow}
    (accepts : acceptedPolicy codec plane call = some row) :
    ∃ request, call = .policy request ∧ PolicyAccepted codec plane request ∧
      request.newRow codec = row := by
  cases call with
  | accounts accounts => cases accepts
  | settings request => cases accepts
  | policy request =>
      obtain ⟨accepted, same⟩ := Option.ite_none_right_eq_some.mp accepts
      exact ⟨request, rfl, accepted, Option.some.inj same⟩

end Policies

def settingsVersions : Versioned ClientSettingsRow Uuid Uuid where
  group row := row.tenantId
  key row := row.id
  version row := row.generation
  live row := decide (row.status = .active)
  retire row := { row with status := .superseded }
  group_retire _ := rfl
  key_retire _ := rfl
  version_retire _ := rfl
  live_retire _ := rfl

section Settings

variable (codec : ClientCodec) (plane : ClientPlane) (request : ClientSettingsPublication)

def ClientSettingsPublication.newRow : ClientSettingsRow :=
  request.row codec (codec.sha256 (codec.settingsJson request.settings))

/-- The publication passes every check, names the next generation, its request is
    new and no unique key is taken. -/
def SettingsAccepted : Prop :=
  request.settings.validate = .ok () ∧
    [request.organizationId, request.actorId, request.requestId].any isNil = false ∧
    plane.accounts.activeTenant request.settings.tenantId request.organizationId = true ∧
    plane.settings.find? request.requested = none ∧
    (request.settings.generation =
        saturatingAdd (settingsGeneration request.settings.tenantId plane.settings) 1 ∧
      request.settings.generation ≤ maxSettingsGeneration) ∧
    ∀ old ∈ plane.settings, (request.newRow codec).clashes old = false

instance : Decidable (SettingsAccepted codec plane request) :=
  inferInstanceAs (Decidable (_ ∧ _ ∧ _ ∧ _ ∧ _ ∧ _))

def acceptedSettings : PublishCall → Option ClientSettingsRow
  | .settings request =>
      if SettingsAccepted codec plane request then some (request.newRow codec) else none
  | .accounts _ | .policy _ => none

variable {codec plane request}

theorem insert_supersededSettings {row : ClientSettingsRow}
    {settings rows : List ClientSettingsRow} :
    insertRow ClientSettingsRow.clashes (supersedeSettings tenantId settings) row = some rows ↔
      (∀ old ∈ settings, row.clashes old = false) ∧
        rows = supersedeSettings tenantId settings ++ [row] :=
  insertRow_updateWhere fun _ => rfl

theorem publishSettings_accepted (accepted : SettingsAccepted codec plane request) :
    publishSettings codec plane request = .ok (⟨request.settingsId, false⟩,
      { plane with
        settings := settingsVersions.publish plane.settings (request.newRow codec) }) := by
  obtain ⟨valid, ids, scope, unanswered, ⟨next, bound⟩, free⟩ := accepted
  have hashed : request.settings.contentHash codec =
      .ok (codec.sha256 (codec.settingsJson request.settings)) := by
    rw [ClientProjectionSettings.contentHash, valid]
    rfl
  have inserted : insertRow ClientSettingsRow.clashes
      (supersedeSettings request.settings.tenantId plane.settings) (request.newRow codec) =
      some (settingsVersions.publish plane.settings (request.newRow codec)) :=
    insert_supersededSettings.mpr ⟨free, rfl⟩
  rw [publishSettings, valid, ids, hashed, unanswered, scope]
  simp only [← next, ne_eq, not_true_eq_false, decide_false, Bool.not_true, Bool.false_or,
    decide_eq_false (Nat.not_lt.mpr bound), reject]
  change (orElse _ (insertRow _ _ (request.newRow codec)) >>= _) = _
  rw [inserted]
  rfl

theorem publishSettings_ok (done : publishSettings codec plane request = .ok (outcome, plane')) :
    plane' = plane ∨ SettingsAccepted codec plane request := by
  rw [publishSettings, unit_bind_ok, unit_bind_ok, bind_ok] at done
  obtain ⟨valid, ids, contentHash, hashed, done⟩ := done
  rw [unit_bind_ok] at done
  obtain ⟨scope, done⟩ := done
  cases found : plane.settings.find? request.requested with
  | some stored =>
      rw [found] at done
      obtain ⟨-, ⟨⟩⟩ := ite_ok.mp done
      exact .inl rfl
  | none =>
      rw [found] at done
      simp only at done
      rw [unit_bind_ok, orElse_bind_ok] at done
      obtain ⟨next, rows, inserted, -⟩ := done
      obtain ⟨free, -⟩ := insert_supersededSettings.mp inserted
      rw [ClientProjectionSettings.contentHash, unit_bind_ok, pure_ok] at hashed
      rw [← hashed.2] at free
      rw [reject_ok] at ids scope next
      simp only [ne_eq, Bool.or_eq_false_iff, decide_eq_false_iff_not, not_not, not_lt] at next
      refine .inr ⟨valid, ids, by simpa using scope, found, ⟨next.1, ?_⟩, free⟩
      rw [next.1]
      exact next.2

theorem publishStep_settings : publishStep codec plane (.settings request) =
    if SettingsAccepted codec plane request then
      { plane with settings := settingsVersions.publish plane.settings (request.newRow codec) }
    else plane := by
  by_cases accepted : SettingsAccepted codec plane request
  · rw [if_pos accepted, publishStep, publishSettings_accepted accepted]
    rfl
  · rw [if_neg accepted]
    refine commit_cases (P := (· = plane)) rfl ?_
    intro plane' done
    obtain ⟨⟨outcome, _⟩, published, rfl⟩ := map_ok.mp done
    exact (publishSettings_ok published).resolve_right accepted

theorem acceptedSettings_some {call : PublishCall} {row : ClientSettingsRow}
    (accepts : acceptedSettings codec plane call = some row) :
    ∃ request, call = .settings request ∧ SettingsAccepted codec plane request ∧
      request.newRow codec = row := by
  cases call with
  | accounts accounts => cases accepts
  | policy request => cases accepts
  | settings request =>
      obtain ⟨accepted, same⟩ := Option.ite_none_right_eq_some.mp accepts
      exact ⟨request, rfl, accepted, Option.some.inj same⟩

end Settings

theorem policies_publish (codec : ClientCodec) :
    policyVersions.Publishes (publishStep codec) ClientPlane.policies (acceptedPolicy codec) where
  effect plane call := by
    cases call with
    | accounts accounts => rfl
    | settings request =>
        rw [publishStep_settings]
        split
        · rfl
        · rfl
    | policy request =>
        rw [publishStep_policy, acceptedPolicy]
        split
        · rfl
        · rfl
  live plane call row accepts := by
    obtain ⟨request, -, -, rfl⟩ := acceptedPolicy_some accepts
    rfl
  fresh plane call row accepts old member := by
    obtain ⟨request, -, accepted, rfl⟩ := acceptedPolicy_some accepts
    have free := accepted.2.2.2.2 old member
    intro same
    rw [ClientAccessPolicyRow.clashes, Bool.or_eq_false_iff, decide_eq_false_iff_not] at free
    exact free.1 same.symm

theorem settings_publish (codec : ClientCodec) :
    settingsVersions.Publishes (publishStep codec) ClientPlane.settings
      (acceptedSettings codec) where
  effect plane call := by
    cases call with
    | accounts accounts => rfl
    | policy request =>
        rw [publishStep_policy]
        split
        · rfl
        · rfl
    | settings request =>
        rw [publishStep_settings, acceptedSettings]
        split
        · rfl
        · rfl
  live plane call row accepts := by
    obtain ⟨request, -, -, rfl⟩ := acceptedSettings_some accepts
    rfl
  fresh plane call row accepts old member := by
    obtain ⟨request, -, accepted, rfl⟩ := acceptedSettings_some accepts
    have free := accepted.2.2.2.2.2 old member
    intro same
    rw [ClientSettingsRow.clashes, Bool.or_eq_false_iff, decide_eq_false_iff_not] at free
    exact free.1 same.symm

theorem settings_surpass (codec : ClientCodec) (plane : ClientPlane) (call : PublishCall) :
    settingsVersions.Surpasses ClientPlane.settings (acceptedSettings codec) plane call := by
  intro row accepts old member same
  obtain ⟨request, -, ⟨-, -, -, -, ⟨next, bound⟩, -⟩, rfl⟩ := acceptedSettings_some accepts
  have highest : old.generation ≤ settingsGeneration request.settings.tenantId plane.settings :=
    (le_foldl_max ClientSettingsRow.generation _ 0).2 old
      (List.mem_filter.mpr ⟨member, decide_eq_true same⟩)
  change old.generation < request.settings.generation
  simp only [saturatingAdd, maxSettingsGeneration, u64Max] at next bound
  omega

/-- In every history of publications that begins without documents. The
    generations of settings only advance; those of policies do as long as every
    accepted publication is ahead of what its tenant has stored. -/
theorem generations_advance (codec : ClientCodec) (plane : ClientPlane) (calls : List PublishCall) :
    (policyVersions.Advances (publishStep codec) ClientPlane.policies
        { plane with policies := [], settings := [] } calls ↔
      Along (publishStep codec) (policyVersions.Surpasses ClientPlane.policies (acceptedPolicy codec))
        { plane with policies := [], settings := [] } calls) ∧
    settingsVersions.Advances (publishStep codec) ClientPlane.settings
      { plane with policies := [], settings := [] } calls := by
  constructor
  · exact (policies_publish codec).advances_iff rfl calls
  · rw [(settings_publish codec).advances_iff rfl, along_iff_split]
    intro before call after _
    exact settings_surpass codec _ call

def wikiPolicy (policyId : Uuid) (generation : Nat) : ClientAccessPolicy where
  schemaVersion := 1
  policyId
  tenantId := 1
  generation
  modeCapabilities := [.policy]
  globalEgressEnabled := false
  allowedResources := [⟨"wiki", ["wiki.example.test"], [], [443]⟩]

def wikiCodec : ClientCodec where
  sha256 bytes :=
    match bytes.length with
    | 294 => 0x1c44d28c3272b8b861ecb0ca03ef2ad7b4d3d16096b9fae07eba5920abefdbb2
    | 293 => 0x2eb9087af11b52e26e0b2538821b47333821a0ea23179eace20bdaa26190f6bf
    | 365 => 0x1a0a5b7f19b48893d44cdf90ba7c2ff856f0632c4aa52a2a20a65d39ece992f3
    | _ => 0x0b4361ad5a2f7d335b71a007c1a6ab9d00c319352eba589c7cff48c1d3f6a727
  policyJson := ClientAccessPolicy.json
  settingsJson := ClientProjectionSettings.json

def wikiPlane : ClientPlane where
  accounts := ⟨[⟨2, .active⟩], [⟨1, 2, .active⟩], [⟨3, true⟩], [⟨2, 3, true⟩]⟩
  topology := ⟨[], [], [], [], [], [], [], [], [], [], [], []⟩
  clients := ⟨[], [], [], []⟩
  policies := []
  bindings := []
  bindingRequests := []
  settings := []
  modeRequests := []

def wikiPublications : List PublishCall :=
  [.policy ⟨wikiPolicy 31 12, 2, 3, 41⟩, .policy ⟨wikiPolicy 32 7, 2, 3, 42⟩]

/-- A later publication may carry an earlier generation. -/
theorem policy_generation_goes_back :
    ¬ policyVersions.Advances (publishStep wikiCodec) ClientPlane.policies
      { wikiPlane with policies := [], settings := [] } wikiPublications := by
  intro advances
  have ordered : ∀ old ∈ (run (publishStep wikiCodec) wikiPlane (wikiPublications.take 1)).policies,
      policyVersions.liveIn 1 old = true →
      ∀ new ∈ (run (publishStep wikiCodec) wikiPlane wikiPublications).policies,
        policyVersions.liveIn 1 new = true → new.id ≠ old.id → old.generation < new.generation :=
    (advances (wikiPublications.take 1) (wikiPublications.drop 1) [] rfl 1).2
  revert ordered
  decide +kernel

end CandyCloud
