import CandyCloud.Client.Leases
import CandyCloud.Encoding

/-! # The fingerprint of a poll's inputs

`projection_inputs_fingerprint` names the policy, the settings and the grant by their hashes and
identifiers.
-/

namespace CandyCloud

open Foundation

def ClientAccessPolicyRow.content (row : ClientAccessPolicyRow) : ClientAccessPolicyRow :=
  { row with status := .active }

def ClientSettingsRow.content (row : ClientSettingsRow) : ClientSettingsRow :=
  { row with status := .active }

/-- Nothing that is stored changes but for its status. -/
structure PlaneGrows (before after : ClientPlane) : Prop where
  policies : before.policies.map (·.content) <+: after.policies.map (·.content)
  settings : before.settings.map (·.content) <+: after.settings.map (·.content)
  grants : before.clients.grants.map (·.record) <+: after.clients.grants.map (·.record)
  projections :
    before.clients.projections.map (·.record "") <+: after.clients.projections.map (·.record "")

theorem PlaneGrows.of_kept {before after : ClientPlane} (policies : after.policies = before.policies)
    (settings : after.settings = before.settings)
    (kept : DocumentsKept before.clients after.clients) : PlaneGrows before after := by
  constructor
  · simp only [policies, List.prefix_rfl]
  · simp only [settings, List.prefix_rfl]
  · simp only [kept.grants, List.prefix_rfl]
  · simp only [kept.projections, List.prefix_rfl]

theorem PlaneGrows.trans {a b c : ClientPlane} (first : PlaneGrows a b) (second : PlaneGrows b c) :
    PlaneGrows a c :=
  ⟨first.policies.trans second.policies, first.settings.trans second.settings,
    first.grants.trans second.grants, first.projections.trans second.projections⟩

theorem planeStep_grows (services : ClientServices) (plane : ClientPlane) (call : PlaneCall) :
    PlaneGrows plane (planeStep services plane call) := by
  have change := planeStep_change services plane call
  generalize planeStep services plane call = plane' at change
  cases change with
  | same | accounts | topology | bound => exact .of_kept rfl rfl (.refl _)
  | lifecycle call => exact .of_kept rfl rfl (lifecycle_keeps_documents _ _ _ call)
  | switched => exact .of_kept rfl rfl ⟨rfl, rfl⟩
  | policy accepted =>
      refine ⟨?_, List.prefix_rfl, List.prefix_rfl, List.prefix_rfl⟩
      rw [Versioned.publish, List.map_append, map_updateWhere (by intro row; rfl)]
      exact List.prefix_append _ _
  | settings accepted =>
      refine ⟨List.prefix_rfl, ?_, List.prefix_rfl, List.prefix_rfl⟩
      rw [Versioned.publish, List.map_append, map_updateWhere (by intro row; rfl)]
      exact List.prefix_append _ _
  | granted inserted =>
      refine ⟨List.prefix_rfl, List.prefix_rfl, ?_, List.prefix_rfl⟩
      rw [ClientPlane.insertGrant, ClientStore.apply, List.map_append]
      exact List.prefix_append _ _
  | published inserted =>
      refine ⟨List.prefix_rfl, List.prefix_rfl, List.prefix_rfl, ?_⟩
      rw [ClientPlane.publishProjection, ClientStore.publish, ClientStore.apply, ClientStore.apply,
        List.map_append, map_updateWhere (by intro row; rfl)]
      exact List.prefix_append _ _

theorem run_grows (services : ClientServices) (plane : ClientPlane) (calls : List PlaneCall) :
    PlaneGrows plane (run (planeStep services) plane calls) := by
  refine run_invariant (P := fun after => PlaneGrows plane after) ?_ ?_ calls
  · intro after call grown
    exact grown.trans (planeStep_grows services after call)
  · exact .of_kept rfl rfl (.refl _)

/-- A tenant has one policy and one settings document with a given content hash. -/
structure ConfigurationSound (codec : ClientCodec) (plane : ClientPlane) : Prop where
  policies : (plane.policies.map fun row => (row.tenantId, row.contentHash)).Nodup
  settings : (plane.settings.map fun row => (row.tenantId, row.contentHash)).Nodup
  hashed : ∀ row ∈ plane.settings,
    row.contentHash = codec.sha256 (codec.settingsJson row.settings)

theorem planeStep_configuration (services : ClientServices) (plane : ClientPlane)
    (call : PlaneCall) (sound : ConfigurationSound services.codec.toClientCodec plane) :
    ConfigurationSound services.codec.toClientCodec (planeStep services plane call) := by
  have change := planeStep_change services plane call
  generalize planeStep services plane call = plane' at change
  obtain ⟨policies, settings, hashed⟩ := sound
  cases change with
  | same | accounts | topology | bound | lifecycle | switched | granted | published =>
      exact ⟨policies, settings, hashed⟩
  | policy accepted =>
      rename_i request
      refine ⟨?_, settings, hashed⟩
      rw [Versioned.publish, List.map_append, map_updateWhere (by intro row; rfl),
        ← List.map_append]
      refine nodup_concat_key policies ?_
      intro old member same
      obtain ⟨tenant, hash⟩ := Prod.mk.inj same
      have free := accepted.2.2.2.2 old member
      simp only [ClientAccessPolicyRow.clashes, tenant, hash, decide_true, Bool.or_true,
        Bool.and_true, Bool.true_eq_false] at free
  | settings accepted =>
      rename_i request
      refine ⟨policies, ?_, ?_⟩
      · rw [Versioned.publish, List.map_append, map_updateWhere (by intro row; rfl),
          ← List.map_append]
        refine nodup_concat_key settings ?_
        intro old member same
        obtain ⟨tenant, hash⟩ := Prod.mk.inj same
        have free := accepted.2.2.2.2.2 old member
        simp only [ClientSettingsRow.clashes, tenant, hash, decide_true, Bool.or_true,
          Bool.and_true, Bool.true_eq_false] at free
      · intro row member
        rcases mem_concat.mp member with updated | new
        · obtain ⟨old, present, rfl⟩ := mem_updateWhere.mp updated
          have kept := hashed old present
          split
          · exact kept
          · exact kept
        · rw [new]
          rfl

theorem run_configuration (services : ClientServices) (accounts : Accounts) (topology : Topology)
    (calls : List PlaneCall) :
    ConfigurationSound services.codec.toClientCodec (services.reached accounts topology calls) := by
  refine run_invariant (planeStep_configuration services) ?_ calls
  exact ⟨List.nodup_nil, List.nodup_nil, fun _ member => absurd member List.not_mem_nil⟩

def ProjectionInputs.fingerprinted (inputs : ProjectionInputs) (mode : ClientTrafficMode) : Bytes :=
  projectionInputsBytes inputs.policyGeneration inputs.policyContentHash inputs.settings.generation
    inputs.settingsContentHash mode inputs.grant.grantId (inputs.nodes.map (·.nodeId))

theorem fingerprinted_inj {inputs inputs' : ProjectionInputs} {mode mode' : ClientTrafficMode}
    (same : inputs.fingerprinted mode = inputs'.fingerprinted mode') :
    inputs.policyContentHash = inputs'.policyContentHash ∧
      inputs.settingsContentHash = inputs'.settingsContentHash ∧ mode = mode' ∧
      inputs.grant.grantId = inputs'.grant.grantId := by
  have modes : ∀ mode : ClientTrafficMode, (utf8 mode.toDatabaseValue).length = 6 := by
    intro mode
    cases mode with
    | policy | global => decide
  simp only [ProjectionInputs.fingerprinted, projectionInputsBytes, List.append_assoc] at same
  obtain ⟨-, same⟩ := List.append_inj same rfl
  obtain ⟨-, same⟩ := List.append_inj same rfl
  obtain ⟨-, same⟩ := List.append_inj same (by simp only [bigEndian_length])
  obtain ⟨policy, same⟩ := List.append_inj same (by simp only [hashBytes_length])
  obtain ⟨-, same⟩ := List.append_inj same (by simp only [bigEndian_length])
  obtain ⟨settings, same⟩ := List.append_inj same (by simp only [hashBytes_length])
  obtain ⟨text, same⟩ := List.append_inj same (by simp only [modes])
  obtain ⟨grant, -⟩ := List.append_inj same (by simp only [uuidBytes_length])
  refine ⟨hashBytes_inj policy, hashBytes_inj settings, ?_, uuidBytes_inj grant⟩
  cases mode with
  | policy =>
      cases mode' with
      | policy => rfl
      | global => revert text; decide
  | global =>
      cases mode' with
      | policy => revert text; decide
      | global => rfl

section Gathered

variable {service : ClientProjectionService} {plane : ClientPlane} {device : ClientDeviceRecord}
  {issuedAt : Nat} {snapshot : ClientAuthorizationSnapshot} {inputs : ProjectionInputs}

theorem ProjectionGathered.policyRow
    (read : ProjectionGathered service plane device issuedAt snapshot inputs) :
    ∃ row ∈ plane.policies, (row.tenantId, row.contentHash) =
        (device.scope.tenantId, inputs.policyContentHash) ∧
      inputs.modeCapabilities = row.policy.modeCapabilities ∧
      inputs.resources = row.policy.allowedResources := by
  obtain ⟨_, _, row, found, policy, hash⟩ := authorizationSnapshot_ok read.authorized
  obtain ⟨-, -, member, tenant⟩ := authorized_mem found
  refine ⟨row, member, ?_, ?_, ?_⟩
  · rw [tenant, read.policyContentHash, hash]
  · rw [read.modeCapabilities, policy]
  · rw [read.resources, policy]

theorem newestSettings_mem {rows : List ClientSettingsRow} {row : ClientSettingsRow}
    (newest : newestSettings rows = some row) : row ∈ rows := by
  refine mem_of_foldl_pick ?_ newest
  intro best row
  cases best with
  | none => exact .inl rfl
  | some best =>
      simp only
      split
      · exact .inl rfl
      · exact .inr rfl

theorem ProjectionGathered.settingsRow
    (read : ProjectionGathered service plane device issuedAt snapshot inputs)
    (sound : ConfigurationSound service.codec.toClientCodec plane) :
    ∃ row ∈ plane.settings, (row.tenantId, row.contentHash) =
        (device.scope.tenantId, inputs.settingsContentHash) ∧
      inputs.settings = row.settings := by
  have current := read.settings
  have hashed := read.settingsHash
  rw [currentSettings, unit_bind_ok] at current
  rw [ClientProjectionSettings.contentHash, unit_bind_ok, pure_ok] at hashed
  cases newest : newestSettings
      (plane.settings.filter (ClientSettingsRow.activeOf device.scope.tenantId)) with
  | none =>
      rw [newest] at current
      cases current.2
  | some row =>
      rw [newest] at current
      simp only at current
      rw [unit_bind_ok, unit_bind_ok, pure_ok, Option.some.injEq] at current
      obtain ⟨-, -, -, same⟩ := current
      have member := newestSettings_mem newest
      simp only [List.mem_filter, ClientSettingsRow.activeOf, Bool.and_eq_true,
        decide_eq_true_eq] at member
      refine ⟨row, member.1, ?_, same.symm⟩
      rw [member.2.1, sound.hashed row member.1, same, hashed.2]

theorem ProjectionGathered.grantRow
    (read : ProjectionGathered service plane device issuedAt snapshot inputs) :
    inputs.grant ∈ plane.clients.grants.map (·.record) := by
  obtain ⟨now, -, held⟩ := read.held
  obtain ⟨row, member, same⟩ := activeGrant_ok held
  exact List.mem_map.mpr ⟨row, member, same⟩

end Gathered

theorem content_of_key {α κ : Type} {content : α → α} {key : α → κ} {before after : List α}
    (grown : before.map content <+: after.map content) (kept : ∀ row, key (content row) = key row)
    (unique : (after.map key).Nodup) {old new : α} (oldMember : old ∈ before)
    (newMember : new ∈ after) (same : key old = key new) : content old = content new := by
  have member := grown.mem (List.mem_map_of_mem oldMember)
  obtain ⟨later, present, equal⟩ := List.mem_map.mp member
  have one : later = new := by
    refine eq_of_key unique present newMember ?_
    rw [← kept later, equal, kept old, same]
  rw [← equal, one]

/-- The inputs that a document is assembled from are the same. -/
structure InputsAgree (inputs inputs' : ProjectionInputs) : Prop where
  settings : inputs'.settings = inputs.settings
  modeCapabilities : inputs'.modeCapabilities = inputs.modeCapabilities
  trafficMode : inputs'.trafficMode = inputs.trafficMode
  resources : inputs'.resources = inputs.resources
  grant : inputs'.grant = inputs.grant
  nodes : inputs'.nodes = inputs.nodes

theorem inputs_agree {services : ClientServices} {plane plane' : ClientPlane}
    {device device' : ClientDeviceRecord} {issuedAt issuedAt' : Nat}
    {inputs inputs' : ProjectionInputs} (grown : PlaneGrows plane plane')
    (configured : ConfigurationSound services.codec.toClientCodec plane)
    (configured' : ConfigurationSound services.codec.toClientCodec plane')
    (sound : plane'.clients.Sound services.codec) (scope : device'.scope = device.scope)
    (gathered : services.projections.gatherInputs plane device issuedAt = .ok inputs)
    (gathered' : services.projections.gatherInputs plane' device' issuedAt' = .ok inputs')
    (same : inputs.fingerprinted device.trafficMode = inputs'.fingerprinted device'.trafficMode) :
    InputsAgree inputs inputs' := by
  obtain ⟨snapshot, read⟩ := ClientProjectionService.gatherInputs_ok gathered
  obtain ⟨snapshot', read'⟩ := ClientProjectionService.gatherInputs_ok gathered'
  obtain ⟨policyHash, settingsHash, mode, grantId⟩ := fingerprinted_inj same
  obtain ⟨policy, policyMember, policyKey, modes, resources⟩ := read.policyRow
  obtain ⟨policy', policyMember', policyKey', modes', resources'⟩ := read'.policyRow
  obtain ⟨settings, settingsMember, settingsKey, published⟩ := read.settingsRow configured
  obtain ⟨settings', settingsMember', settingsKey', published'⟩ := read'.settingsRow configured'
  have policies : policy.content = policy'.content := by
    refine content_of_key grown.policies ?_ configured'.policies policyMember policyMember' ?_
    · intro row
      rfl
    · rw [policyKey, policyKey', policyHash, scope]
  have documents : settings.content = settings'.content := by
    refine content_of_key grown.settings ?_ configured'.settings settingsMember settingsMember' ?_
    · intro row
      rfl
    · rw [settingsKey, settingsKey', settingsHash, scope]
  have grants : inputs'.grant = inputs.grant := by
    have earlier := grown.grants.subset read.grantRow
    exact eq_of_key sound.grantIds read'.grantRow earlier grantId.symm
  have policyText := congrArg ClientAccessPolicyRow.policy policies
  change policy.policy = policy'.policy at policyText
  have settingsText := congrArg ClientSettingsRow.settings documents
  change settings.settings = settings'.settings at settingsText
  constructor
  · rw [published, published', settingsText]
  · rw [modes, modes', policyText]
  · rw [read.trafficMode, read'.trafficMode, mode]
  · rw [resources, resources', policyText]
  · exact grants
  · have nodes := read.nodes
    have nodes' := read'.nodes
    rw [grants, nodes] at nodes'
    exact (Except.ok.inj nodes').symm

def PolicyProjectionNodeAssignment.leaseless (node : PolicyProjectionNodeAssignment) :
    PolicyProjectionNodeAssignment :=
  { node with assignmentLeaseUntil := 0 }

/-- A document without its identifier, its generation and what comes from the moment
    it is issued. -/
def PolicyProjectionV1.timeless (projection : PolicyProjectionV1) : PolicyProjectionV1 :=
  { projection with
    projectionId := 0
    generation := 0
    notBefore := 0
    staleUntil := 0
    issuedAt := 0
    selectedNode := projection.selectedNode.leaseless
    standbyNodes := projection.standbyNodes.map (·.leaseless) }

theorem leaseless_until (nodes : List PolicyProjectionNodeAssignment) (staleUntil : Nat) :
    (nodes.map (·.until staleUntil)).map (·.leaseless) = nodes.map (·.leaseless) := by
  rw [List.map_map]
  rfl

theorem InputsAgree.timeless {inputs inputs' : ProjectionInputs} (agree : InputsAgree inputs inputs')
    {device device' : ClientDeviceRecord} (audience : device'.audience = device.audience)
    (wire : device'.deviceId = device.deviceId) {stamp stamp' : ProjectionStamp}
    {projection projection' : PolicyProjectionV1}
    (assembled : inputs.assemble device stamp = .ok projection)
    (assembled' : inputs'.assemble device' stamp' = .ok projection') :
    projection'.timeless = projection.timeless := by
  have facts := ProjectionInputs.assemble_ok assembled
  have facts' := ProjectionInputs.assemble_ok assembled'
  obtain ⟨scope, -, key⟩ := ClientAudience.mk.inj audience
  have nodes : projection'.nodes.map (·.leaseless) = projection.nodes.map (·.leaseless) := by
    rw [facts.nodes, facts'.nodes, leaseless_until, leaseless_until, agree.nodes]
  have shape : ∃ staleUntil selectedNode standbyNodes, projection =
      inputs.document device stamp staleUntil selectedNode standbyNodes :=
    ⟨_, _, _, facts.document⟩
  have shape' : ∃ staleUntil selectedNode standbyNodes, projection' =
      inputs'.document device' stamp' staleUntil selectedNode standbyNodes :=
    ⟨_, _, _, facts'.document⟩
  obtain ⟨_, selectedNode, standbyNodes, rfl⟩ := shape
  obtain ⟨_, selectedNode', standbyNodes', rfl⟩ := shape'
  obtain ⟨selected, standby⟩ := List.cons.inj nodes
  change selectedNode'.leaseless = selectedNode.leaseless at selected
  have selectedId := congrArg PolicyProjectionNodeAssignment.nodeId selected
  change selectedNode'.nodeId = selectedNode.nodeId at selectedId
  simp only [ProjectionInputs.document] at standby
  simp only [PolicyProjectionV1.timeless, ProjectionInputs.document,
    ClientDeviceRecord.documentAudience, scope, key, wire, agree.settings, agree.modeCapabilities,
    agree.trafficMode, agree.resources, agree.grant, selected, selectedId, standby]

section Unchanged

variable {service : ClientProjectionService} {plane : ClientPlane} {request : ProjectionRequest}
  {inputs : ProjectionInputs} {record : ClientProjectionRecord}
  (gathered : service.gatherInputs plane request.device (seconds request.now) = .ok inputs)
  (current : plane.clients.currentProjection service.codec.signingKeyColumn
    request.device.scope.tenantId request.device.recordId request.device.deviceKeyId request.now =
      .ok (some record))
  (same : record.inputsHash = service.inputsHash request.device.trafficMode inputs)
  (margin : clientProjectionRefreshMarginSecs ≤ seconds record.staleUntil - seconds request.now)

include gathered current same margin

/-- The first attempt comes to the current projection, or fails because the
    projection belongs to another audience. -/
theorem attempt_reuses (projectionId : Uuid) :
    service.attempt plane request true projectionId =
      (verifyProjectionBinding request.device record).map .unchanged := by
  have reused : service.reusable plane request
      (service.inputsHash request.device.trafficMode inputs) = .ok (some record) := by
    rw [ClientProjectionService.reusable, current]
    simp [bind, Except.bind, pure, Except.pure, Except.mapError, Option.filter, same, margin]
  rw [ClientProjectionService.attempt, gathered]
  change (service.storedAnswer plane request true inputs >>= _) = _
  rw [ClientProjectionService.storedAnswer, if_pos rfl, reused]
  rfl

theorem projectionForDevice_unchanged : (service.projectionForDevice plane request).2 = plane := by
  rw [ClientProjectionService.projectionForDevice]
  split
  · rfl
  · split
    · rfl
    · rfl
    · have first : decide (2 + 1 = maxGenerationAttempts) = true := by decide
      rw [maxGenerationAttempts, ClientProjectionService.issueAttempts, first,
        attempt_reuses gathered current same margin]
      cases verifyProjectionBinding request.device record with
      | error error => rfl
      | ok record => rfl

end Unchanged

theorem published_fingerprint {services : ClientServices} {plane : ClientPlane}
    {request : ProjectionRequest} {inputs : ProjectionInputs} {issued : IssuedProjection}
    (gathered : services.projections.gatherInputs plane request.device (seconds request.now) =
      .ok inputs)
    (returned : (services.projections.projectionForDevice plane request).1 = .ok issued)
    (fresh : issued.replayed = false) :
    ∃ row : ClientProjectionRow, row.record "" ∈
        (planeStep services plane (.projection request)).clients.projections.map (·.record "") ∧
      row.id = issued.record.projectionId ∧
      row.inputsHash = services.projections.inputsHash request.device.trafficMode inputs := by
  rw [planeStep]
  rcases services.projections.projectionForDevice_cases plane request with
    ⟨row, -, -, replayed⟩ | outcome
  · rw [replayed] at returned
    cases returned
    cases fresh
  · generalize services.projections.projectionForDevice plane request = served
      at outcome returned ⊢
    cases outcome with
    | failed error => cases returned
    | unchanged unanswered attempted =>
        cases returned
        cases fresh
    | published due inserted =>
        rename_i document write
        obtain ⟨record, read, rfl⟩ := map_ok.mp returned
        obtain rfl := stored_published inserted read
        obtain ⟨⟨others, again, signed⟩, -⟩ := inserted
        rw [gathered] at again
        obtain rfl := Except.ok.inj again
        refine ⟨write.row, List.mem_map_of_mem ?_, rfl, signed.inputsHash⟩
        exact List.mem_append_right _ (List.mem_singleton_self write.row)

/-- Two input sets of one device key in a run, with the same fingerprint, assemble to
    the same document up to its time. A poll with the fingerprint of the current
    projection, which is not due, leaves the plane as it is. -/
theorem fingerprint_sound_and_stable (services : ClientServices) (accounts : Accounts)
    (topology : Topology) :
    (∀ (before after : List PlaneCall) (device device' : ClientDeviceRecord)
      (issuedAt issuedAt' : Nat) (inputs inputs' : ProjectionInputs),
      device'.audience = device.audience → device'.deviceId = device.deviceId →
      services.projections.gatherInputs (services.reached accounts topology before) device
        issuedAt = .ok inputs →
      services.projections.gatherInputs (services.reached accounts topology (before ++ after))
        device' issuedAt' = .ok inputs' →
      (services.codec.sha256 (inputs.fingerprinted device.trafficMode) =
          services.codec.sha256 (inputs'.fingerprinted device'.trafficMode) →
        inputs.fingerprinted device.trafficMode = inputs'.fingerprinted device'.trafficMode) →
      services.projections.inputsHash device.trafficMode inputs =
        services.projections.inputsHash device'.trafficMode inputs' →
      ∀ stamp stamp' projection projection', inputs.assemble device stamp = .ok projection →
        inputs'.assemble device' stamp' = .ok projection' →
        projection'.timeless = projection.timeless) ∧
    ∀ (before after : List PlaneCall) (first request : ProjectionRequest)
      (inputs inputs' : ProjectionInputs) (issued : IssuedProjection)
      (record : ClientProjectionRecord),
      services.projections.gatherInputs (services.reached accounts topology before) first.device
        (seconds first.now) = .ok inputs →
      (services.projections.projectionForDevice (services.reached accounts topology before)
        first).1 = .ok issued →
      issued.replayed = false →
      services.projections.gatherInputs
        (services.reached accounts topology (before ++ .projection first :: after)) request.device
        (seconds request.now) = .ok inputs' →
      services.projections.inputsHash request.device.trafficMode inputs' =
        services.projections.inputsHash first.device.trafficMode inputs →
      (services.reached accounts topology
        (before ++ .projection first :: after)).clients.currentProjection
          services.codec.signingKeyColumn request.device.scope.tenantId request.device.recordId
          request.device.deviceKeyId request.now = .ok (some record) →
      record.projectionId = issued.record.projectionId →
      clientProjectionRefreshMarginSecs ≤ seconds record.staleUntil - seconds request.now →
      (services.projections.projectionForDevice
          (services.reached accounts topology (before ++ .projection first :: after)) request).2 =
        services.reached accounts topology (before ++ .projection first :: after) := by
  constructor
  · intro before after device device' issuedAt issuedAt' inputs inputs' audience wire gathered
      gathered' injective same stamp stamp' projection projection' assembled assembled'
    have grown : PlaneGrows (services.reached accounts topology before)
        (services.reached accounts topology (before ++ after)) := by
      rw [ClientServices.reached, ClientServices.reached, run_append]
      exact run_grows services _ after
    have agree := inputs_agree grown (run_configuration services accounts topology before)
      (run_configuration services accounts topology (before ++ after))
      (run_sound services accounts topology (before ++ after))
      (ClientAudience.mk.inj audience).1 gathered gathered' (injective same)
    exact agree.timeless audience wire assembled assembled'
  · intro before after first request inputs inputs' issued record gathered returned fresh gathered'
      same current named margin
    have sound := run_sound services accounts topology (before ++ .projection first :: after)
    have grown : PlaneGrows (planeStep services (services.reached accounts topology before)
        (.projection first))
        (services.reached accounts topology (before ++ .projection first :: after)) := by
      rw [ClientServices.reached, ClientServices.reached, run_append, run_cons]
      exact run_grows services _ after
    obtain ⟨row, stored, id, hash⟩ := published_fingerprint gathered returned fresh
    obtain ⟨held, member, -, rfl⟩ := currentProjection_ok current
    have one : held.record "" = row.record "" := by
      refine eq_of_key sound.projectionIds (List.mem_map_of_mem member)
        (grown.projections.subset stored) ?_
      exact named.trans id.symm
    refine projectionForDevice_unchanged gathered' current ?_ margin
    rw [same, ← hash]
    exact congrArg ClientProjectionRecord.inputsHash one

def terminalPolled : List PlaneCall :=
  terminalCalls.take 5 ++ [.projection (terminalPoll .policy 52 60)]

theorem terminal_fingerprints :
    (terminalServices.projections.gatherInputs (terminalAfter (terminalCalls.take 5))
      (terminalDevice .policy) 1700000060).toOption.any (fun inputs =>
        (terminalServices.projections.gatherInputs (terminalAfter terminalPolled)
          (terminalDevice .policy) 1700000120).toOption.any fun inputs' =>
            decide (inputs.fingerprinted .policy = inputs'.fingerprinted .policy) &&
            (inputs.assemble (terminalDevice .policy) ⟨92, 1, 1700000060⟩).isOk &&
            (inputs'.assemble (terminalDevice .policy) ⟨93, 2, 1700000120⟩).isOk) = true ∧
    (terminalServices.projections.projectionForDevice (terminalAfter (terminalCalls.take 5))
      (terminalPoll .policy 52 60)).1.toOption.any (fun issued =>
        !issued.replayed && decide (issued.record.projectionId = 92)) = true ∧
    (terminalServices.projections.gatherInputs (terminalAfter terminalPolled)
      (terminalDevice .policy) 1700004000).toOption.any (fun inputs =>
        (terminalServices.projections.gatherInputs (terminalAfter (terminalCalls.take 5))
          (terminalDevice .policy) 1700000060).toOption.any fun inputs' =>
            decide (inputs.fingerprinted .policy = inputs'.fingerprinted .policy)) = true ∧
    ((terminalAfter terminalPolled).clients.currentProjection "client-projection-2026" 2 7 5
      (terminalTime 4000)).toOption.any (fun found => found.any fun record =>
        decide (record.projectionId = 92) &&
        decide (clientProjectionRefreshMarginSecs ≤
          seconds record.staleUntil - seconds (terminalTime 4000))) = true := by
  decide +kernel

theorem polls_share_a_document :
    (∃ inputs inputs' projection projection',
      terminalServices.projections.gatherInputs (terminalAfter (terminalCalls.take 5))
        (terminalDevice .policy) 1700000060 = .ok inputs ∧
      terminalServices.projections.gatherInputs (terminalAfter terminalPolled)
        (terminalDevice .policy) 1700000120 = .ok inputs' ∧
      inputs.assemble (terminalDevice .policy) ⟨92, 1, 1700000060⟩ = .ok projection ∧
      inputs'.assemble (terminalDevice .policy) ⟨93, 2, 1700000120⟩ = .ok projection' ∧
      projection'.timeless = projection.timeless) ∧
    (terminalServices.projections.projectionForDevice (terminalAfter terminalPolled)
      (terminalPoll .policy 53 4000)).2 = terminalAfter terminalPolled := by
  obtain ⟨inputsSame, published, laterSame, current⟩ := terminal_fingerprints
  have facts := fingerprint_sound_and_stable terminalServices terminalAccounts terminalTopology
  constructor
  · obtain ⟨inputs, gathered, rest⟩ := ok_of_any inputsSame
    obtain ⟨inputs', gathered', rest⟩ := ok_of_any rest
    simp only [Bool.and_eq_true, decide_eq_true_eq] at rest
    obtain ⟨⟨same, assembles⟩, assembles'⟩ := rest
    obtain ⟨projection, assembled⟩ := isOk_iff.mp assembles
    obtain ⟨projection', assembled'⟩ := isOk_iff.mp assembles'
    refine ⟨inputs, inputs', projection, projection', gathered, gathered', assembled, assembled', ?_⟩
    exact facts.1 _ _ _ _ _ _ inputs inputs' rfl rfl gathered gathered' (fun _ => same)
      (congrArg terminalServices.codec.sha256 same) _ _ _ _ assembled assembled'
  · obtain ⟨issued, returned, fresh⟩ := ok_of_any published
    obtain ⟨inputs', gathered', rest⟩ := ok_of_any laterSame
    obtain ⟨inputs, gathered, same⟩ := ok_of_any rest
    obtain ⟨found, read, held⟩ := ok_of_any current
    cases found with
    | none => cases held
    | some record =>
        simp only [Bool.and_eq_true, decide_eq_true_eq, Option.any_some, Bool.not_eq_true'] at *
        exact facts.2 (terminalCalls.take 5) [] (terminalPoll .policy 52 60)
          (terminalPoll .policy 53 4000) inputs inputs' issued record gathered returned fresh.1
          gathered' (congrArg terminalServices.codec.sha256 same) read
          (held.1.trans fresh.2.symm) held.2

end CandyCloud
