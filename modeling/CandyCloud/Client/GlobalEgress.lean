import CandyCloud.Client.Leases

/-! # Global egress

A device is switched to Global only while its policy lists the mode and enables global egress.
-/

namespace CandyCloud

open Foundation

/-- The policy the device is bound to lists Global and enables its egress. -/
def EgressAuthorized (codec : ClientCodec) (plane : ClientPlane) (device : ClientDeviceRecord) :
    Prop :=
  ∃ snapshot, authorizationSnapshot codec plane device.scope device.recordId =
      .ok (some snapshot) ∧
    snapshot.policy.globalEgressEnabled = true ∧ .global ∈ snapshot.policy.modeCapabilities

/-- The policy lists Global without enabling its egress. -/
def ClientAccessPolicy.egressless (policy : ClientAccessPolicy) : Bool :=
  policy.modeCapabilities.contains .global && !policy.globalEgressEnabled

/-- The record is in the mode that its device has stored. -/
def ClientPlane.modeStored (plane : ClientPlane) (record : ClientDeviceRecord) : Bool :=
  plane.clients.devices.any fun device =>
    decide (device.id = record.recordId) && decide (device.scope = record.scope) &&
      decide (device.trafficMode = record.trafficMode)

/-- A binding of the record's device that is carried out decides whether the device, in
    Global, is bound to a policy that lists the mode without enabling its egress. -/
def ClientServices.disputes (services : ClientServices) (record : ClientDeviceRecord)
    (plane : ClientPlane) (disputed : Bool) : PlaneCall → Bool
  | .bindPolicy request =>
      match bindToDevice services.codec.toClientCodec plane request with
      | .ok (outcome, _) =>
          if outcome.replayed = false ∧ request.clientDeviceId = record.recordId ∧
              request.scope = record.scope then
            (plane.clients.devices.any fun device =>
              decide (device.id = record.recordId) && decide (device.trafficMode = .global)) &&
              plane.policies.any fun row =>
                decide (row.id = request.policyId) && row.policy.egressless
          else disputed
      | .error _ => disputed
  | _ => disputed

/-- What the last such binding of a run has decided. -/
def ClientServices.disputed (services : ClientServices) (record : ClientDeviceRecord) :
    ClientPlane → Bool → List PlaneCall → Bool
  | _, disputed, [] => disputed
  | plane, disputed, call :: rest =>
      services.disputed record (planeStep services plane call)
        (services.disputes record plane disputed call) rest

/-- What holds of the device, its binding and the policies unless the binding is disputed. -/
structure EgressHeld (record : ClientDeviceRecord) (disputed : Bool) (plane : ClientPlane) :
    Prop where
  policyIds : (plane.policies.map (·.id)).Nodup
  bindingKeys : (plane.bindings.map fun row => (row.scope.tenantId, row.clientDeviceId)).Nodup
  bound : ∀ binding ∈ plane.bindings, ∃ row ∈ plane.policies, row.id = binding.policyId
  egress : disputed = false → ∀ device ∈ plane.clients.devices, device.id = record.recordId →
    device.scope = record.scope → device.trafficMode = .global →
    ∀ binding ∈ plane.bindings, binding.clientDeviceId = record.recordId →
      binding.scope = record.scope →
      ∀ row ∈ plane.policies, row.id = binding.policyId → row.policy.egressless = false

/-- Every device is in Policy or had its mode before. -/
def ModesFrom (before after : ClientStore) : Prop :=
  ∀ device ∈ after.devices, device.trafficMode = .policy ∨
    ∃ old ∈ before.devices, old.id = device.id ∧ old.scope = device.scope ∧
      old.trafficMode = device.trafficMode

theorem ModesFrom.of_devices {before after : ClientStore} (same : after.devices = before.devices) :
    ModesFrom before after := by
  intro device member
  rw [same] at member
  exact .inr ⟨device, member, rfl, rfl, rfl⟩

theorem ModesFrom.trans {a b c : ClientStore} (first : ModesFrom a b) (second : ModesFrom b c) :
    ModesFrom a c := by
  intro device member
  rcases second device member with policy | ⟨middle, present, ids, scopes, modes⟩
  · exact .inl policy
  · rcases first middle present with policy | ⟨old, before, ids', scopes', modes'⟩
    · exact .inl (modes.symm.trans policy)
    · exact .inr ⟨old, before, ids'.trans ids, scopes'.trans scopes, modes'.trans modes⟩

theorem apply_modes (store : ClientStore) (write : ClientWrite) :
    ModesFrom store (store.apply write) := by
  cases write with
  | setDeviceStatus reach status =>
      intro device member
      obtain ⟨old, present, rfl⟩ := mem_updateWhere.mp member
      refine .inr ⟨old, present, ?_⟩
      split
      · exact ⟨rfl, rfl, rfl⟩
      · exact ⟨rfl, rfl, rfl⟩
  | revokeKeys reach | retireKey reach deviceKeyId | insertKey row | revokeGrants reach
  | insertGrant row | revokeProjections reach deviceKeyId
  | supersedeProjections tenantId clientDeviceId | insertProjection row => exact .of_devices rfl

theorem change_modes {sha256 : Bytes → Hash} {accounts : Accounts} {store store' : ClientStore}
    {call : LifecycleCall} (change : ClientChange sha256 store (call.operation accounts) store') :
    ModesFrom store store' := by
  have kept := fun {store} write => apply_modes store write
  cases call with
  | register clock request =>
      cases change
      intro device member
      rcases mem_concat.mp member with old | new
      · exact .inr ⟨device, old, rfl, rfl, rfl⟩
      · rw [new]
        exact .inl rfl
  | revokeDevice revocation =>
      cases change
      exact ((kept _).trans (kept _)).trans (kept _)
  | setDeviceStatus scope =>
      cases change with
      | suspended => exact ((kept _).trans (kept _)).trans (kept _)
      | activated => exact kept _
  | rotateDeviceKey rotation clock =>
      cases change
      exact (((kept _).trans (kept _)).trans (kept _)).trans (kept _)
  | revokeProjections audience =>
      cases change
      exact kept _

theorem lifecycle_modes (sha256 : Bytes → Hash) (accounts : Accounts) (store : ClientStore)
    (call : LifecycleCall) :
    ModesFrom store (lifecycleStep sha256 store (call.operation accounts)) := by
  rcases serve_cases sha256 store (call.operation accounts) with same | ⟨-, change⟩
  · rw [lifecycleStep, same]
    exact .of_devices rfl
  · exact change_modes change

variable {bindings : List ClientPolicyBindingRow} {request : ClientPolicyBinding} {bindingId : Uuid}

section Held

variable {codec : ClientCodec} {record : ClientDeviceRecord} {disputed : Bool}
  {plane plane' : ClientPlane}

theorem EgressHeld.kept (held : EgressHeld record disputed plane)
    (modes : ModesFrom plane.clients plane'.clients)
    (bindings : plane'.bindings = plane.bindings) (policies : plane'.policies = plane.policies) :
    EgressHeld record disputed plane' := by
  obtain ⟨policyIds, bindingKeys, bound, egress⟩ := held
  constructor
  · rw [policies]
    exact policyIds
  · rw [bindings]
    exact bindingKeys
  · rw [policies, bindings]
    exact bound
  · intro undisputed device member own within global
    rw [policies, bindings]
    rcases modes device member with policy | ⟨old, present, ids, scopes, mode⟩
    · rw [policy] at global
      cases global
    · exact egress undisputed old present (ids.trans own) (scopes.trans within) (mode.trans global)

theorem EgressHeld.published (held : EgressHeld record disputed plane)
    {row : ClientAccessPolicyRow} (fresh : ∀ old ∈ plane.policies, row.id ≠ old.id) :
    EgressHeld record disputed
      { plane with policies := policyVersions.publish plane.policies row } := by
  obtain ⟨policyIds, bindingKeys, bound, egress⟩ := held
  have versions : ∀ version ∈ policyVersions.publish plane.policies row,
      version = row ∨ ∃ old ∈ plane.policies, old.id = version.id ∧ old.policy = version.policy := by
    intro version member
    rcases mem_concat.mp member with updated | new
    · obtain ⟨old, present, rfl⟩ := mem_updateWhere.mp updated
      refine .inr ⟨old, present, ?_⟩
      split
      · exact ⟨rfl, rfl⟩
      · exact ⟨rfl, rfl⟩
    · exact .inl new
  have ids : (policyVersions.publish plane.policies row).map (·.id) =
      plane.policies.map (·.id) ++ [row.id] := by
    rw [Versioned.publish, List.map_append, map_updateWhere (by intro old; rfl),
      List.map_singleton]
  constructor
  · rw [ids, ← List.map_singleton, ← List.map_append]
    exact nodup_concat_key policyIds fresh
  · exact bindingKeys
  · intro binding member
    obtain ⟨old, present, named⟩ := bound binding member
    have listed : old.id ∈ (policyVersions.publish plane.policies row).map (·.id) := by
      rw [ids]
      exact List.mem_append_left _ (List.mem_map_of_mem present)
    obtain ⟨version, there, same⟩ := List.mem_map.mp listed
    exact ⟨version, there, same.trans named⟩
  · intro undisputed device member own within global binding bindingMember ofDevice inScope version
      there named
    rcases versions version there with rfl | ⟨old, present, ids, same⟩
    · obtain ⟨old, present, others⟩ := bound binding bindingMember
      exact absurd (named.trans others.symm) (fresh old present)
    · rw [← same]
      exact egress undisputed device member own within global binding bindingMember ofDevice inScope
        old present (ids.trans named)

theorem writeBinding_some {bindings' : List ClientPolicyBindingRow}
    (written : writeBinding codec bindings request = some (bindingId, bindings'))
    (keys : (bindings.map fun row => (row.scope.tenantId, row.clientDeviceId)).Nodup) :
    (bindings'.map fun row => (row.scope.tenantId, row.clientDeviceId)).Nodup ∧
      (∃ id, request.row codec id ∈ bindings') ∧
      ∀ binding ∈ bindings', binding ∈ bindings ∨ ∃ id, binding = request.row codec id := by
  rw [writeBinding] at written
  split at written
  · rename_i current found
    simp only at written
    split at written
    · cases written
    · obtain ⟨-, rfl⟩ := Prod.mk.inj (Option.some.inj written)
      have own := List.find?_some found
      simp only [ClientPolicyBinding.ofDevice, Bool.and_eq_true, decide_eq_true_eq] at own
      have same : (updateWhere (fun row => row == current)
          (fun _ => request.row codec current.id) bindings).map
            (fun row => (row.scope.tenantId, row.clientDeviceId)) =
          bindings.map fun row => (row.scope.tenantId, row.clientDeviceId) := by
        rw [updateWhere, List.map_map]
        apply List.map_congr_left
        intro row _
        simp only [Function.comp_apply]
        split
        · rename_i chosen
          rw [beq_iff_eq.mp chosen, own.1.2, own.2]
          rfl
        · rfl
      rw [same]
      refine ⟨keys, ⟨current.id, ?_⟩, ?_⟩
      · exact mem_updateWhere.mpr ⟨current, List.mem_of_find?_eq_some found, by simp⟩
      · intro binding member
        obtain ⟨old, present, rfl⟩ := mem_updateWhere.mp member
        split
        · exact .inr ⟨current.id, rfl⟩
        · exact .inl present
  · obtain ⟨rows, inserted, same⟩ := Option.map_eq_some_iff.mp written
    obtain ⟨-, rfl⟩ := Prod.mk.inj same
    obtain ⟨free, rfl⟩ := insertRow_some.mp inserted
    refine ⟨nodup_concat_key keys ?_, ⟨request.bindingId, by simp⟩, ?_⟩
    · intro old member clash
      obtain ⟨tenant, device⟩ := Prod.mk.inj clash
      have apart := free old member
      simp only [ClientPolicyBindingRow.clashes, tenant, device, decide_true, Bool.true_or,
        Bool.and_true, Bool.or_true, Bool.true_eq_false] at apart
    · intro binding member
      rcases mem_concat.mp member with old | new
      · exact .inl old
      · exact .inr ⟨request.bindingId, new⟩

/-- Another device keeps its binding; the device itself now has the new one. -/
theorem EgressHeld.bindPolicy (held : EgressHeld record disputed plane) {disputed' : Bool}
    {bindingRequests : List ClientBindingRequestRow} (active : request.policyActive plane = true)
    (written : writeBinding codec plane.bindings request = some (bindingId, bindings))
    (elsewhere : ¬ (request.clientDeviceId = record.recordId ∧ request.scope = record.scope) →
      disputed' = disputed)
    (egress : disputed' = false → request.clientDeviceId = record.recordId →
      request.scope = record.scope → ∀ device ∈ plane.clients.devices,
      device.id = record.recordId → device.trafficMode = .global →
      ∀ row ∈ plane.policies, row.id = request.policyId → row.policy.egressless = false) :
    EgressHeld record disputed' { plane with bindings, bindingRequests } := by
  obtain ⟨bindingKeys, ⟨rowId, stored⟩, origin⟩ := writeBinding_some written held.bindingKeys
  refine ⟨held.policyIds, bindingKeys, ?_, ?_⟩
  · intro binding member
    rcases origin binding member with old | ⟨id, rfl⟩
    · exact held.bound binding old
    · rw [ClientPolicyBinding.policyActive, List.any_eq_true] at active
      obtain ⟨row, present, named⟩ := active
      simp only [Bool.and_eq_true, decide_eq_true_eq] at named
      exact ⟨row, present, named.1.1⟩
  · intro undisputed device member own within global binding bindingMember ofDevice inScope row
      present named
    by_cases here : request.clientDeviceId = record.recordId ∧ request.scope = record.scope
    · have replaced : binding = request.row codec rowId := by
        refine eq_of_key bindingKeys bindingMember stored (Prod.ext ?_ ?_)
        · change binding.scope.tenantId = request.scope.tenantId
          rw [inScope, here.2]
        · exact ofDevice.trans here.1.symm
      exact egress undisputed here.1 here.2 device member own global row present
        (named.trans (congrArg _ replaced))
    · rcases origin binding bindingMember with old | ⟨id, rfl⟩
      · exact held.egress ((elsewhere here).symm.trans undisputed) device member own within global
          binding old ofDevice inScope row present named
      · exact absurd ⟨ofDevice, inScope⟩ here

theorem EgressHeld.permitted (held : EgressHeld record disputed plane) {scope : ClientScope}
    {clientDeviceId : Uuid} {snapshot : Option ClientAuthorizationSnapshot}
    (read : authorizationSnapshot codec plane scope clientDeviceId = .ok snapshot)
    (permitted : globalPermitted (snapshot.map (·.policy)) = true) :
    ∀ binding ∈ plane.bindings, binding.clientDeviceId = clientDeviceId → binding.scope = scope →
      ∀ row ∈ plane.policies, row.id = binding.policyId →
        row.policy.egressless = false := by
  intro binding member own within row present named
  cases snapshot with
  | none => cases permitted
  | some snapshot =>
      obtain ⟨device, key, policy, found, same, -⟩ := authorizationSnapshot_ok read
      obtain ⟨⟨-, scopes, ids⟩, ⟨other, otherMember, otherOwn, otherWithin, policyNamed⟩,
        policyMember, -⟩ := authorized_mem found
      have one : binding = other := by
        refine eq_of_key held.bindingKeys member otherMember (Prod.ext ?_ ?_)
        · change binding.scope.tenantId = other.scope.tenantId
          rw [within, otherWithin, scopes]
        · exact own.trans (ids.symm.trans otherOwn.symm)
      have version : row = policy := by
        refine eq_of_key held.policyIds present policyMember ?_
        rw [named, one, policyNamed]
      rw [Option.map_some, globalPermitted, Option.any_some, Bool.and_eq_true] at permitted
      rw [version, ← same, ClientAccessPolicy.egressless, permitted.1, Bool.not_true,
        Bool.and_false]

theorem EgressHeld.switched (held : EgressHeld record disputed plane)
    {request : ClientTrafficModeRequest} {modeRequests : List ClientModeRequestRow}
    (egress : request.requested = .global → ∀ binding ∈ plane.bindings,
      binding.clientDeviceId = request.clientDeviceId → binding.scope = request.scope →
      ∀ row ∈ plane.policies, row.id = binding.policyId →
        row.policy.egressless = false) :
    EgressHeld record disputed { plane with
      clients := { plane.clients with
        devices := updateWhere request.names
          (fun device => { device with trafficMode := request.requested }) plane.clients.devices }
      modeRequests } := by
  refine ⟨held.policyIds, held.bindingKeys, held.bound, ?_⟩
  intro undisputed device member own within global binding bindingMember ofDevice inScope row
    present named
  obtain ⟨old, before, rfl⟩ := mem_updateWhere.mp member
  by_cases chosen : request.names old = true
  · rw [if_pos chosen] at global own within
    simp only [ClientTrafficModeRequest.names, Bool.and_eq_true, decide_eq_true_eq] at chosen
    exact egress global binding bindingMember (ofDevice.trans (own.symm.trans chosen.1))
      (inScope.trans (within.symm.trans chosen.2)) row present named
  · rw [if_neg chosen] at global own within
    exact held.egress undisputed old before own within global binding bindingMember ofDevice inScope
      row present named

variable {services : ClientServices}

theorem EgressHeld.unbound (held : EgressHeld record disputed plane) {call : PlaneCall}
    (change : PlaneChange services plane call plane')
    (other : ∀ request, call ≠ .bindPolicy request) : EgressHeld record disputed plane' := by
  cases change with
  | same => exact held
  | accounts | topology | settings | granted | published =>
      exact held.kept (.of_devices rfl) rfl rfl
  | lifecycle call => exact held.kept (lifecycle_modes _ _ _ call) rfl rfl
  | policy accepted =>
      apply held.published
      intro old member
      have free := accepted.2.2.2.2 old member
      rw [ClientAccessPolicyRow.clashes, Bool.or_eq_false_iff, decide_eq_false_iff_not] at free
      exact free.1
  | bound active written => exact absurd rfl (other _)
  | switched named read permitted =>
      apply held.switched
      intro global
      rw [named.1, named.2]
      exact held.permitted read (permitted global)

theorem EgressHeld.rebound (held : EgressHeld record disputed plane)
    (request : ClientPolicyBinding) :
    EgressHeld record (services.disputes record plane disputed (.bindPolicy request))
      (planeStep services plane (.bindPolicy request)) := by
  rw [planeStep, ClientServices.disputes]
  cases done : bindToDevice services.codec.toClientCodec plane request with
  | error error => exact held
  | ok result =>
      obtain ⟨outcome, after⟩ := result
      rcases bindToDevice_ok done with
        ⟨replayed, rfl⟩ | ⟨applied, active, bindings, rows, written, rfl⟩
      · simp only [replayed, Bool.true_eq_false, false_and, if_false]
        exact held
      · simp only [applied, true_and]
        refine held.bindPolicy active written ?_ ?_
        · intro elsewhere
          rw [if_neg elsewhere]
        · intro undisputed own within device member named global row present same
          rw [if_pos ⟨own, within⟩, Bool.and_eq_false_iff, List.any_eq_false,
            List.any_eq_false] at undisputed
          rcases undisputed with none | harmless
          · exact absurd (none device member) (by simp [named, global])
          · simpa [same] using harmless row present

end Held

theorem planeStep_egressHeld {services : ClientServices} {record : ClientDeviceRecord}
    {disputed : Bool} {plane : ClientPlane} (held : EgressHeld record disputed plane)
    (call : PlaneCall) :
    EgressHeld record (services.disputes record plane disputed call)
      (planeStep services plane call) := by
  cases call with
  | bindPolicy request => exact held.rebound request
  | accounts | topology | lifecycle | publishPolicy | publishSettings | switchMode | grant
  | projection => exact held.unbound (planeStep_change services plane _) nofun

theorem run_egressHeld (services : ClientServices) {record : ClientDeviceRecord} {disputed : Bool}
    {plane : ClientPlane} (held : EgressHeld record disputed plane) (calls : List PlaneCall) :
    EgressHeld record (services.disputed record plane disputed calls)
      (run (planeStep services) plane calls) := by
  induction calls generalizing plane disputed with
  | nil => exact held
  | cons call rest ih => exact ih (planeStep_egressHeld held call)

/-- A document with an egress is signed for a record in Global, under a policy that
    lists the mode. -/
theorem signed_egress {service : ClientProjectionService} {plane : ClientPlane}
    {request : ProjectionRequest} {first : Bool} {projectionId : Uuid}
    {document : SignedPolicyProjection} {write : ClientProjectionWrite}
    (signed : service.attempt plane request first projectionId = .ok (.signed document write))
    (enabled : document.projection.globalEgress.enabled = true) :
    request.device.trafficMode = .global ∧
      ∃ snapshot, authorizationSnapshot service.codec.toClientCodec plane request.device.scope
          request.device.recordId = .ok (some snapshot) ∧
        .global ∈ snapshot.policy.modeCapabilities := by
  obtain ⟨inputs, gathered, ⟨record, -, -, other⟩ | ⟨_, _, facts, same, -⟩⟩ :=
    service.attempt_cases signed
  · cases other
  · cases same
    obtain ⟨projection, assembled, done⟩ := facts.assembled
    obtain ⟨-, canonical, -, rfl⟩ := sign_ok.mp done
    obtain ⟨snapshot, read⟩ := ClientProjectionService.gatherInputs_ok gathered
    have mode : request.device.trafficMode = .global := by
      rw [(ProjectionInputs.assemble_ok assembled).document] at enabled
      rw [← read.trafficMode]
      exact of_decide_eq_true enabled
    refine ⟨mode, snapshot, read.authorized, ?_⟩
    rw [← mode]
    exact read.permitted

theorem EgressHeld.authorized {plane : ClientPlane} {record : ClientDeviceRecord}
    (held : EgressHeld record false plane) {codec : ClientCodec}
    (stored : plane.modeStored record = true) (global : record.trafficMode = .global)
    {snapshot : ClientAuthorizationSnapshot}
    (read : authorizationSnapshot codec plane record.scope record.recordId = .ok (some snapshot))
    (listed : .global ∈ snapshot.policy.modeCapabilities) :
    snapshot.policy.globalEgressEnabled = true := by
  rw [ClientPlane.modeStored, List.any_eq_true] at stored
  obtain ⟨device, member, facts⟩ := stored
  simp only [Bool.and_eq_true, decide_eq_true_eq] at facts
  obtain ⟨⟨ids, scopes⟩, mode⟩ := facts
  obtain ⟨row, key, policy, found, same, -⟩ := authorizationSnapshot_ok read
  obtain ⟨⟨-, rowScope, rowId⟩, ⟨binding, bindingMember, own, within, named⟩, present, -⟩ :=
    authorized_mem found
  have egress : policy.policy.egressless = false := by
    refine held.egress rfl device member ids scopes (mode.trans global) binding bindingMember ?_ ?_
      policy present named
    · rw [own, rowId]
    · rw [within, rowScope]
  rw [← same, ClientAccessPolicy.egressless, List.contains_iff_mem.mpr listed, Bool.true_and,
    Bool.not_eq_false'] at egress
  exact egress

/-- Every document with an egress that is signed in a run, stored or not: the last binding of
    the device is none that the device, in Global, must not have, and a record in Global is
    that of a device in Global. -/
theorem signed_egress_authorized (services : ClientServices) (accounts : Accounts)
    (topology : Topology) (calls : List PlaneCall) (request : ProjectionRequest) (first : Bool)
    (projectionId : Uuid) (document : SignedPolicyProjection) (write : ClientProjectionWrite)
    (undisputed : services.disputed request.device (.empty accounts topology) false calls = false)
    (stored : request.device.trafficMode = .global →
      (services.reached accounts topology calls).modeStored request.device = true)
    (signed : services.projections.attempt (services.reached accounts topology calls) request first
      projectionId = .ok (.signed document write))
    (enabled : document.projection.globalEgress.enabled = true) :
    EgressAuthorized services.codec.toClientCodec (services.reached accounts topology calls)
      request.device := by
  have initial : EgressHeld request.device false (.empty accounts topology) :=
    ⟨List.nodup_nil, List.nodup_nil, fun _ member => absurd member List.not_mem_nil,
      fun _ _ member => absurd member List.not_mem_nil⟩
  have held := run_egressHeld services initial calls
  rw [undisputed] at held
  obtain ⟨global, snapshot, read, listed⟩ := signed_egress signed enabled
  exact ⟨snapshot, read, held.authorized (stored global) global read listed, listed⟩

def terminalSwitch : List PlaneCall :=
  terminalCalls ++ [.switchMode ⟨terminalDevice .policy, 54, .global, 64⟩]

def ProjectionAttempt.document : ProjectionAttempt → Option SignedPolicyProjection
  | .unchanged _ => none
  | .signed document _ => some document

/-- Then it is bound to another policy, which lists Global without enabling its
    egress, and takes a grant under it. -/
def terminalRebound : List PlaneCall :=
  terminalSwitch ++ [.publishPolicy ⟨terminalPolicy 32 2 false, 1, 3, 55⟩, terminalBinding 32 56,
    .grant (terminalGrant 57 100)]

theorem terminal_egress :
    terminalServices.disputed (terminalDevice .global) (.empty terminalAccounts terminalTopology)
      false terminalSwitch = false ∧
    (terminalAfter terminalSwitch).modeStored (terminalDevice .global) = true ∧
    (terminalServices.projections.attempt (terminalAfter terminalSwitch)
      (terminalPoll .global 59 160) true 99).toOption.any (fun outcome =>
        outcome.document.any fun document => document.projection.globalEgress.enabled) = true ∧
    (terminalServices.projections.attempt (terminalAfter terminalRebound)
      (terminalPoll .global 58 160) true 98).toOption.any (fun outcome =>
        outcome.document.any fun document => document.projection.globalEgress.enabled) = true ∧
    (authorizationSnapshot terminalServices.codec.toClientCodec (terminalAfter terminalRebound)
      ⟨1, 2, 3⟩ 7).toOption.any (fun snapshot =>
        snapshot.any fun snapshot => !snapshot.policy.globalEgressEnabled) = true := by
  decide +kernel

theorem switched_device_authorized :
    ∃ document write, terminalServices.projections.attempt (terminalAfter terminalSwitch)
        (terminalPoll .global 59 160) true 99 = .ok (.signed document write) ∧
      document.projection.globalEgress.enabled = true ∧
      EgressAuthorized terminalServices.codec.toClientCodec (terminalAfter terminalSwitch)
        (terminalDevice .global) := by
  obtain ⟨undisputed, stored, polled, -⟩ := terminal_egress
  obtain ⟨outcome, done, enabled⟩ := ok_of_any polled
  cases outcome with
  | unchanged record => cases enabled
  | signed document write =>
      refine ⟨document, write, done, enabled, ?_⟩
      exact signed_egress_authorized terminalServices terminalAccounts terminalTopology
        terminalSwitch (terminalPoll .global 59 160) true 99 document write undisputed
        (fun _ => stored) done enabled

/-- The device is signed a global egress that its policy does not enable. -/
theorem egress_signed_without_authority :
    ∃ document write, terminalServices.projections.attempt (terminalAfter terminalRebound)
        (terminalPoll .global 58 160) true 98 = .ok (.signed document write) ∧
      document.projection.globalEgress.enabled = true ∧
      ¬ EgressAuthorized terminalServices.codec.toClientCodec (terminalAfter terminalRebound)
        (terminalDevice .global) := by
  obtain ⟨-, -, -, polled, bound⟩ := terminal_egress
  obtain ⟨outcome, done, enabled⟩ := ok_of_any polled
  cases outcome with
  | unchanged record => cases enabled
  | signed document write =>
      refine ⟨document, write, done, enabled, ?_⟩
      intro authorized
      obtain ⟨snapshot, read, egress, -⟩ := authorized
      obtain ⟨other, found, disabled⟩ := ok_of_any bound
      change authorizationSnapshot _ _ ⟨1, 2, 3⟩ 7 = _ at read
      rw [read] at found
      rw [← Except.ok.inj found, Option.any_some, egress] at disabled
      cases disabled

end CandyCloud
