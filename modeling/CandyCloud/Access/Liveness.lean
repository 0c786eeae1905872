import CandyCloud.Access.Replay

/-! # Times of a delivered grant

A grant is signed for its first request's time, and a replay signs it again for the time that
follows from the recorded expiry.
-/

namespace CandyCloud.Access

open Foundation

variable {issuedAt : Nat} {times : GrantTimes} {request : GrantRequest} {delivery : GrantDelivery}

theorem grantTimes_ordered (made : grantTimes issuedAt = .ok times) :
    times.issuedAt < times.refreshAfter ∧ times.refreshAfter < times.expiresAt ∧
      times.expiresAt ≤ u64Max := by
  simp only [grantTimes, bind_ok, orElse_ok, pure_ok] at made
  obtain ⟨expiresAt, sum, refreshAfter, later, rfl⟩ := made
  have bound : issuedAt + privateGrantTtlSecs ≤ u64Max := by
    by_contra excess
    rw [checkedAdd, if_neg excess] at sum
    cases sum
  have expiry := checkedAdd_some sum
  have refresh := checkedAdd_some later
  simp only [privateGrantTtlSecs] at expiry refresh bound ⊢
  omega

theorem signed_inj {a b : Nat} (boundA : a ≤ u64Max) (boundB : b ≤ u64Max)
    (same : signed a = signed b) : a = b := by
  have values := congrArg BitVec.toNat (BitVec.eq_of_toInt_eq same)
  simp only [BitVec.toNat_ofNat, u64Max] at values boundA boundB
  omega

/-- The terms name what the record authorises. -/
structure Names (record : AuthorizationRecord) (request : GrantRequest) (terms : GrantTerms) :
    Prop where
  device : terms.tenantId = record.tenantId ∧ terms.deviceId = record.deviceId
  key : terms.deviceKeyId = record.deviceKeyId ∧ terms.devicePublicKey = record.devicePublicKey
  entitlement : terms.nodePoolId = record.nodePoolId ∧
    terms.subscriptionId = record.subscriptionId ∧
    terms.entitlementGeneration = record.entitlementGeneration
  projection : request.servicePermission = privateTunConnect → ∃ policy,
    record.routePolicy = some policy ∧ terms.routePolicy =
      some ⟨policy.projectionId, policy.projectionGeneration, policy.projectionContentHash⟩

section Terms

variable {env : GrantEnvironment} {view : AuthorizationView} {command : GrantIssueCommand}
  {material : PrivateGrantMaterial} {terms : GrantTerms}

theorem material_ok (loaded : env.material view request = .ok material) :
    ∃ record, loadForPolicy view.store view.tables env.policyIsolation view.now request.lookup
        request.routePolicy = .ok (some record) ∧
      privateMaterialFromRecord env.readQuota record = .ok material := by
  simp only [GrantEnvironment.material, bind_ok, mapError_ok, orElse_ok] at loaded
  obtain ⟨_, loaded, record, rfl, mapped⟩ := loaded
  exact ⟨record, loaded, mapped⟩

theorem tunnelPolicy_ok {policy : PolicyRefBuildV1}
    (made : tunnelPolicy request material = .ok policy) : ∃ binding,
      material.routePolicy = some binding ∧ policy =
        ⟨binding.projectionId, binding.projectionGeneration, binding.projectionContentHash⟩ := by
  simp only [tunnelPolicy, orElse_bind_ok, unit_bind_ok, pure_ok] at made
  obtain ⟨binding, bound, -, -, -, rfl⟩ := made
  exact ⟨binding, bound, rfl⟩

theorem grantTerms_names {record : AuthorizationRecord}
    (mapped : privateMaterialFromRecord env.readQuota record = .ok material)
    (agreed : grantTerms command.requestId command.request material = .ok terms) :
    Names record command.request terms := by
  simp only [privateMaterialFromRecord, unit_bind_ok, orElse_bind_ok, pure_ok] at mapped
  obtain ⟨-, -, quota, -, -, rfl⟩ := mapped
  simp only [grantTerms, unit_bind_ok, mapError_ok, bind_ok (α := PermissionWireContract)] at agreed
  obtain ⟨-, authorized, -, -, permission, contract, agreed⟩ := agreed
  simp only [AuthorizationSnapshot.authorize, unit_bind_ok, reject_ok, Bool.or_eq_false_iff,
    bne_eq_false_iff_eq] at authorized
  obtain ⟨⟨⟨-, device⟩, tenant⟩, -, -, ⟨⟨⟨pool, -⟩, -⟩, -⟩, -⟩ := authorized
  split at agreed
  · obtain ⟨routePolicy, policed, agreed⟩ := bind_ok.mp agreed
    rw [pure_ok] at agreed
    subst agreed
    refine ⟨⟨tenant, device.symm⟩, ⟨rfl, rfl⟩, ⟨pool.symm, rfl, rfl⟩, ?_⟩
    intro _
    obtain ⟨policy, made, rfl⟩ := map_ok.mp policed
    obtain ⟨binding, bound, rfl⟩ := tunnelPolicy_ok made
    obtain ⟨policy, listed, rfl⟩ := Option.map_eq_some_iff.mp bound
    exact ⟨policy, listed, rfl⟩
  · rename_i policyFree
    obtain ⟨routePolicy, -, agreed⟩ := bind_ok.mp agreed
    rw [pure_ok] at agreed
    subst agreed
    refine ⟨⟨tenant, device.symm⟩, ⟨rfl, rfl⟩, ⟨pool.symm, rfl, rfl⟩, ?_⟩
    intro tunnel
    rw [permissionWireContract, tunnel] at contract
    cases contract
    exact absurd rfl policyFree

end Terms

/-- The delivered envelope is signed for the terms at these times. -/
structure Delivers (env : GrantEnvironment) (delivery : GrantDelivery) (terms : GrantTerms)
    (times : GrantTimes) : Prop where
  issued : env.signer.issuePrivate ⟨delivery.grantId, env.issuer, terms, times⟩ = .ok delivery.raw
  timed : grantTimes times.issuedAt = .ok times
  expires : delivery.expiresAtUnix = signed times.expiresAt
  refresh : delivery.refreshAfterUnix = signed times.refreshAfter

theorem Delivers.times_unique {env : GrantEnvironment} {terms terms' : GrantTerms}
    {times' : GrantTimes} (first : Delivers env delivery terms times)
    (second : Delivers env delivery terms' times') :
    times = times' := by
  have expiry := signed_inj (grantTimes_ordered first.timed).2.2
    (grantTimes_ordered second.timed).2.2 (first.expires.symm.trans second.expires)
  have issuedAt : times.issuedAt = times'.issuedAt := by
    have clock := (grantTimes_ok first.timed).2
    have clock' := (grantTimes_ok second.timed).2
    omega
  have again := second.timed
  rw [← issuedAt, first.timed] at again
  exact Except.ok.inj again

theorem delivers_prepared {env : GrantEnvironment} {command : GrantIssueCommand} {generation : Nat}
    {grantId : Uuid} {terms : GrantTerms} {raw : Bytes} (timed : grantTimes issuedAt = .ok times)
    (issued : env.signer.issuePrivate ⟨grantId, env.issuer, terms, times⟩ = .ok raw)
    (replayed : Bool) :
    Delivers env ((env.prepared command generation grantId times raw).delivery replayed) terms
      times := by
  constructor
  · exact issued
  · rw [(grantTimes_ok timed).1]
    exact timed
  · rfl
  · rfl

/-- The delivered grant is in force at the call's time, and it names what the call's
    own transaction has loaded. -/
def LiveDelivery (env : GrantEnvironment) (call : GrantCall) (delivery : GrantDelivery) : Prop :=
  ∃ record terms times, loadForPolicy call.view.store call.view.tables env.policyIsolation
      call.view.now call.command.request.lookup call.command.request.routePolicy =
        .ok (some record) ∧
    Names record call.command.request terms ∧ Delivers env delivery terms times ∧
    (times.issuedAt ≤ call.issuedAt ∧ call.issuedAt < times.expiresAt) ∧
    times.issuedAt < times.refreshAfter ∧ times.refreshAfter < times.expiresAt

/-- What is recorded under the request's key has been issued by then and not run out. -/
def GrantEnvironment.Unexpired (env : GrantEnvironment) (rows : List GrantIssuanceRow)
    (call : GrantCall) : Prop :=
  ∀ material, env.material call.view call.command.request = .ok material → ∀ row ∈ rows,
    row.key env.collate = env.key call.command material.snapshot.authorizationGeneration →
    ∀ expiresAt, row.expiresAt = some expiresAt →
      expiresAt ≤ call.issuedAt + privateGrantTtlSecs ∧ call.issuedAt < expiresAt

section Delivered

variable {env : GrantEnvironment} {rows rows' : List GrantIssuanceRow}

theorem liveDelivery_iff {call : GrantCall} {material : PrivateGrantMaterial} {terms : GrantTerms}
    (loaded : env.material call.view call.command.request = .ok material)
    (agreed : grantTerms call.command.requestId call.command.request material = .ok terms)
    (delivers : Delivers env delivery terms times) :
    LiveDelivery env call delivery ↔
      times.issuedAt ≤ call.issuedAt ∧ call.issuedAt < times.expiresAt := by
  constructor
  · rintro ⟨record, terms', times', -, -, delivers', live, -⟩
    rw [delivers.times_unique delivers']
    exact live
  · intro live
    obtain ⟨record, read, mapped⟩ := material_ok loaded
    have ordered := grantTimes_ordered delivers.timed
    exact ⟨record, terms, times, read, grantTerms_names mapped agreed, delivers, live, ordered.1,
      ordered.2.1⟩

theorem issue_live_iff (keyed : env.Keyed rows) (call : GrantCall)
    (accepted : env.issue call.view rows call.command call.issuedAt call.freshId =
      .ok (delivery, rows')) :
    LiveDelivery env call delivery ↔ env.Unexpired rows call := by
  obtain ⟨material, prepared, outcome, loaded, made, -, recorded, answered⟩ := issue_ok accepted
  obtain ⟨terms, times, raw, agreed, timed, issued, rfl⟩ := prepare_ok.mp made
  cases answered with
  | inl fresh =>
      obtain ⟨rfl, rfl⟩ := fresh
      obtain ⟨clock, expiry⟩ := grantTimes_ok timed
      have free : ∀ row ∈ rows, row.key env.collate ≠
          env.key call.command material.snapshot.authorizationGeneration := by
        rcases recordGrant_ok recorded with ⟨-, -, free⟩ | ⟨-, same⟩ | ⟨-, _, -, -, -, -, _, -,
          same⟩
        · exact free
        · cases same
        · cases same
      rw [liveDelivery_iff loaded agreed (delivers_prepared timed issued false), clock, expiry]
      constructor
      · intro _ material' loaded' row member key
        cases loaded.symm.trans loaded'
        exact absurd key (free row member)
      · intro _
        simp [privateGrantTtlSecs]
  | inr replayed =>
      obtain ⟨existing, rfl, rebuilding⟩ := replayed
      rcases recordGrant_ok recorded with ⟨same, -⟩ | ⟨-, same⟩ | ⟨-, row, member, key, -, -,
        expiresAt, kept, same⟩
      · cases same
      · cases same
      · cases same
        obtain ⟨-, late, rebuilt, made', -, -, rfl⟩ := rebuildReplay_ok.mp rebuilding
        obtain ⟨terms', times', raw', agreed', timed', issued', rfl⟩ := prepare_ok.mp made'
        obtain ⟨clock', expiry'⟩ := grantTimes_ok timed'
        rw [liveDelivery_iff loaded agreed' (delivers_prepared timed' issued' true), clock',
          expiry', Nat.sub_add_cancel late]
        constructor
        · intro live material' loaded' other member' key' expiresAt' kept'
          cases loaded.symm.trans loaded'
          cases eq_of_key keyed member' member (key'.trans key.symm)
          cases kept.symm.trans kept'
          exact ⟨Nat.sub_le_iff_le_add.mp live.1, live.2⟩
        · intro unexpired
          obtain ⟨issuedBy, running⟩ := unexpired material loaded row member key expiresAt kept
          exact ⟨Nat.sub_le_iff_le_add.mpr issuedBy, running⟩

end Delivered

/-- In every run, a delivered grant is live exactly when the request has not been
    recorded before, or what was recorded has been issued by then and not run out. -/
theorem delivered_grant_live_iff (env : GrantEnvironment) {start rows : List GrantIssuanceRow}
    (keyed : env.Keyed start) (before : List GrantCall) (call : GrantCall)
    {delivery : GrantDelivery}
    (accepted : env.issue call.view (run (grantStep env) start before) call.command call.issuedAt
      call.freshId = .ok (delivery, rows)) :
    LiveDelivery env call delivery ↔
      env.Unexpired (run (grantStep env) start before) call :=
  issue_live_iff
    (run_invariant (P := env.Keyed) (fun _ call => (grantStep_keyed · call)) keyed before) call
      accepted

/-- Site 1 is entitled to plain connections. It has asked for a grant at second 0 and asks again with
the same request id when the grant has run out. -/
def connectTopology : Topology :=
  { entitledTopology with entitlements := [⟨7, 1, 6, 5, "private.connect", 0, 0, true⟩] }

def connectView (now : Instant) : AuthorizationView :=
  ⟨run (routeStep fun _ => 0) twoSiteStore [.environment connectTopology []], trialTables, now⟩

def connectCommand : GrantIssueCommand :=
  ⟨"request-1", 1, 11, 21, 5, .private_, "private.connect", none⟩

def connectTerms : GrantTerms :=
  { tunnelTerms 1 with servicePermissions := permissionPrivateConnect, routePolicy := none }

def connectPayload (grantId : Uuid) (issuedAt : Nat) : GrantPayloadBuildV1 :=
  ⟨grantId, accessIssuer, connectTerms, issuedAt, issuedAt + 64800, issuedAt + 86400⟩

def connectSignatures : List (GrantPayloadBuildV1 × Bytes) :=
  [(connectPayload 81 0, bigEndian 64
      0xcbae30ffb4e2ab1883becfd0aea93bb524bbebb7ea4582b91cb6ab3f99e955e68c0e59d00febf49c1402634ac573bdadd1d8c76ec44f170e10db640eb337380b),
    (connectPayload 82 90000, bigEndian 64
      0x212b51eb6b9529974add9335d6f8494062061a41a42ccd59e97fadfe62217206b8ed390598688747c593eecba91adbbff0d71e838a578909d1a9e7147a64920c)]

def connectSigner : GrantSigner :=
  { unsignedSigner with
    sign := fun transcript => ((connectSignatures.find? fun entry =>
      transcript == accessTranscript (unsignedSigner.buildRequest entry.1)).map (·.2)).getD [] }

def connectRaw (payload : GrantPayloadBuildV1) : Bytes :=
  let request := unsignedSigner.buildRequest payload
  bigEndian 4 request.length ++ request ++ connectSigner.sign (accessTranscript request)

def connectHashes : List (Bytes × Hash) :=
  [(utf8 "candy-cloud/grant-request/v1" ++ bigEndian 8 9 ++ utf8 "request-1" ++ uuidBytes 1 ++
      uuidBytes 11 ++ uuidBytes 21 ++ uuidBytes 5 ++ [1] ++ bigEndian 8 15 ++
      utf8 "private.connect" ++ bigEndian 8 1,
      0xf0ae88c3af8a796ea46303cb918a81dbe6903ce5e5a4d56b54ea044420c908f0),
    (connectRaw (connectPayload 81 0),
      0xd5c15f2aba6175257635d8c2841a9f2dbac43538652bb6beddfc7409b9a0d269),
    (connectRaw (connectPayload 82 90000),
      0x2abe34d2d2f12f6a1ad4d0261f6891ee4ef1719f0a720f8c4fc8e616ebd3be2d)]

def connectEnvironment : GrantEnvironment :=
  { accessEnvironment with
    sha256 := fun bytes => (connectHashes.lookup bytes).getD 0
    signer := connectSigner }

theorem connectSigner_issues (payload : GrantPayloadBuildV1) :
    connectSigner.issuePrivate payload = .ok (connectRaw payload) := rfl

theorem connectSigner_steady : connectSigner.Steady :=
  fun _ _ _ _ _ _ _ _ => ⟨_, connectSigner_issues _⟩

theorem connect_signed : connectEnvironment.signer.issuePrivate
    ⟨81, connectEnvironment.issuer, connectTerms, 0, 64800, 86400⟩ =
      .ok (connectRaw (connectPayload 81 0)) :=
  connectSigner_issues (connectPayload 81 0)

theorem connect_terms : connectEnvironment.terms (connectView 0) connectCommand =
    .ok connectTerms := by
  decide +kernel

theorem connect_terms_later : connectEnvironment.terms (connectView 90000000000) connectCommand =
    .ok connectTerms := by
  decide +kernel

theorem connect_generation {now : Instant} {material : PrivateGrantMaterial}
    (loaded : connectEnvironment.material (connectView now) connectCommand.request =
      .ok material) :
    material.snapshot.authorizationGeneration = 1 := by
  obtain ⟨row, listed, -, generation⟩ := (material_read loaded).generation
  cases List.mem_singleton.mp listed
  exact generation.symm

def connectPrepared : PreparedGrant :=
  connectEnvironment.prepared connectCommand 1 81 ⟨0, 64800, 86400⟩
    (connectRaw (connectPayload 81 0))

theorem connect_issued : connectEnvironment.issue (connectView 0) [] connectCommand 0 81 =
    .ok (connectPrepared.delivery false,
      [(connectEnvironment.write connectCommand connectPrepared).row]) := by
  obtain ⟨material, loaded, agreed⟩ := terms_ok.mp connect_terms
  have fresh := issue_fresh loaded agreed grantTimes_start (by decide) connect_signed
    fun _ member => absurd member List.not_mem_nil
  rw [connect_generation loaded] at fresh
  exact fresh

theorem first_grant_live : LiveDelivery connectEnvironment ⟨connectView 0, connectCommand, 0, 81⟩
    (connectPrepared.delivery false) := by
  have keyed : connectEnvironment.Keyed [] := List.nodup_nil
  have live := delivered_grant_live_iff connectEnvironment keyed []
    ⟨connectView 0, connectCommand, 0, 81⟩ connect_issued
  exact live.mpr fun _ _ _ member => absurd member List.not_mem_nil

/-- The retry is answered with the grant that ran out at second 86400. -/
theorem late_retry_expired : ∃ delivery rows retried rows',
    connectEnvironment.issue (connectView 0) [] connectCommand 0 81 = .ok (delivery, rows) ∧
    connectEnvironment.issue (connectView 90000000000) rows connectCommand 90000 82 =
      .ok (retried, rows') ∧
    retried.expiresAtUnix < 90000 ∧
    ¬ LiveDelivery connectEnvironment
      ⟨connectView 90000000000, connectCommand, 90000, 82⟩ retried := by
  obtain ⟨material, loaded, agreed⟩ := terms_ok.mp connect_terms_later
  have keyed : connectEnvironment.Keyed
      [(connectEnvironment.write connectCommand connectPrepared).row] := List.nodup_singleton _
  have clock : timely 90000 = true := by decide
  have recorded : Recorded connectEnvironment connectCommand 1 connectTerms ⟨0, 64800, 86400⟩
      (connectPrepared.delivery false)
      (connectEnvironment.write connectCommand connectPrepared).row :=
    recorded_fresh grantTimes_start connect_signed
  have again := issue_again keyed (List.mem_singleton_self _) recorded connectSigner_steady loaded
    (connect_generation loaded) agreed clock rfl 82
  have past : signed 86400 < 90000 := by decide
  refine ⟨_, _, _, _, connect_issued, again, past, ?_⟩
  intro live
  have unexpired :=
    (issue_live_iff keyed ⟨connectView 90000000000, connectCommand, 90000, 82⟩ again).mp live
  have key := recorded.key
  rw [← connect_generation loaded] at key
  have running := unexpired material loaded _ (List.mem_singleton_self _) key 86400 rfl
  exact absurd running.2 (by decide)

end CandyCloud.Access
