import CandyCloud.Client.Provenance
import CandyCloud.Client.Wire

/-! # Documents that are handed out again

A request that was answered before is answered with the stored document, whatever became of it.
-/

namespace CandyCloud

open Foundation

def ClientServices.reached (services : ClientServices) (accounts : Accounts) (topology : Topology)
    (calls : List PlaneCall) : ClientPlane :=
  run (planeStep services) (.empty accounts topology) calls

/-- The grant is stored under a status other than `REVOKED`. -/
def ClientStore.grantStands (store : ClientStore) (grantId : Uuid) : Bool :=
  (store.grants.find? fun row => decide (row.id = grantId)).any fun row =>
    decide (row.status ≠ .revoked)

def ClientStore.projectionStands (store : ClientStore) (projectionId : Uuid) : Bool :=
  (store.projections.find? fun row => decide (row.id = projectionId)).any fun row =>
    decide (row.status ≠ .revoked)

/-- The request was answered with a grant that is revoked now. -/
def ClientPlane.revokedGrant (plane : ClientPlane) (request : GrantRequest) : Bool :=
  (plane.clients.grantRequest request.device.scope.tenantId request.device.recordId
    request.requestId).any fun row => decide (row.status = .revoked)

def ClientPlane.revokedProjection (plane : ClientPlane) (request : ProjectionRequest) : Bool :=
  (plane.clients.projectionRequest request.device.scope.tenantId request.device.recordId
    request.requestId).any fun row => decide (row.status = .revoked)

section Stands

variable {codec : ProjectionCodec} {store : ClientStore}

theorem ClientStore.Sound.grantStands (sound : store.Sound codec) {row : ClientGrantRow}
    (member : row ∈ store.grants) :
    store.grantStands row.id = decide (row.status ≠ .revoked) := by
  rw [ClientStore.grantStands, find_of_key sound.grantsUnique member (fun _ => decide_eq_true_iff),
    Option.any_some]

theorem ClientStore.Sound.projectionStands (sound : store.Sound codec) {row : ClientProjectionRow}
    (member : row ∈ store.projections) :
    store.projectionStands row.id = decide (row.status ≠ .revoked) := by
  rw [ClientStore.projectionStands,
    find_of_key sound.projectionsUnique member (fun _ => decide_eq_true_iff), Option.any_some]

end Stands

section Returned

variable {services : ClientServices} {plane : ClientPlane}

theorem grant_stands_iff (sound : plane.clients.Sound services.codec) {request : GrantRequest}
    {issued : IssuedGrant}
    (returned : (services.issuance.grantForDevice plane request).1 = .ok issued) :
    (planeStep services plane (.grant request)).clients.grantStands issued.record.grantId = true ↔
      plane.revokedGrant request = false := by
  have after := planeStep_sound services plane (.grant request) sound
  rw [planeStep] at after ⊢
  rcases services.issuance.grantForDevice_cases plane request with
    ⟨error, failed⟩ | ⟨row, found, -, replayed⟩ | ⟨write, inserted, done⟩
  · rw [failed] at returned
    cases returned
  · rw [replayed] at returned ⊢
    cases returned
    have stands := sound.grantStands (List.mem_of_find?_eq_some found)
    rw [ClientPlane.revokedGrant, found, Option.any_some, decide_eq_false_iff_not]
    change plane.clients.grantStands row.id = true ↔ _
    rw [stands, decide_eq_true_eq]
  · rw [done] at returned after ⊢
    cases returned
    obtain ⟨⟨inputs, grantId, -, attempted⟩, insertable⟩ := inserted
    obtain ⟨audience, named, -⟩ := ClientIssuance.attempt_ok attempted
    have unanswered := insertable.unanswered
    rw [audience, named] at unanswered
    have stands := after.grantStands
      (List.mem_append_right _ (List.mem_singleton_self (write.row services.codec.sha256)))
    change _ = none at unanswered
    have fresh : plane.revokedGrant request = false := by
      rw [ClientPlane.revokedGrant]
      exact congrArg (Option.any _) unanswered
    exact ⟨fun _ => fresh, fun _ => stands⟩

theorem projection_stands_iff (sound : plane.clients.Sound services.codec)
    {request : ProjectionRequest} {issued : IssuedProjection}
    (returned : (services.projections.projectionForDevice plane request).1 = .ok issued) :
    (planeStep services plane (.projection request)).clients.projectionStands
        issued.record.projectionId = true ↔
      plane.revokedProjection request = false := by
  have after := planeStep_sound services plane (.projection request) sound
  rw [planeStep] at after ⊢
  have unrevoked : plane.clients.projectionRequest request.device.scope.tenantId
      request.device.recordId request.requestId = none →
      plane.revokedProjection request = false := by
    intro unanswered
    rw [ClientPlane.revokedProjection, unanswered]
    rfl
  rcases services.projections.projectionForDevice_cases plane request with
    ⟨row, found, -, replayed⟩ | outcome
  · rw [replayed] at returned ⊢
    cases returned
    have stands := sound.projectionStands (List.mem_of_find?_eq_some found)
    rw [ClientPlane.revokedProjection, found, Option.any_some, decide_eq_false_iff_not]
    change plane.clients.projectionStands row.id = true ↔ _
    rw [stands, decide_eq_true_eq]
  · generalize services.projections.projectionForDevice plane request = served
      at outcome returned after ⊢
    cases outcome with
    | failed error => cases returned
    | unchanged unanswered attempted =>
        cases returned
        obtain ⟨inputs, -, ⟨record, answered, -, same⟩ | ⟨document, write, -, other, -⟩⟩ :=
          services.projections.attempt_cases attempted
        · cases same
          obtain ⟨row, reused, rfl⟩ := services.projections.reusable_ok answered
          have stands := sound.projectionStands reused.stored
          rw [reused.published] at stands
          exact ⟨fun _ => unrevoked unanswered, fun _ => stands⟩
        · cases other
    | published due inserted =>
        rename_i document write
        obtain ⟨record, read, rfl⟩ := map_ok.mp returned
        obtain rfl := stored_published inserted read
        have unanswered := inserted.insertable.unanswered
        obtain ⟨⟨inputs, -, signed⟩, -⟩ := inserted
        rw [signed.audience, signed.requestId] at unanswered
        have stands := after.projectionStands
          (List.mem_append_right _ (List.mem_singleton_self write.row))
        exact ⟨fun _ => unrevoked unanswered, fun _ => stands⟩

end Returned

/-- Every document that is returned, new or not, in every reachable plane. -/
theorem returned_documents_stand_iff (services : ClientServices) (accounts : Accounts)
    (topology : Topology) (calls : List PlaneCall) :
    (∀ request issued,
      (services.issuance.grantForDevice (services.reached accounts topology calls) request).1 =
        .ok issued →
      ((services.reached accounts topology (calls ++ [.grant request])).clients.grantStands
          issued.record.grantId = true ↔
        (services.reached accounts topology calls).revokedGrant request = false)) ∧
    ∀ request issued,
      (services.projections.projectionForDevice (services.reached accounts topology calls)
        request).1 = .ok issued →
      ((services.reached accounts topology (calls ++ [.projection request])).clients.projectionStands
          issued.record.projectionId = true ↔
        (services.reached accounts topology calls).revokedProjection request = false) := by
  have sound := run_sound services accounts topology calls
  constructor
  · intro request issued returned
    rw [ClientServices.reached, run_concat]
    exact grant_stands_iff sound returned
  · intro request issued returned
    rw [ClientServices.reached, run_concat]
    exact projection_stands_iff sound returned

def terminalAccounts : Accounts :=
  ⟨[⟨1, .active⟩], [⟨2, 1, .active⟩], [⟨3, true⟩], [⟨1, 3, true⟩]⟩

def terminalTopology : Topology where
  organizations := []
  tenants := []
  devices := [⟨11, 2, "edge", .active, none⟩]
  deviceKeys := [⟨12, 2, 11, .active⟩]
  sites := []
  sitePrefixes := []
  nodePools := [⟨13, some 2, true, "pool", true, 0⟩]
  subscriptions := [⟨14, 2, true⟩]
  entitlements := [⟨15, 2, 14, 13, "private.tun.connect", 0, 0, true⟩]
  nodes := [⟨16, some 2, 13, "edge", some 11, some 12, .active⟩]
  nodeEndpoints :=
    [⟨17, 16, "edge.example.test:4433", "eu", true, some "edge.example.test",
      some 0x3a7bd3e2360a3d29eea436fcfb7e44c735d117c42d1c1835420b6b9942dd4f1b, none, true⟩]
  attachments := []

def terminalPolicy (policyId : Uuid) (generation : Nat) (globalEgressEnabled : Bool) :
    ClientAccessPolicy where
  schemaVersion := 1
  policyId
  tenantId := 2
  generation
  modeCapabilities := [.policy, .global]
  globalEgressEnabled
  allowedResources := [⟨"wiki", ["wiki.example.test"], [], [443]⟩]

def terminalSettings : ClientProjectionSettings where
  schemaVersion := 1
  tenantId := 2
  generation := 1
  dnsServers := ["10.0.0.53"]
  searchDomains := []
  underlayExclusions := ["192.168.0.0/16"]
  degradedBehavior := .protectedFailClosed

/-- The record `device_by_wire_id` returns. -/
def terminalDevice (trafficMode : ClientTrafficMode) : ClientDeviceRecord :=
  ⟨7, ⟨1, 2, 3⟩, 4, 5, .macos, 1, trafficMode⟩

def terminalTime (second : Nat) : ClientTime := (1700000000 + second) * nanosPerSecond

def terminalBinding (policyId requestId : Uuid) : PlaneCall :=
  .bindPolicy ⟨policyId, ⟨1, 2, 3⟩, 7, 3, requestId, 61, requestId + 10⟩

def terminalGrant (requestId : Uuid) (second : Nat) : GrantRequest :=
  ⟨terminalDevice .policy, requestId, terminalTime second, fun _ => requestId + 40⟩

def terminalPoll (trafficMode : ClientTrafficMode) (requestId : Uuid) (second : Nat) :
    ProjectionRequest :=
  ⟨terminalDevice trafficMode, requestId, terminalTime second, fun _ => requestId + 40⟩

/-- The device is registered, bound to a policy and holds a grant and a
    projection. -/
def terminalCalls : List PlaneCall :=
  [.lifecycle (.register 0 ⟨7, ⟨1, 2, 3⟩, 4, 5, .macos, "laptop", "install-1", none,
      0xd75a980182b10ab7d54bfed3c964073a0ee172f3daa62325af021a68f707511a, 41, 3⟩),
    .publishPolicy ⟨terminalPolicy 31 1 true, 1, 3, 42⟩, terminalBinding 31 43,
    .publishSettings ⟨terminalSettings, 1, 3, 44, 33⟩, .grant (terminalGrant 51 0),
    .projection (terminalPoll .policy 52 60)]

/-- The SHA-256 digests of what the calls hash, told apart by the sum of the
    bytes. -/
def terminalDigests : List (Nat × Hash) :=
  [(9508, 0x7a3a966d33c5e254bb6940dc50cafe80865f950c4421b591c5610aff14563789),
    (23793, 0x5a2c1890b665c5515045a6fe699abacb3ce278ee20041f955a5bd0cd84ab04a8),
    (27501, 0x0649a998df89f72012fd8f75b4e1dea966b2966bc239c8bf544948051e586fbd),
    (4527, 0x77c0a878ea0a97d0d307b4887df29364d3225ca2fbd0ab1789186790e8828a22),
    (17379, 0x58cb55aa8540b587db7e34cff1221b8ce8ba0ece92189f9b4382d84f3b451bad),
    (22024, 0x87cb9fc979d262fb4f039302082621cf11ab70869baa668b715bd148377aa724),
    (87856, 0x4b9cd10bcbb4459186ab288944d474020390bcb7c1116ceb6b6d7db41563b15f),
    (10573, 0xa2579e2f013b2c4fc18e4a4a10a76430d9bc4d962a2eb90b3db3650ff40fdbd1),
    (108682, 0x4b2d456a025f96b143414d0a52de7829a368892f60eb4bcc1d289816413a7ac0),
    (12812, 0x8368f2aab8a90d69f8b5561c2355b8afb462101d81700e7cbfe5bf60a7e5df94),
    (103575, 0x37ed57979752da37e73278252a48f586eddabd427073097411a86dd267f6d26b),
    (28159, 0x017cac5b18c651b248c2fb5c7e3b14120a9da7d8ac1a324829ff683622123831),
    (4115, 0x921ebc02479fa06cce67461a7a4335d6d2eae0653e0f2467f71f46332c3fd823),
    (23816, 0x8edc7fe5278c3d90bd008e322e87156a598f4d7c6ead8fb9e1440865a9f1c267),
    (27524, 0xfd4c55e3c132cdd32054272f42f558a1cb016a44d51ddd6423626d147edaeda6),
    (4528, 0xa1771109cb178593ec881fe27f41243b1736448e0a4062b1c00cb2863fa31545),
    (87762, 0xfae1dd37fabd486cc3a6b3d8e2e3ec46fefde1de282351a51fb30a0c74d5cffb),
    (10516, 0x467d4d3cfdd310ef6fc4e265330cf801b04d56b3fbf14a607612536510c3b210),
    (109278, 0x47957a46f059e07291c53e832d4d265c6575ceec1b15709a12b99b637c91c5e3),
    (12723, 0xb717515571cab5c240788b4d132d974704ace054e58a45d370e157cfedce040f),
    (104374, 0xdd7719549ccf1ef7584513cd5a4289babf3831ace944c908205dd7b82a18c2c5),
    (28176, 0x0d0147528af2d37626a71a01ba7b01c6b1433f3b522ffbf709af5c831c5ef3f2),
    (12781, 0xd6cac4fc45be8a19a258548db31e599d736389bd2cf1ed6f59e3de55b1fa096e),
    (104421, 0x61740b90c5dce2d1300fa6ffc5e976fc9245f2e5999bba95190f8d138ba04f81),
    (28135, 0x4bc42f639663c786b951304158b25eb1635add1a15311d008dea5f9784acdb29)]

def byteSum (bytes : Bytes) : Nat := bytes.foldl (fun sum byte => sum + byte.toNat) 0

def terminalKey (signatures : List (Nat × Signature)) : SigningKey where
  sign message := (signatures.lookup (byteSum message)).getD 0
  verify message signature :=
    decide (signature = (signatures.lookup (byteSum message)).getD 0)
  verify_sign _ := decide_eq_true rfl

def terminalGrantSignatures : List (Nat × Signature) :=
  [(6512, (0xb3f30c22c47b25a104146bdfdb63a4f6b8cf31fa33101383e3a244d55f90acc9 : BitVec 256) ++
      (0xe0234f2f0100a9940fc082de89a7942e4d0efa4567dc7121536f9569452ff109 : BitVec 256)),
    (7779, (0xf5ea438b2bcbc8cf8b0f86daf2709fdbb151854b8c86b72a49d76a68b4db344d : BitVec 256) ++
      (0x316c24572087612f41fc21c2e81a743d7ccdf3412d0d18be226b4e4169dcd409 : BitVec 256))]

def terminalProjectionSignatures : List (Nat × Signature) :=
  [(7361, (0xb45d2d517ce977c65f80d57521a38202dc40f83276daba8bf3a2be9635eeacce : BitVec 256) ++
      (0x9e9415f66a150842e2cde6d1cc190ac479b9764d169e7fc858c4cd2b64b38c09 : BitVec 256)),
    (7070, (0x148f1fd3769c6d90723f7774090f6d8e499706d2439d43059f871924c8d018b2 : BitVec 256) ++
      (0xf1691aac3ad9180fe14208623592981d72f28e93732ccc863edd82d4ee35dc04 : BitVec 256)),
    (7702, (0x3d7c3acc08edbd706bb658d778f22aff90536e0775dbb4c57cfddd1c9876ea4d : BitVec 256) ++
      (0x4fe070372d31baa7393f403c56851f0c4c87e49b5692d69e246e9cbd855de508 : BitVec 256))]

def terminalEnvelope (grantId : Uuid) (generation second : Nat) (policy : ClientGrantPolicyBinding)
    (contentHash : Hash) (signature : Signature) : ClientGrantEnvelopeV1 where
  schemaVersion := 1
  payload :=
    { schemaVersion := 1
      grantId
      tenantId := 2
      userId := 3
      deviceId := 4
      deviceKeyId := 5
      devicePublicKey := 0xd75a980182b10ab7d54bfed3c964073a0ee172f3daa62325af021a68f707511a
      audience := ⟨2, 3, 4, 5⟩
      deviceGeneration := 1
      generation
      issuedAt := 1700000000 + second
      notBefore := 1700000000 + second
      expiresAt := 1700086400 + second
      modeCapabilities := [.policy, .global]
      policy
      nodes :=
        [⟨16, "edge.example.test:4433", 1, 12, "quic", "edge.example.test",
          0x3a7bd3e2360a3d29eea436fcfb7e44c735d117c42d1c1835420b6b9942dd4f1b, 1700003600 + second⟩]
      signingKeyId := "client-grant-2026" }
  contentHash
  signingKeyId := "client-grant-2026"
  signature

/-- The grants of the scenario by the sum of their canonical form, the second one
    under its second policy. -/
def terminalEnvelopes : List (Nat × ClientGrantEnvelopeV1) :=
  [(108682, terminalEnvelope 91 1 0
      ⟨31, 1, 0x5a2c1890b665c5515045a6fe699abacb3ce278ee20041f955a5bd0cd84ab04a8⟩
      0x4b9cd10bcbb4459186ab288944d474020390bcb7c1116ceb6b6d7db41563b15f
      ((terminalGrantSignatures.lookup 6512).getD 0)),
    (109278, terminalEnvelope 97 2 100
      ⟨32, 2, 0x8edc7fe5278c3d90bd008e322e87156a598f4d7c6ead8fb9e1440865a9f1c267⟩
      0xfae1dd37fabd486cc3a6b3d8e2e3ec46fefde1de282351a51fb30a0c74d5cffb
      ((terminalGrantSignatures.lookup 7779).getD 0))]

def terminalCodec : ProjectionCodec where
  sha256 bytes := (terminalDigests.lookup (byteSum bytes)).getD 0
  policyJson := ClientAccessPolicy.json
  settingsJson := ClientProjectionSettings.json
  grantBytes payload := some payload.json
  grantEnvelopeBytes envelope := some envelope.json
  readGrantEnvelope bytes := terminalEnvelopes.lookup (byteSum bytes)
  projectionBytes projection := some projection.json
  projectionEnvelopeBytes document := some document.json
  collate text := text.toList.map Char.toNat
  signingKeyColumn := "client-projection-2026"

def terminalServices : ClientServices where
  codec := terminalCodec
  grantSigner := ⟨terminalKey terminalGrantSignatures, "client-grant-2026", by decide⟩
  projectionSigner :=
    ⟨terminalKey terminalProjectionSignatures, "client-projection-2026", by decide⟩

def terminalAfter (calls : List PlaneCall) : ClientPlane :=
  terminalServices.reached terminalAccounts terminalTopology calls

def terminalSuspension : List PlaneCall :=
  terminalCalls ++ [.lifecycle (.setDeviceStatus ⟨1, 2, 4, .suspended⟩),
    .lifecycle (.setDeviceStatus ⟨1, 2, 4, .active⟩)]

theorem terminal_retries :
    (terminalServices.issuance.grantForDevice (terminalAfter terminalCalls)
      (terminalGrant 51 90)).1.toOption.any (fun issued => issued.replayed) = true ∧
    (terminalServices.projections.projectionForDevice (terminalAfter terminalCalls)
      (terminalPoll .policy 52 90)).1.toOption.any (fun issued => issued.replayed) = true ∧
    (terminalServices.issuance.grantForDevice (terminalAfter terminalSuspension)
      (terminalGrant 51 90)).1.toOption.any (fun issued =>
        !(terminalAfter (terminalSuspension ++ [.grant (terminalGrant 51 90)])).clients.grantStands
          issued.record.grantId) = true ∧
    (terminalServices.projections.projectionForDevice (terminalAfter terminalSuspension)
      (terminalPoll .policy 52 90)).1.toOption.any (fun issued =>
        !(terminalAfter (terminalSuspension ++
          [.projection (terminalPoll .policy 52 90)])).clients.projectionStands
          issued.record.projectionId) = true := by
  decide +kernel

theorem retried_documents_stand :
    (∃ issued, (terminalServices.issuance.grantForDevice (terminalAfter terminalCalls)
        (terminalGrant 51 90)).1 = .ok issued ∧
      ((terminalAfter (terminalCalls ++ [.grant (terminalGrant 51 90)])).clients.grantStands
          issued.record.grantId = true ↔
        (terminalAfter terminalCalls).revokedGrant (terminalGrant 51 90) = false)) ∧
    ∃ issued, (terminalServices.projections.projectionForDevice (terminalAfter terminalCalls)
        (terminalPoll .policy 52 90)).1 = .ok issued ∧
      ((terminalAfter (terminalCalls ++
            [.projection (terminalPoll .policy 52 90)])).clients.projectionStands
          issued.record.projectionId = true ↔
        (terminalAfter terminalCalls).revokedProjection (terminalPoll .policy 52 90) = false) := by
  obtain ⟨granted, polled, -⟩ := terminal_retries
  have facts := returned_documents_stand_iff terminalServices terminalAccounts terminalTopology
    terminalCalls
  constructor
  · obtain ⟨issued, returned, -⟩ := ok_of_any granted
    exact ⟨issued, returned, facts.1 _ issued returned⟩
  · obtain ⟨issued, returned, -⟩ := ok_of_any polled
    exact ⟨issued, returned, facts.2 _ issued returned⟩

/-- Active again, a device that repeats its requests is handed revoked documents. -/
theorem revoked_documents_returned :
    (∃ issued, (terminalServices.issuance.grantForDevice (terminalAfter terminalSuspension)
        (terminalGrant 51 90)).1 = .ok issued ∧
      (terminalAfter (terminalSuspension ++ [.grant (terminalGrant 51 90)])).clients.grantStands
        issued.record.grantId = false) ∧
    ∃ issued, (terminalServices.projections.projectionForDevice (terminalAfter terminalSuspension)
        (terminalPoll .policy 52 90)).1 = .ok issued ∧
      (terminalAfter (terminalSuspension ++
          [.projection (terminalPoll .policy 52 90)])).clients.projectionStands
        issued.record.projectionId = false := by
  obtain ⟨-, -, granted, polled⟩ := terminal_retries
  constructor
  · obtain ⟨issued, returned, revoked⟩ := ok_of_any granted
    exact ⟨issued, returned, Bool.eq_false_of_not_eq_true' revoked⟩
  · obtain ⟨issued, returned, revoked⟩ := ok_of_any polled
    exact ⟨issued, returned, Bool.eq_false_of_not_eq_true' revoked⟩

end CandyCloud
