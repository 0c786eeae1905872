import CandyCloud.Client.Receipts
import CandyCloud.Client.Retries
import CandyCloud.Client.Signable
import CandyCloud.Route.Digests

/-! # What is hashed of a request

Four fingerprints are digests of concatenated fields.
-/

namespace CandyCloud

open Foundation

def issuanceFields (device : ClientDeviceRecord) (requestId : Uuid)
    (snapshot : ClientAuthorizationSnapshot) : List Bytes :=
  [uuidBytes requestId, uuidBytes device.scope.organizationId,
    uuidBytes device.scope.tenantId, uuidBytes device.scope.userId, uuidBytes device.recordId,
    uuidBytes device.deviceId, uuidBytes device.deviceKeyId, bigEndian 8 device.generation,
    uuidBytes snapshot.policy.policyId, bigEndian 8 snapshot.policy.generation,
    hashBytes snapshot.policyContentHash]

def ClientTrafficMode.wireBytes (mode : ClientTrafficMode) : Bytes := utf8 mode.toWireValue

def ClientNodeCandidate.fields (node : ClientNodeCandidate) : List Bytes :=
  [uuidBytes node.nodeId, uuidBytes node.nodeKeyId, uuidBytes node.endpointId, utf8 node.endpoint]

/-- What `issuance_fingerprint` hashes. -/
def issuanceBytes (device : ClientDeviceRecord) (requestId : Uuid)
    (snapshot : ClientAuthorizationSnapshot) (nodes : List ClientNodeCandidate) : Bytes :=
  utf8 "candy/terminal-client-grant/v1" ++ [0] ++
    (issuanceFields device requestId snapshot).flatMap lengthPrefixed ++
    (snapshot.policy.modeCapabilities.flatMap fun mode => lengthPrefixed mode.wireBytes) ++
    nodes.flatMap fun node => node.fields.flatMap lengthPrefixed

theorem fingerprint_issuanceBytes (issuance : ClientIssuance) (device : ClientDeviceRecord)
    (requestId : Uuid) (snapshot : ClientAuthorizationSnapshot) (nodes : List ClientNodeCandidate) :
    issuance.fingerprint device requestId snapshot nodes =
      issuance.codec.sha256 (issuanceBytes device requestId snapshot nodes) := rfl

theorem lengthPrefixed_readsBack :
    ReadsBack (fun value : Bytes => value.length < 256 ^ 4) lengthPrefixed :=
  ReadsBack.framed (readsBack_fixed (fun n => bigEndian_length 4 n) fun _ _ => bigEndian_inj)

theorem lengthPrefixed_filled (value : Bytes) : lengthPrefixed value ≠ [] := by
  intro none
  have length := congrArg List.length none
  rw [lengthPrefixed, List.length_append, bigEndian_length, List.length_nil] at length
  omega

def issuanceItems (modes : List ClientTrafficMode) (nodes : List ClientNodeCandidate) :
    List Bytes :=
  modes.map (·.wireBytes) ++ nodes.flatMap (·.fields)

theorem issuanceItems_bytes (modes : List ClientTrafficMode) (nodes : List ClientNodeCandidate) :
    (modes.flatMap fun mode => lengthPrefixed mode.wireBytes) ++
        (nodes.flatMap fun node => node.fields.flatMap lengthPrefixed) =
      (issuanceItems modes nodes).flatMap lengthPrefixed := by
  rw [issuanceItems, List.flatMap_append, List.flatMap_map, List.flatMap_assoc]

theorem ClientNodeCandidate.validate_endpoint {node : ClientNodeCandidate}
    (valid : node.validate = .ok ()) : (utf8 node.endpoint).length ≤ 255 := by
  simp only [ClientNodeCandidate.validate, reject_ok, Bool.or_eq_false_iff,
    decide_eq_false_iff_not, not_lt] at valid
  exact valid.1.1.1.1.1.1.2

theorem wireBytes_length (mode : ClientTrafficMode) : mode.wireBytes.length = 6 := by
  cases mode with
  | policy | global => decide

theorem wireBytes_inj {a b : ClientTrafficMode} (same : a.wireBytes = b.wireBytes) : a = b := by
  have texts := utf8_inj same
  cases a with
  | policy | global =>
      cases b with
      | policy | global => first | rfl | (revert texts; decide)

theorem issuanceItems_short {modes : List ClientTrafficMode} {nodes : List ClientNodeCandidate}
    (valid : ∀ node ∈ nodes, node.validate = .ok ()) :
    ∀ item ∈ issuanceItems modes nodes, item.length < 256 ^ 4 := by
  intro item member
  cases List.mem_append.mp member with
  | inl mode =>
      obtain ⟨mode, -, rfl⟩ := List.mem_map.mp mode
      rw [wireBytes_length]
      omega
  | inr field =>
      obtain ⟨node, listed, field⟩ := List.mem_flatMap.mp field
      have endpoint := ClientNodeCandidate.validate_endpoint (valid node listed)
      simp only [ClientNodeCandidate.fields, List.mem_cons, List.not_mem_nil, or_false] at field
      rcases field with rfl | rfl | rfl | rfl
      · exact uuidBytes_short _
      · exact uuidBytes_short _
      · exact uuidBytes_short _
      · omega

theorem issuanceFields_short (device : ClientDeviceRecord) (requestId : Uuid)
    (snapshot : ClientAuthorizationSnapshot) :
    ∀ field ∈ issuanceFields device requestId snapshot, field.length < 256 ^ 4 := by
  intro field member
  simp only [issuanceFields, List.mem_cons, List.not_mem_nil, or_false] at member
  rcases member with rfl | rfl | rfl | rfl | rfl | rfl | rfl | rfl | rfl | rfl | rfl <;>
    simp only [uuidBytes_length, bigEndian_length, hashBytes_length] <;> omega

theorem issuanceItems_modes (modes : List ClientTrafficMode) (nodes : List ClientNodeCandidate) :
    (issuanceItems modes nodes).takeWhile (fun item => item.length == 6) =
      modes.map (·.wireBytes) := by
  have inside : ∀ item ∈ modes.map (·.wireBytes), (item.length == 6) = true := by
    intro item member
    obtain ⟨mode, -, rfl⟩ := List.mem_map.mp member
    exact beq_iff_eq.mpr (wireBytes_length mode)
  rw [issuanceItems, List.takeWhile_append_of_pos inside]
  cases nodes with
  | nil => exact List.append_nil _
  | cons node rest =>
      simp [List.flatMap_cons, ClientNodeCandidate.fields, uuidBytes_length]

def ClientNodeCandidate.listed (node : ClientNodeCandidate) : Uuid × Uuid × Uuid × String :=
  (node.nodeId, node.nodeKeyId, node.endpointId, node.endpoint)

theorem nodeFields_inj {nodes nodes' : List ClientNodeCandidate}
    (same : nodes.flatMap (·.fields) = nodes'.flatMap (·.fields)) :
    nodes.map (·.listed) = nodes'.map (·.listed) := by
  have reads : ReadsBack (fun _ => True) fun listed : Uuid × Uuid × Uuid × String =>
      [uuidBytes listed.1, uuidBytes listed.2.1, uuidBytes listed.2.2.1, utf8 listed.2.2.2] := by
    refine readsBack_fixed (fun _ => (rfl : _ = 4)) ?_
    rintro ⟨id, keyId, endpointId, endpoint⟩ ⟨id', keyId', endpointId', endpoint'⟩ - - fields
    simp only [List.cons.injEq, and_true] at fields
    obtain ⟨first, second, third, text⟩ := fields
    rw [uuidBytes_inj first, uuidBytes_inj second, uuidBytes_inj third, utf8_inj text]
  apply reads.uncounted (by simp) (fun _ _ => trivial) (fun _ _ => trivial)
  rw [List.flatMap_map, List.flatMap_map]
  exact same

theorem issuanceItems_inj {modes modes' : List ClientTrafficMode}
    {nodes nodes' : List ClientNodeCandidate}
    (same : issuanceItems modes nodes = issuanceItems modes' nodes') :
    modes = modes' ∧ nodes.map (·.listed) = nodes'.map (·.listed) := by
  have texts := congrArg (List.takeWhile fun item => item.length == 6) same
  rw [issuanceItems_modes, issuanceItems_modes] at texts
  have injective : Function.Injective ClientTrafficMode.wireBytes := fun _ _ => wireBytes_inj
  have same_modes := List.map_injective_iff.mpr injective texts
  subst same_modes
  exact ⟨rfl, nodeFields_inj (List.append_cancel_left same)⟩

/-- The fields the fingerprint of an issuance covers. -/
structure SameIssuance (device device' : ClientDeviceRecord) (requestId requestId' : Uuid)
    (snapshot snapshot' : ClientAuthorizationSnapshot) (nodes nodes' : List ClientNodeCandidate) :
    Prop where
  requestId : requestId = requestId'
  scope : device.scope = device'.scope
  recordId : device.recordId = device'.recordId
  deviceId : device.deviceId = device'.deviceId
  deviceKeyId : device.deviceKeyId = device'.deviceKeyId
  deviceGeneration : device.generation = device'.generation
  policyId : snapshot.policy.policyId = snapshot'.policy.policyId
  policyGeneration : snapshot.policy.generation = snapshot'.policy.generation
  policyContentHash : snapshot.policyContentHash = snapshot'.policyContentHash
  modes : snapshot.policy.modeCapabilities = snapshot'.policy.modeCapabilities
  nodes : nodes.map (·.listed) = nodes'.map (·.listed)

/-- The generations are `u64` values and the nodes are ones the loader lets through. -/
structure IssuanceFits (device : ClientDeviceRecord) (snapshot : ClientAuthorizationSnapshot)
    (nodes : List ClientNodeCandidate) : Prop where
  device : device.generation ≤ u64Max
  policy : snapshot.policy.generation ≤ u64Max
  nodes : ∀ node ∈ nodes, node.validate = .ok ()

section Issuance

variable {device device' : ClientDeviceRecord} {requestId requestId' : Uuid}
  {snapshot snapshot' : ClientAuthorizationSnapshot} {nodes nodes' : List ClientNodeCandidate}

theorem issuanceBytes_inj (fits : IssuanceFits device snapshot nodes)
    (fits' : IssuanceFits device' snapshot' nodes')
    (same : issuanceBytes device requestId snapshot nodes =
      issuanceBytes device' requestId' snapshot' nodes') :
    SameIssuance device device' requestId requestId' snapshot snapshot' nodes nodes' := by
  simp only [issuanceBytes, List.append_assoc, List.append_cancel_left_eq] at same
  have lengths : (issuanceFields device requestId snapshot).length =
      (issuanceFields device' requestId' snapshot').length := by
    simp only [issuanceFields, List.length_cons, List.length_nil]
  obtain ⟨fields, rest⟩ := lengthPrefixed_readsBack.flatMap lengths
    (issuanceFields_short device requestId snapshot)
    (issuanceFields_short device' requestId' snapshot') same
  rw [issuanceItems_bytes, issuanceItems_bytes] at rest
  obtain ⟨modes, listed⟩ := issuanceItems_inj (lengthPrefixed_readsBack.uncounted
    lengthPrefixed_filled (issuanceItems_short fits.nodes) (issuanceItems_short fits'.nodes) rest)
  simp only [issuanceFields, List.cons.injEq, and_true] at fields
  obtain ⟨request, organization, tenant, user, record, id, key, generation, policy,
    policyGeneration, hash⟩ := fields
  have scope : device.scope = device'.scope := by
    change ClientScope.mk device.scope.organizationId device.scope.tenantId device.scope.userId = _
    rw [uuidBytes_inj organization, uuidBytes_inj tenant, uuidBytes_inj user]
  constructor
  · exact uuidBytes_inj request
  · exact scope
  · exact uuidBytes_inj record
  · exact uuidBytes_inj id
  · exact uuidBytes_inj key
  · exact number_readsBack.inj fits.device fits'.device generation
  · exact uuidBytes_inj policy
  · exact number_readsBack.inj fits.policy fits'.policy policyGeneration
  · exact hashBytes_inj hash
  · exact modes
  · exact listed

end Issuance

/-- Equal preimages have equal fields: of two configurations, of two valid registrations, of
    two valid receipts, and of two issuances over nodes as they are selected. -/
theorem fingerprints_bind :
    (∀ a b : RuntimeConfigurationRecord, a.Fits → b.Fits →
      a.envelopeBytes = b.envelopeBytes → SameObjects a b) ∧
    (∀ a b : ClientDeviceRegistration, a.validate = .ok () → b.validate = .ok () →
      registrationBytes a = registrationBytes b → SameRegistration a b) ∧
    (∀ a b : ClientProjectionReceiptWrite, a.validate = .ok () → b.validate = .ok () →
      a.fingerprintBytes = b.fingerprintBytes → SameReport a b) ∧
    (∀ device device' requestId requestId' snapshot snapshot' nodes nodes',
      IssuanceFits device snapshot nodes → IssuanceFits device' snapshot' nodes' →
      issuanceBytes device requestId snapshot nodes =
        issuanceBytes device' requestId' snapshot' nodes' →
      SameIssuance device device' requestId requestId' snapshot snapshot' nodes nodes') ∧
    (∀ (issuance : ClientIssuance) device requestId snapshot nodes,
      issuance.fingerprint device requestId snapshot nodes =
        issuance.codec.sha256 (issuanceBytes device requestId snapshot nodes)) ∧
    (∀ (issuance : ClientIssuance) (plane : ClientPlane) (device : ClientDeviceRecord)
      (issuedAt : Nat) (nodes : List ClientNodeCandidate),
      issuance.selectNodesFor plane device issuedAt = .ok nodes →
      ∀ node ∈ nodes, node.validate = .ok ()) := by
  refine ⟨fun a b => envelopeBytes_inj, fun a b => registrationBytes_fields,
    fun a b => fingerprintBytes_inj, ?_, fingerprint_issuanceBytes, ?_⟩
  · intro device device' requestId requestId' snapshot snapshot' nodes nodes'
    exact issuanceBytes_inj
  · intro issuance plane device issuedAt nodes selected
    exact (selectNodesFor_assignable selected).valid

def signedNotebook : ClientDeviceRegistration :=
  ⟨7, ⟨1, 2, 3⟩, 4, 5, .macos, "notebook", "install-1", none, 1, 8, 3⟩

def signedAccess : ClientAuthorizationSnapshot :=
  ⟨⟨1, 2, 3⟩, 4, 5, .macos, 1, 1, terminalPolicy 31 1 true, 9⟩

def signedNode : ClientNodeCandidate :=
  ⟨71, 72, 73, "edge.example.test:443", "eu", "edge.example.test", 7⟩

def signedReceipt (state : ClientProjectionReceiptState) : ClientProjectionReceiptWrite :=
  { sampleReceipt 21 state with requestHash := 41 }

def signedRecord (envelope : Bytes) : RuntimeConfigurationRecord :=
  { sampleCommitRecord with signedSegmentEnvelope := envelope }

theorem signedRecord_fits {envelope : Bytes} (short : envelope.length ≤ u64Max) :
    (signedRecord envelope).Fits := by
  have projection : sampleCommitRecord.signedProjectionEnvelope.length ≤ u64Max := by
    decide +kernel
  have peers : sampleCommitRecord.peerProjectionCatalog.length ≤ u64Max ∧
      ∀ peer ∈ sampleCommitRecord.peerProjectionCatalog,
        peer.projectionGeneration ≤ u64Max ∧ peer.signedProjectionEnvelope.length ≤ u64Max := by
    decide +kernel
  have alone : sampleCommitRecord.compatibilityGenerations = [] := by decide +kernel
  refine ⟨short, projection, ⟨peers.1, fun peer member => ?_⟩, ?_⟩
  · exact ⟨(peers.2 peer member).1, (peers.2 peer member).2⟩
  · rw [signedRecord, alone]
    simp

/-- Another envelope, key, state or request has another preimage. -/
theorem fingerprints_bind_apart :
    (signedRecord [7]).envelopeBytes ≠ (signedRecord [8]).envelopeBytes ∧
    registrationBytes signedNotebook ≠ registrationBytes { signedNotebook with deviceKeyId := 6 } ∧
    (signedReceipt .received).fingerprintBytes ≠ (signedReceipt .staged).fingerprintBytes ∧
    issuanceBytes (terminalDevice .policy) 51 signedAccess [signedNode] ≠
      issuanceBytes (terminalDevice .policy) 52 signedAccess [signedNode] := by
  obtain ⟨records, registrations, receipts, issuances, -, -⟩ := fingerprints_bind
  have issued : IssuanceFits (terminalDevice .policy) signedAccess [signedNode] :=
    ⟨by decide, by decide, by simp; decide +kernel⟩
  refine ⟨?_, ?_, ?_, ?_⟩
  · intro same
    have segment := (records _ _ (signedRecord_fits (by decide)) (signedRecord_fits (by decide))
      same).segment
    revert segment
    decide
  · intro same
    have key := (registrations _ _ (by decide +kernel) (by decide +kernel) same).deviceKeyId
    revert key
    decide
  · intro same
    have state := (receipts _ _ (by decide +kernel) (by decide +kernel) same).state
    cases state
  · intro same
    have request := (issuances _ _ _ _ _ _ _ _ issued issued same).requestId
    revert request
    decide

end CandyCloud
