import CandyCloud.Client.Replays

/-! # What is published can be signed

Policies and settings are checked when they are published, and by other code once more in the
grants and projections signed from them.
-/

namespace CandyCloud

open Foundation

/-- A resource the signer of projections takes. -/
structure ClientAllowedResource.Signable (resource : ClientAllowedResource) : Prop where
  domains : resource.domains.Nodup
  cidrs : resource.cidrs.Nodup
  ports : resource.ports.Nodup
  printable : ∀ cidr ∈ resource.cidrs, (utf8 cidr).any asciiControl = false

structure ClientAccessPolicy.Signable (policy : ClientAccessPolicy) : Prop where
  modes : policy.modeCapabilities.Nodup
  resources : ∀ resource ∈ policy.allowedResources, resource.Signable

theorem dnsLabel_printable {label : Bytes} (formed : dnsLabel label = true) :
    ∀ byte ∈ label, asciiControl byte = false := by
  intro byte member
  simp only [dnsLabel, Bool.and_eq_true, List.all_eq_true] at formed
  have allowed := formed.2 byte member
  simp only [asciiLower, asciiDigit, Bool.or_eq_true, Bool.and_eq_true, decide_eq_true_eq,
    beq_iff_eq, UInt8.le_iff_toNat_le, ← UInt8.toNat_inj] at allowed
  simp only [asciiControl, Bool.or_eq_false_iff, decide_eq_false_iff_not, beq_eq_false_iff_ne,
    ne_eq, UInt8.lt_iff_toNat_lt, ← UInt8.toNat_inj]
  simp only [UInt8.toNat_ofNat] at allowed ⊢
  omega

theorem malformedDomain_bounded {domain : String} (formed : malformedDomain domain = false) :
    boundedText maxDomainLen domain = true := by
  simp only [malformedDomain, Bool.or_eq_false_iff, decide_eq_false_iff_not, not_lt,
    List.any_eq_false, Bool.not_eq_true', Bool.not_eq_false] at formed
  obtain ⟨⟨⟨⟨filled, fits⟩, -⟩, -⟩, labels⟩ := formed
  simp only [boundedText, filled, decide_eq_true fits, Bool.not_false, Bool.true_and,
    Bool.not_eq_true', List.any_eq_false, Bool.not_eq_true]
  intro byte member
  rcases mem_splitOn 46 member with rfl | ⟨label, listed, inside⟩
  · rfl
  · exact dnsLabel_printable (labels label listed) byte inside

theorem malformedCidr_bounded {cidr : String} (formed : malformedCidr cidr = false) :
    boundedText maxCidrLen cidr = true ↔ (utf8 cidr).any asciiControl = false := by
  simp only [malformedCidr, Bool.or_eq_false_iff, decide_eq_false_iff_not, not_lt] at formed
  simp only [boundedText, formed.1, decide_eq_true formed.2, Bool.not_false, Bool.true_and,
    Bool.not_eq_true']

theorem unsignable_iff {resource : ClientAllowedResource} (formed : resource.malformed = false) :
    resource.unsignable = false ↔ resource.Signable := by
  simp only [ClientAllowedResource.malformed, Bool.or_eq_false_iff] at formed
  obtain ⟨⟨⟨⟨⟨⟨⟨⟨⟨⟨named, filled⟩, domains⟩, cidrs⟩, ports⟩, zero⟩, domainTexts⟩, -⟩, cidrTexts⟩,
    -⟩, -⟩ := formed
  have bounded : resource.domains.all (boundedText maxDomainLen) = true := by
    rw [List.all_eq_true]
    intro domain member
    exact malformedDomain_bounded
      (Bool.eq_false_of_not_eq_true (List.any_eq_false.mp domainTexts domain member))
  have printable : resource.cidrs.all (boundedText maxCidrLen) = true ↔
      ∀ cidr ∈ resource.cidrs, (utf8 cidr).any asciiControl = false := by
    rw [List.all_eq_true]
    refine forall₂_congr fun cidr member => ?_
    exact malformedCidr_bounded
      (Bool.eq_false_of_not_eq_true (List.any_eq_false.mp cidrTexts cidr member))
  simp only [ClientAllowedResource.unsignable, named, filled, domains, cidrs, ports, zero, bounded,
    Bool.false_or, Bool.or_false, Bool.not_true, Bool.or_eq_false_iff, Bool.not_eq_false',
    hasDuplicates, decide_eq_true_eq, printable]
  constructor
  · intro ⟨⟨⟨one, two⟩, three⟩, four⟩
    exact ⟨one, two, three, four⟩
  · intro signable
    exact ⟨⟨⟨signable.domains, signable.cidrs⟩, signable.ports⟩, signable.printable⟩

theorem ClientAccessPolicy.validate_ok {policy : ClientAccessPolicy}
    (valid : policy.validate = .ok ()) :
    isNil policy.policyId = false ∧ policy.generation ≠ 0 ∧ policy.modeCapabilities ≠ [] ∧
      policy.allowedResources.length ≤ maxResources ∧
      ∀ resource ∈ policy.allowedResources, resource.malformed = false := by
  rw [ClientAccessPolicy.validate, unit_bind_ok, reject_ok, reject_ok] at valid
  simp only [malformedOrRepeated, Bool.or_eq_false_iff, bne_eq_false_iff_eq, beq_eq_false_iff_ne,
    decide_eq_false_iff_not, not_lt, List.isEmpty_eq_false_iff] at valid
  obtain ⟨⟨⟨⟨⟨⟨⟨⟨-, named⟩, -⟩, generation⟩, modes⟩, -⟩, -⟩, bounded⟩, formed, -⟩ := valid
  refine ⟨named, generation, modes, bounded, ?_⟩
  intro resource member
  exact Bool.eq_false_of_not_eq_true (List.any_eq_false.mp formed resource member)

theorem ClientProjectionSettings.validate_ok {settings : ClientProjectionSettings}
    (valid : settings.validate = .ok ()) :
    (∀ mode, ({ mode
                servers := settings.dnsServers
                searchDomains :=
                  if settings.searchDomains.isEmpty then none else some settings.searchDomains
                leakProtection := true } : PolicyProjectionDns).malformed = false) ∧
      settings.underlayExclusions ≠ [] ∧
      settings.underlayExclusions.length ≤ maxUnderlayExclusions ∧
      settings.underlayExclusions.Nodup ∧
      settings.underlayExclusions.all (boundedText maxUnderlayExclusionLen) = true := by
  rw [ClientProjectionSettings.validate, unit_bind_ok, unit_bind_ok, reject_ok, reject_ok,
    reject_ok] at valid
  simp only [boundedUnique, Bool.or_eq_false_iff, decide_eq_false_iff_not, not_lt,
    List.isEmpty_eq_false_iff, Bool.not_eq_false', Bool.and_eq_true, decide_eq_true_eq] at valid
  obtain ⟨-, ⟨⟨⟨servers, domains⟩, filled⟩, exclusions⟩, ⟨⟨serverTexts, -⟩, domainTexts, -⟩,
    exclusionTexts, distinct⟩ := valid
  refine ⟨?_, filled, exclusions, distinct, exclusionTexts⟩
  intro mode
  simp only [PolicyProjectionDns.malformed, decide_eq_false servers.not_gt, serverTexts,
    Bool.not_true, Bool.false_or]
  split
  · rfl
  · simp only [Option.any_some, decide_eq_false domains.not_gt, domainTexts, Bool.not_true,
      Bool.or_false]

theorem modes_length {modes : List ClientTrafficMode} (distinct : modes.Nodup) :
    modes.length ≤ 2 := by
  have listed : modes ⊆ [.policy, .global] := by
    intro mode _
    cases mode with
    | policy => exact List.mem_cons_self
    | global => exact List.mem_cons_of_mem _ List.mem_cons_self
  exact (List.subperm_of_subset distinct listed).length_le

/-- The nodes a grant is issued for. -/
structure Assignable (nodes : List ClientNodeCandidate) : Prop where
  some : nodes ≠ []
  bounded : nodes.length ≤ maxClientGrantNodes
  distinct : (nodes.map (·.nodeId)).Nodup
  valid : ∀ node ∈ nodes, node.validate = .ok ()

variable {tenantId clientDeviceId : Uuid} {candidates nodes active : List ClientNodeCandidate}
  {issuance : ClientIssuance} {issuedAt : Nat} {scope : ClientScope} {request : GrantRequest}
  {record : ClientGrantRecord} {envelope : ClientGrantEnvelopeV1} {store : ClientStore}

theorem activeCandidates_valid {codec : IssuanceCodec} {plane : ClientPlane}
    (read : activeCandidates codec plane tenantId = .ok candidates) :
    ∀ candidate ∈ candidates, candidate.validate = .ok () := by
  rw [activeCandidates, unit_bind_ok] at read
  obtain ⟨-, read⟩ := read
  simp only [unit_bind_ok] at read
  intro candidate member
  obtain ⟨⟨node, endpoint⟩, -, converted⟩ := mem_mapM read.2 member
  simp only [orElse_bind_ok, unit_bind_ok, pure_ok] at converted
  obtain ⟨_, -, valid, rfl⟩ := converted
  exact valid

theorem firstOfNode_spec (kept candidates : List ClientNodeCandidate)
    (distinct : (kept.map (·.nodeId)).Nodup) :
    ((firstOfNode kept candidates).map (·.nodeId)).Nodup ∧
      ∀ node ∈ firstOfNode kept candidates, node ∈ kept ∨ node ∈ candidates := by
  induction candidates generalizing kept with
  | nil => exact ⟨distinct, fun _ member => .inl member⟩
  | cons candidate rest ih =>
      rw [firstOfNode]
      split
      · obtain ⟨unique, origin⟩ := ih kept distinct
        refine ⟨unique, ?_⟩
        intro node member
        exact (origin node member).imp_right (List.mem_cons_of_mem _)
      · rename_i fresh
        simp only [List.any_eq_true, decide_eq_true_eq, not_exists, not_and] at fresh
        obtain ⟨unique, origin⟩ := ih (kept ++ [candidate]) (nodup_concat_key distinct
          fun old member same => fresh old member same.symm)
        refine ⟨unique, ?_⟩
        intro node member
        rcases origin node member with old | later
        · rcases mem_concat.mp old with before | new
          · exact .inl before
          · exact .inr (List.mem_cons.mpr (.inl new))
        · exact .inr (List.mem_cons_of_mem _ later)

theorem selectNodes_assignable {backupCount : Nat}
    (selected : selectNodes candidates backupCount = .ok nodes) : Assignable nodes := by
  rw [selectNodes, unit_bind_ok, unit_bind_ok] at selected
  obtain ⟨within, valid, selected⟩ := selected
  simp only [unit_bind_ok, pure_ok] at selected
  obtain ⟨enough, rfl⟩ := selected
  rw [reject_ok, decide_eq_false_iff_not, not_lt] at within enough
  rw [checkEach_all] at valid
  obtain ⟨unique, origin⟩ := firstOfNode_spec []
    (candidates.insertionSort fun a b => selectionOrder a b = true) List.nodup_nil
  constructor
  · intro none
    have length := congrArg List.length none
    rw [List.length_take, List.length_nil] at length
    omega
  · rw [List.length_take]
    simp only [maxClientNodeBackups, maxClientGrantNodes] at within ⊢
    omega
  · rw [List.map_take]
    exact unique.sublist (List.take_sublist _ _)
  · intro node member
    rcases origin node (List.mem_of_mem_take member) with none | sorted
    · cases none
    · exact valid node ((List.mem_insertionSort _).mp sorted)

theorem reuseNodes_spec {seen : List Uuid} {assigned : List AssignedNode}
    (reused : reuseNodes active seen assigned = some nodes) :
    (nodes.map (·.nodeId)).Nodup ∧ ∀ node ∈ nodes, node ∈ active ∧ node.nodeId ∉ seen := by
  induction assigned generalizing seen nodes with
  | nil =>
      cases reused
      exact ⟨List.nodup_nil, fun _ member => absurd member List.not_mem_nil⟩
  | cons first rest ih =>
      rw [reuseNodes] at reused
      split at reused
      · cases reused
      · rename_i fresh
        simp only [Bool.or_eq_true, not_or, List.contains_iff_mem] at fresh
        simp only [Option.bind_eq_bind, Option.bind_eq_some_iff, Option.pure_def,
          Option.some.injEq] at reused
        obtain ⟨candidate, found, others, remaining, rfl⟩ := reused
        have named := List.find?_some found
        simp only [Bool.and_eq_true, decide_eq_true_eq] at named
        obtain ⟨unique, origin⟩ := ih remaining
        constructor
        · rw [List.map_cons, List.nodup_cons]
          refine ⟨?_, unique⟩
          intro again
          obtain ⟨other, member, same⟩ := List.mem_map.mp again
          exact (origin other member).2 (List.mem_cons.mpr (.inl (same.trans named.1)))
        · intro node member
          rcases List.mem_cons.mp member with rfl | later
          · rw [named.1]
            exact ⟨List.mem_of_find?_eq_some found, fresh.2⟩
          · obtain ⟨listed, unseen⟩ := origin node later
            exact ⟨listed, fun before => unseen (List.mem_cons_of_mem _ before)⟩

theorem planAssignment_spec {now : Nat} {previous : Option PreviousAssignment}
    (planned : planAssignment now previous active = some nodes) :
    (nodes.map (·.nodeId)).Nodup ∧ ∀ node ∈ nodes, node ∈ active := by
  rw [planAssignment] at planned
  cases previous with
  | none => cases planned
  | some previous =>
      simp only [Option.bind_eq_bind, Option.bind_some] at planned
      split at planned
      · cases planned
      · obtain ⟨unique, origin⟩ := reuseNodes_spec planned
        exact ⟨unique, fun node member => (origin node member).1⟩

theorem selectNodesFor_assignable {plane : ClientPlane} {device : ClientDeviceRecord}
    (selected : issuance.selectNodesFor plane device issuedAt = .ok nodes) : Assignable nodes := by
  have fresh : ∀ {candidates : List ClientNodeCandidate},
      ClientIssuance.selectFreshNodes candidates = .ok nodes → Assignable nodes := by
    intro candidates done
    rw [ClientIssuance.selectFreshNodes, mapError_ok] at done
    exact selectNodes_assignable done
  rw [ClientIssuance.selectNodesFor, bind_ok] at selected
  obtain ⟨candidates, read, selected⟩ := selected
  rw [mapError_ok] at read
  rw [unit_bind_ok, bind_ok] at selected
  obtain ⟨-, previous, -, selected⟩ := selected
  split at selected
  · rename_i reused planned
    split at selected
    · rename_i usable
      cases selected
      simp only [Bool.and_eq_true, Bool.not_eq_true', List.isEmpty_eq_false_iff,
        decide_eq_true_eq] at usable
      obtain ⟨unique, origin⟩ := planAssignment_spec planned
      refine ⟨usable.1, usable.2, unique, ?_⟩
      intro node member
      exact activeCandidates_valid read node (origin node member)
    · exact fresh selected
  · exact fresh selected

/-- What the inputs of a grant are known to be. -/
structure GrantGathered (inputs : GrantInputs) : Prop where
  policy : inputs.snapshot.policy.validate = .ok ()
  expires : inputs.expiresAt = inputs.issuedAt + clientGrantTtlSecs
  lease : inputs.issuedAt < inputs.leaseUntil ∧ inputs.leaseUntil ≤ inputs.expiresAt
  nodes : Assignable inputs.nodes

theorem authorizationSnapshot_valid {codec : ClientCodec} {plane : ClientPlane}
    {snapshot : ClientAuthorizationSnapshot}
    (read : authorizationSnapshot codec plane scope clientDeviceId = .ok (some snapshot)) :
    snapshot.policy.validate = .ok () := by
  rw [authorizationSnapshot, unit_bind_ok] at read
  obtain ⟨-, read⟩ := read
  split at read
  · cases read
  · rw [orElse_bind_ok] at read
    obtain ⟨publicKey, -, read⟩ := read
    simp only [unit_bind_ok, pure_ok, Option.some.injEq] at read
    obtain ⟨-, valid, rfl⟩ := read
    rw [ClientAuthorizationSnapshot.validate, unit_bind_ok, bind_ok] at valid
    obtain ⟨-, computed, hashed, -⟩ := valid
    rw [mapError_ok, ClientAccessPolicy.contentHash, unit_bind_ok] at hashed
    exact hashed.1

theorem assignmentLeaseDeadline_some {leaseSecs expiresAt leaseUntil : Nat}
    (deadline : assignmentLeaseDeadline issuedAt leaseSecs expiresAt = some leaseUntil) :
    issuedAt < leaseUntil ∧ leaseUntil ≤ expiresAt := by
  rw [assignmentLeaseDeadline] at deadline
  simp only [Option.bind_eq_bind, Option.bind_eq_some_iff, Option.ite_none_right_eq_some,
    Option.some.injEq] at deadline
  obtain ⟨latest, -, later, rfl⟩ := deadline
  exact ⟨later, Nat.min_le_right _ _⟩

theorem ClientIssuance.gatherInputs_ok {plane : ClientPlane} {inputs : GrantInputs}
    (done : issuance.gatherInputs plane request = .ok inputs) : GrantGathered inputs := by
  rw [ClientIssuance.gatherInputs, bind_ok] at done
  obtain ⟨found, authorized, done⟩ := done
  rw [orElse_bind_ok] at done
  obtain ⟨snapshot, rfl, done⟩ := done
  rw [unit_bind_ok, orElse_bind_ok] at done
  obtain ⟨-, expiresAt, expires, done⟩ := done
  rw [bind_ok] at done
  obtain ⟨nodes, selected, done⟩ := done
  rw [orElse_bind_ok] at done
  obtain ⟨leaseUntil, deadline, done⟩ := done
  rw [pure_ok] at done
  rw [mapError_ok] at authorized
  subst done
  exact ⟨authorizationSnapshot_valid authorized, checkedAdd_some expires,
    assignmentLeaseDeadline_some deadline, selectNodesFor_assignable selected⟩

def ClientNodeCandidate.assignment (node : ClientNodeCandidate) (leaseUntil index : Nat) :
    ClientGrantNodeAssignment where
  nodeId := node.nodeId
  endpoint := node.endpoint
  priority := min (index + 1) 255
  nodeKeyId := node.nodeKeyId
  transport := "quic"
  serverName := node.serverName
  serverCertSha256 := node.serverCertSha256
  assignmentLeaseUntil := leaseUntil

section Assignments

variable {payload : ClientGrantPayloadV1} {leaseUntil : Nat}

theorem assignment_formed {node : ClientNodeCandidate} {index : Nat}
    (valid : node.validate = .ok ()) (named : isValidServerName node.serverName = true)
    (lease : payload.issuedAt < leaseUntil ∧ leaseUntil ≤ payload.expiresAt) :
    (node.assignment leaseUntil index).malformed payload = false := by
  rw [ClientNodeCandidate.validate, reject_ok] at valid
  simp only [List.any_cons, List.any_nil, Bool.or_eq_false_iff, decide_eq_false_iff_not,
    not_lt] at valid
  obtain ⟨⟨⟨⟨⟨⟨⟨⟨⟨id, key, -⟩, filled⟩, fits⟩, printable⟩, -⟩, -⟩, -⟩, -⟩, -⟩ := valid
  have known : (!isValidServerName node.serverName) = false := by rw [named, Bool.not_true]
  rw [ClientGrantNodeAssignment.malformed]
  simp only [Bool.or_eq_false_iff, decide_eq_false_iff_not, not_lt, not_le]
  exact ⟨⟨⟨⟨⟨⟨⟨⟨id, key⟩, filled⟩, fits⟩, printable⟩, known⟩, fun other => other rfl⟩, lease.1⟩,
    lease.2⟩

theorem assignments_checked (payload : ClientGrantPayloadV1) {leaseUntil : Nat}
    (lease : payload.issuedAt < leaseUntil ∧ leaseUntil ≤ payload.expiresAt)
    (seen : List ClientGrantNodeAssignment)
    (valid : ∀ node ∈ nodes, node.validate = .ok () ∧ isValidServerName node.serverName = true)
    (distinct : (seen.map (·.nodeId) ++ nodes.map (·.nodeId)).Nodup)
    (bounded : seen.length + nodes.length ≤ maxClientGrantNodes) :
    checkEach payload.checkNode seen ((nodes.zipIdx seen.length).map fun (node, index) =>
      node.assignment leaseUntil index) = .ok () := by
  induction nodes generalizing seen with
  | nil => rfl
  | cons node rest ih =>
      rw [List.length_cons] at bounded
      rw [List.zipIdx_cons, List.map_cons, checkEach, unit_bind_ok]
      constructor
      · obtain ⟨formed, named⟩ := valid node List.mem_cons_self
        rw [ClientGrantPayloadV1.checkNode, unit_bind_ok, reject_ok, reject_ok,
          assignment_formed formed named lease, Bool.false_or, List.any_eq_false,
          decide_eq_false_iff_not, not_not]
        constructor
        · intro other member same
          rw [List.nodup_append] at distinct
          exact distinct.2.2 _ (List.mem_map_of_mem member) _ List.mem_cons_self
            (of_decide_eq_true same)
        · simp only [ClientNodeCandidate.assignment, maxClientGrantNodes] at bounded ⊢
          omega
      · have place : seen.length + 1 =
            (seen ++ [node.assignment leaseUntil seen.length]).length := by
          rw [List.length_append, List.length_singleton]
        rw [place]
        refine ih (seen ++ [node.assignment leaseUntil seen.length])
          (fun other member => valid other (List.mem_cons_of_mem _ member)) ?_ ?_
        · rw [List.map_append, List.append_assoc]
          exact distinct
        · rw [← place]
          omega

end Assignments

theorem payload_valid_iff {inputs : GrantInputs} (gathered : GrantGathered inputs)
    (named : ∀ node ∈ inputs.nodes, isValidServerName node.serverName = true)
    {device : ClientDeviceRecord} (known : device.validate = .ok ()) {grantId : Uuid}
    (drawn : isNil grantId = false) {generation : Nat} (counted : generation ≠ 0)
    (signer : ClientGrantSigner) :
    ({ inputs.payload device grantId generation with
        signingKeyId := signer.keyId } : ClientGrantPayloadV1).validate = .ok () ↔
      inputs.snapshot.policy.modeCapabilities.Nodup := by
  obtain ⟨policy, expires, lease, nodes⟩ := gathered
  obtain ⟨policyId, policyGeneration, modes, -⟩ := ClientAccessPolicy.validate_ok policy
  rw [ClientDeviceRecord.validate, reject_ok] at known
  simp only [ClientScope.ids, List.cons_append, List.nil_append, List.any_cons, List.any_nil,
    Bool.or_eq_false_iff, decide_eq_false_iff_not] at known
  obtain ⟨⟨-, -, tenant, user, deviceId, key, -⟩, deviceGeneration⟩ := known
  have checked := assignments_checked
    { inputs.payload device grantId generation with signingKeyId := signer.keyId } lease []
    (fun node member => ⟨nodes.valid node member, named node member⟩) nodes.distinct (by simpa using nodes.bounded)
  change checkEach _ [] inputs.assignments = _ at checked
  have filled : inputs.assignments ≠ [] := by
    intro none
    have length := congrArg List.length none
    rw [GrantInputs.assignments, List.length_map, List.length_zipIdx, List.length_nil,
      List.length_eq_zero_iff] at length
    exact nodes.some length
  have bounded : inputs.assignments.length ≤ maxClientGrantNodes := by
    rw [GrantInputs.assignments, List.length_map, List.length_zipIdx]
    exact nodes.bounded
  rw [ClientGrantPayloadV1.validate]
  simp only [unit_bind_ok, reject_ok]
  constructor
  · intro valid
    have unrepeated := valid.2.2.2.1
    rw [Bool.or_eq_false_iff, hasDuplicates, Bool.not_eq_false', decide_eq_true_eq] at unrepeated
    exact unrepeated.2
  · intro distinct
    refine ⟨?_, ?_, ?_, ?_, ?_, ?_, checked⟩
    · simp only [Bool.or_eq_false_iff, beq_eq_false_iff_ne, bne_eq_false_iff_eq]
      exact ⟨⟨⟨⟨⟨rfl, drawn⟩, deviceGeneration⟩, counted⟩, signer.bounded.1⟩,
        decide_eq_false signer.bounded.2.not_gt⟩
    · rw [Bool.or_eq_false_iff]
      refine ⟨?_, decide_eq_false fun other => other rfl⟩
      simp only [ClientGrantAudience.ids, List.any_cons, List.any_nil, Bool.or_false,
        Bool.or_eq_false_iff]
      exact ⟨tenant, user, deviceId, key⟩
    · simp only [Bool.or_eq_false_iff, decide_eq_false_iff_not, not_lt, not_le]
      change (inputs.issuedAt ≤ inputs.issuedAt ∧ inputs.issuedAt < inputs.expiresAt) ∧
        inputs.expiresAt - inputs.issuedAt ≤ clientGrantMaxTtlSecs
      rw [expires]
      simp only [clientGrantTtlSecs, clientGrantMaxTtlSecs]
      omega
    · rw [hasDuplicates, Bool.or_eq_false_iff, Bool.or_eq_false_iff, Bool.not_eq_false',
        decide_eq_true_eq, List.isEmpty_eq_false_iff]
      exact ⟨⟨modes, decide_eq_false (modes_length distinct).not_gt⟩, distinct⟩
    · rw [Bool.or_eq_false_iff, beq_eq_false_iff_ne]
      exact ⟨policyId, policyGeneration⟩
    · rw [Bool.or_eq_false_iff, List.isEmpty_eq_false_iff]
      exact ⟨filled, decide_eq_false bounded.not_gt⟩

section Stored

variable {services : ClientServices} {plane : ClientPlane}

/-- The stored grant is an envelope that was signed. -/
def ClientServices.Issued (services : ClientServices) (record : ClientGrantRecord) : Prop :=
  ∃ payload envelope,
    services.grantSigner.issue services.codec.toEnvelopeCodec payload = .ok envelope ∧
      services.codec.grantEnvelopeBytes envelope = some record.grantEnvelope

theorem GrantInserted.issued {write : ClientGrantWrite}
    (inserted : GrantInserted services.issuance plane request write) :
    services.Issued (write.row services.codec.sha256).record := by
  obtain ⟨⟨inputs, grantId, -, attempted⟩, -⟩ := inserted
  obtain ⟨-, -, -, generation, envelope, signed, written⟩ := ClientIssuance.attempt_ok attempted
  exact ⟨_, envelope, signed, written⟩

theorem run_grants {P : ClientGrantRecord → Prop}
    (inserted : ∀ plane request write, GrantInserted services.issuance plane request write →
      P (write.row services.codec.sha256).record)
    (accounts : Accounts) (topology : Topology) (calls : List PlaneCall) :
    ∀ record ∈ (services.reached accounts topology calls).clients.grants.map (·.record),
      P record := by
  have start : ∀ record ∈ (ClientPlane.empty accounts topology).clients.grants.map (·.record),
      P record := fun _ member => absurd member List.not_mem_nil
  refine run_invariant (P := fun plane : ClientPlane =>
    ∀ record ∈ plane.clients.grants.map (·.record), P record) ?_ start calls
  intro plane call holds
  cases planeStep_documents services plane call with
  | kept kept =>
      rw [kept.grants]
      exact holds
  | granted new same =>
      rw [same, ClientPlane.insertGrant, ClientStore.apply, List.map_append, List.map_singleton]
      intro record member
      cases List.mem_append.mp member with
      | inl old => exact holds record old
      | inr last =>
          rw [List.mem_singleton.mp last]
          exact inserted _ _ _ new
  | published inserted same =>
      rw [same]
      exact holds

theorem run_issued (services : ClientServices) (accounts : Accounts) (topology : Topology)
    (calls : List PlaneCall) :
    ∀ record ∈ (services.reached accounts topology calls).clients.grants.map (·.record),
      services.Issued record :=
  run_grants (fun _ _ _ inserted => inserted.issued) accounts topology calls

theorem ClientServices.Issued.valid (issued : services.Issued record)
    (readsBack : ∀ envelope bytes, services.codec.grantEnvelopeBytes envelope = some bytes →
      services.codec.readGrantEnvelope bytes = some envelope)
    (read : fromGrantEnvelopeBytes services.codec.toEnvelopeCodec record.grantEnvelope =
      .ok envelope) : envelope.payload.validate = .ok () := by
  obtain ⟨payload, stored, signed, written⟩ := issued
  rw [fromGrantEnvelopeBytes, unit_bind_ok, readsBack stored _ written] at read
  obtain ⟨valid, canonical, -, rfl⟩ := issue_ok.mp signed
  rw [← Except.ok.inj read.2]
  exact valid

end Stored

theorem ClientGrantPayloadV1.nodes_valid {payload : ClientGrantPayloadV1}
    (valid : payload.validate = .ok ()) :
    payload.nodes ≠ [] ∧ payload.nodes.length ≤ maxClientGrantNodes ∧
      (∀ node ∈ payload.nodes, node.malformed payload = false ∧ node.priority ≠ 0) ∧
      (payload.nodes.map (·.nodeId)).Nodup := by
  rw [ClientGrantPayloadV1.validate] at valid
  simp only [unit_bind_ok, reject_ok] at valid
  obtain ⟨-, -, -, -, -, bounded, checked⟩ := valid
  rw [Bool.or_eq_false_iff, List.isEmpty_eq_false_iff, decide_eq_false_iff_not, not_lt] at bounded
  have split : ∀ seen node, payload.checkNode seen node = .ok () →
      (node.malformed payload = false ∧ node.priority ≠ 0) ∧
        ∀ earlier ∈ seen, earlier.nodeId ≠ node.nodeId := by
    intro seen node accepted
    rw [ClientGrantPayloadV1.checkNode, unit_bind_ok, reject_ok, reject_ok, Bool.or_eq_false_iff,
      List.any_eq_false, decide_eq_false_iff_not, not_not] at accepted
    obtain ⟨⟨formed, fresh⟩, place⟩ := accepted
    refine ⟨⟨formed, by omega⟩, ?_⟩
    intro earlier member same
    exact fresh earlier member (decide_eq_true same)
  refine ⟨bounded.1, bounded.2, ?_, ?_⟩
  · intro node member
    obtain ⟨before, after, place⟩ := List.append_of_mem member
    exact (split _ node (checkEach_ok.mp checked before node after place)).1
  · have apart := (checkEach_pairwise (R := fun a b : ClientGrantNodeAssignment =>
      a.nodeId ≠ b.nodeId) (fun seen node accepted => (split seen node accepted).2) checked).1
    exact List.pairwise_map.mpr apart

theorem deviceByWireId_valid {deviceId : Uuid} {record : ClientDeviceRecord}
    (found : deviceByWireId store scope deviceId = .ok (some (.active record))) :
    record.validate = .ok () := by
  rw [deviceByWireId, unit_bind_ok] at found
  obtain ⟨-, found⟩ := found
  split at found
  · cases found
  · split at found
    · cases found
    · split at found
      · cases found
      · rw [unit_bind_ok] at found
        obtain ⟨valid, found⟩ := found
        split at found
        · cases found
          exact valid
        · cases found

section Assembled

variable {services : ClientServices} {plane : ClientPlane} {device : ClientDeviceRecord}
  {stamp : ProjectionStamp} {snapshot : ClientAuthorizationSnapshot} {inputs : ProjectionInputs}
  {projection : PolicyProjectionV1}

theorem activeGrant_valid {deviceKeyId : Uuid} {now : ClientTime}
    (found : store.activeGrant tenantId clientDeviceId deviceKeyId now = .ok (some record)) :
    record.validate = .ok () := by
  rw [ClientStore.activeGrant, unit_bind_ok] at found
  cases active : store.activeGrantRow tenantId clientDeviceId deviceKeyId now with
  | none =>
      rw [active] at found
      cases found.2
  | some row =>
      rw [active, readGrant, unit_bind_ok, pure_ok, Option.some.injEq] at found
      rw [← found.2.2]
      exact found.2.1

variable {nodes : List PolicyProjectionNodeAssignment}

theorem projected_nodes {payload : ClientGrantPayloadV1} (valid : payload.validate = .ok ())
    {staleUntil : Nat} (cut : nodes = (payload.nodes.map (·.projected)).map (·.until staleUntil))
    (live : ∀ node ∈ nodes, stamp.issuedAt < node.assignmentLeaseUntil) :
    (nodes.map (·.nodeId)).Nodup ∧
      ∀ node ∈ nodes, isNil node.nodeId = false ∧ node.malformed staleUntil = false := by
  obtain ⟨-, -, formed, distinct⟩ := payload.nodes_valid valid
  subst cut
  constructor
  · rw [List.map_map, List.map_map]
    exact distinct
  · intro node member
    have leased := live node member
    obtain ⟨mapped, present, rfl⟩ := List.mem_map.mp member
    obtain ⟨source, listed, rfl⟩ := List.mem_map.mp present
    obtain ⟨shape, priority⟩ := formed source listed
    rw [ClientGrantNodeAssignment.malformed] at shape
    simp only [Bool.or_eq_false_iff, decide_eq_false_iff_not, not_lt, not_le, not_not] at shape
    obtain ⟨⟨⟨⟨⟨⟨⟨⟨id, key⟩, filled⟩, fits⟩, printable⟩, -⟩, quic⟩, -⟩, -⟩ := shape
    have written : source.endpoint.isEmpty = false := by
      rw [Bool.eq_false_iff]
      intro empty
      rw [String.isEmpty_iff.mp empty] at filled
      cases filled
    refine ⟨id, ?_⟩
    rw [PolicyProjectionNodeAssignment.malformed]
    simp only [Bool.or_eq_false_iff, decide_eq_false_iff_not, not_lt, beq_eq_false_iff_ne]
    refine ⟨⟨⟨⟨⟨⟨⟨⟨id, key⟩, written⟩, fits⟩, printable⟩, priority⟩, ?_⟩, ?_⟩, ?_⟩
    · rw [Bool.and_eq_false_iff, bne_eq_false_iff_eq]
      exact .inl quic
    · exact Nat.ne_of_gt (Nat.zero_lt_of_lt leased)
    · exact Nat.min_le_right _ _

theorem nodes_checked (usable : ∀ node ∈ nodes, node.malformed projection.staleUntil = false)
    (distinct : (nodes.map (·.nodeId)).Nodup) :
    checkEach projection.checkNode [] nodes = .ok () := by
  refine checkEach_ok.mpr ?_
  rintro before node after rfl
  rw [PolicyProjectionV1.checkNode, unit_bind_ok, reject_ok, reject_ok, List.nil_append,
    List.any_eq_false]
  refine ⟨usable node (List.mem_append_cons_self), ?_⟩
  intro earlier member same
  rw [List.map_append, List.nodup_append] at distinct
  exact distinct.2.2 _ (List.mem_map_of_mem member) _ List.mem_cons_self (of_decide_eq_true same)

theorem projection_valid_iff
    (read : ProjectionGathered services.projections plane device stamp.issuedAt snapshot inputs)
    (issued : services.Issued inputs.grant)
    (readsBack : ∀ envelope bytes, services.codec.grantEnvelopeBytes envelope = some bytes →
      services.codec.readGrantEnvelope bytes = some envelope)
    (known : device.validate = .ok ()) (drawn : isNil stamp.projectionId = false)
    (counted : stamp.generation ≠ 0) (started : 0 < stamp.issuedAt)
    (assembled : inputs.assemble device stamp = .ok projection) :
    ({ projection with
        signingKeyId := services.projectionSigner.keyId } : PolicyProjectionV1).validate = .ok () ↔
      snapshot.policy.Signable := by
  obtain ⟨-, -, modes, listed, formed⟩ :=
    ClientAccessPolicy.validate_ok (authorizationSnapshot_valid read.authorized)
  have settings := read.settingsHash
  rw [ClientProjectionSettings.contentHash, unit_bind_ok] at settings
  obtain ⟨dns, exclusions, excluded, distinct, texts⟩ :=
    ClientProjectionSettings.validate_ok settings.1
  obtain ⟨now, -, held⟩ := read.held
  have grant := activeGrant_valid held
  rw [ClientGrantRecord.validate, unit_bind_ok, reject_ok] at grant
  have grantId : isNil inputs.grant.grantId = false := by
    have ids := grant.1
    simp only [List.any_cons, Bool.or_eq_false_iff] at ids
    exact ids.1.1.1.1.1.1.1.1.1
  have nodes := read.nodes
  rw [grantNodes, bind_ok] at nodes
  obtain ⟨envelope, fetched, nodes⟩ := nodes
  rw [mapError_ok] at fetched
  simp only [unit_bind_ok, pure_ok] at nodes
  obtain ⟨-, nodes⟩ := nodes
  have payload := issued.valid readsBack fetched
  obtain ⟨-, few, -⟩ := envelope.payload.nodes_valid payload
  rw [ClientDeviceRecord.validate, reject_ok] at known
  simp only [ClientScope.ids, List.cons_append, List.nil_append, List.any_cons, List.any_nil,
    Bool.or_eq_false_iff] at known
  obtain ⟨⟨-, -, tenant, user, deviceId, key, -⟩, -⟩ := known
  obtain ⟨stale, later, cut, live, document⟩ := ProjectionInputs.assemble_ok assembled
  rw [← nodes] at cut
  generalize projection.staleUntil = staleUntil at stale later cut document
  generalize projection.selectedNode = selected at document
  generalize projection.standbyNodes = standby at document
  subst document
  obtain ⟨unique, usable⟩ := projected_nodes payload cut live
  have ending : staleUntil ≤ seconds inputs.grant.expiresAt := by
    rw [ProjectionInputs.staleUntil, Option.map_eq_some_iff] at stale
    obtain ⟨deadline, -, rfl⟩ := stale
    exact Nat.min_le_right _ _
  have fits : standby.length ≤ maxStandbyNodes := by
    have length := congrArg List.length cut
    rw [List.length_map, List.length_map] at length
    change standby.length + 1 = _ at length
    simp only [maxClientGrantNodes, maxStandbyNodes] at few ⊢
    omega
  have resources : inputs.resources.any ClientAllowedResource.unsignable = false ↔
      ∀ resource ∈ snapshot.policy.allowedResources, resource.Signable := by
    rw [read.resources, List.any_eq_false]
    refine forall₂_congr fun resource member => ?_
    rw [Bool.not_eq_true, unsignable_iff (formed resource member)]
  rw [PolicyProjectionV1.validate]
  simp only [unit_bind_ok, reject_ok]
  constructor
  · intro valid
    obtain ⟨-, -, -, -, moded, -, -, -, listing, -⟩ := valid
    simp only [Bool.or_eq_false_iff, hasDuplicates, Bool.not_eq_false', decide_eq_true_eq] at moded
    have unrepeated := moded.1.2
    change inputs.modeCapabilities.Nodup at unrepeated
    rw [read.modeCapabilities] at unrepeated
    exact ⟨unrepeated, resources.mp listing⟩
  · intro signable
    have distinctModes : inputs.modeCapabilities.Nodup := by
      rw [read.modeCapabilities]
      exact signable.modes
    refine ⟨?_, ?_, ?_, ?_, ?_, decide_eq_false fits.not_gt, ?_, ?_,
      resources.mpr signable.resources, dns _, ?_, ?_, ?_, ?_, ?_⟩
    · simp only [Bool.or_eq_false_iff, beq_eq_false_iff_ne, bne_eq_false_iff_eq]
      have positive : 0 < staleUntil := Nat.zero_lt_of_lt later
      exact ⟨⟨⟨⟨⟨⟨⟨⟨rfl, rfl⟩, drawn⟩, grantId⟩, counted⟩,
        Nat.ne_of_gt (Nat.lt_of_lt_of_le positive ending)⟩, Nat.ne_of_gt started⟩,
        Nat.ne_of_gt started⟩, Nat.ne_of_gt positive⟩
    · simp only [ClientGrantAudience.ids, List.any_cons, List.any_nil, Bool.or_false,
        Bool.or_eq_false_iff]
      exact ⟨tenant, user, deviceId, key⟩
    · exact decide_eq_false fun other => other rfl
    · simp only [Bool.or_eq_false_iff, decide_eq_false_iff_not, not_lt]
      exact ⟨⟨Nat.le_refl _, Nat.le_of_lt later⟩, ending⟩
    · simp only [Bool.or_eq_false_iff, hasDuplicates, Bool.not_eq_false', decide_eq_true_eq,
        List.isEmpty_eq_false_iff, List.contains_iff_mem, decide_eq_false_iff_not, not_lt]
      refine ⟨⟨⟨?_, modes_length distinctModes⟩, distinctModes⟩, ?_⟩
      · change inputs.modeCapabilities ≠ []
        rw [read.modeCapabilities]
        exact modes
      · change inputs.trafficMode ∈ inputs.modeCapabilities
        rw [read.modeCapabilities, read.trafficMode]
        exact read.permitted
    · exact nodes_checked (fun node member => (usable node member).2) unique
    · rw [decide_eq_false_iff_not, not_lt]
      change inputs.resources.length ≤ maxResources
      rw [read.resources]
      exact listed
    · simp only [Bool.or_eq_false_iff, hasDuplicates, Bool.not_eq_false', decide_eq_true_eq,
        List.isEmpty_eq_false_iff, decide_eq_false_iff_not, not_lt]
      exact ⟨⟨exclusions, excluded⟩, distinct⟩
    · rw [Bool.not_eq_false']
      exact texts
    · rw [Bool.or_eq_false_iff, Bool.not_eq_false', List.any_eq_true]
      exact ⟨(usable selected List.mem_cons_self).1, selected, List.mem_cons_self,
        decide_eq_true rfl⟩
    · rw [Bool.not_eq_false']
      change PolicyProjectionGlobalEgress.allowed
        ⟨decide (inputs.trafficMode = .global), selected.nodeId, dnsEgress inputs.trafficMode⟩
        inputs.trafficMode = true
      cases inputs.trafficMode with
      | policy => rfl
      | global => rfl
    · rw [Bool.not_eq_false']
      exact services.projectionSigner.named

end Assembled

/-- In every reachable plane, a grant for an active device passes its check exactly
    when no mode of the policy is listed twice, and the document assembled from it is
    signed exactly when the signer takes all that the policy lists. -/
theorem published_policy_signable_iff (services : ClientServices) (accounts : Accounts)
    (topology : Topology) (calls : List PlaneCall)
    (readsBack : ∀ envelope bytes, services.codec.grantEnvelopeBytes envelope = some bytes →
      services.codec.readGrantEnvelope bytes = some envelope)
    (writes : ∀ projection, (services.codec.projectionBytes projection).isSome = true) :
    (∀ request inputs grantId generation,
      deviceByWireId (services.reached accounts topology calls).clients request.device.scope
        request.device.deviceId = .ok (some (.active request.device)) →
      services.issuance.gatherInputs (services.reached accounts topology calls) request =
        .ok inputs →
      (∀ node ∈ inputs.nodes, isValidServerName node.serverName = true) →
      isNil grantId = false →
      (services.reached accounts topology calls).clients.nextGrantGeneration
        request.device.scope.tenantId request.device.recordId = .ok generation →
      (({ inputs.payload request.device grantId generation with
          signingKeyId := services.grantSigner.keyId } : ClientGrantPayloadV1).validate = .ok () ↔
        inputs.snapshot.policy.modeCapabilities.Nodup)) ∧
    ∀ device stamp snapshot inputs projection,
      deviceByWireId (services.reached accounts topology calls).clients device.scope
        device.deviceId = .ok (some (.active device)) →
      authorizationSnapshot services.codec.toClientCodec (services.reached accounts topology calls)
        device.scope device.recordId = .ok (some snapshot) →
      services.projections.gatherInputs (services.reached accounts topology calls) device
        stamp.issuedAt = .ok inputs →
      0 < stamp.issuedAt → isNil stamp.projectionId = false →
      (services.reached accounts topology calls).clients.nextProjectionGeneration
        device.scope.tenantId device.recordId = .ok stamp.generation →
      inputs.assemble device stamp = .ok projection →
      ((∃ signed, services.projectionSigner.sign services.codec.toEnvelopeCodec projection =
          .ok signed) ↔ snapshot.policy.Signable) := by
  constructor
  · intro request inputs grantId generation active gathered named drawn next
    rw [ClientStore.nextGrantGeneration, unit_bind_ok] at next
    simp only [unit_bind_ok, pure_ok] at next
    obtain ⟨-, counted, rfl⟩ := next
    rw [reject_ok, Bool.or_eq_false_iff, decide_eq_false_iff_not] at counted
    exact payload_valid_iff (ClientIssuance.gatherInputs_ok gathered) named
      (deviceByWireId_valid active) drawn counted.1 services.grantSigner
  · intro device stamp snapshot inputs projection active authorized gathered started drawn next
      assembled
    rw [ClientStore.nextProjectionGeneration, unit_bind_ok] at next
    simp only [unit_bind_ok, pure_ok] at next
    obtain ⟨-, counted, generation⟩ := next
    rw [generation, reject_ok, Bool.or_eq_false_iff, decide_eq_false_iff_not] at counted
    obtain ⟨other, read⟩ := ClientProjectionService.gatherInputs_ok gathered
    have same : (some other : Option ClientAuthorizationSnapshot) = some snapshot :=
      Except.ok.inj (read.authorized.symm.trans authorized)
    obtain rfl := Option.some.inj same
    obtain ⟨now, -, held⟩ := read.held
    obtain ⟨row, member, stored⟩ := activeGrant_ok held
    have issued := run_issued services accounts topology calls inputs.grant
      (List.mem_map.mpr ⟨row, member, stored⟩)
    rw [← projection_valid_iff read issued readsBack (deviceByWireId_valid active) drawn counted.1
      started assembled]
    constructor
    · rintro ⟨signed, done⟩
      exact (sign_ok.mp done).1
    · intro valid
      obtain ⟨canonical, written⟩ := Option.isSome_iff_exists.mp (writes
        { projection with signingKeyId := services.projectionSigner.keyId })
      exact ⟨_, sign_ok.mpr ⟨valid, canonical, written, rfl⟩⟩

def readableServices : ClientServices where
  codec :=
    { terminalCodec with
      grantEnvelopeBytes := fun envelope =>
        if terminalEnvelopes.any fun known => decide (known.2 = envelope) then some envelope.json
        else none }
  grantSigner := terminalServices.grantSigner
  projectionSigner := terminalServices.projectionSigner

theorem table_readsBack (table : List (Nat × ClientGrantEnvelopeV1))
    (read : Bytes → Option ClientGrantEnvelopeV1)
    (known : ∀ entry ∈ table, read entry.2.json = some entry.2) {bytes : Bytes}
    (written : (if table.any (fun entry => decide (entry.2 = envelope)) then some envelope.json
      else none) = some bytes) :
    read bytes = some envelope := by
  simp only [Option.ite_none_right_eq_some, Option.some.injEq, List.any_eq_true,
    decide_eq_true_eq] at written
  obtain ⟨⟨entry, member, rfl⟩, rfl⟩ := written
  exact known entry member

theorem readable_scenario :
    (∀ entry ∈ terminalEnvelopes,
      terminalEnvelopes.lookup (byteSum entry.2.json) = some entry.2) ∧
    deviceByWireId (readableServices.reached terminalAccounts terminalTopology
        (terminalCalls.take 4)).clients ⟨1, 2, 3⟩ 4 =
      .ok (some (.active (terminalDevice .policy))) ∧
    (readableServices.reached terminalAccounts terminalTopology
        (terminalCalls.take 4)).clients.nextGrantGeneration 2 7 = .ok 1 ∧
    (readableServices.issuance.gatherInputs
      (readableServices.reached terminalAccounts terminalTopology (terminalCalls.take 4))
      (terminalGrant 51 0)).toOption.any (fun inputs =>
        inputs.nodes.all fun node => isValidServerName node.serverName) = true ∧
    deviceByWireId (readableServices.reached terminalAccounts terminalTopology
        (terminalCalls.take 5)).clients ⟨1, 2, 3⟩ 4 =
      .ok (some (.active (terminalDevice .policy))) ∧
    (readableServices.reached terminalAccounts terminalTopology
        (terminalCalls.take 5)).clients.nextProjectionGeneration 2 7 = .ok 1 ∧
    (authorizationSnapshot readableServices.codec.toClientCodec
      (readableServices.reached terminalAccounts terminalTopology (terminalCalls.take 5))
      ⟨1, 2, 3⟩ 7).toOption.any (fun snapshot => snapshot.any fun _ => true) = true ∧
    (readableServices.projections.gatherInputs
      (readableServices.reached terminalAccounts terminalTopology (terminalCalls.take 5))
      (terminalDevice .policy) 1700000060).toOption.any (fun inputs =>
        (inputs.assemble (terminalDevice .policy) ⟨92, 1, 1700000060⟩).isOk) = true := by
  decide +kernel

theorem readableServices_readsBack :
    ∀ envelope bytes, readableServices.codec.grantEnvelopeBytes envelope = some bytes →
      readableServices.codec.readGrantEnvelope bytes = some envelope := by
  intro envelope bytes written
  exact table_readsBack terminalEnvelopes
    (fun bytes => terminalEnvelopes.lookup (byteSum bytes)) readable_scenario.1 written

theorem wiki_policy_signable :
    (∃ inputs, readableServices.issuance.gatherInputs
        (readableServices.reached terminalAccounts terminalTopology (terminalCalls.take 4))
        (terminalGrant 51 0) = .ok inputs ∧
      (({ inputs.payload (terminalDevice .policy) 91 1 with
          signingKeyId := readableServices.grantSigner.keyId } :
        ClientGrantPayloadV1).validate = .ok () ↔ inputs.snapshot.policy.modeCapabilities.Nodup)) ∧
    ∃ snapshot inputs projection,
      authorizationSnapshot readableServices.codec.toClientCodec
        (readableServices.reached terminalAccounts terminalTopology (terminalCalls.take 5))
        ⟨1, 2, 3⟩ 7 = .ok (some snapshot) ∧
      readableServices.projections.gatherInputs
        (readableServices.reached terminalAccounts terminalTopology (terminalCalls.take 5))
        (terminalDevice .policy) 1700000060 = .ok inputs ∧
      inputs.assemble (terminalDevice .policy) ⟨92, 1, 1700000060⟩ = .ok projection ∧
      ((∃ signed, readableServices.projectionSigner.sign
          readableServices.codec.toEnvelopeCodec projection = .ok signed) ↔
        snapshot.policy.Signable) := by
  obtain ⟨-, grantee, grantGeneration, granted, device, projectionGeneration, authorized,
    polled⟩ := readable_scenario
  constructor
  · obtain ⟨inputs, gathered, named⟩ := ok_of_any granted
    have facts := published_policy_signable_iff readableServices terminalAccounts terminalTopology
      (terminalCalls.take 4) readableServices_readsBack (fun _ => rfl)
    exact ⟨inputs, gathered, facts.1 (terminalGrant 51 0) inputs 91 1 grantee gathered
      (List.all_eq_true.mp named) rfl grantGeneration⟩
  · obtain ⟨found, read, some⟩ := ok_of_any authorized
    obtain ⟨inputs, gathered, assembles⟩ := ok_of_any polled
    obtain ⟨projection, assembled⟩ := isOk_iff.mp assembles
    cases found with
    | none => cases some
    | some snapshot =>
        have facts := published_policy_signable_iff readableServices terminalAccounts
          terminalTopology (terminalCalls.take 5) readableServices_readsBack (fun _ => rfl)
        exact ⟨snapshot, inputs, projection, read, gathered, assembled,
          facts.2 (terminalDevice .policy) ⟨92, 1, 1700000060⟩ snapshot inputs projection device
            read gathered (by decide) rfl projectionGeneration assembled⟩

def repeatedPolicy : ClientAccessPolicy :=
  { terminalPolicy 31 1 false with modeCapabilities := [.policy, .policy] }

def repeatedServices : ClientServices where
  codec :=
    { terminalCodec with
      sha256 := fun bytes =>
        ((terminalDigests ++
          [(23899, 0x8d5c2a775cfd26e9acf23d1faff00243b2f1901a2c1c3e5c043660812b37e21b),
            (27607, 0x9c3f300b8c6dbae85857e72fea17382d16e17ee27743059d04f95fec5632cbf2)]).lookup
          (byteSum bytes)).getD 0 }
  grantSigner := terminalServices.grantSigner
  projectionSigner := terminalServices.projectionSigner

def repeatedCalls : List PlaneCall :=
  terminalCalls.take 1 ++ [.publishPolicy ⟨repeatedPolicy, 1, 3, 42⟩, terminalBinding 31 43]

theorem repeated_grant :
    repeatedPolicy.validate = .ok () ∧
    (repeatedServices.issuance.gatherInputs
      (repeatedServices.reached terminalAccounts terminalTopology repeatedCalls)
      (terminalGrant 51 0)).toOption.any (fun inputs =>
        decide (inputs.snapshot.policy = repeatedPolicy) &&
        (inputs.nodes.all fun node => isValidServerName node.serverName) &&
        decide (({ inputs.payload (terminalDevice .policy) 91 1 with
          signingKeyId := repeatedServices.grantSigner.keyId } :
            ClientGrantPayloadV1).validate = .error .invalidPayload)) = true := by
  decide +kernel

/-- The policy is published and bound, and no grant can be signed under it. -/
theorem repeated_mode_unsignable :
    repeatedPolicy.validate = .ok () ∧
    ∃ inputs, repeatedServices.issuance.gatherInputs
        (repeatedServices.reached terminalAccounts terminalTopology repeatedCalls)
        (terminalGrant 51 0) = .ok inputs ∧
      inputs.snapshot.policy = repeatedPolicy ∧
      (∀ node ∈ inputs.nodes, isValidServerName node.serverName = true) ∧
      ({ inputs.payload (terminalDevice .policy) 91 1 with
          signingKeyId := repeatedServices.grantSigner.keyId } :
        ClientGrantPayloadV1).validate = .error .invalidPayload := by
  obtain ⟨accepted, granted⟩ := repeated_grant
  constructor
  · exact accepted
  · obtain ⟨inputs, gathered, facts⟩ := ok_of_any granted
    simp only [Bool.and_eq_true, decide_eq_true_eq, List.all_eq_true] at facts
    obtain ⟨⟨read, named⟩, refused⟩ := facts
    exact ⟨inputs, gathered, read, named, refused⟩

end CandyCloud
