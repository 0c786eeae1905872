import CandyCloud.Enrollment.CertificateRows
import CandyCloud.Foundation.Chain

/-! # The certificates of a device key

The certificates of a key stand in the order they were issued. Enrollment issues
the first, every later one came from renewing the one before it, and only the
last can be active.
-/

namespace CandyCloud

open Foundation

namespace CertificateStore

variable (store : CertificateStore)

def certificatesOf (key : Uuid) : List DeviceCertificateRow :=
  store.enrollment.certificates.filter (·.deviceKeyId == key)

def renewalsOf (key : Uuid) : List CertificateRenewalRow :=
  store.renewals.filter (·.scope.deviceKeyId == key)

def linksOf (key : Uuid) : List (Uuid × Uuid) :=
  (store.renewalsOf key).map fun row => (row.previousCertificateId, row.certificateId)

/-- The first certificate was issued with the device. -/
def enrolled (certificate : DeviceCertificateRow) : Prop :=
  ∃ challenge ∈ store.enrollment.challenges, challenge.status = .issued ∧
    challenge.certificateId = some certificate.id ∧
    challenge.deviceId = some certificate.deviceId

end CertificateStore

variable {codec : EnrollmentCodec}

/-- Devices, keys and certificates belong together. -/
structure CertificateRows (store : EnrollmentStore) : Prop where
  deviceIds : store.topology.deviceIds.Nodup
  ids : (store.certificates.map (·.id)).Nodup
  owned : ∀ row ∈ store.certificates, (row.deviceKeyId, row.deviceId) ∈ store.topology.keyOwners
  placed : ∀ row ∈ store.certificates,
    ∃ status, (row.deviceId, row.tenantId, status) ∈ store.topology.deviceStates
  scopes : ∀ a ∈ store.certificates, ∀ b ∈ store.certificates,
    a.deviceId = b.deviceId ∨ a.deviceKeyId = b.deviceKeyId → a.scope = b.scope
  revoked : ∀ state ∈ store.topology.deviceStates, state.2.2 = .revoked →
    ∀ row ∈ store.certificates, row.deviceId = state.1 → row.status ≠ .active

structure RenewalRows (codec : EnrollmentCodec) (store : CertificateStore) : Prop where
  requests :
    (store.renewals.map fun row => (row.scope.deviceId, codec.collate row.requestId)).Nodup
  previous : (store.renewals.map (·.previousCertificateId)).Nodup
  results : (store.renewals.map (·.certificateId)).Nodup
  issued : ∀ row ∈ store.renewals, ∃ certificate ∈ store.enrollment.certificates,
    certificate.id = row.certificateId ∧ certificate.scope = row.scope

/-- The renewals of a key link its certificates in order, from the enrollment
    certificate on, and only the last certificate can be active. -/
structure CertificateChain (store : CertificateStore) (key : Uuid) : Prop where
  links : store.linksOf key = successions ((store.certificatesOf key).map (·.id))
  closed : ∀ row ∈ (store.certificatesOf key).dropLast, row.status ≠ .active
  origin : ∀ row, (store.certificatesOf key).head? = some row → store.enrolled row

structure CertificateInvariant (codec : EnrollmentCodec) (store : CertificateStore) : Prop where
  unproved : ∀ row ∈ store.enrollment.challenges, row.status ≠ .proved
  rows : CertificateRows store.enrollment
  renewals : RenewalRows codec store
  chain : ∀ key, CertificateChain store key

/-- A certificate is added behind the others, which are at most superseded. -/
structure CertificateAdded (store : EnrollmentStore)
    (set : DeviceCertificateRow → DeviceCertificateRow) (row : DeviceCertificateRow)
    (store' : EnrollmentStore) : Prop where
  supersedes : OnlySupersedes set
  certificates : store'.certificates = store.certificates.map set ++ [row]
  fresh : ∀ old ∈ store.certificates, old.id ≠ row.id
  keys : store.topology.keyOwners ⊆ store'.topology.keyOwners
  owner : (row.deviceKeyId, row.deviceId) ∈ store'.topology.keyOwners
  places : ∀ id tenantId, (∃ status, (id, tenantId, status) ∈ store.topology.deviceStates) →
    ∃ status, (id, tenantId, status) ∈ store'.topology.deviceStates
  place : ∃ status, (row.deviceId, row.tenantId, status) ∈ store'.topology.deviceStates
  scope : ∀ old ∈ store.certificates,
    old.deviceId = row.deviceId ∨ old.deviceKeyId = row.deviceKeyId → old.scope = row.scope
  challenges : ∀ challenge ∈ store.challenges, challenge.status = .issued →
    challenge ∈ store'.challenges

variable {old : DeviceCertificateRow} {key : Uuid} {before after : EnrollmentStore}
  {call : EnrollmentCall} {answer : EnrollmentAnswer}

namespace CertificateAdded

variable {store store' : CertificateStore} {set : DeviceCertificateRow → DeviceCertificateRow}
  {row : DeviceCertificateRow} (added : CertificateAdded store.enrollment set row store'.enrollment)
include added

theorem cases {after : DeviceCertificateRow} (member : after ∈ store'.enrollment.certificates) :
    (∃ old ∈ store.enrollment.certificates, after = set old) ∨ after = row := by
  rw [added.certificates] at member
  rcases mem_concat.mp member with member | member
  · obtain ⟨old, stored, rfl⟩ := List.mem_map.mp member
    exact .inl ⟨old, stored, rfl⟩
  · exact .inr member

theorem mem_set (member : old ∈ store.enrollment.certificates) :
    set old ∈ store'.enrollment.certificates := by
  rw [added.certificates]
  exact List.mem_append_left _ (List.mem_map_of_mem member)

theorem rows (inv : CertificateRows store.enrollment)
    (deviceIds : store'.enrollment.topology.deviceIds.Nodup)
    (revoked : ∀ state ∈ store'.enrollment.topology.deviceStates, state.2.2 = .revoked →
      ∀ row ∈ store'.enrollment.certificates, row.deviceId = state.1 → row.status ≠ .active) :
    CertificateRows store'.enrollment := by
  have old_scope : ∀ old, (set old).scope = old.scope := added.supersedes.scope
  have device : ∀ {a b : DeviceCertificateRow}, a.scope = b.scope → a.deviceId = b.deviceId :=
    fun same => congrArg (·.deviceId) same
  have key : ∀ {a b : DeviceCertificateRow}, a.scope = b.scope → a.deviceKeyId = b.deviceKeyId :=
    fun same => congrArg (·.deviceKeyId) same
  refine ⟨deviceIds, ?_, ?_, ?_, ?_, revoked⟩
  · rw [added.certificates]
    refine nodup_concat_key ?_ ?_
    · rw [added.supersedes.map_id]
      exact inv.ids
    · intro after member same
      obtain ⟨old, stored, rfl⟩ := List.mem_map.mp member
      exact added.fresh old stored ((added.supersedes.id old).symm.trans same.symm)
  · intro after member
    rcases added.cases member with ⟨old, stored, rfl⟩ | rfl
    · rw [key (old_scope old), device (old_scope old)]
      exact added.keys (inv.owned old stored)
    · exact added.owner
  · intro after member
    rcases added.cases member with ⟨old, stored, rfl⟩ | rfl
    · rw [device (old_scope old), show (set old).tenantId = old.tenantId from
        congrArg (·.tenantId) (old_scope old)]
      exact added.places _ _ (inv.placed old stored)
    · exact added.place
  · intro a memberA b memberB shared
    rcases added.cases memberA with ⟨oldA, storedA, rfl⟩ | rfl
    · rw [old_scope oldA]
      rw [device (old_scope oldA), key (old_scope oldA)] at shared
      rcases added.cases memberB with ⟨oldB, storedB, rfl⟩ | rfl
      · rw [old_scope oldB]
        rw [device (old_scope oldB), key (old_scope oldB)] at shared
        exact inv.scopes oldA storedA oldB storedB shared
      · exact added.scope oldA storedA shared
    · rcases added.cases memberB with ⟨oldB, storedB, rfl⟩ | rfl
      · rw [old_scope oldB]
        rw [device (old_scope oldB), key (old_scope oldB)] at shared
        exact (added.scope oldB storedB (shared.imp Eq.symm Eq.symm)).symm
      · rfl

theorem certificatesOf (key : Uuid) : store'.certificatesOf key =
      (store.certificatesOf key).map set ++ [row].filter (·.deviceKeyId == key) := by
  rw [CertificateStore.certificatesOf, added.certificates, List.filter_append,
    added.supersedes.filter_key]
  rfl

theorem enrolled (was : store.enrolled old) : store'.enrolled (set old) := by
  obtain ⟨challenge, member, issued, certificate, device⟩ := was
  refine ⟨challenge, added.challenges challenge member issued, issued, ?_, ?_⟩
  · rw [added.supersedes.id]
    exact certificate
  · rw [show (set old).deviceId = old.deviceId from congrArg (·.deviceId) (added.supersedes.scope old)]
    exact device

theorem chain_other (other : row.deviceKeyId ≠ key) (links : store'.linksOf key = store.linksOf key)
    (chain : CertificateChain store key) : CertificateChain store' key := by
  have same : store'.certificatesOf key = (store.certificatesOf key).map set := by
    rw [added.certificatesOf, List.filter_cons_of_neg (by simpa using other), List.filter_nil,
      List.append_nil]
  constructor
  · rw [links, same, added.supersedes.map_id]
    exact chain.links
  · intro after member active
    rw [same, ← List.map_dropLast] at member
    obtain ⟨old, stored, rfl⟩ := List.mem_map.mp member
    exact chain.closed old stored (added.supersedes.active old active)
  · intro after head
    rw [same, List.head?_map] at head
    obtain ⟨old, first, rfl⟩ := Option.map_eq_some_iff.mp head
    exact added.enrolled (chain.origin old first)

theorem chain_first (none : store.certificatesOf row.deviceKeyId = [])
    (links : store'.linksOf row.deviceKeyId = [])
    (origin : store'.enrolled row) : CertificateChain store' row.deviceKeyId := by
  have sole : store'.certificatesOf row.deviceKeyId = [row] := by
    rw [added.certificatesOf, none, List.filter_cons_of_pos (by simp)]
    rfl
  constructor
  · rw [links, sole]
    rfl
  · intro after member
    rw [sole] at member
    cases member
  · intro after head
    rw [sole] at head
    cases head
    exact origin

theorem chain_next {before : List DeviceCertificateRow} {last : DeviceCertificateRow}
    (split : store.certificatesOf row.deviceKeyId = before ++ [last])
    (superseded : (set last).status ≠ .active)
    (links : store'.linksOf row.deviceKeyId = store.linksOf row.deviceKeyId ++ [(last.id, row.id)])
    (chain : CertificateChain store row.deviceKeyId) :
    CertificateChain store' row.deviceKeyId := by
  have next : store'.certificatesOf row.deviceKeyId =
      (store.certificatesOf row.deviceKeyId).map set ++ [row] := by
    rw [added.certificatesOf, List.filter_cons_of_pos (by simp)]
    rfl
  constructor
  · rw [links, next, List.map_append, added.supersedes.map_id, chain.links, split, List.map_append]
    exact (successions_concat (before.map (·.id)) last.id row.id).symm
  · intro after member active
    rw [next, List.dropLast_concat] at member
    obtain ⟨old, stored, rfl⟩ := List.mem_map.mp member
    rw [split] at stored
    rcases mem_concat.mp stored with stored | rfl
    · have earlier : old ∈ (store.certificatesOf row.deviceKeyId).dropLast := by
        rw [split, List.dropLast_concat]
        exact stored
      exact chain.closed old earlier (added.supersedes.active old active)
    · exact superseded active
  · intro after head
    rw [next, split] at head
    have first : ((before ++ [last]).map set).head? = some after := by
      cases before with
      | nil => exact head
      | cons old rest => exact head
    rw [List.head?_map] at first
    obtain ⟨old, oldest, rfl⟩ := Option.map_eq_some_iff.mp first
    exact added.enrolled (chain.origin old (by rw [split]; exact oldest))

end CertificateAdded

theorem deviceIds_states (topology : Topology) :
    topology.deviceIds = topology.deviceStates.map (·.1) := by
  rw [Topology.deviceIds, Topology.deviceStates, List.map_map]
  rfl

theorem retire_id (gone : ReplacedIdentity) (state : Uuid × Uuid × DeviceStatus) :
    (retire gone state).1 = state.1 ∧ (retire gone state).2.1 = state.2.1 := by
  unfold retire
  split
  · exact ⟨rfl, rfl⟩
  · exact ⟨rfl, rfl⟩

theorem retire_revoked {gone : ReplacedIdentity} {state : Uuid × Uuid × DeviceStatus}
    (revoked : (retire gone state).2.2 = .revoked) :
    state.2.2 = .revoked ∨ gone = some (state.2.1, state.1) := by
  unfold retire at revoked
  split at revoked
  · rename_i chosen
    exact .inr (beq_iff_eq.mp (Bool.and_eq_true_iff.mp chosen).1)
  · exact .inl revoked

def retiredCertificate (gone : ReplacedIdentity) (instant : Instant) (row : DeviceCertificateRow) :
    DeviceCertificateRow :=
  if retires gone row then { row with status := .superseded, revokedAt := some instant } else row

theorem retired_supersedes (gone : ReplacedIdentity) (instant : Instant) :
    OnlySupersedes (retiredCertificate gone instant) :=
  onlySupersedes_updateWhere (retires gone) instant

theorem retired_active {gone : ReplacedIdentity} {instant : Instant} {row : DeviceCertificateRow}
    (active : (retiredCertificate gone instant row).status = .active) :
    row.status = .active ∧ gone ≠ some (row.tenantId, row.deviceId) := by
  have was := (retired_supersedes gone instant).active row active
  refine ⟨was, ?_⟩
  intro same
  have chosen : retires gone row = true := by
    rw [retires, same, was, beq_self_eq_true, beq_self_eq_true, Bool.and_self]
  rw [retiredCertificate, chosen] at active
  cases active

namespace IdentityIssued

variable {store store' : CertificateStore} {write : EnrollmentCompletionWrite}
  {challenge : EnrollmentChallengeRow} {gone : ReplacedIdentity}
  (issued : IdentityIssued store.enrollment write challenge gone store'.enrollment)
  (inv : CertificateRows store.enrollment)
include issued inv

theorem deviceIds : store'.enrollment.topology.deviceIds.Nodup := by
  have grown : store'.enrollment.topology.deviceIds =
      store.enrollment.topology.deviceIds ++ [write.deviceRecordId] := by
    rw [deviceIds_states, issued.states, List.map_map, deviceIds_states]
    have same : ((·.1) ∘ retire gone : Uuid × Uuid × DeviceStatus → Uuid) = (·.1) :=
      funext fun state => (retire_id gone state).1
    rw [same, List.map_append]
    rfl
  rw [grown, List.nodup_append]
  refine ⟨inv.deviceIds, List.nodup_singleton _, ?_⟩
  intro a member b single same
  rw [List.mem_singleton.mp single] at same
  exact issued.freshDevice (same ▸ member)

theorem freshOwner (member : old ∈ store.enrollment.certificates) :
    old.deviceId ≠ write.deviceRecordId ∧ old.deviceKeyId ≠ write.keyRecordId := by
  constructor
  · intro same
    obtain ⟨status, placed⟩ := inv.placed old member
    refine issued.freshDevice ?_
    rw [deviceIds_states, ← same]
    exact List.mem_map_of_mem (f := fun state : Uuid × Uuid × DeviceStatus => state.1) placed
  · exact issued.freshKey _ (inv.owned old member)

theorem added (tenant : challenge.tenantId = write.tenantId)
    (challenges : ∀ row ∈ store.enrollment.challenges, row.status = .issued →
      row ∈ store'.enrollment.challenges) :
    CertificateAdded store.enrollment (retiredCertificate gone write.issuedAt)
      (retiredCertificate gone write.issuedAt (write.certificate challenge.assuranceLevel))
      store'.enrollment := by
  have supersedes := retired_supersedes gone write.issuedAt
  have scope := supersedes.scope (write.certificate challenge.assuranceLevel)
  have key := congrArg CertificateRenewalScope.deviceKeyId scope
  have device := congrArg CertificateRenewalScope.deviceId scope
  have place := congrArg CertificateRenewalScope.tenantId scope
  simp only [DeviceCertificateRow.scope] at key device place
  refine ⟨supersedes, ?_, ?_, ?_, ?_, ?_, ?_, ?_, challenges⟩
  · rw [issued.certificates, updateWhere, List.map_append]
    rfl
  · intro old member
    rw [supersedes.id]
    exact issued.freshCertificate old member
  · rw [issued.keys]
    exact List.subset_append_left _ _
  · rw [issued.keys, key, device]
    exact List.mem_concat_self
  · intro id tenantId placed
    obtain ⟨status, member⟩ := placed
    have kept := retire_id gone (id, tenantId, status)
    refine ⟨(retire gone (id, tenantId, status)).2.2, ?_⟩
    rw [issued.states]
    refine List.mem_map.mpr ⟨_, List.mem_append_left _ member, ?_⟩
    exact Prod.ext kept.1 (Prod.ext kept.2 rfl)
  · have kept := retire_id gone (write.deviceRecordId, challenge.tenantId, .active)
    refine ⟨(retire gone (write.deviceRecordId, challenge.tenantId, .active)).2.2, ?_⟩
    rw [issued.states, device, place]
    refine List.mem_map.mpr ⟨_, List.mem_concat_self, ?_⟩
    exact Prod.ext kept.1 (Prod.ext (kept.2.trans tenant) rfl)
  · intro old member shared
    rw [device, key] at shared
    have fresh := issued.freshOwner inv member
    rcases shared with same | same
    · exact absurd same fresh.1
    · exact absurd same fresh.2

/-- Whoever is revoked holds no active certificate: the replaced identity loses
    its certificates with its device. -/
theorem revoked (tenant : challenge.tenantId = write.tenantId) :
    ∀ state ∈ store'.enrollment.topology.deviceStates, state.2.2 = .revoked →
      ∀ row ∈ store'.enrollment.certificates, row.deviceId = state.1 → row.status ≠ .active := by
  intro after member revoked row stored device active
  rw [issued.states] at member
  obtain ⟨state, listed, rfl⟩ := List.mem_map.mp member
  rw [issued.certificates] at stored
  obtain ⟨old, present, same⟩ := mem_updateWhere.mp stored
  have set : retiredCertificate gone write.issuedAt old = row := same
  subst set
  obtain ⟨was, kept⟩ := retired_active active
  rw [(retire_id gone state).1, show (retiredCertificate gone write.issuedAt old).deviceId =
    old.deviceId from congrArg (·.deviceId)
      ((retired_supersedes gone write.issuedAt).scope old)] at device
  -- the place of the certificate among the devices, the new one included
  have placed : ∃ status, (old.deviceId, old.tenantId, status) ∈
      store.enrollment.topology.deviceStates ++
        [(write.deviceRecordId, challenge.tenantId, DeviceStatus.active)] := by
    rcases mem_concat.mp present with present | rfl
    · obtain ⟨status, place⟩ := inv.placed old present
      exact ⟨status, List.mem_append_left _ place⟩
    · refine ⟨.active, List.mem_append_right _ ?_⟩
      rw [tenant]
      exact List.mem_cons_self
  rcases retire_revoked revoked with before | replaced
  · rcases mem_concat.mp listed with listed | rfl
    · rcases mem_concat.mp present with present | rfl
      · exact inv.revoked state listed before old present device was
      · refine issued.freshDevice ?_
        rw [deviceIds_states, show write.deviceRecordId = state.1 from device]
        exact List.mem_map_of_mem (f := fun state : Uuid × Uuid × DeviceStatus => state.1) listed
    · cases before
  · obtain ⟨status, place⟩ := placed
    have distinct : ((store.enrollment.topology.deviceStates ++
        [(write.deviceRecordId, challenge.tenantId, DeviceStatus.active)]).map (·.1)).Nodup := by
      have nodup := issued.deviceIds inv
      rw [deviceIds_states, issued.states, List.map_map] at nodup
      have fst : ((·.1) ∘ retire gone : Uuid × Uuid × DeviceStatus → Uuid) = (·.1) :=
        funext fun state => (retire_id gone state).1
      rwa [fst] at nodup
    have whole := eq_of_key distinct listed place device.symm
    rw [whole] at replaced
    exact kept replaced

end IdentityIssued

section Steps

variable {store store' : CertificateStore}

theorem EnrollmentChange.unproved (change : EnrollmentChange codec before call answer after)
    (unproved : ∀ row ∈ before.challenges, row.status ≠ .proved) :
    ∀ row ∈ after.challenges, row.status ≠ .proved := by
  cases change with
  | quiet | inserted | bound | revoked | elsewhere => exact unproved
  | reserved found usable unique =>
      intro row member proved
      rcases mem_concat.mp member with member | rfl
      · exact unproved row member proved
      · cases proved
  | issued found known organization tenant challenged reserved timely valid written =>
      intro row member proved
      rw [written.challenges] at member
      obtain ⟨old, stored, rfl⟩ := mem_updateWhere.mp member
      split at proved
      · cases proved
      · exact unproved old stored proved
  | expired =>
      intro row member proved
      obtain ⟨old, stored, rfl⟩ := mem_updateWhere.mp member
      split at proved
      · cases proved
      · exact unproved old stored proved

theorem EnrollmentChange.issued_kept (change : EnrollmentChange codec before call answer after) :
    ∀ row ∈ before.challenges, row.status = .issued → row ∈ after.challenges := by
  intro row member issued
  obtain ⟨row', stored, kept⟩ := change.challengesKept.onward row member
  exact kept.issued issued ▸ stored

/-- Tables the certificates live in that a change leaves alone. -/
structure SameIdentityRows (before after : EnrollmentStore) : Prop where
  states : after.topology.deviceStates = before.topology.deviceStates
  keys : after.topology.keyOwners = before.topology.keyOwners
  certificates : after.certificates = before.certificates

theorem SameIdentityRows.rows (same : SameIdentityRows before after)
    (inv : CertificateRows before) :
    CertificateRows after := by
  refine ⟨?_, ?_, ?_, ?_, ?_, ?_⟩
  · rw [deviceIds_states, same.states, ← deviceIds_states]
    exact inv.deviceIds
  · rw [same.certificates]
    exact inv.ids
  · rw [same.certificates, same.keys]
    exact inv.owned
  · rw [same.certificates, same.states]
    exact inv.placed
  · rw [same.certificates]
    exact inv.scopes
  · rw [same.certificates, same.states]
    exact inv.revoked

theorem EnrollmentChange.sameIdentityRows (change : EnrollmentChange codec before call answer after)
    (keeps : call.keepsDevices before = true)
    (unissued : ∀ record, answer ≠ .completion (.issued record)) :
    SameIdentityRows before after := by
  cases change with
  | quiet | inserted | bound | reserved | revoked | expired => exact ⟨rfl, rfl, rfl⟩
  | issued => exact absurd rfl (unissued _)
  | elsewhere same => exact ⟨beq_iff_eq.mp keeps, same.keys, rfl⟩

theorem linksOf_issued (inv : RenewalRows codec store) (none : store.certificatesOf key = [])
    : store.linksOf key = [] := by
  rw [CertificateStore.linksOf, List.map_eq_nil_iff, CertificateStore.renewalsOf,
    List.filter_eq_nil_iff]
  intro row member same
  obtain ⟨certificate, stored, -, scope⟩ := inv.issued row member
  have listed : certificate ∈ store.certificatesOf key := by
    refine List.mem_filter.mpr ⟨stored, ?_⟩
    rw [show certificate.deviceKeyId = row.scope.deviceKeyId from congrArg (·.deviceKeyId) scope]
    exact same
  rw [none] at listed
  cases listed

variable {row : DeviceCertificateRow}

theorem CertificateAdded.renewals {set : DeviceCertificateRow → DeviceCertificateRow}
    (added : CertificateAdded store.enrollment set row store'.enrollment)
    (same : store'.renewals = store.renewals) (inv : RenewalRows codec store) :
    RenewalRows codec store' := by
  refine ⟨?_, ?_, ?_, ?_⟩
  · rw [same]
    exact inv.requests
  · rw [same]
    exact inv.previous
  · rw [same]
    exact inv.results
  · intro renewal member
    rw [same] at member
    obtain ⟨certificate, stored, named, scope⟩ := inv.issued renewal member
    exact ⟨set certificate, added.mem_set stored, (added.supersedes.id certificate).trans named,
      (added.supersedes.scope certificate).trans scope⟩

theorem IdentityIssued.invariant {write : EnrollmentCompletionWrite}
    {challenge : EnrollmentChallengeRow} {gone : ReplacedIdentity}
    (issued : IdentityIssued store.enrollment write challenge gone store'.enrollment)
    (inv : CertificateInvariant codec store) (tenant : challenge.tenantId = write.tenantId)
    (unproved : ∀ row ∈ store'.enrollment.challenges, row.status ≠ .proved)
    (challenges : ∀ row ∈ store.enrollment.challenges, row.status = .issued →
      row ∈ store'.enrollment.challenges)
    (completed : challenge.issuedBy codec write ∈ store'.enrollment.challenges)
    (renewals : store'.renewals = store.renewals) : CertificateInvariant codec store' := by
  have added := issued.added inv.rows tenant challenges
  have supersedes := retired_supersedes gone write.issuedAt
  have scope := supersedes.scope (write.certificate challenge.assuranceLevel)
  have links : ∀ key, store'.linksOf key = store.linksOf key := by
    intro key
    rw [CertificateStore.linksOf, CertificateStore.linksOf, CertificateStore.renewalsOf, renewals]
    rfl
  have keyId : (retiredCertificate gone write.issuedAt
      (write.certificate challenge.assuranceLevel)).deviceKeyId = write.keyRecordId :=
    congrArg (·.deviceKeyId) scope
  refine ⟨unproved, added.rows inv.rows (issued.deviceIds inv.rows) (issued.revoked inv.rows tenant),
    added.renewals renewals inv.renewals, ?_⟩
  intro key
  by_cases own : key = write.keyRecordId
  · have none : store.certificatesOf key = [] := by
      rw [CertificateStore.certificatesOf, List.filter_eq_nil_iff]
      intro old member same
      exact (issued.freshOwner inv.rows member).2 ((beq_iff_eq.mp same).trans own)
    have first := added.chain_first (by rw [keyId, ← own]; exact none)
      (by rw [keyId, ← own, links]; exact linksOf_issued inv.renewals none) ?_
    · rw [own, ← keyId]
      exact first
    · refine ⟨_, completed, rfl, ?_, ?_⟩
      · rw [supersedes.id]
        rfl
      · rw [show (retiredCertificate gone write.issuedAt
          (write.certificate challenge.assuranceLevel)).deviceId = write.deviceRecordId from
            congrArg (·.deviceId) scope]
        rfl
  · exact added.chain_other (by rw [keyId]; exact Ne.symm own) (links key) (inv.chain key)

theorem completion_certificates (inv : CertificateInvariant codec store)
    {write : EnrollmentCompletionWrite} {fresh : Uuid → Uuid} {clock : Instant}
    {outcome : EnrollmentCompletionOutcome}
    (done : completeEnrollment codec store.enrollment write fresh clock = .ok (outcome, after)) :
    CertificateInvariant codec { store with enrollment := after } := by
  have change := completeEnrollment_change inv.unproved done
  rcases completeEnrollment_cases done with ⟨-, rfl⟩ | ⟨challenge, code, -, -, found, -, -, tenant,
    challenged, reserved, -, issues⟩
  · exact inv
  · obtain ⟨gone, issued⟩ := issueDevice_rows issues
    obtain ⟨challengeMem, challengeId, codeMem, codeId⟩ := challengeWithCode_some found
    have completed : Completed codec store.enrollment write challenge code after :=
      ⟨challengeMem, challengeId, codeMem, codeId, challenged, reserved, tenant,
        issueDevice_ok inv.unproved issues⟩
    have whole : IdentityIssued store.enrollment write challenge gone
        (CertificateStore.enrollment { store with enrollment := after }) := issued
    exact whole.invariant inv tenant (change.unproved inv.unproved) change.issued_kept
      completed.issued_mem rfl

theorem EnrollmentChange.unissued (change : EnrollmentChange codec before call answer after)
    (other : ∀ write fresh clock, call ≠ .complete write fresh clock)
    (record : EnrollmentCompletionRecord) : answer ≠ .completion (.issued record) := by
  cases change with
  | quiet silent =>
      intro same
      subst same
      cases silent
  | issued => exact absurd rfl (other _ _ _)
  | inserted | bound | reserved | revoked | expired | elsewhere =>
      intro same
      cases same

theorem SameIdentityRows.invariant (same : SameIdentityRows store.enrollment after)
    (inv : CertificateInvariant codec store)
    (unproved : ∀ row ∈ after.challenges, row.status ≠ .proved)
    (kept : ∀ row ∈ store.enrollment.challenges, row.status = .issued → row ∈ after.challenges) :
    CertificateInvariant codec { store with enrollment := after } := by
  refine ⟨unproved, same.rows inv.rows, ?_, ?_⟩
  · refine ⟨inv.renewals.requests, inv.renewals.previous, inv.renewals.results, ?_⟩
    rw [same.certificates]
    exact inv.renewals.issued
  · intro key
    have rows : CertificateStore.certificatesOf { store with enrollment := after } key =
        store.certificatesOf key := by
      rw [CertificateStore.certificatesOf, same.certificates]
      rfl
    refine ⟨?_, ?_, ?_⟩
    · rw [rows]
      exact (inv.chain key).links
    · rw [rows]
      exact (inv.chain key).closed
    · rw [rows]
      intro row first
      obtain ⟨challenge, member, issued, named⟩ := (inv.chain key).origin row first
      exact ⟨challenge, kept challenge member issued, issued, named⟩

theorem enrollmentStep_certificates (inv : CertificateInvariant codec store) (call : EnrollmentCall)
    (keeps : call.keepsDevices store.enrollment = true) :
    CertificateInvariant codec
      { store with enrollment := enrollmentStep codec store.enrollment call } := by
  rcases @enrollmentStep_change codec _ call inv.unproved with same | ⟨answer, answered, change⟩
  · rw [same]
    exact inv
  by_cases completes : ∃ write fresh clock, call = .complete write fresh clock
  · obtain ⟨write, fresh, clock, rfl⟩ := completes
    obtain ⟨⟨outcome, after⟩, finished, same⟩ := map_ok.mp answered
    rw [← (Prod.mk.inj same).2]
    exact completion_certificates inv finished
  · have unissued := change.unissued fun write fresh clock same =>
      completes ⟨write, fresh, clock, same⟩
    exact (change.sameIdentityRows keeps unissued).invariant inv (change.unproved inv.unproved)
      change.issued_kept

theorem current_row {write : CertificateRenewalWrite} (found : store.current write = some row)
    : row ∈ store.enrollment.certificates ∧
      row.scope = write.scope ∧ row.id = write.previousCertificateId ∧ row.status = .active ∧
      store.enrollment.topology.activeDevice row.tenantId (some row.deviceId) = true := by
  have tested := List.find?_some found
  simp only [EnrollmentStore.usableCertificate, Bool.and_eq_true, beq_iff_eq] at tested
  obtain ⟨⟨⟨⟨scope, named⟩, -⟩, -⟩, ⟨⟨⟨⟨⟨-, -⟩, device⟩, -⟩, active⟩, -⟩, -⟩ := tested
  exact ⟨List.mem_of_find?_eq_some found, scope, named, active, device⟩

theorem CertificateChain.active_last (chain : CertificateChain store key)
    (member : row ∈ store.certificatesOf key) (active : row.status = .active) :
    store.certificatesOf key = (store.certificatesOf key).dropLast ++ [row] := by
  have filled : store.certificatesOf key ≠ [] := List.ne_nil_of_mem member
  have split := List.dropLast_append_getLast filled
  rw [← split] at member
  rcases mem_concat.mp member with earlier | last
  · exact absurd active (chain.closed row earlier)
  · rw [last]
    exact split.symm

namespace Renewed

variable {write : CertificateRenewalWrite} {id : Uuid}
  (renewed : Renewed codec store write id store')

include renewed

theorem certificatesEq :
    store'.enrollment.certificates =
      store.enrollment.certificates.map write.supersede ++ [write.certificate] := by
  rw [renewed.certificates]

theorem topology : store'.enrollment.topology = store.enrollment.topology := by
  rw [renewed.certificates]
  rfl

theorem challenges : store'.enrollment.challenges = store.enrollment.challenges := by
  rw [renewed.certificates]

theorem added (inv : CertificateRows store.enrollment) :
    CertificateAdded store.enrollment write.supersede write.certificate store'.enrollment := by
  obtain ⟨row, found⟩ := renewed.current
  obtain ⟨member, scope, -, -, -⟩ := current_row found
  have key : row.deviceKeyId = write.scope.deviceKeyId := congrArg (·.deviceKeyId) scope
  have device : row.deviceId = write.scope.deviceId := congrArg (·.deviceId) scope
  have tenant : row.tenantId = write.scope.tenantId := congrArg (·.tenantId) scope
  refine ⟨supersede_supersedes write, renewed.certificatesEq, renewed.freshCertificate, ?_, ?_, ?_,
    ?_, ?_, ?_⟩
  · rw [renewed.topology]
    exact List.Subset.refl _
  · rw [renewed.topology]
    have owned := inv.owned row member
    rwa [key, device] at owned
  · intro id tenantId placed
    rwa [renewed.topology]
  · rw [renewed.topology]
    have placed := inv.placed row member
    rwa [device, tenant] at placed
  · intro old stored shared
    refine (inv.scopes old stored row member ?_).trans scope
    exact shared.imp (fun same => same.trans device.symm) fun same => same.trans key.symm
  · intro challenge stored _
    rwa [renewed.challenges]

theorem last (inv : CertificateInvariant codec store) : ∃ row,
      store.certificatesOf write.scope.deviceKeyId =
        (store.certificatesOf write.scope.deviceKeyId).dropLast ++ [row] ∧
      row.id = write.previousCertificateId ∧ row.scope = write.scope ∧ row.status = .active := by
  obtain ⟨row, found⟩ := renewed.current
  obtain ⟨member, scope, named, active, -⟩ := current_row found
  have key : row.deviceKeyId = write.scope.deviceKeyId := congrArg (·.deviceKeyId) scope
  have listed : row ∈ store.certificatesOf write.scope.deviceKeyId :=
    List.mem_filter.mpr ⟨member, beq_iff_eq.mpr key⟩
  exact ⟨row, (inv.chain _).active_last listed active, named, scope, active⟩

theorem linksOf (key : Uuid) :
    store'.linksOf key = store.linksOf key ++
      if write.scope.deviceKeyId = key then [(write.previousCertificateId, write.certificateId)]
      else [] := by
  rw [CertificateStore.linksOf, CertificateStore.renewalsOf, renewed.renewals, List.filter_append,
    List.map_append]
  congr 1
  split
  · rename_i same
    simp [CertificateRenewalWrite.renewal, same]
  · rename_i other
    simp [CertificateRenewalWrite.renewal, other]

theorem chain (inv : CertificateInvariant codec store) (key : Uuid) :
    CertificateChain store' key := by
  have added := renewed.added inv.rows
  have links := renewed.linksOf key
  by_cases own : write.scope.deviceKeyId = key
  · subst own
    obtain ⟨row, split, named, scope, active⟩ := renewed.last inv
    rw [if_pos rfl, ← named] at links
    refine added.chain_next split ?_ links (inv.chain _)
    have chosen : CertificateStore.supersedes write row = true := by
      rw [CertificateStore.supersedes, named, scope, active, beq_self_eq_true, beq_self_eq_true,
        beq_self_eq_true, Bool.and_self, Bool.and_self]
    rw [CertificateRenewalWrite.supersede, if_pos chosen]
    exact CertificateStatus.noConfusion
  · rw [if_neg own, List.append_nil] at links
    exact added.chain_other own links (inv.chain key)

theorem renewalRows (inv : CertificateInvariant codec store) : RenewalRows codec store' := by
  have added := renewed.added inv.rows
  have apart : ∀ old ∈ store.renewals,
      (write.scope.deviceId, codec.collate write.requestId) ≠
          (old.scope.deviceId, codec.collate old.requestId) ∧
        write.previousCertificateId ≠ old.previousCertificateId ∧
        write.certificateId ≠ old.certificateId := by
    intro old member
    have free := renewed.freshRenewal old member
    simp only [CertificateRenewalRow.conflict, CertificateRenewalWrite.renewal,
      Bool.or_eq_false_iff, beq_eq_false_iff_ne, Bool.and_eq_false_iff] at free
    refine ⟨?_, free.1.2, free.2⟩
    intro same
    obtain ⟨device, request⟩ := Prod.mk.inj same
    rcases free.1.1.2 with other | other
    · exact other device
    · exact other request
  refine ⟨?_, ?_, ?_, ?_⟩
  · rw [renewed.renewals]
    exact nodup_concat_key inv.renewals.requests fun old member => (apart old member).1
  · rw [renewed.renewals]
    exact nodup_concat_key inv.renewals.previous fun old member => (apart old member).2.1
  · rw [renewed.renewals]
    exact nodup_concat_key inv.renewals.results fun old member => (apart old member).2.2
  · intro renewal member
    rw [renewed.renewals] at member
    rcases mem_concat.mp member with member | rfl
    · obtain ⟨certificate, stored, named, scope⟩ := inv.renewals.issued renewal member
      exact ⟨write.supersede certificate, added.mem_set stored,
        (added.supersedes.id certificate).trans named,
        (added.supersedes.scope certificate).trans scope⟩
    · refine ⟨write.certificate, ?_, rfl, rfl⟩
      rw [renewed.certificatesEq]
      exact List.mem_concat_self

theorem revoked (inv : CertificateRows store.enrollment) :
    ∀ state ∈ store'.enrollment.topology.deviceStates, state.2.2 = .revoked →
      ∀ row ∈ store'.enrollment.certificates, row.deviceId = state.1 → row.status ≠ .active := by
  have added := renewed.added inv
  intro state member revoked after stored device active
  rw [renewed.topology] at member
  rcases added.cases stored with ⟨old, present, rfl⟩ | rfl
  · refine inv.revoked state member revoked old present ?_ (added.supersedes.active old active)
    rw [← device]
    exact (congrArg (·.deviceId) (added.supersedes.scope old)).symm
  · -- the device of the new certificate was active when it was issued
    obtain ⟨row, found⟩ := renewed.current
    obtain ⟨-, scope, -, -, usable⟩ := current_row found
    obtain ⟨other, listed, tests⟩ := List.any_eq_true.mp usable
    simp only [Bool.and_eq_true, beq_iff_eq, Option.some.injEq] at tests
    have place : (other.id, other.tenantId, other.status) ∈
        store.enrollment.topology.deviceStates :=
      List.mem_map.mpr ⟨other, listed, rfl⟩
    have sameId : other.id = state.1 := by
      rw [tests.1.1, show row.deviceId = write.scope.deviceId from congrArg (·.deviceId) scope]
      exact device
    have distinct : (store.enrollment.topology.deviceStates.map (·.1)).Nodup := by
      rw [← deviceIds_states]
      exact inv.deviceIds
    have whole := eq_of_key distinct place member sameId
    rw [← whole, tests.2] at revoked
    cases revoked

theorem invariant (inv : CertificateInvariant codec store) : CertificateInvariant codec store' := by
  refine ⟨?_, ?_, renewed.renewalRows inv, renewed.chain inv⟩
  · rw [renewed.challenges]
    exact inv.unproved
  · refine (renewed.added inv.rows).rows inv.rows ?_ (renewed.revoked inv.rows)
    rw [renewed.topology]
    exact inv.rows.deviceIds

end Renewed

theorem certificateStep_invariant (inv : CertificateInvariant codec store) (call : CertificateCall) :
    CertificateInvariant codec (certificateStep codec store call) := by
  cases call with
  | enroll call =>
      simp only [certificateStep]
      split
      · rename_i keeps
        exact enrollmentStep_certificates inv call keeps
      · exact inv
  | renew write id =>
      refine commit_cases (P := CertificateInvariant codec) inv ?_
      intro after done
      obtain ⟨⟨outcome, finished⟩, renews, rfl⟩ := map_ok.mp done
      rcases renew_cases renews with ⟨-, rfl⟩ | ⟨-, renewed⟩
      · exact inv
      · exact renewed.invariant inv

theorem run_certificate_invariant (inv : CertificateInvariant codec store)
    (calls : List CertificateCall) :
    CertificateInvariant codec (run (certificateStep codec) store calls) :=
  run_invariant (P := CertificateInvariant codec)
    (fun _ call kept => certificateStep_invariant kept call) inv calls

end Steps

end CandyCloud
