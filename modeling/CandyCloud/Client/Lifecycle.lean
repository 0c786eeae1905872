import CandyCloud.Client.Serial

/-! # The lifecycle of terminal devices

A device keeps exactly one active key until it is revoked, what is in force belongs to that key,
and grants and projections of a device are numbered in the order they were written.
-/

namespace CandyCloud

open Foundation

def ClientDeviceRow.identity (device : ClientDeviceRow) : Uuid × ClientScope × Uuid × Nat :=
  (device.id, device.scope, device.deviceId, device.generation)

def ClientDeviceKeyRow.identity (key : ClientDeviceKeyRow) : Uuid × ClientScope × Uuid :=
  (key.clientDeviceId, key.scope, key.deviceKeyId)

def ClientGrantRow.entry (grant : ClientGrantRow) : ClientAudience × Nat :=
  (grant.audience, grant.generation)

def ClientProjectionRow.entry (projection : ClientProjectionRow) : ClientAudience × Nat :=
  (projection.audience, projection.generation)

/-- The numbers of a device's entries, in the order they were written. -/
def generationsOf (recordId : Uuid) (entries : List (ClientAudience × Nat)) : List Nat :=
  (entries.filter fun entry => decide (entry.1.clientDeviceId = recordId)).map (·.2)

/-- The numbers one, two, three and so on, without a gap. -/
def Numbered (generations : List Nat) : Prop :=
  generations = List.range' 1 generations.length

def ClientStore.Owned (store : ClientStore) (recordId : Uuid) (scope : ClientScope) : Prop :=
  ∃ device ∈ store.devices, device.id = recordId ∧ device.scope = scope

structure ClientRecords (store : ClientStore) : Prop where
  ids : (store.devices.map ClientDeviceRow.id).Nodup
  wireIds : (store.devices.map fun device => (device.scope.tenantId, device.deviceId)).Nodup
  keyIds : (store.keys.map fun key => (key.scope.tenantId, key.deviceKeyId)).Nodup
  named : ∀ device ∈ store.devices, isNil device.id = false ∧ device.generation ≠ 0
  keyNamed : ∀ key ∈ store.keys, isNil key.deviceKeyId = false
  keyed : ∀ key ∈ store.keys, store.Owned key.clientDeviceId key.scope
  granted : ∀ grant ∈ store.grants, store.Owned grant.audience.clientDeviceId grant.audience.scope
  projected : ∀ projection ∈ store.projections,
    store.Owned projection.audience.clientDeviceId projection.audience.scope
  grants : ∀ recordId, Numbered (generationsOf recordId (store.grants.map (·.entry)))
  projections : ∀ recordId, Numbered (generationsOf recordId (store.projections.map (·.entry)))

/-- A change of states only. -/
structure SameRecords (store store' : ClientStore) : Prop where
  devices : store'.devices.map (·.identity) = store.devices.map (·.identity)
  keys : store'.keys.map (·.identity) = store.keys.map (·.identity)
  grants : store'.grants.map (·.entry) = store.grants.map (·.entry)
  projections : store'.projections.map (·.entry) = store.projections.map (·.entry)

variable {recordId : Uuid} {scope : ClientScope} {generations : List Nat} {clock : Instant}
  {request : ClientDeviceRegistration} {key previous : ClientDeviceKeyRow}
  {device row : ClientDeviceRow} {status : ClientDeviceStatus} {audience : ClientAudience}
  {operation : ClientOperation}

section Records

variable {store store' : ClientStore}

theorem SameRecords.owned (same : SameRecords store store') (owned : store.Owned recordId scope)
    : store'.Owned recordId scope := by
  obtain ⟨device, member, rfl, rfl⟩ := owned
  obtain ⟨other, present, identity⟩ := mem_of_map_eq same.devices.symm member
  simp only [ClientDeviceRow.identity, Prod.mk.injEq] at identity
  exact ⟨other, present, identity.1, identity.2.1⟩

theorem ClientRecords.transfer (records : ClientRecords store) (same : SameRecords store store') :
    ClientRecords store' := by
  have columns : ∀ {κ : Type} (column : Uuid × ClientScope × Uuid × Nat → κ),
      store'.devices.map (fun device => column device.identity) =
        store.devices.map (fun device => column device.identity) := by
    intro κ column
    have mapped := congrArg (List.map column) same.devices
    rw [List.map_map, List.map_map] at mapped
    exact mapped
  have keyIds := congrArg (List.map fun key : Uuid × ClientScope × Uuid =>
    (key.2.1.tenantId, key.2.2)) same.keys
  rw [List.map_map, List.map_map] at keyIds
  refine ⟨?_, ?_, ?_, ?_, ?_, ?_, ?_, ?_, ?_, ?_⟩
  · rw [show store'.devices.map ClientDeviceRow.id = store.devices.map ClientDeviceRow.id from
      columns (·.1)]
    exact records.ids
  · rw [show (store'.devices.map fun device => (device.scope.tenantId, device.deviceId)) =
      store.devices.map fun device => (device.scope.tenantId, device.deviceId) from
      columns fun identity => (identity.2.1.tenantId, identity.2.2.1)]
    exact records.wireIds
  · rw [show (store'.keys.map fun key => (key.scope.tenantId, key.deviceKeyId)) =
      store.keys.map fun key => (key.scope.tenantId, key.deviceKeyId) from keyIds]
    exact records.keyIds
  · intro device member
    obtain ⟨old, present, identity⟩ := mem_of_map_eq same.devices member
    simp only [ClientDeviceRow.identity, Prod.mk.injEq] at identity
    rw [← identity.1, ← identity.2.2.2]
    exact records.named old present
  · intro key member
    obtain ⟨old, present, identity⟩ := mem_of_map_eq same.keys member
    simp only [ClientDeviceKeyRow.identity, Prod.mk.injEq] at identity
    rw [← identity.2.2]
    exact records.keyNamed old present
  · intro key member
    obtain ⟨old, present, identity⟩ := mem_of_map_eq same.keys member
    simp only [ClientDeviceKeyRow.identity, Prod.mk.injEq] at identity
    rw [← identity.1, ← identity.2.1]
    exact same.owned (records.keyed old present)
  · intro grant member
    obtain ⟨old, present, entry⟩ := mem_of_map_eq same.grants member
    rw [← show old.audience = grant.audience from congrArg (·.1) entry]
    exact same.owned (records.granted old present)
  · intro projection member
    obtain ⟨old, present, entry⟩ := mem_of_map_eq same.projections member
    rw [← show old.audience = projection.audience from congrArg (·.1) entry]
    exact same.owned (records.projected old present)
  · rw [same.grants]
    exact records.grants
  · rw [same.projections]
    exact records.projections

theorem ClientRecords.owner_unique (records : ClientRecords store) {scope' : ClientScope}
    (first : store.Owned recordId scope) (second : store.Owned recordId scope')
    : scope = scope' := by
  obtain ⟨a, ha, ida, rfl⟩ := first
  obtain ⟨b, hb, idb, rfl⟩ := second
  rw [eq_of_key records.ids ha hb (ida.trans idb.symm)]

theorem numbered_concat (numbered : Numbered generations) {next : Nat}
    (follows : next = generations.length + 1) : Numbered (generations ++ [next]) := by
  unfold Numbered at numbered ⊢
  rw [List.length_append, List.length_singleton, List.range'_concat, ← numbered, follows]
  simp [Nat.add_comm]

theorem foldl_max_numbered (numbered : Numbered generations) :
    generations.foldl max 0 = generations.length := by
  unfold Numbered at numbered
  rw [numbered, List.length_range']
  generalize generations.length = n
  induction n with
  | zero => rfl
  | succ n ih =>
      rw [List.range'_concat, List.foldl_append, ih]
      simp [Nat.add_comm]

/-- `MAX(generation)` of a device is the number of its entries: the tenant in
    the query is the tenant of the one device with that record. -/
theorem ClientRecords.grantGeneration_eq (records : ClientRecords store)
    (owned : store.Owned recordId scope) :
    store.grantGeneration scope.tenantId recordId =
      (generationsOf recordId (store.grants.map (·.entry))).length := by
  rw [← foldl_max_numbered (records.grants recordId), generationsOf, List.filter_map, List.map_map,
    List.foldl_map, ClientStore.grantGeneration]
  congr 1
  apply List.filter_congr
  intro grant member
  simp only [Function.comp_apply, ClientGrantRow.entry, Bool.and_eq_right_iff_imp,
    decide_eq_true_eq]
  intro named
  have owner := records.granted grant member
  rw [named] at owner
  rw [records.owner_unique owner owned]

theorem ClientRecords.projectionGeneration_eq (records : ClientRecords store)
    (owned : store.Owned recordId scope) :
    store.projectionGeneration scope.tenantId recordId =
      (generationsOf recordId (store.projections.map (·.entry))).length := by
  rw [← foldl_max_numbered (records.projections recordId), generationsOf, List.filter_map,
    List.map_map, List.foldl_map, ClientStore.projectionGeneration]
  congr 1
  apply List.filter_congr
  intro projection member
  simp only [Function.comp_apply, ClientProjectionRow.entry, Bool.and_eq_right_iff_imp,
    decide_eq_true_eq]
  intro named
  have owner := records.projected projection member
  rw [named] at owner
  rw [records.owner_unique owner owned]

theorem SameRecords.refl (store : ClientStore) : SameRecords store store := ⟨rfl, rfl, rfl, rfl⟩

theorem SameRecords.trans {store'' : ClientStore} (first : SameRecords store store')
    (second : SameRecords store' store'') : SameRecords store store'' where
  devices := second.devices.trans first.devices
  keys := second.keys.trans first.keys
  grants := second.grants.trans first.grants
  projections := second.projections.trans first.projections

def ClientWrite.inserts : ClientWrite → Bool
  | .insertKey _ | .insertGrant _ | .insertProjection _ => true
  | _ => false

theorem sameRecords_apply (store : ClientStore) {write : ClientWrite}
    (update : write.inserts = false) : SameRecords store (store.apply write) := by
  cases write with
  | insertKey row | insertGrant row | insertProjection row => cases update
  | setDeviceStatus reach status =>
      refine ⟨map_updateWhere ?_ store.devices, rfl, rfl, rfl⟩
      exact fun _ => rfl
  | revokeKeys reach | retireKey reach deviceKeyId =>
      refine ⟨rfl, map_updateWhere ?_ store.keys, rfl, rfl⟩
      exact fun _ => rfl
  | revokeGrants reach =>
      refine ⟨rfl, rfl, map_updateWhere ?_ store.grants, rfl⟩
      exact fun _ => rfl
  | revokeProjections reach deviceKeyId | supersedeProjections tenantId clientDeviceId =>
      refine ⟨rfl, rfl, rfl, map_updateWhere ?_ store.projections⟩
      exact fun _ => rfl

theorem sameRecords_writes {store : ClientStore} (writes : List ClientWrite)
    (updates : writes.all (fun write => !write.inserts) = true) :
    SameRecords store (writes.foldl ClientStore.apply store) := by
  induction writes generalizing store with
  | nil => exact .refl store
  | cons write rest ih =>
      rw [List.all_cons, Bool.and_eq_true, Bool.not_eq_true'] at updates
      exact (sameRecords_apply store updates.1).trans (ih updates.2)

theorem ClientRecords.register {sha256 : Bytes → Hash} (records : ClientRecords store)
    (valid : request.validate = .ok ())
    (device : ∀ old ∈ store.devices, (request.deviceRow sha256).clashes old = false)
    (key : ∀ old ∈ store.keys, (request.keyRow clock).clashes old = false) :
    ClientRecords { store with
      devices := store.devices ++ [request.deviceRow sha256]
      keys := store.keys ++ [request.keyRow clock] } := by
  have owned : ∀ {recordId scope}, store.Owned recordId scope →
      ClientStore.Owned { store with
        devices := store.devices ++ [request.deviceRow sha256]
        keys := store.keys ++ [request.keyRow clock] } recordId scope := by
    intro recordId scope ⟨owner, member, named, same⟩
    exact ⟨owner, List.mem_append_left _ member, named, same⟩
  simp only [ClientDeviceRegistration.validate, unit_bind_ok, reject_ok, List.any_eq_false,
    Bool.not_eq_true] at valid
  refine ⟨?_, ?_, ?_, ?_, ?_, ?_, ?_, ?_, records.grants, records.projections⟩
  · refine nodup_concat_key records.ids ?_
    intro old member same
    have free := device old member
    simp [ClientDeviceRow.clashes, same] at free
  · refine nodup_concat_key records.wireIds ?_
    intro old member same
    have free := device old member
    simp only [Prod.mk.injEq] at same
    simp [ClientDeviceRow.clashes, same] at free
  · refine nodup_concat_key records.keyIds ?_
    intro old member same
    have free := key old member
    simp only [Prod.mk.injEq] at same
    simp [ClientDeviceKeyRow.clashes, same] at free
  · intro row member
    rcases mem_concat.mp member with old | new
    · exact records.named row old
    · rw [new]
      exact ⟨valid.1 request.recordId (by simp), Nat.one_ne_zero⟩
  · intro row member
    rcases mem_concat.mp member with old | new
    · exact records.keyNamed row old
    · rw [new]
      exact valid.1 request.deviceKeyId (by simp)
  · intro row member
    rcases mem_concat.mp member with old | new
    · exact owned (records.keyed row old)
    · rw [new]
      exact ⟨_, List.mem_append_right _ (List.mem_singleton_self _), rfl, rfl⟩
  · intro grant member
    exact owned (records.granted grant member)
  · intro projection member
    exact owned (records.projected projection member)

theorem ClientRecords.insertKey {row : ClientDeviceKeyRow} (records : ClientRecords store)
    (named : isNil row.deviceKeyId = false)
    (owned : store.Owned row.clientDeviceId row.scope)
    (fresh : store.keyIdExists row.scope.tenantId row.deviceKeyId = false) :
    ClientRecords (store.apply (.insertKey row)) := by
  refine ⟨records.ids, records.wireIds, ?_, records.named, ?_, ?_, records.granted,
    records.projected, records.grants, records.projections⟩
  · refine nodup_concat_key records.keyIds ?_
    intro old member same
    simp only [Prod.mk.injEq] at same
    simp only [ClientStore.keyIdExists, List.any_eq_false, Bool.and_eq_true, decide_eq_true_eq,
      not_and] at fresh
    exact fresh old member same.1.symm same.2.symm
  · intro key member
    rcases mem_concat.mp member with old | new
    · exact records.keyNamed key old
    · rw [new]
      exact named
  · intro key member
    rcases mem_concat.mp member with old | new
    · exact records.keyed key old
    · rw [new]
      exact owned

theorem generationsOf_concat (recordId : Uuid) (entries : List (ClientAudience × Nat))
    (entry : ClientAudience × Nat) :
    generationsOf recordId (entries ++ [entry]) = generationsOf recordId entries ++
      (if entry.1.clientDeviceId = recordId then [entry.2] else []) := by
  unfold generationsOf
  rw [List.filter_append, List.map_append, List.filter_singleton]
  by_cases own : entry.1.clientDeviceId = recordId
  · simp [own]
  · simp [own]

theorem numbered_insert {entries : List (ClientAudience × Nat)} {entry : ClientAudience × Nat}
    (numbered : ∀ recordId, Numbered (generationsOf recordId entries))
    (next : entry.2 = (generationsOf entry.1.clientDeviceId entries).length + 1) (recordId : Uuid) :
    Numbered (generationsOf recordId (entries ++ [entry])) := by
  rw [generationsOf_concat]
  by_cases own : entry.1.clientDeviceId = recordId
  · rw [if_pos own]
    refine numbered_concat (numbered recordId) ?_
    rw [← own]
    exact next
  · rw [if_neg own, List.append_nil]
    exact numbered recordId

theorem ClientRecords.insertGrant {row : ClientGrantRow} (records : ClientRecords store)
    (owned : store.Owned row.audience.clientDeviceId row.audience.scope)
    (next : row.generation =
      store.grantGeneration row.audience.scope.tenantId row.audience.clientDeviceId + 1) :
    ClientRecords (store.apply (.insertGrant row)) := by
  refine ⟨records.ids, records.wireIds, records.keyIds, records.named, records.keyNamed,
    records.keyed, ?_, records.projected, ?_, records.projections⟩
  · intro grant member
    rcases mem_concat.mp member with old | new
    · exact records.granted grant old
    · rw [new]
      exact owned
  · simp only [ClientStore.apply, List.map_append, List.map_singleton]
    refine numbered_insert records.grants ?_
    exact next.trans (congrArg (· + 1) (records.grantGeneration_eq owned))

theorem ClientRecords.insertProjection {row : ClientProjectionRow} (records : ClientRecords store)
    (owned : store.Owned row.audience.clientDeviceId row.audience.scope)
    (next : row.generation =
      store.projectionGeneration row.audience.scope.tenantId row.audience.clientDeviceId + 1) :
    ClientRecords (store.apply (.insertProjection row)) := by
  refine ⟨records.ids, records.wireIds, records.keyIds, records.named, records.keyNamed,
    records.keyed, records.granted, ?_, records.grants, ?_⟩
  · intro projection member
    rcases mem_concat.mp member with old | new
    · exact records.projected projection old
    · rw [new]
      exact owned
  · simp only [ClientStore.apply, List.map_append, List.map_singleton]
    refine numbered_insert records.projections ?_
    exact next.trans (congrArg (· + 1) (records.projectionGeneration_eq owned))

end Records

def ClientStore.activeKeys (store : ClientStore) (recordId : Uuid) : List ClientDeviceKeyRow :=
  store.keys.filter fun key =>
    decide (key.clientDeviceId = recordId) && decide (key.status = .active)

def ClientStore.publishedOf (store : ClientStore) (recordId : Uuid) : List ClientProjectionRow :=
  store.projections.filter fun projection =>
    decide (projection.audience.clientDeviceId = recordId) &&
      decide (projection.status = .published)

/-- One active key until revocation and none after it. -/
def ClientDeviceRow.KeyedBy (device : ClientDeviceRow) (keys : List ClientDeviceKeyRow) : Prop :=
  keys.length = if device.status = .revoked then 0 else 1

structure ClientLifecycle (store : ClientStore) : Prop where
  records : ClientRecords store
  inForce : ClientInvariant store
  keys : ∀ device ∈ store.devices, device.KeyedBy (store.activeKeys device.id)
  published : ∀ recordId, (store.publishedOf recordId).length ≤ 1

section States

variable {store : ClientStore} {reach : ClientReach}

theorem mem_activeKeys :
    key ∈ store.activeKeys recordId ↔
      key ∈ store.keys ∧ key.clientDeviceId = recordId ∧ key.status = .active := by
  simp only [ClientStore.activeKeys, List.mem_filter, Bool.and_eq_true, decide_eq_true_eq]

section

variable (life : ClientLifecycle store) (member : device ∈ store.devices)
  (covered : reach.covers device.id device.scope = true)

include life member covered

theorem ClientLifecycle.reached {other : ClientDeviceRow} (present : other ∈ store.devices) :
    reach.covers other.id other.scope = true ↔ other = device := by
  constructor
  · intro selected
    refine eq_of_key life.records.ids present member ?_
    rw [(covers_iff.mp selected).1, (covers_iff.mp covered).1]
  · rintro rfl
    exact covered

theorem ClientLifecycle.reached_key (present : key ∈ store.keys) :
    reach.covers key.clientDeviceId key.scope = true ↔ key.clientDeviceId = device.id := by
  constructor
  · intro selected
    rw [(covers_iff.mp selected).1, (covers_iff.mp covered).1]
  · intro named
    have owner := life.records.keyed key present
    rw [named] at owner
    rw [named, life.records.owner_unique owner ⟨device, member, rfl, rfl⟩]
    exact covered

theorem ClientLifecycle.setStatus (standing : device.status ≠ .revoked) (kept : status ≠ .revoked) :
    ∀ row ∈ (store.apply (.setDeviceStatus reach status)).devices,
      row.KeyedBy (store.activeKeys row.id) := by
  intro row present
  obtain ⟨old, before, rfl⟩ := mem_updateWhere.mp present
  have keyed := life.keys old before
  by_cases selected : reach.covers old.id old.scope = true
  · rw [if_pos selected]
    have same := (life.reached member covered before).mp selected
    subst same
    rw [ClientDeviceRow.KeyedBy, if_neg standing] at keyed
    rw [ClientDeviceRow.KeyedBy, if_neg kept]
    exact keyed
  · rw [if_neg selected]
    exact keyed

end

theorem activeKeys_elsewhere {selected : ClientDeviceKeyRow → Bool}
    {set : ClientDeviceKeyRow → ClientDeviceKeyRow} (keys : List ClientDeviceKeyRow)
    (elsewhere : ∀ key, selected key = true → key.clientDeviceId ≠ recordId)
    (kept : ∀ key, (set key).clientDeviceId = key.clientDeviceId) :
    ((updateWhere selected set keys).filter fun key =>
      decide (key.clientDeviceId = recordId) && decide (key.status = .active)) =
    keys.filter fun key => decide (key.clientDeviceId = recordId) && decide (key.status = .active) := by
  refine filter_updateWhere_unwanted ?_ ?_ keys
  · intro key chosen
    simp [elsewhere key chosen]
  · intro key chosen
    simp [kept, elsewhere key chosen]

theorem ClientLifecycle.revokeKeys (life : ClientLifecycle store) (member : device ∈ store.devices)
    (covered : reach.covers device.id device.scope = true) :
    ∀ row ∈ (store.apply (.setDeviceStatus reach .revoked)).devices,
      row.KeyedBy ((store.apply (.revokeKeys reach)).activeKeys row.id) := by
  intro row present
  obtain ⟨old, before, rfl⟩ := mem_updateWhere.mp present
  by_cases selected : reach.covers old.id old.scope = true
  · rw [if_pos selected]
    have same := (life.reached member covered before).mp selected
    subst same
    rw [ClientDeviceRow.KeyedBy, if_pos rfl, ClientStore.activeKeys, ClientStore.apply,
      filter_updateWhere_removed, List.length_eq_zero_iff, List.filter_eq_nil_iff]
    · intro key present active
      simp only [Bool.and_eq_true, decide_eq_true_eq, Bool.not_eq_true',
        Bool.and_eq_false_iff] at active
      obtain ⟨⟨named, status⟩, spared⟩ := active
      have hit := (life.reached_key member covered present).mpr named
      simp [hit, status] at spared
    · intro key chosen
      simp
  · rw [if_neg selected]
    have other : old.id ≠ reach.recordId := by
      intro named
      have same : old = device := by
        refine eq_of_key life.records.ids before member ?_
        rw [named, (covers_iff.mp covered).1]
      exact selected ((life.reached member covered before).mpr same)
    have unchanged : (store.apply (.revokeKeys reach)).activeKeys old.id
        = store.activeKeys old.id := by
      refine activeKeys_elsewhere store.keys ?_ (fun _ => rfl)
      intro key chosen named
      simp only [Bool.and_eq_true] at chosen
      exact other (named.symm.trans (covers_iff.mp chosen.1).1)
    rw [unchanged]
    exact life.keys old before

theorem newestKey_mem {keys : List ClientDeviceKeyRow}
    (newest : ClientStore.newestKey keys = some key) : key ∈ keys := by
  refine mem_of_foldl_pick ?_ newest
  intro best key
  cases best with
  | none => exact .inl rfl
  | some best =>
      simp only
      split
      · exact .inl rfl
      · exact .inr rfl

theorem previousKey_facts {organizationId tenantId : Uuid}
    (found : store.previousKey recordId organizationId tenantId = some key) :
    key ∈ store.activeKeys recordId := by
  have member := newestKey_mem found
  simp only [List.mem_filter, Bool.and_eq_true, decide_eq_true_eq] at member
  exact mem_activeKeys.mpr ⟨member.1, member.2.1.1.1, member.2.2⟩

theorem ClientLifecycle.rotateKeys (life : ClientLifecycle store) (member : device ∈ store.devices)
    (covered : reach.covers device.id device.scope = true) (active : device.status = .active)
    {row : ClientDeviceKeyRow} (current : previous ∈ store.activeKeys device.id)
    (own : row.clientDeviceId = device.id) (status : row.status = .active) :
    ∀ other ∈ store.devices, other.KeyedBy
      (((store.apply (.retireKey reach previous.deviceKeyId)).apply (.insertKey row)).activeKeys
        other.id) := by
  intro other present
  have keyed := life.keys other present
  have parts : (((store.apply (.retireKey reach previous.deviceKeyId)).apply
      (.insertKey row)).activeKeys other.id) =
      (store.apply (.retireKey reach previous.deviceKeyId)).activeKeys other.id ++
        if device.id = other.id then [row] else [] := by
    simp only [ClientStore.activeKeys, ClientStore.apply, List.filter_append, List.filter_singleton,
      own, status, decide_true, Bool.and_true]
    by_cases same : device.id = other.id
    · simp [same]
    · simp [same]
  rw [parts]
  by_cases same : other = device
  · subst same
    have standing : ¬ other.status = .revoked := by simp [active]
    rw [ClientDeviceRow.KeyedBy, if_neg standing] at keyed
    rw [ClientDeviceRow.KeyedBy, if_neg standing, if_pos rfl]
    obtain ⟨only, single⟩ := List.length_eq_one_iff.mp keyed
    have equal : previous = only := by
      rw [single] at current
      exact List.mem_singleton.mp current
    subst equal
    have retired : (store.apply (.retireKey reach previous.deviceKeyId)).activeKeys other.id = [] := by
      rw [ClientStore.activeKeys, ClientStore.apply, filter_updateWhere_removed,
        List.filter_eq_nil_iff]
      · intro key present wanted
        rw [Bool.and_eq_true, Bool.not_eq_true'] at wanted
        have kept : key ∈ store.activeKeys other.id := List.mem_filter.mpr ⟨present, wanted.1⟩
        rw [single] at kept
        have equal := List.mem_singleton.mp kept
        subst equal
        obtain ⟨-, named, keyStatus⟩ := mem_activeKeys.mp current
        have hit := (life.reached_key member covered present).mpr named
        simp [hit, keyStatus] at wanted
      · intro key chosen
        simp
    rw [retired]
    rfl
  · have apart : device.id ≠ other.id := by
      intro named
      exact same (eq_of_key life.records.ids present member named.symm)
    have unchanged : (store.apply (.retireKey reach previous.deviceKeyId)).activeKeys other.id
        = store.activeKeys other.id := by
      refine activeKeys_elsewhere store.keys ?_ (fun _ => rfl)
      intro key chosen named
      simp only [Bool.and_eq_true] at chosen
      exact apart ((covers_iff.mp covered).1.trans
        ((covers_iff.mp chosen.1.1).1.symm.trans named))
    rw [if_neg apart, List.append_nil, unchanged]
    exact keyed

theorem ClientLifecycle.registerKeys {sha256 : Bytes → Hash} (life : ClientLifecycle store)
    (device : ∀ old ∈ store.devices, (request.deviceRow sha256).clashes old = false) :
    ∀ row ∈ store.devices ++ [request.deviceRow sha256], row.KeyedBy
      ((store.keys ++ [request.keyRow clock]).filter fun key =>
        decide (key.clientDeviceId = row.id) && decide (key.status = .active)) := by
  have fresh : ∀ old ∈ store.devices, old.id ≠ request.recordId := by
    intro old member same
    have free := device old member
    simp [ClientDeviceRow.clashes, ClientDeviceRegistration.deviceRow, same] at free
  intro row present
  rw [List.filter_append]
  rcases mem_concat.mp present with old | new
  · have other : request.recordId ≠ row.id := fun same => fresh row old same.symm
    have keyed := life.keys row old
    simp only [ClientStore.activeKeys] at keyed
    simpa [ClientDeviceRegistration.keyRow, other] using keyed
  · rw [new]
    have none : (store.keys.filter fun key =>
        decide (key.clientDeviceId = request.recordId) && decide (key.status = .active)) = [] := by
      rw [List.filter_eq_nil_iff]
      intro key member wanted
      obtain ⟨owner, ownerMember, named, -⟩ := life.records.keyed key member
      simp only [Bool.and_eq_true, decide_eq_true_eq] at wanted
      exact fresh owner ownerMember (named.trans wanted.1)
    rw [ClientDeviceRow.KeyedBy, show (store.keys.filter fun key =>
      decide (key.clientDeviceId = (request.deviceRow sha256).id) &&
        decide (key.status = .active)) = [] from none]
    simp [ClientDeviceRegistration.keyRow, ClientDeviceRegistration.deviceRow]

theorem publishedOf_sublist {selected : ClientProjectionRow → Bool}
    {set : ClientProjectionRow → ClientProjectionRow} {projections : List ClientProjectionRow}
    (retracts : ∀ projection, (set projection).status ≠ .published) :
    ((updateWhere selected set projections).filter fun projection =>
      decide (projection.audience.clientDeviceId = recordId) &&
        decide (projection.status = .published)).length ≤
    (projections.filter fun projection =>
      decide (projection.audience.clientDeviceId = recordId) &&
        decide (projection.status = .published)).length := by
  rw [filter_updateWhere_removed]
  · refine List.Sublist.length_le (List.monotone_filter_right projections ?_)
    intro projection wanted
    exact (Bool.and_eq_true_iff.mp wanted).1
  · intro projection _
    simp [retracts projection]

theorem ClientLifecycle.supersede (life : ClientLifecycle store)
    (owned : store.Owned recordId scope) :
    (store.apply (.supersedeProjections scope.tenantId recordId)).publishedOf recordId = [] := by
  rw [ClientStore.publishedOf, ClientStore.apply, filter_updateWhere_removed,
    List.filter_eq_nil_iff]
  · intro projection member wanted
    rw [Bool.and_eq_true, Bool.not_eq_true'] at wanted
    simp only [Bool.and_eq_true, decide_eq_true_eq] at wanted
    obtain ⟨⟨named, status⟩, spared⟩ := wanted
    have owner := life.records.projected projection member
    rw [named] at owner
    simp [named, status, life.records.owner_unique owner owned] at spared
  · intro projection _
    simp

end States

section Changes

variable {sha256 : Bytes → Hash} {store store' : ClientStore}

theorem owned_of_live (live : store.Live audience) :
    store.Owned audience.clientDeviceId audience.scope := by
  obtain ⟨device, member, named, scope, -⟩ := deviceIs_iff.mp live.1
  exact ⟨device, member, named, scope⟩

theorem commit_registration (inv : ClientInvariant store)
    (fresh : ∀ old ∈ store.devices, device.id ≠ old.id) :
    ClientInvariant { store with
      devices := store.devices ++ [device], keys := store.keys ++ [key] } := by
  have device_kept : ∀ {status audience}, store.deviceIs status audience = true →
      ClientStore.deviceIs { store with
        devices := store.devices ++ [device], keys := store.keys ++ [key] } status audience
          = true := by
    intro status audience holds
    obtain ⟨row, member, facts⟩ := deviceIs_iff.mp holds
    exact deviceIs_iff.mpr ⟨row, List.mem_append_left _ member, facts⟩
  have live_kept : ∀ {audience}, store.Live audience →
      ClientStore.Live { store with
        devices := store.devices ++ [device], keys := store.keys ++ [key] } audience := by
    intro audience live
    obtain ⟨row, member, facts⟩ := keyActive_iff.mp live.2
    exact ⟨device_kept live.1, keyActive_iff.mpr ⟨row, List.mem_append_left _ member, facts⟩⟩
  refine ⟨nodup_concat_key inv.devices fresh, ?_, ?_⟩
  · intro grant member active
    exact live_kept (inv.grants grant member active)
  · intro projection member published
    exact (inv.projections projection member published).imp live_kept device_kept

theorem ClientLifecycle.publish (life : ClientLifecycle store)
    {projection : ClientProjectionWrite} (live : store.Live projection.audience)
    (next : projection.generation = store.projectionGeneration
      projection.audience.scope.tenantId projection.audience.clientDeviceId + 1) :
    ClientLifecycle ((store.apply (.supersedeProjections projection.audience.scope.tenantId
      projection.audience.clientDeviceId)).apply (.insertProjection projection.row)) := by
  have owned := owned_of_live live
  have same : SameRecords store (store.apply (.supersedeProjections
      projection.audience.scope.tenantId projection.audience.clientDeviceId)) :=
    sameRecords_apply store rfl
  have records := life.records.transfer same
  refine ⟨?_, commit_projection life.inForce live, life.keys, ?_⟩
  · refine records.insertProjection (same.owned owned) ?_
    have counted := life.records.projectionGeneration_eq owned
    rw [← same.projections, ← records.projectionGeneration_eq (same.owned owned)] at counted
    exact next.trans (congrArg (· + 1) counted)
  · intro recordId
    have parts : ((store.apply (.supersedeProjections projection.audience.scope.tenantId
        projection.audience.clientDeviceId)).apply
          (.insertProjection projection.row)).publishedOf recordId =
        (store.apply (.supersedeProjections projection.audience.scope.tenantId
          projection.audience.clientDeviceId)).publishedOf recordId ++
        if projection.audience.clientDeviceId = recordId then [projection.row] else [] := by
      simp only [ClientStore.publishedOf, ClientStore.apply, List.filter_append,
        List.filter_singleton]
      by_cases own : projection.audience.clientDeviceId = recordId
      · simp [ClientProjectionWrite.row, own]
      · simp [ClientProjectionWrite.row, own]
    rw [parts]
    by_cases own : projection.audience.clientDeviceId = recordId
    · subst own
      rw [life.supersede owned, if_pos rfl]
      exact Nat.le_refl 1
    · rw [if_neg own, List.append_nil]
      refine le_trans (publishedOf_sublist ?_) (life.published recordId)
      intro row
      simp

theorem ClientLifecycle.rotate (life : ClientLifecycle store) {rotation : ClientDeviceKeyRotation}
    (valid : rotation.validate = .ok ())
    (found : store.managedDevice rotation.organizationId rotation.tenantId rotation.deviceId
      = some device) (status : device.status = .active)
    (key : store.previousKey device.id rotation.organizationId rotation.tenantId = some previous)
    (fresh : store.keyIdExists rotation.tenantId rotation.deviceKeyId = false) :
    ClientLifecycle
      ((((store.apply (.retireKey (rotation.reach device.id) previous.deviceKeyId)).apply
        (.insertKey (rotation.row clock device))).apply
        (.revokeGrants (rotation.reach device.id))).apply
        (.revokeProjections (rotation.reach device.id) none)) := by
  obtain ⟨member, covered⟩ := covers_self found
  have reached : store.Reached (rotation.reach device.id) :=
    ⟨device, member, covered, by simp [status]⟩
  have retired : SameRecords store
      (store.apply (.retireKey (rotation.reach device.id) previous.deviceKeyId)) :=
    sameRecords_apply store rfl
  have scope : (rotation.row clock device).scope = device.scope := by
    obtain ⟨-, organization, tenant, -⟩ := covers_iff.mp covered
    simp only at organization tenant
    simp only [ClientDeviceKeyRotation.row]
    rw [← organization, ← tenant]
  have unused : (store.apply (.retireKey (rotation.reach device.id)
      previous.deviceKeyId)).keyIdExists (rotation.row clock device).scope.tenantId
        (rotation.row clock device).deviceKeyId = false := by
    simp only [ClientStore.keyIdExists, List.any_eq_false, Bool.and_eq_true, decide_eq_true_eq,
      not_and] at fresh ⊢
    intro row present
    obtain ⟨old, before, identity⟩ := mem_of_map_eq retired.keys present
    simp only [ClientDeviceKeyRow.identity, Prod.mk.injEq] at identity
    rw [← identity.2.1, ← identity.2.2]
    exact fresh old before
  have named : isNil rotation.deviceKeyId = false := by
    simp only [ClientDeviceKeyRotation.validate, unit_bind_ok, reject_ok, List.any_eq_false,
      Bool.not_eq_true] at valid
    exact valid.1 rotation.deviceKeyId (by simp)
  have inserted : ClientRecords ((store.apply (.retireKey (rotation.reach device.id)
      previous.deviceKeyId)).apply (.insertKey (rotation.row clock device))) :=
    (life.records.transfer retired).insertKey named
      (retired.owned ⟨device, member, rfl, scope.symm⟩) unused
  refine ⟨?_, commit_rotation life.inForce reached rfl, ?_, ?_⟩
  · exact inserted.transfer (sameRecords_writes
      [.revokeGrants (rotation.reach device.id), .revokeProjections (rotation.reach device.id) none]
      rfl)
  · exact life.rotateKeys member covered status (previousKey_facts key) rfl rfl
  · intro recordId
    refine le_trans (publishedOf_sublist ?_) (life.published recordId)
    intro row
    simp

theorem ClientChange.lifecycle (change : ClientChange sha256 store operation store')
    (life : ClientLifecycle store) :
    ClientLifecycle store' := by
  cases change with
  | registered valid device key =>
      refine ⟨life.records.register valid device key, commit_registration life.inForce ?_,
        life.registerKeys device, life.published⟩
      intro old member same
      have free := device old member
      simp [ClientDeviceRow.clashes, same] at free
  | granted live next =>
      exact ⟨life.records.insertGrant (owned_of_live live) next, commit_grant life.inForce live,
        life.keys, life.published⟩
  | published grant next =>
      obtain ⟨row, member, -, audience, active⟩ := grantActive_iff.mp grant
      have live := life.inForce.grants row member active
      rw [audience] at live
      exact life.publish live next
  | @revoked revocation device member scope named status key =>
      have covered : (revocation.reach device.id).covers device.id device.scope = true := by
        refine covers_iff.mpr ⟨rfl, ?_⟩
        rw [scope]
        exact ⟨rfl, rfl, fun userId same => Option.some.inj same⟩
      have reached : store.Reached (revocation.reach device.id) :=
        ⟨device, member, covered, by simp [status]⟩
      refine ⟨?_, commit_revocation life.inForce reached, life.revokeKeys member covered,
        life.published⟩
      exact life.records.transfer (sameRecords_writes
        [.setDeviceStatus (revocation.reach device.id) .revoked,
          .revokeKeys (revocation.reach device.id), .revokeGrants (revocation.reach device.id)] rfl)
  | @suspended scope device found status =>
      obtain ⟨member, covered⟩ := covers_self found
      have standing : device.status ≠ .revoked := by simp [status]
      refine ⟨?_, commit_suspension life.inForce ⟨device, member, covered, standing⟩,
        life.setStatus member covered standing (by decide), ?_⟩
      · exact life.records.transfer (sameRecords_writes
          [.setDeviceStatus (scope.reach device.id) .suspended,
            .revokeGrants (scope.reach device.id),
            .revokeProjections (scope.reach device.id) none] rfl)
      · intro recordId
        refine le_trans (publishedOf_sublist ?_) (life.published recordId)
        intro row
        simp
  | @activated scope device found status =>
      obtain ⟨member, covered⟩ := covers_self found
      have standing : device.status ≠ .revoked := by simp [status]
      exact ⟨life.records.transfer (sameRecords_apply store rfl),
        commit_activation life.inForce ⟨device, member, covered, standing⟩,
        life.setStatus member covered standing (by decide), life.published⟩
  | rotated valid found status key fresh => exact life.rotate valid found status key fresh
  | swept =>
      refine ⟨life.records.transfer (sameRecords_apply store rfl), commit_sweep life.inForce,
        life.keys, ?_⟩
      intro recordId
      refine le_trans (publishedOf_sublist ?_) (life.published recordId)
      intro row
      simp

theorem ClientLifecycle.keeps_revoked (life : ClientLifecycle store) {reach : ClientReach}
    (member : device ∈ store.devices) (covered : reach.covers device.id device.scope = true)
    (standing : device.status ≠ .revoked) (present : row ∈ store.devices)
    (revoked : row.status = .revoked) :
    row ∈ (store.apply (.setDeviceStatus reach status)).devices := by
  refine mem_updateWhere.mpr ⟨row, present, if_neg ?_⟩
  intro selected
  have same := (life.reached member covered present).mp selected
  subst same
  exact standing revoked

theorem ClientChange.keeps_revoked (change : ClientChange sha256 store operation store')
    (life : ClientLifecycle store) (present : row ∈ store.devices)
    (revoked : row.status = .revoked) :
    row ∈ store'.devices := by
  cases change with
  | registered => exact List.mem_append_left _ present
  | @revoked revocation device member scope named status key =>
      have covered : (revocation.reach device.id).covers device.id device.scope = true := by
        refine covers_iff.mpr ⟨rfl, ?_⟩
        rw [scope]
        exact ⟨rfl, rfl, fun userId same => Option.some.inj same⟩
      exact life.keeps_revoked member covered (by simp [status]) present revoked
  | suspended found status | activated found status =>
      obtain ⟨member, covered⟩ := covers_self found
      exact life.keeps_revoked member covered (by simp [status]) present revoked
  | granted | published | rotated | swept => exact present

end Changes

section Runs

variable {sha256 : Bytes → Hash} {store : ClientStore}

theorem lifecycleStep_lifecycle (sha256 : Bytes → Hash) (store : ClientStore)
    (operation : ClientOperation) (life : ClientLifecycle store) :
    ClientLifecycle (lifecycleStep sha256 store operation) := by
  unfold lifecycleStep
  rcases serve_cases sha256 store operation with same | ⟨-, change⟩
  · rw [same]
    exact life
  · exact change.lifecycle life

def ClientStore.empty : ClientStore := ⟨[], [], [], []⟩

theorem empty_lifecycle : ClientLifecycle ClientStore.empty where
  records := by
    refine ⟨List.nodup_nil, List.nodup_nil, List.nodup_nil, ?_, ?_, ?_, ?_, ?_, ?_, ?_⟩
    · exact nofun
    · exact nofun
    · exact nofun
    · exact nofun
    · exact nofun
    · exact fun _ => rfl
    · exact fun _ => rfl
  inForce := ⟨List.nodup_nil, nofun, nofun⟩
  keys := nofun
  published _ := Nat.zero_le 1

theorem run_lifecycle (sha256 : Bytes → Hash) (operations : List ClientOperation) :
    ClientLifecycle (run (lifecycleStep sha256) ClientStore.empty operations) :=
  run_invariant (lifecycleStep_lifecycle sha256) empty_lifecycle operations

theorem run_keeps_revoked (life : ClientLifecycle store) (operations : List ClientOperation)
    (present : row ∈ store.devices) (revoked : row.status = .revoked) :
    row ∈ (run (lifecycleStep sha256) store operations).devices := by
  induction operations generalizing store with
  | nil => exact present
  | cons operation rest ih =>
      refine ih (lifecycleStep_lifecycle sha256 store operation life) ?_
      unfold lifecycleStep
      rcases serve_cases sha256 store operation with same | ⟨-, change⟩
      · rw [same]
        exact present
      · exact change.keeps_revoked life present revoked

theorem ClientLifecycle.active_key (life : ClientLifecycle store) (live : store.Live audience) :
    ∃ device ∈ store.devices, device.id = audience.clientDeviceId ∧
      device.scope = audience.scope ∧ device.status = .active ∧
      ∃ key, store.activeKeys device.id = [key] ∧ key.deviceKeyId = audience.deviceKeyId := by
  obtain ⟨device, member, named, scope, active⟩ := deviceIs_iff.mp live.1
  obtain ⟨key, present, owner, -, keyId, status⟩ := keyActive_iff.mp live.2
  have keyed := life.keys device member
  have standing : ¬ device.status = .revoked := by simp [active]
  rw [ClientDeviceRow.KeyedBy, if_neg standing] at keyed
  obtain ⟨only, single⟩ := List.length_eq_one_iff.mp keyed
  have current : key ∈ store.activeKeys device.id :=
    mem_activeKeys.mpr ⟨present, owner.trans named.symm, status⟩
  rw [single] at current
  have equal := List.mem_singleton.mp current
  subst equal
  exact ⟨device, member, named, scope, active, key, single, keyId⟩

/-- After any sequence of calls: one active key for each device that is not
    revoked and none for a revoked one, active grants on active devices and
    keys, at most one published projection, generations without gaps, unique
    key identifiers, revoked devices for good, and errors without effect. -/
theorem client_lifecycle (sha256 : Bytes → Hash) (operations : List ClientOperation) :
    let store := run (lifecycleStep sha256) ClientStore.empty operations
    (∀ device ∈ store.devices,
      (store.activeKeys device.id).length = if device.status = .revoked then 0 else 1) ∧
    (∀ grant ∈ store.grants, grant.status = .active →
      ∃ device ∈ store.devices, device.id = grant.audience.clientDeviceId ∧
        device.scope = grant.audience.scope ∧ device.status = .active ∧
        ∃ key, store.activeKeys device.id = [key] ∧
          key.deviceKeyId = grant.audience.deviceKeyId) ∧
    (∀ device ∈ store.devices, (store.publishedOf device.id).length ≤ 1) ∧
    (∀ device ∈ store.devices,
      Numbered (generationsOf device.id (store.grants.map (·.entry))) ∧
      Numbered (generationsOf device.id (store.projections.map (·.entry)))) ∧
    (store.keys.map fun key => (key.scope.tenantId, key.deviceKeyId)).Nodup ∧
    (∀ device ∈ store.devices, device.status = .revoked → ∀ more,
      device ∈ (run (lifecycleStep sha256) store more).devices) ∧
    ∀ operation, (serveClient sha256 store operation).1.failed = true →
      (serveClient sha256 store operation).2 = store := by
  intro store
  have life := run_lifecycle sha256 operations
  refine ⟨life.keys, ?_, ?_, ?_, life.records.keyIds, ?_, ?_⟩
  · intro grant member active
    exact life.active_key (life.inForce.grants grant member active)
  · intro device _
    exact life.published device.id
  · intro device _
    exact ⟨life.records.grants device.id, life.records.projections device.id⟩
  · intro device member revoked more
    exact run_keeps_revoked life more member revoked
  · intro operation failed
    rcases serve_cases sha256 store operation with same | ⟨succeeded, -⟩
    · exact same
    · rw [succeeded] at failed
      cases failed

end Runs

end CandyCloud
