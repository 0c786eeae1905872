import CandyCloud.Access.Issuance
import CandyCloud.Route.Grants

/-! # Grants that are asked for again

A request that was accepted is answered with the same envelope as long as what
is loaded for it gives the same terms; the tables of requests only grow.
-/

namespace CandyCloud.Access

open Foundation

variable {env : GrantEnvironment}

/-- What a grant for the command would say, if it gets one. -/
def GrantEnvironment.terms (env : GrantEnvironment) (view : AuthorizationView)
    (command : GrantIssueCommand) : Except GrantCoordinatorError GrantTerms := do
  let material ← env.material view command.request
  (grantTerms command.requestId command.request material).mapError .preparation

theorem terms_ok {view : AuthorizationView} {command : GrantIssueCommand} {terms : GrantTerms} :
    env.terms view command = .ok terms ↔ ∃ material,
      env.material view command.request = .ok material ∧
      grantTerms command.requestId command.request material = .ok terms := by
  simp only [GrantEnvironment.terms, bind_ok, mapError_ok]

theorem grantTimes_ok {issuedAt : Nat} {times : GrantTimes}
    (made : grantTimes issuedAt = .ok times) :
    times.issuedAt = issuedAt ∧ times.expiresAt = issuedAt + privateGrantTtlSecs := by
  simp only [grantTimes, bind_ok, orElse_ok, pure_ok] at made
  obtain ⟨expiresAt, sum, refreshAfter, -, rfl⟩ := made
  exact ⟨rfl, checkedAdd_some sum⟩

def GrantEnvironment.prepared (env : GrantEnvironment) (command : GrantIssueCommand)
    (generation : Nat) (grantId : Uuid) (times : GrantTimes) (raw : Bytes) : PreparedGrant where
  grantId
  authorizationGeneration := generation
  requestFingerprint :=
    requestFingerprint env.sha256 command.requestId command.request generation
  times
  raw

variable {grantId : Uuid} {write : GrantIssuanceWrite} {expiresAt : Nat}
  {collate : String → List Nat} {raw : Bytes} {request : GrantRequest} {terms' : GrantTerms}

theorem prepare_ok {command : GrantIssueCommand} {material : PrivateGrantMaterial} {issuedAt : Nat}
    {prepared : PreparedGrant} :
    env.prepare grantId command material issuedAt = .ok prepared ↔ ∃ terms times raw,
      grantTerms command.requestId command.request material = .ok terms ∧
      grantTimes issuedAt = .ok times ∧
      env.signer.issuePrivate ⟨grantId, env.issuer, terms, times⟩ = .ok raw ∧
      prepared =
        env.prepared command material.snapshot.authorizationGeneration grantId times raw := by
  simp only [GrantEnvironment.prepare, bind_ok, mapError_ok, pure_ok]
  constructor
  · rintro ⟨terms, made, times, timed, raw, issued, rfl⟩
    exact ⟨terms, times, raw, made, timed, issued, rfl⟩
  · rintro ⟨terms, times, raw, made, timed, issued, rfl⟩
    exact ⟨terms, made, times, timed, raw, issued, rfl⟩

def GrantEnvironment.key (env : GrantEnvironment) (command : GrantIssueCommand) (generation : Nat) :
    Uuid × Nat × List Nat :=
  (command.request.deviceId, generation, env.collate command.requestId)

/-- `uq_grant_request` holds of the table. -/
def GrantEnvironment.Keyed (env : GrantEnvironment) (rows : List GrantIssuanceRow) : Prop :=
  (rows.map (·.key env.collate)).Nodup

theorem GrantIssuanceWrite.row_expiresAt (kept : write.row.expiresAt = some expiresAt)
    : expiresAt = write.expiresAt := by
  simp only [GrantIssuanceWrite.row] at kept
  split at kept
  · exact (Option.some.inj kept).symm
  · cases kept

theorem recordGrant_ok {rows rows' : List GrantIssuanceRow} {outcome : GrantRecordOutcome}
    (recorded : recordGrant collate rows write = .ok (outcome, rows')) :
    (outcome = .inserted ∧ rows' = rows ++ [write.row] ∧
      ∀ row ∈ rows, row.key collate ≠ write.row.key collate) ∨
    (rows' = rows ∧ outcome = .conflict) ∨
    (rows' = rows ∧ ∃ row ∈ rows, row.key collate = write.row.key collate ∧
      row.tenantId = write.tenantId ∧ row.requestFingerprint = write.requestFingerprint ∧
      ∃ expiresAt, row.expiresAt = some expiresAt ∧ outcome =
        .replayed ⟨row.id, row.requestFingerprint, row.keyId, row.grantDigest, expiresAt⟩) := by
  simp only [recordGrant, unit_bind_ok] at recorded
  obtain ⟨-, recorded⟩ := recorded
  split at recorded
  · obtain ⟨row, found, recorded⟩ := orElse_bind_ok.mp recorded
    have member := List.mem_of_find?_eq_some found
    have matched := List.find?_some found
    rw [Bool.and_eq_true, beq_iff_eq, beq_iff_eq] at matched
    split at recorded
    · rename_i same
      obtain ⟨expiresAt, kept, recorded⟩ := orElse_bind_ok.mp recorded
      cases recorded
      exact .inr (.inr ⟨rfl, row, member, matched.1, matched.2, same, expiresAt, kept, rfl⟩)
    · cases recorded
      exact .inr (.inl ⟨rfl, rfl⟩)
  · rename_i free
    cases recorded
    refine .inl ⟨rfl, rfl, ?_⟩
    intro row member same
    exact free (List.any_eq_true.mpr ⟨row, member, by simp [same]⟩)

theorem recordGrant_found {rows : List GrantIssuanceRow} {row : GrantIssuanceRow}
    (keyed : (rows.map (·.key collate)).Nodup) (member : row ∈ rows)
    (key : row.key collate = write.row.key collate) (tenant : row.tenantId = write.tenantId)
    (fingerprint : row.requestFingerprint = write.requestFingerprint)
    (named : (isNil write.tenantId || isNil write.deviceId || write.requestId.isEmpty) = false) :
    recordGrant collate rows write = (orElse .database row.expiresAt).map fun expiresAt =>
      (.replayed ⟨row.id, row.requestFingerprint, row.keyId, row.grantDigest, expiresAt⟩,
        rows) := by
  have taken : (rows.any fun row =>
      row.id == write.id || row.key collate == write.row.key collate) = true :=
    List.any_eq_true.mpr ⟨row, member, by simp [key]⟩
  have found : (rows.find? fun row =>
      row.key collate == write.row.key collate && row.tenantId == write.tenantId) = some row := by
    refine find_keyed keyed member (by simp [key, tenant]) ?_
    intro other matched
    rw [Bool.and_eq_true, beq_iff_eq] at matched
    exact matched.1.trans key.symm
  cases kept : row.expiresAt with
  | none => simp [recordGrant, named, reject, taken, found, orElse, fingerprint, kept, bind,
      Except.bind, Except.map]
  | some expiresAt => simp [recordGrant, named, reject, taken, found, orElse, fingerprint, kept,
      bind, Except.bind, Except.map, pure, Except.pure]

/-- A call brings along what its first transaction has read, so that publications,
    reports and changes of entitlements may fall before and in between. -/
structure GrantCall where
  view : AuthorizationView
  command : GrantIssueCommand
  issuedAt : Nat
  freshId : Uuid

/-- One issuance; a refused one changes nothing. -/
def grantStep (env : GrantEnvironment) (rows : List GrantIssuanceRow) (call : GrantCall) :
    List GrantIssuanceRow :=
  commit rows ((env.issue call.view rows call.command call.issuedAt call.freshId).map Prod.snd)

section Accepted

variable {view : AuthorizationView} {rows rows' : List GrantIssuanceRow}
  {command : GrantIssueCommand} {issuedAt : Nat} {freshId : Uuid} {delivery : GrantDelivery}

/-- The row that stands for a delivered grant. -/
structure Recorded (env : GrantEnvironment) (command : GrantIssueCommand) (generation : Nat)
    (terms : GrantTerms) (times : GrantTimes) (delivery : GrantDelivery) (row : GrantIssuanceRow) :
    Prop where
  key : row.key env.collate = env.key command generation
  tenant : row.tenantId = command.request.tenantId
  fingerprint : row.requestFingerprint =
    requestFingerprint env.sha256 command.requestId command.request generation
  keyId : row.keyId = env.signer.keyId
  digest : row.grantDigest = env.sha256 delivery.raw
  timed : grantTimes times.issuedAt = .ok times
  expiry : ∀ expiresAt, row.expiresAt = some expiresAt → expiresAt = times.expiresAt
  issued : env.signer.issuePrivate ⟨row.id, env.issuer, terms, times⟩ = .ok delivery.raw
  grant : delivery.grantId = row.id
  expires : delivery.expiresAtUnix = signed times.expiresAt
  refresh : delivery.refreshAfterUnix = signed times.refreshAfter

theorem issue_ok (accepted : env.issue view rows command issuedAt freshId = .ok (delivery, rows')) :
    ∃ material prepared outcome, env.material view command.request = .ok material ∧
      env.prepare freshId command material issuedAt = .ok prepared ∧
      representable prepared.times.expiresAt = true ∧
      recordGrant env.collate rows (env.write command prepared) = .ok (outcome, rows') ∧
      (outcome = .inserted ∧ delivery = prepared.delivery false ∨ ∃ existing,
        outcome = .replayed existing ∧
          env.rebuildReplay command material existing = .ok delivery) := by
  simp only [GrantEnvironment.issue, bind_ok, mapError_ok, reject_ok,
    Bool.not_eq_false'] at accepted
  obtain ⟨material, loaded, prepared, made, _, timely, ⟨outcome, after⟩, recorded, accepted⟩ :=
    accepted
  refine ⟨material, prepared, outcome, loaded, made, timely, ?_⟩
  cases outcome with
  | inserted =>
      cases accepted
      exact ⟨recorded, .inl ⟨rfl, rfl⟩⟩
  | conflict => cases accepted
  | replayed existing =>
      obtain ⟨rebuilt, made, accepted⟩ := bind_ok.mp accepted
      cases accepted
      exact ⟨recorded, .inr ⟨existing, rfl, made⟩⟩

theorem rebuildReplay_ok {material : PrivateGrantMaterial} {existing : StoredGrantRecord} :
    env.rebuildReplay command material existing = .ok delivery ↔
      existing.keyId = env.signer.keyId ∧ privateGrantTtlSecs ≤ existing.expiresAt ∧
      ∃ rebuilt, env.prepare existing.grantId command material
          (existing.expiresAt - privateGrantTtlSecs) = .ok rebuilt ∧
        rebuilt.requestFingerprint = existing.requestFingerprint ∧
        env.sha256 rebuilt.raw = existing.grantDigest ∧ delivery = rebuilt.delivery true := by
  simp only [GrantEnvironment.rebuildReplay, unit_bind_ok, reject_ok, bne_eq_false_iff_eq,
    decide_eq_false_iff_not, Nat.not_lt, bind_ok (α := PreparedGrant), mapError_ok, pure_ok,
    Bool.or_eq_false_iff]
  constructor
  · rintro ⟨keyId, late, rebuilt, made, ⟨fingerprint, digest⟩, rfl⟩
    exact ⟨keyId, late, rebuilt, made, fingerprint, digest, rfl⟩
  · rintro ⟨keyId, late, rebuilt, made, fingerprint, digest, rfl⟩
    exact ⟨keyId, late, rebuilt, made, ⟨fingerprint, digest⟩, rfl⟩

theorem recorded_fresh {generation : Nat} {terms : GrantTerms} {times : GrantTimes}
    (timed : grantTimes issuedAt = .ok times)
    (issued : env.signer.issuePrivate ⟨freshId, env.issuer, terms, times⟩ = .ok raw) :
    Recorded env command generation terms times
      ((env.prepared command generation freshId times raw).delivery false)
      (env.write command (env.prepared command generation freshId times raw)).row := by
  constructor
  case timed => exact (grantTimes_ok timed).1 ▸ timed
  case expiry => exact fun expiresAt kept => GrantIssuanceWrite.row_expiresAt kept
  case issued => exact issued
  all_goals rfl

theorem issue_recorded
    (accepted : env.issue view rows command issuedAt freshId = .ok (delivery, rows')) :
    ∃ material terms times, env.material view command.request = .ok material ∧
      grantTerms command.requestId command.request material = .ok terms ∧ ∃ row ∈ rows',
        Recorded env command material.snapshot.authorizationGeneration terms times delivery
          row := by
  obtain ⟨material, prepared, outcome, loaded, made, -, recorded, answered⟩ := issue_ok accepted
  obtain ⟨terms, times, raw, agreed, timed, issued, rfl⟩ := prepare_ok.mp made
  refine ⟨material, terms, ?_⟩
  cases answered with
  | inl fresh =>
      obtain ⟨rfl, rfl⟩ := fresh
      rcases recordGrant_ok recorded with ⟨-, rfl, -⟩ | ⟨-, same⟩ | ⟨-, _, -, -, -, -, _, -, same⟩
      · exact ⟨times, loaded, agreed, _, List.mem_append_right _ (List.mem_singleton_self _),
          recorded_fresh timed issued⟩
      · cases same
      · cases same
  | inr replayed =>
      obtain ⟨existing, rfl, rebuilding⟩ := replayed
      rcases recordGrant_ok recorded with ⟨same, -⟩ | ⟨-, same⟩ | ⟨rfl, row, member, key, tenant,
        fingerprint, expiresAt, kept, same⟩
      · cases same
      · cases same
      · cases same
        obtain ⟨keyId, late, rebuilt, made, -, digest, rfl⟩ := rebuildReplay_ok.mp rebuilding
        obtain ⟨terms', times', raw', agreed', timed', issued', rfl⟩ := prepare_ok.mp made
        cases agreed.symm.trans agreed'
        obtain ⟨clock', expires⟩ := grantTimes_ok timed'
        refine ⟨times', loaded, agreed, row, member, ?_⟩
        constructor
        case key => exact key
        case tenant => exact tenant
        case fingerprint => exact fingerprint
        case keyId => exact keyId
        case digest => exact digest.symm
        case timed => exact clock' ▸ timed'
        case expiry =>
          intro other same
          cases kept.symm.trans same
          rw [expires, Nat.sub_add_cancel late]
        case issued => exact issued'
        all_goals rfl

theorem issue_rows
    (accepted : env.issue view rows command issuedAt freshId = .ok (delivery, rows')) :
    rows' = rows ∨ ∃ row, rows' = rows ++ [row] ∧
      ∀ old ∈ rows, old.key env.collate ≠ row.key env.collate := by
  obtain ⟨material, prepared, outcome, -, -, -, recorded, -⟩ := issue_ok accepted
  rcases recordGrant_ok recorded with ⟨-, same, free⟩ | ⟨same, -⟩ | ⟨same, -⟩
  · exact .inr ⟨_, same, free⟩
  · exact .inl same
  · exact .inl same

end Accepted

theorem grantStep_keyed {rows : List GrantIssuanceRow} (keyed : env.Keyed rows) (call : GrantCall) :
    env.Keyed (grantStep env rows call) := by
  refine commit_cases (P := env.Keyed) keyed ?_
  intro after done
  obtain ⟨⟨delivery, rows'⟩, accepted, rfl⟩ := map_ok.mp done
  rcases issue_rows accepted with rfl | ⟨row, rfl, free⟩
  · exact keyed
  · exact nodup_concat_key keyed fun old member => (free old member).symm

theorem grantStep_subset (rows : List GrantIssuanceRow) (call : GrantCall) :
    rows ⊆ grantStep env rows call := by
  refine commit_cases (P := fun after => rows ⊆ after) (List.Subset.refl rows) ?_
  intro after done
  obtain ⟨⟨delivery, rows'⟩, accepted, rfl⟩ := map_ok.mp done
  rcases issue_rows accepted with rfl | ⟨row, rfl, -⟩
  · exact List.Subset.refl _
  · exact List.subset_append_left _ _

theorem run_subset (rows : List GrantIssuanceRow) (calls : List GrantCall) :
    rows ⊆ run (grantStep env) rows calls := by
  refine run_invariant (P := fun reached => rows ⊆ reached) ?_ (List.Subset.refl rows) calls
  intro reached call kept
  exact List.Subset.trans kept (grantStep_subset reached call)

theorem run_recorded {start rows : List GrantIssuanceRow} (keyed : env.Keyed start)
    (before between : List GrantCall) {call : GrantCall} {delivery : GrantDelivery}
    (accepted : env.issue call.view (run (grantStep env) start before) call.command call.issuedAt
      call.freshId = .ok (delivery, rows)) :
    env.Keyed (run (grantStep env) rows between) ∧ rows ⊆ run (grantStep env) rows between := by
  have reached : env.Keyed (run (grantStep env) start before) :=
    run_invariant (P := env.Keyed) (fun _ call => (grantStep_keyed · call)) keyed before
  have step : grantStep env (run (grantStep env) start before) call = rows := by
    rw [grantStep, accepted]
    rfl
  have after : env.Keyed rows := step ▸ grantStep_keyed reached call
  exact ⟨run_invariant (P := env.Keyed) (fun _ call => (grantStep_keyed · call)) after between,
    run_subset rows between⟩

/-- The request is not authorised any more. -/
def GrantCoordinatorError.Refuses (error : GrantCoordinatorError) : Prop :=
  error.service = .denied ∨ error.service = .routePolicyResyncRequired

theorem avoids_next {ε α β : Type} {error : ε} {x : Except ε α} {f : α → Except ε β} {a : α}
    (done : x = .ok a) (rest : Avoids error (f a)) : Avoids error (x >>= f) := by
  rw [done]
  exact rest

theorem GrantCoordinatorError.Refuses.other {error raised : GrantCoordinatorError}
    (refuses : error.Refuses) (served : raised.service = .internal ∨
      raised.service = .unavailable ∨ raised.service = .conflict) : raised ≠ error := by
  rintro rfl
  rcases refuses with denied | resync
  · rw [denied] at served
    simp at served
  · rw [resync] at served
    simp at served

theorem avoids_grantTimes {error : PrepareGrantError} (other : ∀ cause, .signing cause ≠ error)
    (issuedAt : Nat) : Avoids error (grantTimes issuedAt) := by
  have overflow := other .timeOverflow
  refine (avoids_orElse overflow).bind fun expiresAt => ?_
  exact (avoids_orElse overflow).bind fun refreshAfter => avoids_ok _

theorem avoids_prepare {error : PrepareGrantError} (other : ∀ cause, .signing cause ≠ error)
    {command : GrantIssueCommand} {material : PrivateGrantMaterial} {terms : GrantTerms}
    (agreed : grantTerms command.requestId command.request material = .ok terms) (issuedAt : Nat) :
    Avoids error (env.prepare grantId command material issuedAt) := by
  refine avoids_next agreed ?_
  refine (avoids_grantTimes other issuedAt).bind fun times => ?_
  exact (avoids_mapError fun cause _ => other cause).bind fun raw => avoids_ok _

section Refused

variable {error : GrantCoordinatorError} {command : GrantIssueCommand}
  {material : PrivateGrantMaterial} {terms : GrantTerms}

theorem avoids_preparation (refuses : error.Refuses)
    (agreed : grantTerms command.requestId command.request material = .ok terms) (grantId : Uuid)
    (issuedAt : Nat) :
    Avoids error ((env.prepare grantId command material issuedAt).mapError .preparation) := by
  apply avoids_mapError
  intro raised failed same
  subst same
  refine avoids_prepare ?_ agreed issuedAt failed
  intro cause signing
  exact refuses.other (.inl rfl) (congrArg _ signing)

theorem avoids_recordGrant (refuses : error.Refuses) (collate : String → List Nat)
    (rows : List GrantIssuanceRow) (write : GrantIssuanceWrite) :
    Avoids error ((recordGrant collate rows write).mapError .database) := by
  apply avoids_mapError
  intro raised failed same
  subst same
  have scope : Avoids raised (recordGrant collate rows write) := by
    have database : .database ≠ raised :=
      fun same => refuses.other (.inr (.inl rfl)) (congrArg _ same)
    have named : .invalidGrantScope ≠ raised :=
      fun same => refuses.other (.inr (.inl rfl)) (congrArg _ same)
    refine (avoids_reject named).bind fun _ => ?_
    split
    · refine (avoids_orElse database).bind fun row => ?_
      split
      · exact (avoids_orElse database).bind fun _ => avoids_ok _
      · exact avoids_ok _
    · exact avoids_ok _
  exact scope failed

theorem avoids_issue (refuses : error.Refuses) {view : AuthorizationView}
    (loaded : env.material view command.request = .ok material)
    (agreed : grantTerms command.requestId command.request material = .ok terms)
    (rows : List GrantIssuanceRow) (issuedAt : Nat) (freshId : Uuid) :
    Avoids error (env.issue view rows command issuedAt freshId) := by
  have mismatch : .replayMismatch ≠ error := refuses.other (.inl rfl)
  have conflict : .conflict ≠ error := refuses.other (.inr (.inr rfl))
  have unavailable : .signingKeyUnavailable ≠ error := refuses.other (.inr (.inl rfl))
  refine avoids_next loaded ?_
  refine (avoids_preparation refuses agreed freshId issuedAt).bind fun prepared => ?_
  refine (avoids_reject mismatch).bind fun _ => ?_
  refine (avoids_recordGrant refuses _ _ _).bind fun outcome => ?_
  obtain ⟨outcome, after⟩ := outcome
  cases outcome with
  | inserted => exact avoids_ok _
  | conflict =>
      intro failed
      exact conflict (Except.error.inj failed)
  | replayed existing =>
      refine Avoids.bind ?_ fun _ => avoids_ok _
      refine (avoids_reject unavailable).bind fun _ => ?_
      refine (avoids_reject mismatch).bind fun _ => ?_
      refine (avoids_preparation refuses agreed _ _).bind fun rebuilt => ?_
      exact (avoids_reject mismatch).bind fun _ => avoids_ok _

end Refused

/-- What the first transaction has read of a tenant. -/
structure Read (view : AuthorizationView) (request : GrantRequest)
    (material : PrivateGrantMaterial) : Prop where
  named : isNil request.tenantId = false ∧ isNil request.deviceId = false
  generation : ∃ row ∈ view.tables.authorizationGenerations, row.tenantId = request.tenantId ∧
    row.generation = material.snapshot.authorizationGeneration

theorem loadForPolicy_account {view : AuthorizationView} {isolation : Bool}
    {lookup : AuthorizationLookup} {requested : Option AuthorizationPolicyRef}
    {record : AuthorizationRecord}
    (loaded : loadForPolicy view.store view.tables isolation view.now lookup requested =
      .ok (some record)) :
    lookup.validate = .ok () ∧ ∃ account ∈ view.store.authorizationRows view.tables lookup,
      account.authorizationGeneration = record.authorizationGeneration := by
  simp only [loadForPolicy, unit_bind_ok] at loaded
  obtain ⟨valid, -, loaded⟩ := loaded
  refine ⟨valid, ?_⟩
  split at loaded
  · cases loaded
  · rename_i account first
    refine ⟨account, List.mem_of_head? first, ?_⟩
    split at loaded
    · cases loaded
    · split at loaded
      · split at loaded
        · cases loaded
          rfl
        · cases loaded
      · cases loaded
        rfl

theorem material_read {view : AuthorizationView} {material : PrivateGrantMaterial}
    (loaded : env.material view request = .ok material) :
    Read view request material := by
  simp only [GrantEnvironment.material, bind_ok, mapError_ok, orElse_ok] at loaded
  obtain ⟨_, loaded, record, rfl, mapped⟩ := loaded
  obtain ⟨valid, account, listed, same⟩ := loadForPolicy_account loaded
  simp only [AuthorizationLookup.validate, reject_ok, Bool.or_eq_false_iff, GrantRequest.lookup]
    at valid
  constructor
  case named => exact ⟨valid.1.1.1, valid.1.1.2⟩
  case generation =>
    simp only [privateMaterialFromRecord, unit_bind_ok, orElse_bind_ok, pure_ok] at mapped
    obtain ⟨-, -, quota, -, -, rfl⟩ := mapped
    simp only [RouteStore.authorizationRows, RouteStore.activeTenants, List.mem_flatMap,
      List.mem_map, List.mem_filter, Bool.and_eq_true, beq_iff_eq] at listed
    obtain ⟨tenant, ⟨_, ⟨-, tenantId, -⟩, _, -, rfl⟩, _, -, _, -, _, -, _, -, _, -, row, ⟨member,
      own⟩, rfl⟩ := listed
    exact ⟨row, member, own.trans tenantId, same⟩

/-- Core takes a grant at one time when it takes its terms at another. -/
def GrantSigner.Steady (signer : GrantSigner) : Prop :=
  ∀ issuer terms grantId times raw,
    signer.issuePrivate ⟨grantId, issuer, terms, times⟩ = .ok raw →
      ∀ grantId times, ∃ raw, signer.issuePrivate ⟨grantId, issuer, terms, times⟩ = .ok raw

/-- The answer is a refusal, or the accepted grant as a replay. -/
def Exact (answer : Except GrantCoordinatorError (GrantDelivery × List GrantIssuanceRow))
    (accepted : GrantDelivery) : Prop :=
  (∃ error, answer = .error error ∧ error.Refuses) ∨
    ∃ rows, answer = .ok ({ accepted with replayed := true }, rows)

/-- A grant issued now has an expiry in the range of the clock. -/
def timely (issuedAt : Nat) : Bool :=
  decide (issuedAt + privateGrantTtlSecs ≤ u64Max) && representable (issuedAt + privateGrantTtlSecs)

theorem grantTimes_timely {issuedAt : Nat} (clock : timely issuedAt = true) :
    ∃ times, grantTimes issuedAt = .ok times ∧ representable times.expiresAt = true := by
  rw [timely, Bool.and_eq_true, decide_eq_true_eq] at clock
  have refresh : issuedAt + privateGrantTtlSecs * 3 / 4 ≤ u64Max := by
    have below : privateGrantTtlSecs * 3 / 4 ≤ privateGrantTtlSecs := by decide
    omega
  refine ⟨⟨issuedAt, issuedAt + privateGrantTtlSecs * 3 / 4, issuedAt + privateGrantTtlSecs⟩, ?_,
    clock.2⟩
  simp only [grantTimes, bind_ok, orElse_ok, pure_ok]
  exact ⟨_, if_pos clock.1, _, if_pos refresh, rfl⟩

theorem timely_of {issuedAt : Nat} {times : GrantTimes} (timed : grantTimes issuedAt = .ok times)
    (clock : representable times.expiresAt = true) : timely issuedAt = true := by
  have expires := (grantTimes_ok timed).2
  simp only [grantTimes, bind_ok, orElse_ok] at timed
  obtain ⟨expiresAt, sum, -⟩ := timed
  have bounded : issuedAt + privateGrantTtlSecs ≤ u64Max := by
    by_contra above
    rw [checkedAdd, if_neg above] at sum
    cases sum
  rw [timely, Bool.and_eq_true, decide_eq_true_eq, ← expires]
  exact ⟨expires ▸ bounded, clock⟩

theorem command_named {view : AuthorizationView} {command : GrantIssueCommand}
    {material : PrivateGrantMaterial} {terms : GrantTerms}
    (loaded : env.material view command.request = .ok material)
    (agreed : grantTerms command.requestId command.request material = .ok terms) :
    (isNil command.request.tenantId || isNil command.request.deviceId ||
      command.requestId.isEmpty) = false := by
  obtain ⟨tenant, device⟩ := (material_read loaded).named
  simp only [grantTerms, unit_bind_ok, reject_ok, Bool.or_eq_false_iff] at agreed
  simp [tenant, device, agreed.1.1]

section Again

variable {view : AuthorizationView} {rows : List GrantIssuanceRow} {command : GrantIssueCommand}
  {delivery : GrantDelivery} {row : GrantIssuanceRow} {generation : Nat} {terms : GrantTerms}
  {times : GrantTimes} {material : PrivateGrantMaterial}

variable {issuedAt : Nat} {freshId : Uuid}

theorem issue_fresh (loaded : env.material view command.request = .ok material)
    (agreed : grantTerms command.requestId command.request material = .ok terms)
    (timed : grantTimes issuedAt = .ok times) (clock : representable times.expiresAt = true)
    (issued : env.signer.issuePrivate ⟨freshId, env.issuer, terms, times⟩ = .ok raw)
    (free : ∀ row ∈ rows, row.id ≠ freshId ∧
      row.key env.collate ≠ env.key command material.snapshot.authorizationGeneration) :
    env.issue view rows command issuedAt freshId =
      .ok ((env.prepared command material.snapshot.authorizationGeneration freshId times
        raw).delivery false, rows ++ [(env.write command (env.prepared command
          material.snapshot.authorizationGeneration freshId times raw)).row]) := by
  have made := prepare_ok.mpr ⟨terms, times, raw, agreed, timed, issued, rfl⟩
  have passed : reject (!representable times.expiresAt) GrantCoordinatorError.replayMismatch =
      .ok () := by
    rw [clock]
    rfl
  have untaken : (rows.any fun row => row.id == freshId || row.key env.collate ==
      env.key command material.snapshot.authorizationGeneration) = false := by
    rw [List.any_eq_false]
    intro row member taken
    obtain ⟨id, key⟩ := free row member
    rw [Bool.or_eq_true, beq_iff_eq, beq_iff_eq] at taken
    exact taken.elim id key
  have entered : recordGrant env.collate rows (env.write command
      (env.prepared command material.snapshot.authorizationGeneration freshId times raw)) =
      .ok (.inserted, rows ++ [(env.write command (env.prepared command
        material.snapshot.authorizationGeneration freshId times raw)).row]) := by
    rw [recordGrant]
    refine unit_bind_ok.mpr ⟨reject_ok.mpr (command_named loaded agreed), ?_⟩
    rw [if_neg]
    · rfl
    · exact Bool.eq_false_iff.mp untaken
  refine bind_ok.mpr ⟨material, loaded, bind_ok.mpr ⟨_, mapError_ok.mpr made, ?_⟩⟩
  refine unit_bind_ok.mpr ⟨passed, bind_ok.mpr ⟨_, mapError_ok.mpr entered, rfl⟩⟩

theorem rebuild_prepares (recorded : Recorded env command generation terms times delivery row)
    (kept : row.expiresAt = some expiresAt) :
    privateGrantTtlSecs ≤ expiresAt ∧
      grantTimes (expiresAt - privateGrantTtlSecs) = .ok times := by
  have expires := recorded.expiry expiresAt kept
  have later := (grantTimes_ok recorded.timed).2
  have start : expiresAt - privateGrantTtlSecs = times.issuedAt := by omega
  exact ⟨by omega, start ▸ recorded.timed⟩

section Found

variable (keyed : env.Keyed rows) (member : row ∈ rows)
  (recorded : Recorded env command generation terms times delivery row)
  (loaded : env.material view command.request = .ok material)
  (same : material.snapshot.authorizationGeneration = generation)
  (agreed : grantTerms command.requestId command.request material = .ok terms')
include keyed member recorded loaded same agreed

section

variable
  (takes : ∀ times, ∃ raw, env.signer.issuePrivate ⟨freshId, env.issuer, terms', times⟩ = .ok raw)
  (clock : timely issuedAt = true) (kept : row.expiresAt = some expiresAt)

include takes clock kept

theorem issue_found :
    env.issue view rows command issuedAt freshId = (env.rebuildReplay command material
      ⟨row.id, row.requestFingerprint, row.keyId, row.grantDigest, expiresAt⟩).map (·, rows) := by
  obtain ⟨now, timed, inRange⟩ := grantTimes_timely clock
  obtain ⟨raw, issued⟩ := takes now
  have made := prepare_ok.mpr ⟨terms', now, raw, agreed, timed, issued, rfl⟩
  have found : recordGrant env.collate rows (env.write command
      (env.prepared command material.snapshot.authorizationGeneration freshId now raw)) = _ :=
    recordGrant_found keyed member (same ▸ recorded.key) recorded.tenant
      (same ▸ recorded.fingerprint) (command_named loaded agreed)
  rw [kept] at found
  rw [GrantEnvironment.issue, loaded]
  change (env.prepare freshId command material issuedAt).mapError _ >>= _ = _
  rw [made]
  change (reject (!representable now.expiresAt) GrantCoordinatorError.replayMismatch >>= _) = _
  rw [inRange]
  change ((recordGrant _ _ _).mapError GrantCoordinatorError.database >>= _) = _
  rw [found]
  rfl

theorem issue_changed
    (issued : env.signer.issuePrivate ⟨row.id, env.issuer, terms', times⟩ = .ok raw)
    (digest : env.sha256 raw ≠ env.sha256 delivery.raw) :
    env.issue view rows command issuedAt freshId = .error .replayMismatch := by
  obtain ⟨late, timed⟩ := rebuild_prepares recorded kept
  have rebuilt := prepare_ok.mpr ⟨terms', times, raw, agreed, timed, issued, rfl⟩
  rw [issue_found keyed member recorded loaded same agreed takes clock kept,
    GrantEnvironment.rebuildReplay]
  simp only [recorded.keyId, bne_self_eq_false, Nat.not_lt.mpr late, decide_false, rebuilt]
  have differs : (env.sha256 (env.prepared command material.snapshot.authorizationGeneration row.id
      times raw).raw != row.grantDigest) = true := by
    rw [recorded.digest]
    exact bne_iff_ne.mpr digest
  simp only [reject, differs, Bool.or_true, if_true, bind, Except.bind, Except.mapError,
    Bool.false_eq_true, if_false, Except.map]

end

theorem issue_again_terms
    (tells : ∀ grantId times raw,
      env.signer.issuePrivate ⟨grantId, env.issuer, terms, times⟩ = .ok raw →
      env.signer.issuePrivate ⟨grantId, env.issuer, terms', times⟩ = .ok raw → terms = terms')
    {rows' : List GrantIssuanceRow} (answered : env.issue view rows command issuedAt freshId =
      .ok ({ delivery with replayed := true }, rows')) :
    terms = terms' ∧ timely issuedAt = true ∧ row.expiresAt ≠ none := by
  obtain ⟨material', prepared, outcome, loaded', made, clock, entered, answer⟩ := issue_ok answered
  cases loaded.symm.trans loaded'
  obtain ⟨_, now, raw, agreed', timed, -, rfl⟩ := prepare_ok.mp made
  have clock := timely_of timed clock
  rcases answer with ⟨rfl, fresh⟩ | ⟨existing, rfl, rebuilding⟩
  · cases congrArg GrantDelivery.replayed fresh
  · rcases recordGrant_ok entered with ⟨wrong, -⟩ | ⟨-, wrong⟩ | ⟨-, found, listed, key, -, -,
      expiresAt, kept, outcome⟩
    · cases wrong
    · cases wrong
    · cases outcome
      have place : found = row := eq_of_key keyed listed member
        (key.trans (same ▸ recorded.key.symm))
      subst place
      obtain ⟨-, late, rebuilt, made, -, -, answer⟩ := rebuildReplay_ok.mp rebuilding
      obtain ⟨_, times', raw', agreed'', timed', issued, rfl⟩ := prepare_ok.mp made
      cases agreed.symm.trans agreed''
      cases (rebuild_prepares recorded kept).2.symm.trans timed'
      have bytes : delivery.raw = raw' := congrArg GrantDelivery.raw answer
      refine ⟨tells _ _ _ recorded.issued (bytes ▸ issued), clock, ?_⟩
      rw [kept]
      exact Option.some_ne_none expiresAt

end Found

theorem issue_again (keyed : env.Keyed rows) (member : row ∈ rows)
    (recorded : Recorded env command generation terms times delivery row)
    (steady : env.signer.Steady) (loaded : env.material view command.request = .ok material)
    (same : material.snapshot.authorizationGeneration = generation)
    (agreed : grantTerms command.requestId command.request material = .ok terms)
    (clock : timely issuedAt = true) (kept : row.expiresAt = some expiresAt) (freshId : Uuid) :
    env.issue view rows command issuedAt freshId =
      .ok ({ delivery with replayed := true }, rows) := by
  obtain ⟨late, timed⟩ := rebuild_prepares recorded kept
  have rebuilt := prepare_ok.mpr ⟨terms, times, delivery.raw, agreed, timed, recorded.issued, rfl⟩
  have answer : ({ delivery with replayed := true } : GrantDelivery) =
      (env.prepared command material.snapshot.authorizationGeneration row.id times
        delivery.raw).delivery true := by
    simp only [GrantEnvironment.prepared, PreparedGrant.delivery, recorded.grant, recorded.expires,
      recorded.refresh]
  have replayed : env.rebuildReplay command material
      ⟨row.id, row.requestFingerprint, row.keyId, row.grantDigest, expiresAt⟩ =
        .ok { delivery with replayed := true } :=
    rebuildReplay_ok.mpr ⟨recorded.keyId, late, _, rebuilt, (same ▸ recorded.fingerprint.symm),
      recorded.digest.symm, answer⟩
  rw [issue_found keyed member recorded loaded same agreed
    (fun times => steady _ _ _ _ _ recorded.issued freshId times) clock kept, replayed]
  rfl

end Again

/-- The accepted request is still recorded with its expiry. -/
def GrantEnvironment.Kept (env : GrantEnvironment) (view : AuthorizationView)
    (rows : List GrantIssuanceRow) (command : GrantIssueCommand) : Prop :=
  ∀ material, env.material view command.request = .ok material → ∀ row ∈ rows,
    row.key env.collate = env.key command material.snapshot.authorizationGeneration →
      row.expiresAt ≠ none

/-- In a run of issuances, over whatever else happens between what they read, a
    request whose tenant has kept its authorization generation is refused or
    answered with the accepted grant exactly when it is refused or would get a
    grant of the same terms, at times that the clock and the table can hold. -/
theorem grant_replay_iff (env : GrantEnvironment) (steady : env.signer.Steady)
    {start rows : List GrantIssuanceRow} (keyed : env.Keyed start) (before between : List GrantCall)
    (call : GrantCall) {delivery : GrantDelivery}
    (accepted : env.issue call.view (run (grantStep env) start before) call.command call.issuedAt
      call.freshId = .ok (delivery, rows))
    (again : AuthorizationView) (unchanged : ∀ a ∈ call.view.tables.authorizationGenerations,
      ∀ b ∈ again.tables.authorizationGenerations, a.tenantId = call.command.request.tenantId →
        b.tenantId = call.command.request.tenantId → a.generation = b.generation)
    (tells : ∀ a b, env.terms call.view call.command = .ok a →
      env.terms again call.command = .ok b → ∀ grantId times raw,
        env.signer.issuePrivate ⟨grantId, env.issuer, a, times⟩ = .ok raw →
        env.signer.issuePrivate ⟨grantId, env.issuer, b, times⟩ = .ok raw → a = b)
    (retriedAt : Nat) (freshId : Uuid) :
    Exact (env.issue again (run (grantStep env) rows between) call.command retriedAt freshId)
        delivery ↔
      (∃ error, env.terms again call.command = .error error ∧ error.Refuses) ∨
      (env.terms again call.command = env.terms call.view call.command ∧
        timely retriedAt = true ∧ env.Kept call.view rows call.command) := by
  obtain ⟨later, kept⟩ := run_recorded keyed before between accepted
  have here := run_recorded keyed before [] accepted
  obtain ⟨material, terms, times, loaded, agreed, row, member, recorded⟩ := issue_recorded accepted
  have first : env.terms call.view call.command = .ok terms :=
    bind_ok.mpr ⟨material, loaded, mapError_ok.mpr agreed⟩
  have stored : env.Kept call.view rows call.command ↔ row.expiresAt ≠ none := by
    constructor
    · exact fun all => all material loaded row member recorded.key
    · intro filled material' loaded' row' member' key
      cases loaded.symm.trans loaded'
      rw [eq_of_key here.1 member' member (key.trans recorded.key.symm)]
      exact filled
  rw [stored, first]
  cases loaded' : env.material again call.command.request with
  | error error =>
      have refused : env.terms again call.command = .error error := by
        rw [GrantEnvironment.terms, loaded']
        rfl
      have answer : env.issue again (run (grantStep env) rows between) call.command retriedAt
          freshId = .error error := by
        rw [GrantEnvironment.issue, loaded']
        rfl
      rw [refused, Exact, answer]
      simp
  | ok material' =>
      have same : material'.snapshot.authorizationGeneration =
          material.snapshot.authorizationGeneration := by
        obtain ⟨a, listed, own, generation⟩ := (material_read loaded).generation
        obtain ⟨b, listed', own', generation'⟩ := (material_read loaded').generation
        rw [← generation, ← generation', unchanged a listed b listed' own own']
      cases agreed' : grantTerms call.command.requestId call.command.request material' with
      | error cause =>
          have refused : env.terms again call.command = .error (.preparation cause) := by
            rw [GrantEnvironment.terms, loaded']
            change (grantTerms _ _ material').mapError _ = _
            rw [agreed']
            rfl
          have unprepared :
              env.prepare freshId call.command material' retriedAt = .error cause := by
            rw [GrantEnvironment.prepare, agreed']
            rfl
          have answer : env.issue again (run (grantStep env) rows between) call.command retriedAt
              freshId = .error (.preparation cause) := by
            rw [GrantEnvironment.issue, loaded']
            change (env.prepare _ _ material' _).mapError _ >>= _ = _
            rw [unprepared]
            rfl
          rw [refused, Exact, answer]
          simp
      | ok terms' =>
          have second : env.terms again call.command = .ok terms' :=
            bind_ok.mpr ⟨material', loaded', mapError_ok.mpr agreed'⟩
          rw [second]
          constructor
          · rintro (⟨error, failed, refuses⟩ | ⟨rows', answered⟩)
            · exact absurd failed (avoids_issue refuses loaded' agreed' _ _ _)
            · obtain ⟨equal, clock, filled⟩ := issue_again_terms later (kept member) recorded
                loaded' same agreed' (tells terms terms' first second) answered
              exact .inr ⟨congrArg _ equal.symm, clock, filled⟩
          · rintro (⟨error, failed, -⟩ | ⟨equal, clock, filled⟩)
            · cases failed
            · cases equal
              obtain ⟨expiresAt, kept'⟩ := Option.ne_none_iff_exists'.mp filled
              exact .inr ⟨_, issue_again later (kept member) recorded steady loaded' same agreed'
                clock kept' freshId⟩

/-- The first publication of the two sites is followed by a second one. Site 1 has
asked for a grant before, and asks again with the same request id. -/
def trialQuota : GrantQuota where
  allowedFeatures := 9216
  maxOuterConnectionsPerNode := 2
  maxOuterConnectionsPerPool := 4
  maxActiveSessionsPerConnection := 128
  maxUdpFlowsPerConnection := 256
  maxPendingOpens := 32
  maxSpeculativeStreams := 8
  maxDatagramRecord := 1350
  uploadRateBps := 0
  downloadRateBps := 0

def trialQuotaJson : String :=
  "\x7b\"upload_rate_bps\": 0, \"allowed_features\": 9216, \"download_rate_bps\": 0, " ++
    "\"max_pending_opens\": 32, \"max_datagram_record\": 1350, \"max_speculative_streams\": 8, " ++
    "\"max_udp_flows_per_connection\": 256, \"max_outer_connections_per_node\": 2, " ++
    "\"max_outer_connections_per_pool\": 4, \"max_active_sessions_per_connection\": 128\x7d"

def trialTables : AuthorizationTables :=
  { sampleTables with
    publicKey := fun _ => List.replicate 32 7
    quotaJson := fun _ => trialQuotaJson }

def firstView : AuthorizationView :=
  ⟨run (routeStep fun _ => 0) twoSiteStore entitledRun, trialTables, 0⟩

def secondView : AuthorizationView :=
  ⟨run (routeStep fun _ => 0) twoSiteStore
    (entitledRun ++ [.publish false (attachmentWrite 2 false)]), trialTables, 1000000⟩

def runningView : AuthorizationView :=
  ⟨run (routeStep fun _ => 0) twoSiteStore olderRun, trialTables, 1000000⟩

def tunnelCommand (routePolicy : Option AuthorizationPolicyRef) : GrantIssueCommand :=
  ⟨"request-1", 1, 11, 21, 5, .private_, privateTunConnect, routePolicy⟩

def accessIssuer : IssuerConfig := ⟨0xe1, 0xe2⟩

def tunnelTerms (generation : Nat) : GrantTerms where
  organizationId := 2
  tenantId := 1
  subscriptionId := 6
  deviceId := 11
  deviceKeyId := 21
  devicePublicKey := List.replicate 32 7
  assuranceLevel := 1
  nodePoolId := 5
  quota := trialQuota
  servicePermissions := permissionPrivateTunConnect
  routePolicy := some ⟨41, generation, sampleHash generation⟩
  policyGeneration := 0
  entitlementGeneration := 1

def tunnelPayload (grantId : Uuid) (generation issuedAt : Nat) : GrantPayloadBuildV1 :=
  ⟨grantId, accessIssuer, tunnelTerms generation, issuedAt, issuedAt + 64800, issuedAt + 86400⟩

def accessTranscript (request : Bytes) : Bytes :=
  utf8 "candy-test-grant-transcript-v1" ++ request

def accessCore : CoreModule where
  prepare request := .ok ⟨grantPayloadType, request, accessTranscript request⟩
  routeContentHash _ _ := .error "not a route object"
  assemble _ _ payload signature := .ok (bigEndian 4 payload.length ++ payload ++ signature)
  validate _ _ _ := .ok ()

def accessSignatures : List (GrantPayloadBuildV1 × Bytes) :=
  [(tunnelPayload 81 1 0, bigEndian 64
      0x00aed40d726c750d3968dd5c44945496da7423afcd2b65bf57dc99c44281b4d12e86718aac7bf23fab4d7f13ae35bbbf3d90ac4189fc2b12757f57e1fc96d50b),
    (tunnelPayload 82 2 1, bigEndian 64
      0x352a2ac1e80eb73775b176879f1d288ad257110b1d53f01132d5cb367b1cf9b9b14c83fea242b15196ec1f3cecd935f2a8a5038c56a05196c3ff80eb74722b04),
    (tunnelPayload 81 2 0, bigEndian 64
      0x2201ee8443e0377d20c3580985958636d9cfbd53be98d86baadf22c0bd4e34fb53852bb35109b409d21fc5ebe9b5b60509084a1155b878bde9cccdeaf671e70b),
    (tunnelPayload 82 1 1, bigEndian 64
      0x01359b1d887a147f4b23c10891484546a771cb612aef58948de56f8fa98d6cbafe3e9176e34733b2022596d8a2044d9532f9fc7d6a2f8b8059958256f6581b0f)]

def unsignedSigner : GrantSigner where
  keyId := "k1"
  sign _ := []
  publicKey := hashBytes 0xed4928c628d1c2c6eae90338905995612959273a5c63f93636c14614ac8737d1
  core := accessCore

def accessSigner : GrantSigner :=
  { unsignedSigner with
    sign := fun transcript => ((accessSignatures.find? fun entry =>
      transcript == accessTranscript (unsignedSigner.buildRequest entry.1)).map (·.2)).getD [] }

def accessRaw (payload : GrantPayloadBuildV1) : Bytes :=
  let request := unsignedSigner.buildRequest payload
  bigEndian 4 request.length ++ request ++ accessSigner.sign (accessTranscript request)

def tunnelRequestBytes (routePolicy : Bytes) : Bytes :=
  utf8 "candy-cloud/grant-request/v1" ++ bigEndian 8 9 ++ utf8 "request-1" ++ uuidBytes 1 ++
    uuidBytes 11 ++ uuidBytes 21 ++ uuidBytes 5 ++ [1] ++ bigEndian 8 19 ++
    utf8 privateTunConnect ++ routePolicy ++ bigEndian 8 1

def accessHashes : List (Bytes × Hash) :=
  [(accessRaw (tunnelPayload 81 1 0),
      0x4b8f0133efacf287669b7071916320dd5f5dd1cc472210c5106f333b3591d985),
    (accessRaw (tunnelPayload 82 2 1),
      0xe491f0a9251173f05ea1e1d16d590afc0a2201f9bf6ad2b4e45bf6a3d5fa135b),
    (accessRaw (tunnelPayload 81 2 0),
      0x4f93af2fcfa2e599c280f14d4875669888247ad7ea080ebbe4b1324f26c9bb6e),
    (accessRaw (tunnelPayload 82 1 1),
      0x82297eefd5ee1a0388e2cca15082f663e57f0c9debd2b2362f68d3bf8b54e204),
    (tunnelRequestBytes [],
      0x2f991903ec2dabd568dfb7f5309be497988d4761b96cf60d73d4fee4392c2aab),
    (tunnelRequestBytes (utf8 "signed-route-policy-v1" ++ [0] ++ uuidBytes 41 ++ bigEndian 8 1 ++
      hashBytes (sampleHash 1)),
      0x362c70e7080fdc0112d71896c68e15ffab3d8f5ecccd11b2dbc4ddf882d1313b)]

def accessEnvironment : GrantEnvironment where
  sha256 bytes := (accessHashes.lookup bytes).getD 0
  collate text := text.toLower.toList.map Char.toNat
  readQuota text := if text = trialQuotaJson then some trialQuota else none
  signer := accessSigner
  issuer := accessIssuer
  policyIsolation := true

theorem accessSigner_issues (payload : GrantPayloadBuildV1) :
    accessSigner.issuePrivate payload = .ok (accessRaw payload) := rfl

theorem tunnel_signed (grantId : Uuid) (generation issuedAt : Nat) {refreshAfter : Nat}
    (refresh : issuedAt + 64800 = refreshAfter) (expiry : issuedAt + 86400 = expiresAt) :
    accessEnvironment.signer.issuePrivate ⟨grantId, accessEnvironment.issuer,
      tunnelTerms generation, issuedAt, refreshAfter, expiresAt⟩ =
        .ok (accessRaw (tunnelPayload grantId generation issuedAt)) := by
  subst refresh expiry
  exact accessSigner_issues (tunnelPayload grantId generation issuedAt)

theorem accessSigner_steady : accessSigner.Steady :=
  fun _ _ _ _ _ _ _ _ => ⟨_, accessSigner_issues _⟩

theorem trial_generation {view : AuthorizationView} (tables : view.tables = trialTables)
    {material : PrivateGrantMaterial}
    (loaded : accessEnvironment.material view request = .ok material) :
    material.snapshot.authorizationGeneration = 1 := by
  obtain ⟨row, listed, -, generation⟩ := (material_read loaded).generation
  rw [tables] at listed
  cases List.mem_singleton.mp listed
  exact generation.symm

theorem grantTimes_start : grantTimes 0 = .ok ⟨0, 64800, 86400⟩ := by
  decide +kernel

theorem tunnel_issued {routePolicy : Option AuthorizationPolicyRef}
    (agreed : accessEnvironment.terms firstView (tunnelCommand routePolicy) = .ok (tunnelTerms 1)) :
    accessEnvironment.issue firstView [] (tunnelCommand routePolicy) 0 81 =
      .ok ((accessEnvironment.prepared (tunnelCommand routePolicy) 1 81 ⟨0, 64800, 86400⟩
        (accessRaw (tunnelPayload 81 1 0))).delivery false,
        [(accessEnvironment.write (tunnelCommand routePolicy) (accessEnvironment.prepared
          (tunnelCommand routePolicy) 1 81 ⟨0, 64800, 86400⟩
            (accessRaw (tunnelPayload 81 1 0)))).row]) := by
  obtain ⟨material, loaded, agreed⟩ := terms_ok.mp agreed
  have fresh := issue_fresh loaded agreed grantTimes_start (by decide)
    (tunnel_signed 81 1 0 rfl rfl) fun _ member => absurd member List.not_mem_nil
  rw [trial_generation rfl loaded] at fresh
  exact fresh

theorem lookup_ne {table : List (Bytes × Hash)} {hash : Hash} (filled : hash ≠ 0)
    (others : ∀ entry ∈ table, entry.2 ≠ hash) (bytes : Bytes) :
    (table.lookup bytes).getD 0 ≠ hash := by
  induction table with
  | nil => exact filled.symm
  | cons entry rest ih =>
      rw [List.lookup_cons]
      split
      · exact others entry List.mem_cons_self
      · exact ih fun other inside => others other (List.mem_cons_of_mem entry inside)

theorem lookup_first_ne {first raw : Bytes} {hash : Hash} {rest : List (Bytes × Hash)}
    (filled : hash ≠ 0) (others : ∀ entry ∈ rest, entry.2 ≠ hash) (other : raw ≠ first) :
    (((first, hash) :: rest).lookup raw).getD 0 ≠ (((first, hash) :: rest).lookup first).getD 0 := by
  rw [List.lookup_cons_self, List.lookup_cons, beq_eq_false_iff_ne.mpr other]
  exact lookup_ne filled others raw

theorem firstGrant_digest {raw : Bytes} (other : raw ≠ accessRaw (tunnelPayload 81 1 0)) :
    accessEnvironment.sha256 raw ≠ accessEnvironment.sha256 (accessRaw (tunnelPayload 81 1 0)) := by
  have others : ∀ entry ∈ accessHashes.tail,
      entry.2 ≠ 0x4b8f0133efacf287669b7071916320dd5f5dd1cc472210c5106f333b3591d985 := by
    simp [accessHashes]
  have listed : accessHashes = (accessRaw (tunnelPayload 81 1 0),
      0x4b8f0133efacf287669b7071916320dd5f5dd1cc472210c5106f333b3591d985) ::
        accessHashes.tail := rfl
  have digest (bytes : Bytes) : accessEnvironment.sha256 bytes =
      (accessHashes.lookup bytes).getD 0 := rfl
  rw [digest, digest, listed]
  exact lookup_first_ne (by simp) others other

/-- The retry without a route policy meets the second publication. -/
theorem republished_replay_mismatch : ∃ delivery rows,
    accessEnvironment.issue firstView [] (tunnelCommand none) 0 81 = .ok (delivery, rows) ∧
      firstView.tables = secondView.tables ∧
      accessEnvironment.issue secondView rows (tunnelCommand none) 1 82 =
        .error .replayMismatch := by
  have agreed : accessEnvironment.terms firstView (tunnelCommand none) = .ok (tunnelTerms 1) := by
    decide +kernel
  have changed : accessEnvironment.terms secondView (tunnelCommand none) = .ok (tunnelTerms 2) := by
    decide +kernel
  have apart : (accessRaw (tunnelPayload 81 2 0)).drop 4 ≠
      (accessRaw (tunnelPayload 81 1 0)).drop 4 := by
    decide +kernel
  have digests := firstGrant_digest fun same => apart (congrArg (List.drop 4) same)
  obtain ⟨material, loaded, terms⟩ := terms_ok.mp changed
  refine ⟨_, _, tunnel_issued agreed, rfl, ?_⟩
  have keyed (row : GrantIssuanceRow) : accessEnvironment.Keyed [row] := List.nodup_singleton _
  exact issue_changed (keyed _) (List.mem_singleton_self _)
    (recorded_fresh grantTimes_start (tunnel_signed 81 1 0 rfl rfl)) loaded
    (trial_generation rfl loaded) terms (fun _ => ⟨_, accessSigner_issues _⟩) (by decide) rfl
    (tunnel_signed 81 2 0 rfl rfl) digests

/-- A retry that names its route policy is answered with the first grant. -/
theorem named_policy_replays : ∃ delivery rows,
    accessEnvironment.issue firstView [] (tunnelCommand (some ⟨41, 1, sampleHash 1⟩)) 0 81 =
      .ok (delivery, rows) ∧
    Exact (accessEnvironment.issue runningView rows
      (tunnelCommand (some ⟨41, 1, sampleHash 1⟩)) 1 82) delivery := by
  have agreed : accessEnvironment.terms firstView (tunnelCommand (some ⟨41, 1, sampleHash 1⟩)) =
      .ok (tunnelTerms 1) := by
    decide +kernel
  have still : accessEnvironment.terms runningView (tunnelCommand (some ⟨41, 1, sampleHash 1⟩)) =
      .ok (tunnelTerms 1) := by
    decide +kernel
  have issued := tunnel_issued agreed
  have keyed : accessEnvironment.Keyed [] := List.nodup_nil
  refine ⟨_, _, issued, (grant_replay_iff accessEnvironment accessSigner_steady keyed [] []
    ⟨firstView, tunnelCommand (some ⟨41, 1, sampleHash 1⟩), 0, 81⟩ issued runningView ?_ ?_ 1
      82).mpr (.inr ⟨still.trans agreed.symm, by decide, ?_⟩)⟩
  · intro a listed b listed' _ _
    cases List.mem_singleton.mp listed
    cases List.mem_singleton.mp listed'
    rfl
  · intro a b first second _ _ _ _ _
    cases agreed.symm.trans first
    cases still.symm.trans second
    rfl
  · intro material loaded row listed key
    cases List.mem_singleton.mp listed
    exact Option.some_ne_none 86400

end CandyCloud.Access
