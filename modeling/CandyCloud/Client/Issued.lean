import CandyCloud.Client.Writes

/-! # What the issuing services return

A call of `grant_for_device` or `projection_for_device` returns what is stored for its request
or inserts a row and returns that one; a poll may also return the current projection.
-/

namespace CandyCloud

open Foundation

variable {write : ClientGrantWrite} {store : ClientStore} {projectionId : Uuid}
  {outcome : ProjectionAttempt}

section Grants

variable {issuance : ClientIssuance} {plane : ClientPlane} {request : GrantRequest}
  {inputs : GrantInputs}

theorem ClientIssuance.attempt_ok {grantId : Uuid}
    (done : issuance.attempt plane request inputs grantId = .ok write) :
    write.audience = request.device.audience ∧ write.requestId = request.requestId ∧
      timestamp inputs.leaseUntil = some write.assignmentLeaseUntil ∧
      ∃ generation envelope,
        issuance.signer.issue issuance.codec.toEnvelopeCodec
          (inputs.payload request.device grantId generation) = .ok envelope ∧
        issuance.codec.grantEnvelopeBytes envelope = some write.grantEnvelope := by
  simp only [ClientIssuance.attempt, orElse_bind_ok] at done
  obtain ⟨lease, stamped, issuedAt, -, expiresAt, -, done⟩ := done
  rw [bind_ok] at done
  obtain ⟨generation, -, done⟩ := done
  rw [bind_ok] at done
  obtain ⟨envelope, signed, done⟩ := done
  rw [orElse_bind_ok] at done
  obtain ⟨bytes, written, done⟩ := done
  rw [pure_ok] at done
  rw [mapError_ok] at signed
  subst done
  exact ⟨rfl, rfl, stamped, generation, envelope, signed, written⟩

/-- The row a call inserts, with the attempt that wrote it. -/
structure GrantInserted (issuance : ClientIssuance) (plane : ClientPlane) (request : GrantRequest)
    (write : ClientGrantWrite) : Prop where
  attempted : ∃ inputs grantId, issuance.gatherInputs plane request = .ok inputs ∧
    issuance.attempt plane request inputs grantId = .ok write
  insertable : GrantInsertable issuance.codec.sha256 plane.clients write

def ClientPlane.insertGrant (plane : ClientPlane) (sha256 : Bytes → Hash)
    (write : ClientGrantWrite) : ClientPlane :=
  { plane with clients := plane.clients.apply (.insertGrant (write.row sha256)) }

/-- The attempts for a request that is not answered fail, or the write of one of
    them is inserted and read back. -/
theorem ClientIssuance.issueAttempts_cases
    (unanswered : plane.clients.grantRequest request.device.scope.tenantId request.device.recordId
      request.requestId = none)
    (gathered : issuance.gatherInputs plane request = .ok inputs) (left : Nat) :
    (∃ error, issuance.issueAttempts request inputs left plane = (.error error, plane)) ∨
    ∃ write, GrantInserted issuance plane request write ∧
      issuance.issueAttempts request inputs left plane =
        ((ClientIssuance.stored request
          (plane.insertGrant issuance.codec.sha256 write).clients).map (⟨·, false⟩),
          plane.insertGrant issuance.codec.sha256 write) := by
  induction left with
  | zero => exact .inl ⟨_, rfl⟩
  | succ left ih =>
      rw [ClientIssuance.issueAttempts]
      split
      · exact .inl ⟨_, rfl⟩
      · rename_i write attempted
        obtain ⟨audience, named, -⟩ := ClientIssuance.attempt_ok attempted
        rcases writeGrant_cases issuance.codec.sha256 plane.clients write with
          ⟨error, written⟩ | ⟨stored, found, -⟩ | ⟨insertable, written⟩
        · -- a refused write leaves the plane, so the next attempt starts from it
          rw [written]
          cases error with
          | generationConflict => exact ih
          | bindingConflict | invalidScope | invalidDisplayName | invalidInstallId
          | invalidClientVersion | invalidPublicKey | invalidTransition | notFound
          | invalidRecord => exact .inl ⟨_, rfl⟩
        · rw [audience, named] at found
          cases unanswered.symm.trans found
        · rw [written]
          exact .inr ⟨write, ⟨⟨inputs, _, gathered, attempted⟩, insertable⟩, rfl⟩

theorem openGrant_record (sha256 : Bytes → Hash) {stage : ClientStage}
    (opened : openGrant write = .ok stage) :
    ((write.row sha256).record).validate = .ok () ∧
      [write.audience.scope.tenantId, write.audience.clientDeviceId, write.requestId].any isNil =
        false := by
  rw [openGrant, unit_bind_ok, unit_bind_ok, pure_ok, ClientGrantWrite.validate, reject_ok] at opened
  obtain ⟨valid, stamped, -⟩ := opened
  simp only [Bool.or_eq_false_iff, decide_eq_false_iff_not, not_le, not_lt, List.cons_append,
    List.any_cons, List.any_append, List.any_nil, reject_ok] at valid stamped
  obtain ⟨⟨⟨⟨⟨⟨⟨⟨⟨⟨⟨grantNil, ids, requestNil⟩, positive⟩, bounded⟩, hashed⟩, filled⟩, fits⟩, keyed⟩,
    keyFits⟩, -⟩, -⟩, within⟩ := valid
  have ordered : databaseTimestamp write.assignmentLeaseUntil ≤
      databaseTimestamp write.expiresAt := by
    exact Nat.mul_le_mul_right 1000 (Nat.div_le_div_right within)
  have named := ids
  simp only [ClientAudience.ids, ClientScope.ids, List.cons_append, List.nil_append, List.any_cons,
    List.any_nil, Bool.or_eq_false_iff] at named
  constructor
  · simp only [ClientGrantRecord.validate, unit_bind_ok, reject_ok, ClientGrantRow.record,
      ClientGrantWrite.row, Bool.or_eq_false_iff, List.any_cons, Option.any_some]
    exact ⟨⟨⟨⟨⟨⟨⟨⟨⟨⟨grantNil, ids⟩, decide_eq_false positive⟩, decide_eq_false bounded.not_gt⟩,
      decide_eq_false hashed⟩, keyed⟩, decide_eq_false keyFits.not_gt⟩, filled⟩,
      decide_eq_false fits.not_gt⟩, decide_eq_false stamped.1.not_ge⟩,
      decide_eq_false stamped.2.not_ge, decide_eq_false ordered.not_gt⟩
  · simp only [List.any_cons, List.any_nil, Bool.or_eq_false_iff]
    exact ⟨named.2.1, named.2.2.2.1, requestNil.1, trivial⟩

theorem find_insertGrant (sha256 : Bytes → Hash)
    (unanswered : store.grantRequest write.audience.scope.tenantId write.audience.clientDeviceId
      write.requestId = none) :
    (store.apply (.insertGrant (write.row sha256))).grantRequest write.audience.scope.tenantId
      write.audience.clientDeviceId write.requestId = some (write.row sha256) := by
  rw [ClientStore.grantRequest] at unanswered ⊢
  rw [ClientStore.apply, List.find?_append, unanswered]
  simp [ClientGrantWrite.row]

theorem stored_inserted (inserted : GrantInserted issuance plane request write) :
    ClientIssuance.stored request (plane.insertGrant issuance.codec.sha256 write).clients =
      .ok (write.row issuance.codec.sha256).record := by
  obtain ⟨⟨inputs, grantId, -, attempted⟩, insertable⟩ := inserted
  obtain ⟨audience, named, -⟩ := ClientIssuance.attempt_ok attempted
  obtain ⟨valid, ids⟩ := openGrant_record issuance.codec.sha256 insertable.opened
  have found := find_insertGrant issuance.codec.sha256 insertable.unanswered
  rw [audience, named] at ids found
  rw [ClientIssuance.stored, ClientStore.grantByRequest]
  change [request.device.scope.tenantId, request.device.recordId, request.requestId].any isNil =
    false at ids
  change (plane.insertGrant issuance.codec.sha256 write).clients.grantRequest
    request.device.scope.tenantId request.device.recordId request.requestId = _ at found
  rw [ids, found]
  simp only [reject, readGrant, valid, verifyGrantBinding]
  have owned : (write.row issuance.codec.sha256).record.audience = request.device.audience := audience
  simp [owned, bind, Except.bind, pure, Except.pure, Except.mapError, orElse]

theorem ClientIssuance.grantForDevice_cases (issuance : ClientIssuance) (plane : ClientPlane)
    (request : GrantRequest) :
    (∃ error, issuance.grantForDevice plane request = (.error error, plane)) ∨
    (∃ row, plane.clients.grantRequest request.device.scope.tenantId request.device.recordId
        request.requestId = some row ∧ row.audience = request.device.audience ∧
      issuance.grantForDevice plane request = (.ok ⟨row.record, true⟩, plane)) ∨
    ∃ write, GrantInserted issuance plane request write ∧
      issuance.grantForDevice plane request =
        (.ok ⟨(write.row issuance.codec.sha256).record, false⟩,
          plane.insertGrant issuance.codec.sha256 write) := by
  rw [ClientIssuance.grantForDevice]
  split
  · exact .inl ⟨_, rfl⟩
  · split
    · exact .inl ⟨_, rfl⟩
    · rename_i record found
      rw [ClientStore.grantByRequest, unit_bind_ok] at found
      cases located : plane.clients.grantRequest request.device.scope.tenantId
          request.device.recordId request.requestId with
      | none =>
          rw [located] at found
          cases found.2
      | some row =>
          rw [located, readGrant, unit_bind_ok, pure_ok] at found
          obtain rfl := Option.some.inj found.2.2
          by_cases owned : row.audience = request.device.audience
          · refine .inr (.inl ⟨row, rfl, owned, ?_⟩)
            have bound : row.record.audience = request.device.audience := owned
            simp [verifyGrantBinding, reject, bound, bind, Except.bind, pure, Except.pure,
              Except.map]
          · have foreign : row.record.audience ≠ request.device.audience := owned
            refine .inl ⟨.notOwned, ?_⟩
            simp [verifyGrantBinding, reject, foreign, bind, Except.bind, Except.map]
    · rename_i found
      have unanswered : plane.clients.grantRequest request.device.scope.tenantId
          request.device.recordId request.requestId = none := by
        rw [ClientStore.grantByRequest, unit_bind_ok] at found
        cases located : plane.clients.grantRequest request.device.scope.tenantId
            request.device.recordId request.requestId with
        | none => rfl
        | some row =>
            rw [located, readGrant, unit_bind_ok, pure_ok] at found
            cases found.2.2
      split
      · exact .inl ⟨_, rfl⟩
      · rename_i inputs gathered
        rcases issuance.issueAttempts_cases unanswered gathered maxGenerationAttempts with
          failed | ⟨write, inserted, issued⟩
        · exact .inl failed
        · refine .inr (.inr ⟨write, inserted, ?_⟩)
          rw [issued, stored_inserted inserted]
          rfl

end Grants

section Projections

variable {service : ClientProjectionService} {plane : ClientPlane} {request : ProjectionRequest}
  {inputs : ProjectionInputs}

/-- A document signed from the inputs, and the write that stores it. -/
structure ProjectionSigned (service : ClientProjectionService) (request : ProjectionRequest)
    (inputs : ProjectionInputs) (document : SignedPolicyProjection)
    (write : ClientProjectionWrite) : Prop where
  assembled : ∃ projection, inputs.assemble request.device
      ⟨write.projectionId, write.generation, seconds request.now⟩ = .ok projection ∧
    service.signer.sign service.codec.toEnvelopeCodec projection = .ok document
  envelope : service.codec.projectionEnvelopeBytes document = some write.projectionEnvelope
  audience : write.audience = request.device.audience
  requestId : write.requestId = request.requestId
  grantId : write.grantId = inputs.grant.grantId
  mode : write.deviceTrafficMode = request.device.trafficMode
  inputsHash : write.inputsHash = service.inputsHash request.device.trafficMode inputs
  staleUntil : timestamp document.projection.staleUntil = some write.staleUntil

theorem ClientProjectionService.signInputs_ok
    (done : service.signInputs plane request inputs projectionId = .ok outcome) :
    ∃ document write, ProjectionSigned service request inputs document write ∧
      outcome = .signed document write := by
  rw [ClientProjectionService.signInputs, bind_ok] at done
  obtain ⟨generation, -, done⟩ := done
  rw [bind_ok] at done
  obtain ⟨projection, assembled, done⟩ := done
  rw [bind_ok] at done
  obtain ⟨document, signed, done⟩ := done
  rw [bind_ok] at done
  obtain ⟨contentHash, -, done⟩ := done
  rw [orElse_bind_ok] at done
  obtain ⟨bytes, envelope, done⟩ := done
  rw [orElse_bind_ok] at done
  obtain ⟨issuedAt, -, done⟩ := done
  rw [orElse_bind_ok] at done
  obtain ⟨staleUntil, stale, done⟩ := done
  rw [pure_ok] at done
  rw [mapError_ok] at signed
  rw [← done]
  refine ⟨document, _, ?_, rfl⟩
  exact ⟨⟨projection, assembled, signed⟩, envelope, rfl, rfl, rfl, rfl, rfl, stale⟩

theorem ClientProjectionService.attempt_cases {first : Bool}
    (done : service.attempt plane request first projectionId = .ok outcome) :
    ∃ inputs, service.gatherInputs plane request.device (seconds request.now) = .ok inputs ∧
      ((∃ record, service.reusable plane request
            (service.inputsHash request.device.trafficMode inputs) = .ok (some record) ∧
          record.audience = request.device.audience ∧ outcome = .unchanged record) ∨
        ∃ document write, ProjectionSigned service request inputs document write ∧
          outcome = .signed document write ∧
          (first = true → service.reusable plane request
            (service.inputsHash request.device.trafficMode inputs) = .ok none)) := by
  rw [ClientProjectionService.attempt, bind_ok] at done
  obtain ⟨inputs, gathered, done⟩ := done
  rw [bind_ok] at done
  obtain ⟨current, found, done⟩ := done
  refine ⟨inputs, gathered, ?_⟩
  cases current with
  | some record =>
      cases first with
      | false => cases found
      | true =>
          obtain ⟨bound, owned, rfl⟩ := map_ok.mp done
          rw [verifyProjectionBinding, unit_bind_ok, pure_ok, reject_ok, decide_eq_false_iff_not,
            not_not] at owned
          obtain ⟨audience, rfl⟩ := owned
          exact .inl ⟨record, found, audience, rfl⟩
  | none =>
      obtain ⟨document, write, signed, rfl⟩ := service.signInputs_ok done
      refine .inr ⟨document, write, signed, rfl, ?_⟩
      intro isFirst
      rw [isFirst] at found
      exact found

/-- A row that a call publishes, with the inputs it was signed from. -/
structure ProjectionInserted (service : ClientProjectionService) (plane : ClientPlane)
    (request : ProjectionRequest) (document : SignedPolicyProjection)
    (write : ClientProjectionWrite) : Prop where
  signed : ∃ inputs, service.gatherInputs plane request.device (seconds request.now) = .ok inputs ∧
    ProjectionSigned service request inputs document write
  insertable : ProjectionInsertable plane.clients write

def ClientPlane.publishProjection (plane : ClientPlane) (write : ClientProjectionWrite) :
    ClientPlane :=
  { plane with clients := plane.clients.publish write }

/-- The inputs have changed since the current projection, or it is due. -/
def ClientProjectionService.Due (service : ClientProjectionService) (plane : ClientPlane)
    (request : ProjectionRequest) : Prop :=
  ∀ inputs, service.gatherInputs plane request.device (seconds request.now) = .ok inputs →
    service.reusable plane request (service.inputsHash request.device.trafficMode inputs) =
      .ok none

/-- The outcomes of the attempts for a request that is not answered. -/
inductive ProjectionOutcome (service : ClientProjectionService) (plane : ClientPlane)
    (request : ProjectionRequest) :
    Except ClientProjectionServiceError IssuedProjection × ClientPlane → Prop where
  | failed (error : ClientProjectionServiceError) :
      ProjectionOutcome service plane request (.error error, plane)
  | unchanged {projectionId : Uuid} {record : ClientProjectionRecord}
      (unanswered : plane.clients.projectionRequest request.device.scope.tenantId
        request.device.recordId request.requestId = none)
      (attempted : service.attempt plane request true projectionId = .ok (.unchanged record)) :
      ProjectionOutcome service plane request (.ok ⟨record, true⟩, plane)
  | published {document : SignedPolicyProjection} {write : ClientProjectionWrite}
      (due : service.Due plane request)
      (inserted : ProjectionInserted service plane request document write) :
      ProjectionOutcome service plane request
        ((service.stored request (plane.publishProjection write).clients).map (⟨·, false⟩),
          plane.publishProjection write)

theorem ClientProjectionService.issueAttempts_outcome
    (unanswered : plane.clients.projectionRequest request.device.scope.tenantId
      request.device.recordId request.requestId = none) {left : Nat}
    (within : left ≤ maxGenerationAttempts)
    (later : left < maxGenerationAttempts → service.Due plane request) :
    ProjectionOutcome service plane request (service.issueAttempts request left plane) := by
  induction left with
  | zero => exact .failed _
  | succ left ih =>
      rw [ClientProjectionService.issueAttempts]
      split
      · exact .failed _
      · rename_i record attempted
        by_cases first : left + 1 = maxGenerationAttempts
        · rw [decide_eq_true first] at attempted
          exact .unchanged unanswered attempted
        · -- a later attempt does not look at the stored projection
          rw [decide_eq_false first] at attempted
          rw [ClientProjectionService.attempt, bind_ok] at attempted
          obtain ⟨inputs, -, attempted⟩ := attempted
          rw [bind_ok] at attempted
          obtain ⟨current, none, signed⟩ := attempted
          cases none
          obtain ⟨document, write, -, other⟩ := service.signInputs_ok signed
          cases other
      · rename_i document write attempted
        obtain ⟨inputs, gathered, ⟨record, -, -, other⟩ | ⟨document, write, signed, same, passed⟩⟩ :=
          service.attempt_cases attempted
        · cases other
        · cases same
          have due : service.Due plane request := by
            by_cases first : left + 1 = maxGenerationAttempts
            · intro others again
              rw [gathered] at again
              rw [← Except.ok.inj again]
              exact passed (decide_eq_true first)
            · exact later (lt_of_le_of_ne within first)
          rcases writeProjection_cases service.codec.sha256 plane.clients write with
            ⟨error, written⟩ | ⟨stored, found, -⟩ | ⟨insertable, written⟩
          · rw [written]
            cases error with
            | generationConflict => exact ih (Nat.le_of_succ_le within) fun _ => due
            | bindingConflict | invalidScope | invalidRecord | invalidReceipt => exact .failed _
          · rw [signed.audience, signed.requestId] at found
            cases unanswered.symm.trans found
          · rw [written]
            exact .published due ⟨⟨inputs, gathered, signed⟩, insertable⟩

theorem ClientProjectionService.projectionForDevice_cases (service : ClientProjectionService)
    (plane : ClientPlane) (request : ProjectionRequest) :
    (∃ row, plane.clients.projectionRequest request.device.scope.tenantId request.device.recordId
        request.requestId = some row ∧ row.audience = request.device.audience ∧
      service.projectionForDevice plane request =
        (.ok ⟨row.record service.codec.signingKeyColumn, true⟩, plane)) ∨
    ProjectionOutcome service plane request (service.projectionForDevice plane request) := by
  rw [ClientProjectionService.projectionForDevice]
  split
  · exact .inr (.failed _)
  · split
    · exact .inr (.failed _)
    · rename_i record found
      rw [ClientStore.projectionByRequest, unit_bind_ok] at found
      cases located : plane.clients.projectionRequest request.device.scope.tenantId
          request.device.recordId request.requestId with
      | none =>
          rw [located] at found
          cases found.2
      | some row =>
          rw [located, readProjection, unit_bind_ok, pure_ok] at found
          obtain rfl := Option.some.inj found.2.2
          by_cases owned : row.audience = request.device.audience
          · refine .inl ⟨row, rfl, owned, ?_⟩
            have bound : (row.record service.codec.signingKeyColumn).audience =
                request.device.audience := owned
            simp [verifyProjectionBinding, reject, bound, bind, Except.bind, pure, Except.pure,
              Except.map]
          · have foreign : (row.record service.codec.signingKeyColumn).audience ≠
                request.device.audience := owned
            have refused : (verifyProjectionBinding request.device
                (row.record service.codec.signingKeyColumn)).map
                (fun record => (⟨record, true⟩ : IssuedProjection)) = .error .notOwned := by
              simp [verifyProjectionBinding, reject, foreign, bind, Except.bind, Except.map]
            rw [refused]
            exact .inr (.failed _)
    · rename_i found
      have unanswered : plane.clients.projectionRequest request.device.scope.tenantId
          request.device.recordId request.requestId = none := by
        rw [ClientStore.projectionByRequest, unit_bind_ok] at found
        cases located : plane.clients.projectionRequest request.device.scope.tenantId
            request.device.recordId request.requestId with
        | none => rfl
        | some row =>
            rw [located, readProjection, unit_bind_ok, pure_ok] at found
            cases found.2.2
      exact .inr (service.issueAttempts_outcome unanswered (Nat.le_refl _)
        fun less => absurd less (Nat.lt_irrefl _))

variable {write : ClientProjectionWrite}

theorem find_publish (unanswered : store.projectionRequest write.audience.scope.tenantId
      write.audience.clientDeviceId write.requestId = none) :
    (store.publish write).projectionRequest write.audience.scope.tenantId
      write.audience.clientDeviceId write.requestId = some write.row := by
  rw [ClientStore.projectionRequest, List.find?_eq_none] at unanswered
  rw [ClientStore.projectionRequest, ClientStore.publish, ClientStore.apply, ClientStore.apply,
    List.find?_append, List.find?_eq_none.mpr]
  · simp [ClientProjectionWrite.row]
  · intro projection member
    obtain ⟨old, present, rfl⟩ := mem_updateWhere.mp member
    have absent := unanswered old present
    split
    · exact absent
    · exact absent

theorem stored_published {document : SignedPolicyProjection} {record : ClientProjectionRecord}
    (inserted : ProjectionInserted service plane request document write)
    (read : service.stored request (plane.publishProjection write).clients = .ok record) :
    record = write.row.record service.codec.signingKeyColumn := by
  obtain ⟨⟨inputs, -, signed⟩, insertable⟩ := inserted
  have found : (plane.publishProjection write).clients.projectionRequest
      request.device.scope.tenantId request.device.recordId request.requestId = some write.row := by
    have published := find_publish insertable.unanswered
    rw [signed.audience, signed.requestId] at published
    exact published
  rw [ClientProjectionService.stored, ClientStore.projectionByRequest, found, bind_ok] at read
  obtain ⟨optional, located, read⟩ := read
  rw [mapError_ok, unit_bind_ok, readProjection, unit_bind_ok, pure_ok] at located
  obtain ⟨-, -, rfl⟩ := located
  rw [orElse_bind_ok] at read
  obtain ⟨stored, same, read⟩ := read
  rw [verifyProjectionBinding, unit_bind_ok, pure_ok] at read
  rw [← read.2, Option.some.inj same]

end Projections

end CandyCloud
