import CandyCloud.Encoding
import CandyCloud.Worker.Publisher
import CandyCloud.Worker.RoutePublication
import Mathlib.Data.List.DropRight

/-! # Failure codes

A failure of a publication is stored with its job as a normalised code, and the recovery after
an upgrade requeues the jobs whose code starts in one of the ways it knows.
-/

namespace CandyCloud

open Foundation

def endsSeparated : Bool → Bytes → Bool
  | separated, [] => separated
  | _, byte :: rest => endsSeparated (!asciiAlphanumeric byte) rest

theorem normalizedBytes_append (front rest : Bytes) (room : Nat) (separated : Bool) :
    normalizedBytes room separated (front ++ rest) =
      normalizedBytes room separated front ++
        normalizedBytes (room - (normalizedBytes room separated front).length)
          (endsSeparated separated front) rest := by
  induction front generalizing room separated with
  | nil => cases room <;> simp [normalizedBytes, endsSeparated]
  | cons byte front ih =>
      cases room with
      | zero => cases rest <;> simp [normalizedBytes]
      | succ room =>
          cases alphanumeric : asciiAlphanumeric byte with
          | true => simp [normalizedBytes, endsSeparated, alphanumeric, ih]
          | false =>
              cases separated with
              | true => simp [normalizedBytes, endsSeparated, alphanumeric, ih]
              | false => simp [normalizedBytes, endsSeparated, alphanumeric, ih]

theorem upper_ascii {byte : UInt8} (alphanumeric : asciiAlphanumeric byte = true) :
    (if asciiLower byte then byte - 32 else byte) < 128 := by
  simp only [asciiAlphanumeric, asciiUpper, asciiLower, asciiDigit, Bool.or_eq_true,
    Bool.and_eq_true, decide_eq_true_eq, UInt8.le_iff_toNat_le] at alphanumeric ⊢
  rw [UInt8.lt_iff_toNat_lt]
  split
  · rename_i lower
    rw [UInt8.toNat_sub_of_le _ _ (UInt8.le_iff_toNat_le.mpr (by simp at lower ⊢; omega))]
    simp at lower ⊢
    omega
  · simp at alphanumeric ⊢
    omega

theorem normalizedBytes_ascii (bytes : Bytes) (room : Nat) (separated : Bool) :
    ∀ byte ∈ normalizedBytes room separated bytes, byte < 128 := by
  induction bytes generalizing room separated with
  | nil => cases room <;> simp [normalizedBytes]
  | cons first rest ih =>
      cases room with
      | zero => simp [normalizedBytes]
      | succ room =>
          cases alphanumeric : asciiAlphanumeric first with
          | false =>
              cases separated with
              | true => simpa [normalizedBytes, alphanumeric] using ih (room + 1) true
              | false => simpa [normalizedBytes, alphanumeric] using ih room true
          | true =>
              have rest := ih room false
              simp only [normalizedBytes, alphanumeric, if_true, List.mem_cons, forall_eq_or_imp]
              exact ⟨upper_ascii alphanumeric, rest⟩

/-- What is kept by trimming the separators at the end. -/
def trimmedBytes (bytes : Bytes) : Bytes :=
  (bytes.reverse.dropWhile (· == 95)).reverse

theorem trimmedBytes_initial (bytes : Bytes) : trimmedBytes bytes <+: bytes := by
  have suffix := List.dropWhile_suffix (l := bytes.reverse) (· == (95 : UInt8))
  simpa [trimmedBytes] using List.reverse_prefix.mpr suffix

theorem trimmedBytes_append {front : Bytes} (last : UInt8) (ends : front.getLast? = some last)
    (letter : last ≠ 95) (rest : Bytes) :
    trimmedBytes (front ++ rest) = front ++ trimmedBytes rest := by
  obtain ⟨start, rfl⟩ := List.getLast?_eq_some_iff.mp ends
  unfold trimmedBytes
  rw [List.reverse_append, List.dropWhile_append]
  cases spent : (rest.reverse.dropWhile (· == 95)).isEmpty with
  | true =>
      rw [List.isEmpty_iff.mp spent]
      simp [letter]
  | false => simp

theorem normalizeFailureCode_bytes {code : String} {kept : Bytes} (last : UInt8)
    (starts : kept <+: normalizedBytes 80 false (utf8 code)) (ends : kept.getLast? = some last)
    (letter : last ≠ 95) : kept <+: utf8 (normalizeFailureCode code) := by
  obtain ⟨rest, whole⟩ := starts
  have trimmed := trimmedBytes_append last ends letter rest
  rw [whole] at trimmed
  have ascii : ∀ byte ∈ trimmedBytes (normalizedBytes 80 false (utf8 code)), byte < 128 :=
    fun byte inside => normalizedBytes_ascii _ _ _ byte ((trimmedBytes_initial _).subset inside)
  have filled : (trimmedBytes (normalizedBytes 80 false (utf8 code))).isEmpty = false := by
    rw [trimmed]
    cases kept with
    | nil => cases ends
    | cons first others => rfl
  have stored : utf8 (normalizeFailureCode code) =
      trimmedBytes (normalizedBytes 80 false (utf8 code)) := by
    unfold normalizeFailureCode
    simp only [trimmedBytes] at filled ⊢
    rw [if_neg (by simp [filled])]
    exact utf8_ofList ascii
  rw [stored, trimmed]
  exact List.prefix_append kept (trimmedBytes rest)

theorem normalizeFailureCode_starts {code front : String} {rest : Bytes} (last : UInt8)
    (starts : utf8 code = utf8 front ++ rest)
    (ends : (normalizedBytes 80 false (utf8 front)).getLast? = some last) (letter : last ≠ 95) :
    normalizedBytes 80 false (utf8 front) <+: utf8 (normalizeFailureCode code) := by
  apply normalizeFailureCode_bytes last _ ends letter
  rw [starts, normalizedBytes_append]
  exact List.prefix_append _ _

/-- Codes as they are stored, behind a separator or not: one separator at a time. -/
def NormalFrom : Bool → Bytes → Prop
  | _, [] => True
  | separated, byte :: rest =>
      if byte = 95 then separated = false ∧ NormalFrom true rest
      else (asciiUpper byte || asciiDigit byte) = true ∧ NormalFrom false rest

theorem upper_normal {byte : UInt8} (alphanumeric : asciiAlphanumeric byte = true) :
    (asciiUpper (if asciiLower byte then byte - 32 else byte) ||
      asciiDigit (if asciiLower byte then byte - 32 else byte)) = true := by
  simp only [asciiAlphanumeric, Bool.or_eq_true] at alphanumeric ⊢
  split
  · rename_i lower
    simp only [asciiLower, asciiUpper, Bool.and_eq_true, decide_eq_true_eq,
      UInt8.le_iff_toNat_le, UInt8.reduceToNat] at lower ⊢
    rw [UInt8.toNat_sub_of_le _ _ (UInt8.le_iff_toNat_le.mpr (by simp; omega))]
    simp only [UInt8.reduceToNat]
    omega
  · rename_i other
    rcases alphanumeric with (upper | lower) | digit
    · exact .inl upper
    · exact absurd lower other
    · exact .inr digit

theorem normal_kept {byte : UInt8} (normal : (asciiUpper byte || asciiDigit byte) = true) :
    asciiAlphanumeric byte = true ∧ asciiLower byte = false ∧ byte ≠ 95 := by
  simp only [asciiAlphanumeric, asciiUpper, asciiLower, asciiDigit, Bool.or_eq_true,
    Bool.and_eq_true, decide_eq_true_eq, Bool.and_eq_false_iff, decide_eq_false_iff_not,
    UInt8.le_iff_toNat_le, ← UInt8.toNat_inj, ne_eq, UInt8.reduceToNat] at normal ⊢
  omega

theorem normalizedBytes_normal (bytes : Bytes) (room : Nat) (separated : Bool) :
    NormalFrom separated (normalizedBytes room separated bytes) := by
  induction bytes generalizing room separated with
  | nil => cases room <;> exact trivial
  | cons byte rest ih =>
      cases room with
      | zero => exact trivial
      | succ room =>
          rw [normalizedBytes]
          split
          · rename_i alphanumeric
            have normal := upper_normal alphanumeric
            rw [NormalFrom, if_neg (normal_kept normal).2.2]
            exact ⟨normal, ih room false⟩
          · split
            · rename_i again
              rw [again]
              exact ih (room + 1) true
            · rename_i first
              rw [NormalFrom, if_pos rfl]
              exact ⟨Bool.eq_false_iff.mpr first, ih room true⟩

theorem normalizedBytes_fixed {bytes : Bytes} {room : Nat} {separated : Bool}
    (normal : NormalFrom separated bytes) (short : bytes.length ≤ room) :
    normalizedBytes room separated bytes = bytes := by
  induction bytes generalizing room separated with
  | nil => cases room <;> rfl
  | cons byte rest ih =>
      obtain ⟨room, rfl⟩ := Nat.exists_eq_add_one_of_ne_zero
        (Nat.ne_of_gt (Nat.lt_of_lt_of_le (Nat.succ_pos _) short))
      have later : rest.length ≤ room := Nat.le_of_succ_le_succ short
      rw [NormalFrom] at normal
      split at normal
      · rename_i separator
        obtain ⟨rfl, rest⟩ := normal
        have other : asciiAlphanumeric byte = false := by rw [separator]; decide
        rw [normalizedBytes, if_neg (by simp [other]), if_neg (by simp), ih rest later, separator]
      · obtain ⟨alphanumeric, upper, _⟩ := normal_kept normal.1
        rw [normalizedBytes, if_pos alphanumeric, if_neg (by simp [upper]), ih normal.2 later]

theorem normalizedBytes_length (bytes : Bytes) (room : Nat) (separated : Bool) :
    (normalizedBytes room separated bytes).length ≤ room := by
  induction bytes generalizing room separated with
  | nil => cases room <;> exact Nat.zero_le _
  | cons byte rest ih =>
      cases room with
      | zero => exact Nat.le_refl 0
      | succ room =>
          rw [normalizedBytes]
          split
          · exact Nat.succ_le_succ (ih room false)
          · split
            · exact ih (room + 1) true
            · exact Nat.succ_le_succ (ih room true)

theorem NormalFrom.initial {bytes front : Bytes} {separated : Bool}
    (normal : NormalFrom separated bytes) (initial : front <+: bytes) :
    NormalFrom separated front := by
  induction front generalizing bytes separated with
  | nil => exact trivial
  | cons byte rest ih =>
      obtain ⟨later, rfl⟩ := initial
      rw [List.cons_append, NormalFrom] at normal
      rw [NormalFrom]
      split at normal
      · rename_i separator
        rw [if_pos separator]
        exact ⟨normal.1, ih normal.2 (List.prefix_append _ _)⟩
      · rename_i letter
        rw [if_neg letter]
        exact ⟨normal.1, ih normal.2 (List.prefix_append _ _)⟩

theorem NormalFrom.codeBytes {bytes : Bytes} {separated : Bool}
    (normal : NormalFrom separated bytes) : bytes.all JobFailure.codeByte = true := by
  induction bytes generalizing separated with
  | nil => rfl
  | cons byte rest ih =>
      rw [NormalFrom] at normal
      rw [List.all_cons, Bool.and_eq_true]
      split at normal
      · rename_i separator
        exact ⟨by rw [separator]; rfl, ih normal.2⟩
      · refine ⟨?_, ih normal.2⟩
        rw [JobFailure.codeByte, Bool.or_eq_true]
        exact .inl normal.1

theorem trimmedBytes_trimmed (bytes : Bytes) :
    trimmedBytes (trimmedBytes bytes) = trimmedBytes bytes := by
  simp only [trimmedBytes, List.reverse_reverse, List.dropWhile_idempotent]

def codeBytes (code : String) : Bytes := trimmedBytes (normalizedBytes 80 false (utf8 code))

theorem codeBytes_normal (code : String) : NormalFrom false (codeBytes code) :=
  (normalizedBytes_normal _ 80 false).initial (trimmedBytes_initial _)

theorem codeBytes_length (code : String) : (codeBytes code).length ≤ 80 :=
  (trimmedBytes_initial _).length_le.trans (normalizedBytes_length _ 80 false)

theorem utf8_normalizeFailureCode (code : String) : utf8 (normalizeFailureCode code) =
    if (codeBytes code).isEmpty then utf8 "PUBLICATION_FAILURE" else codeBytes code := by
  have ascii : ∀ byte ∈ codeBytes code, byte < 128 :=
    fun byte inside => normalizedBytes_ascii _ _ _ byte ((trimmedBytes_initial _).subset inside)
  rw [normalizeFailureCode]
  change utf8 (if (codeBytes code).isEmpty then _ else _) = _
  split
  · rfl
  · exact utf8_ofList ascii

theorem normalizeFailureCode_valid (code : String) :
    (utf8 (normalizeFailureCode code)).isEmpty = false ∧
      (utf8 (normalizeFailureCode code)).length ≤ 80 ∧
      (utf8 (normalizeFailureCode code)).all JobFailure.codeByte = true := by
  rw [utf8_normalizeFailureCode]
  split
  · decide +kernel
  · rename_i filled
    exact ⟨Bool.eq_false_iff.mpr filled, codeBytes_length code, (codeBytes_normal code).codeBytes⟩

theorem normalizeFailureCode_normalized (code : String) :
    normalizeFailureCode (normalizeFailureCode code) = normalizeFailureCode code := by
  apply utf8_inj
  have stored := utf8_normalizeFailureCode code
  split at stored
  · have text : normalizeFailureCode code = "PUBLICATION_FAILURE" := utf8_inj stored
    rw [text]
    decide +kernel
  · rename_i filled
    have again : codeBytes (normalizeFailureCode code) = codeBytes code := by
      rw [codeBytes, stored, normalizedBytes_fixed (codeBytes_normal code) (codeBytes_length code)]
      exact trimmedBytes_trimmed _
    rw [utf8_normalizeFailureCode, again, if_neg filled, stored]

theorem validate_normalized {failure : JobFailure} {code : String} (now : Instant)
    (named : failure.code = normalizeFailureCode code) :
    failure.validate now = .ok () ↔ ∀ code retryAt, failure = .retry code retryAt → now < retryAt := by
  obtain ⟨filled, short, allowed⟩ := normalizeFailureCode_valid code
  have long : decide (80 < (utf8 (normalizeFailureCode code)).length) = false :=
    decide_eq_false (Nat.not_lt.mpr short)
  unfold JobFailure.validate
  rw [reject_ok, named, filled, long, allowed]
  cases failure with
  | retry code retryAt => simp
  | permanent code => simp

/-- Every reported text is stored under a code that the job table takes, whatever the text
    is, and a stored code is its own normal form. The worker's own reports are taken. -/
theorem failure_codes :
    (∀ code now, (JobFailure.permanent (normalizeFailureCode code)).validate now = .ok ()) ∧
    (∀ code retryAt now, (JobFailure.retry (normalizeFailureCode code) retryAt).validate now =
      .ok () ↔ now < retryAt) ∧
    (∀ failure now, (recordedFailure now failure).validate now = .ok ()) ∧
    ∀ code, normalizeFailureCode (normalizeFailureCode code) = normalizeFailureCode code := by
  refine ⟨?_, ?_, ?_, normalizeFailureCode_normalized⟩
  · intro code now
    rw [validate_normalized now rfl]
    rintro _ _ ⟨⟩
  · intro code retryAt now
    rw [validate_normalized now rfl]
    constructor
    · exact fun ahead => ahead _ _ rfl
    · rintro ahead _ _ ⟨⟩
      exact ahead
  · intro failure now
    cases failure with
    | permanent code =>
        rw [recordedFailure, validate_normalized now rfl]
        rintro _ _ ⟨⟩
    | retryable code retryAfter =>
        rw [recordedFailure]
        split
        · have own : (JobFailure.permanent "PUBLICATION_RETRY_DELAY_INVALID").code =
              normalizeFailureCode "PUBLICATION_RETRY_DELAY_INVALID" := by
            decide +kernel
          rw [validate_normalized now own]
          rintro _ _ ⟨⟩
        · rename_i delayed
          rw [validate_normalized now rfl]
          rintro _ _ ⟨⟩
          exact Nat.lt_add_of_pos_right (by omega)

/-- How `publish_snapshot` reports a publication that could not be built. -/
def buildFailure (error : RoutePublicationError) : PublicationFailure :=
  .permanent ("ROUTE_BUILD_" ++ error.message)

/-- What the report of a failed preparation says before the object type. -/
def preparationText : String :=
  "ROUTE_BUILD_" ++ ("Core module route operation failed: " ++ "object type")

/-- The code that every failed preparation starts with. -/
def preparationCode : Bytes := normalizedBytes 80 false (utf8 preparationText)

def preparationFailureCode (objectType : BitVec 32) (error : String) : String :=
  normalizeFailureCode ("ROUTE_BUILD_" ++ (prepareFailed objectType error).message)

theorem core_message (text : String) :
    (RoutePublicationError.core text).message = "Core module route operation failed: " ++ text :=
  rfl

theorem prepareFailed_bytes (objectType : BitVec 32) (error : String) :
    utf8 ("ROUTE_BUILD_" ++ (prepareFailed objectType error).message) =
      utf8 preparationText ++
        (utf8 " " ++ (utf8 (toString objectType.toNat) ++
          (utf8 " prepare failed: " ++ utf8 error))) := by
  have numbered : utf8 "object type " = utf8 "object type" ++ utf8 " " :=
    utf8_append "object type" " "
  rewrite [prepareFailed, core_message, preparationText]
  simp only [utf8_append, numbered, List.append_assoc]

theorem preparationCode_facts :
    preparationCode.getLast? = some 69 ∧
    (¬ utf8 "ROUTE_INPUT_" <+: preparationCode ∧ ¬ preparationCode <+: utf8 "ROUTE_INPUT_") ∧
    ¬ preparationCode <+: utf8 "ROUTE_DB_PRINCIPAL_MISMATCH" ∧
    ¬ preparationCode <+: utf8 "ROUTE_DB_SCOPE_MISMATCH" ∧
    ¬ utf8
        "ROUTE_BUILD_CORE_MODULE_ROUTE_OPERATION_FAILED_CORE_PREPARE_FAILED_WITH_ABI_STAT"
      <+: preparationCode ∧
    ¬ preparationCode <+: utf8
      "ROUTE_BUILD_CORE_MODULE_ROUTE_OPERATION_FAILED_CORE_PREPARE_FAILED_WITH_ABI_STAT" := by
  decide +kernel

theorem preparationFailureCode_starts (objectType : BitVec 32) (error : String) :
    preparationCode <+: utf8 (preparationFailureCode objectType error) :=
  normalizeFailureCode_starts 69 (prepareFailed_bytes objectType error) preparationCode_facts.1
    (by decide)

theorem startsWith_apart {start code : String} {kept : Bytes} (begins : kept <+: utf8 code)
    (longer : ¬ utf8 start <+: kept) (shorter : ¬ kept <+: utf8 start) :
    startsWith start code = false := by
  rw [startsWith, Bool.eq_false_iff]
  intro starts
  cases List.prefix_or_prefix_of_prefix (List.isPrefixOf_iff_prefix.mp starts) begins with
  | inl inside => exact longer inside
  | inr inside => exact shorter inside

theorem code_apart {code other : String} {kept : Bytes} (begins : kept <+: utf8 code)
    (apart : ¬ kept <+: utf8 other) : (code == other) = false := by
  rw [beq_eq_false_iff_ne]
  intro same
  exact apart (same ▸ begins)

theorem preparationFailureCode_unrecoverable (objectType : BitVec 32) (error : String) :
    recoverableRouteError (preparationFailureCode objectType error) = false := by
  have begins := preparationFailureCode_starts objectType error
  unfold recoverableRouteError
  obtain ⟨-, input, principal, scope, longer, shorter⟩ := preparationCode_facts
  rw [startsWith_apart begins input.1 input.2, code_apart begins principal,
    code_apart begins scope, startsWith_apart begins longer shorter]
  rfl

theorem buildFailure_recorded (now : Instant) (error : RoutePublicationError) :
    recordedFailure now (buildFailure error) =
      .permanent (normalizeFailureCode ("ROUTE_BUILD_" ++ error.message)) := rfl

/-- The code of a failed preparation is never requeued, whatever the object type and
    the text of the core module: the object type stands before the words that the
    recovery looks for. -/
theorem failed_preparation_unrecovered {α : Type} (signer : RouteSigner) (objectType : BitVec 32)
    (source : α) {request : Bytes} {error : String}
    (failed : signer.core.prepare request = .error error) (now : Instant) :
    ∃ failure code, signer.moduleSeal objectType source (.ok request) = .error failure ∧
      recordedFailure now (buildFailure failure) = .permanent code ∧
      recoverableRouteError code = false ∧
      ∀ (sha256 : Bytes → Hash) (fresh : Uuid → Uuid → Uuid) (clock : Instant)
        (state : Nat × GenerationQueue) (row : HeadJob),
        row.candidate.state = .permanentFailure code →
          recoverHeadJob sha256 fresh clock state row = .ok state := by
  have unrecoverable := preparationFailureCode_unrecoverable objectType error
  have sealing : signer.moduleSeal objectType source (.ok request) =
      .error (prepareFailed objectType error) := by
    simp only [RouteSigner.moduleSeal, Except.mapError, bind, Except.bind, failed]
  refine ⟨prepareFailed objectType error, preparationFailureCode objectType error, sealing,
    buildFailure_recorded now _, unrecoverable, ?_⟩
  intro sha256 fresh clock state row stored
  simp only [recoverHeadJob, stored]
  rw [if_neg (by simp [unrecoverable])]

def refusingSigner : RouteSigner where
  keyId := []
  sign _ := []
  publicKey := []
  core := {
    prepare := fun _ => .error "Core prepare failed with ABI status -3"
    routeContentHash := fun _ _ => .ok 1
    assemble := fun _ _ _ _ => .ok [1]
    validate := fun _ _ _ => .ok () }
  segmentRequest _ := .ok []
  projectionRequest _ := .ok []

theorem refusingSigner_unrecovered :
    ∃ failure code, refusingSigner.moduleSeal segmentSnapshotType () (.ok []) = .error failure ∧
      recordedFailure 0 (buildFailure failure) = .permanent code ∧
      recoverableRouteError code = false ∧
      ∀ (sha256 : Bytes → Hash) (fresh : Uuid → Uuid → Uuid) (clock : Instant)
        (state : Nat × GenerationQueue) (row : HeadJob),
        row.candidate.state = .permanentFailure code →
          recoverHeadJob sha256 fresh clock state row = .ok state :=
  failed_preparation_unrecovered refusingSigner segmentSnapshotType () rfl 0

/-- The wording of the core module itself, behind the number of the snapshot type. -/
theorem abi_status_not_requeued :
    recordedFailure 0 (buildFailure
      (prepareFailed segmentSnapshotType "Core prepare failed with ABI status -3")) =
        .permanent ("ROUTE_BUILD_CORE_MODULE_ROUTE_OPERATION_FAILED_OBJECT_TYPE_257_" ++
          "PREPARE_FAILED_CO") ∧
      recoverableRouteError ("ROUTE_BUILD_CORE_MODULE_ROUTE_OPERATION_FAILED_OBJECT_TYPE_257_" ++
        "PREPARE_FAILED_CO") = false := by
  decide +kernel

end CandyCloud
