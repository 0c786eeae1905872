import CandyCloud.Control.Republish
import CandyCloud.Queue.Leases
import CandyCloud.Route.System
import CandyCloud.Worker.Bridge

/-! # Failures of a publication

What a `GenerationWorker` records in the job table for a publication that failed, and the
identifiers it derives for one that is built.
-/

namespace CandyCloud

open Foundation

/-- Why a publication failed, and whether it is worth another try. -/
inductive PublicationFailure where
  | retryable (code : String) (retryAfter : Nat)
  | permanent (code : String)
deriving DecidableEq, Repr

/-- The texts of `SdwanError`; that of a database error never leaves the log. -/
def SdwanError.message : SdwanError → String
  | .invalidScope => "invalid SD-WAN scope"
  | .scopeMismatch => "tenant or segment scope mismatch"
  | .invalidPrefix => "invalid IPv4 prefix"
  | .overlappingPrefix => "overlapping IPv4 prefixes"
  | .duplicateRouterAddress => "duplicate overlay router address"
  | .principalMismatch => "attachment principal does not match its ownership"
  | .unsignedObject => "signed object is empty, zero-hash, or oversized"
  | .generationGap => "publication generation is not adjacent"
  | .missingProjection => "publication does not contain a complete projection set"
  | .duplicateProjection => "publication contains duplicate projection ownership"
  | .divergentReplay => "publication id was reused with different content"
  | .invalidContentHash => "stored publication content hash is invalid"
  | .segmentNotFound => "segment was not found in the requested tenant"
  | .rolloutPending => "the preceding Runtime activation has not completed"
  | .database => "database error"

/-- How `segment_snapshot` reports an error of the bridge. -/
def bridgeError : SdwanError → ControlStoreError
  | .database => .database
  | error => .invalidResource error.message

/-- Upper-case letters and digits, every other run of bytes a single `_`; at
    most `room` of them. -/
def normalizedBytes : Nat → Bool → Bytes → Bytes
  | _, _, [] => []
  | 0, _, _ => []
  | room + 1, separated, byte :: rest =>
      if asciiAlphanumeric byte then
        (if asciiLower byte then byte - 32 else byte) :: normalizedBytes room false rest
      else if separated then normalizedBytes (room + 1) true rest
      else 95 :: normalizedBytes room true rest

def normalizeFailureCode (code : String) : String :=
  let bytes := ((normalizedBytes 80 false (utf8 code)).reverse.dropWhile (· == 95)).reverse
  if bytes.isEmpty then "PUBLICATION_FAILURE"
  else String.ofList (bytes.map fun byte => Char.ofNat byte.toNat)

/-- The failure recorded in the job table; a delay outside an hour is refused. -/
def recordedFailure (now : Instant) : PublicationFailure → JobFailure
  | .retryable code retryAfter =>
      if retryAfter = 0 ∨ 3600000000 < retryAfter then .permanent "PUBLICATION_RETRY_DELAY_INVALID"
      else .retry (normalizeFailureCode code) (now + retryAfter)
  | .permanent code => .permanent (normalizeFailureCode code)

def stableUuid (sha256 : Bytes → Hash) (a b : Uuid) (generation : Nat) : Uuid :=
  digestUuid (sha256 (uuidBytes a ++ uuidBytes b ++ bigEndian 8 generation))

end CandyCloud
