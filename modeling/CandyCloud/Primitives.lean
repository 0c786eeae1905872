import Mathlib.Data.List.Nodup

/-! # Scalars of the database layer

Identifiers and digests have the width of their columns. A `u64` is a natural
number whose overflow is explicit: `checkedAdd` and `saturatingAdd` are the two
additions the code uses, and subtraction saturates at zero as in the source.
Instants are microseconds since the epoch, the precision of `TIMESTAMP(6)`.
-/

namespace CandyCloud

abbrev Uuid := BitVec 128

/-- `[u8; 32]`. -/
abbrev Hash := BitVec 256

abbrev Bytes := List UInt8

abbrev Instant := Nat

def isNil (id : Uuid) : Bool := id == 0

def zeroHash : Hash := 0

def u64Max : Nat := 18446744073709551615

def checkedAdd (a b : Nat) : Option Nat := if a + b ≤ u64Max then some (a + b) else none

def saturatingAdd (a b : Nat) : Nat := min (a + b) u64Max

theorem checkedAdd_some {a b c : Nat} (sum : checkedAdd a b = some c) : c = a + b := by
  unfold checkedAdd at sum
  split at sum
  · exact (Option.some.inj sum).symm
  · cases sum

theorem checkedAdd_fits {a b : Nat} (fits : a + b ≤ u64Max) : checkedAdd a b = some (a + b) :=
  if_pos fits

/-- `UNIX_TIMESTAMP()` at the given instant. -/
def unixTimestamp (now : Instant) : Nat := now / 1000000

def utf8 (text : String) : Bytes := text.toUTF8.data.toList

/-- Big-endian bytes of a number of the given width. -/
def bigEndian (width n : Nat) : Bytes :=
  (List.range width).map fun i => UInt8.ofNat (n >>> (8 * (width - 1 - i)))

def uuidBytes (id : Uuid) : Bytes := bigEndian 16 id.toNat

def hashBytes (hash : Hash) : Bytes := bigEndian 32 hash.toNat

/-- The identifier made of the first sixteen bytes of a digest. -/
def digestUuid (digest : Hash) : Uuid := digest.extractLsb' 128 128

/-- Some element is malformed or carries the key of an earlier one. -/
def malformedOrRepeated {α κ : Type} [DecidableEq κ] (malformed : α → Bool) (key : α → κ)
    (elements : List α) : Bool :=
  elements.any malformed || !decide (elements.map key).Nodup

inductive ActivationMode where
  | tunnel
  | policyOnly
deriving DecidableEq, Repr

def activationMode (policyOnly : Bool) : ActivationMode :=
  if policyOnly then .policyOnly else .tunnel

end CandyCloud
