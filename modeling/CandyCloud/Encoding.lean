import CandyCloud.Primitives
import Mathlib.Algebra.Group.Nat.Even
import Mathlib.Data.List.Induction

/-! # Byte encodings

The fingerprints of the client plane hash a concatenation of fixed-width fields.
-/

namespace CandyCloud

theorem bigEndian_length (width n : Nat) : (bigEndian width n).length = width := by
  simp only [bigEndian, List.length_map, List.length_range]

theorem uuidBytes_length (id : Uuid) : (uuidBytes id).length = 16 := bigEndian_length 16 _

theorem hashBytes_length (hash : Hash) : (hashBytes hash).length = 32 := bigEndian_length 32 _

theorem mod_pow_eq_of_digits {base n m width : Nat}
    (same : ∀ k < width, n / base ^ k % base = m / base ^ k % base) :
    n % base ^ width = m % base ^ width := by
  induction width with
  | zero => simp only [Nat.pow_zero, Nat.mod_one]
  | succ width ih =>
      have low := ih fun k below => same k (Nat.lt_succ_of_lt below)
      have digit := same width (Nat.lt_succ_self width)
      rw [Nat.mod_pow_succ, Nat.mod_pow_succ, low, digit]

theorem bigEndian_inj {width n m : Nat} (boundN : n < 256 ^ width) (boundM : m < 256 ^ width)
    (same : bigEndian width n = bigEndian width m) : n = m := by
  have digits : ∀ k < width, n / 256 ^ k % 256 = m / 256 ^ k % 256 := by
    intro k below
    have bytes := List.map_inj_left.mp same (width - 1 - k) (List.mem_range.mpr (by omega))
    have position : width - 1 - (width - 1 - k) = k := by omega
    rw [position] at bytes
    have values := congrArg UInt8.toNat bytes
    simpa only [UInt8.toNat_ofNat', Nat.shiftRight_eq_div_pow, Nat.pow_mul] using values
  have whole := mod_pow_eq_of_digits digits
  rwa [Nat.mod_eq_of_lt boundN, Nat.mod_eq_of_lt boundM] at whole

theorem uuidBytes_inj {a b : Uuid} (same : uuidBytes a = uuidBytes b) : a = b :=
  BitVec.eq_of_toNat_eq (bigEndian_inj a.isLt b.isLt same)

theorem utf8_length (text : String) : (utf8 text).length = text.utf8ByteSize := rfl

theorem utf8_inj {a b : String} (same : utf8 a = utf8 b) : a = b :=
  String.toByteArray_inj.mp (ByteArray.ext (Array.toList_inj.mp same))

theorem utf8_append (a b : String) : utf8 (a ++ b) = utf8 a ++ utf8 b := by
  simp only [utf8, String.toUTF8, String.toByteArray_append, ByteArray.data_append,
    Array.toList_append]

theorem utf8_ofList_cons {byte : UInt8} (ascii : byte < 128) (rest : List Char) :
    utf8 (String.ofList (Char.ofNat byte.toNat :: rest)) = byte :: utf8 (String.ofList rest) := by
  have below : byte.toNat < 128 := ascii
  have valid : byte.toNat.isValidChar := Or.inl (by omega)
  have value : (Char.ofNat byte.toNat).toNat = byte.toNat := by
    rw [Char.ofNat, dif_pos valid]
    rfl
  have single : (Char.ofNat byte.toNat).utf8Size = 1 := by
    rw [Char.utf8Size_eq_one_iff, UInt32.le_iff_toNat_le]
    exact Nat.le_of_lt_succ (lt_of_eq_of_lt value below)
  have encoded : (Char.ofNat byte.toNat).val.toUInt8 = byte := by
    apply UInt8.toNat_inj.mp
    rw [UInt32.toNat_toUInt8]
    exact (congrArg (· % 2 ^ 8) value).trans (Nat.mod_eq_of_lt (by omega))
  simp only [utf8, String.toUTF8, String.toByteArray_ofList]
  rw [List.utf8Encode_cons, List.utf8Encode_singleton, String.utf8EncodeChar_eq_singleton single,
    encoded, ByteArray.data_append, Array.toList_append]
  rfl

theorem utf8_ofList {bytes : Bytes} (ascii : ∀ byte ∈ bytes, byte < 128) :
    utf8 (String.ofList (bytes.map fun byte => Char.ofNat byte.toNat)) = bytes := by
  induction bytes with
  | nil => rfl
  | cons byte rest ih =>
      rw [List.map_cons, utf8_ofList_cons (ascii byte List.mem_cons_self),
        ih fun later inside => ascii later (List.mem_cons_of_mem _ inside)]

theorem hashBytes_inj {a b : Hash} (same : hashBytes a = hashBytes b) : a = b :=
  BitVec.eq_of_toNat_eq (bigEndian_inj a.isLt b.isLt same)

/-- The number of big-endian bytes behind a number read before. -/
def readBytes (value : Nat) (bytes : Bytes) : Nat :=
  bytes.foldl (fun value byte => 256 * value + byte.toNat) value

theorem readBytes_lt (value : Nat) (bytes : Bytes) :
    readBytes value bytes < (value + 1) * 256 ^ bytes.length := by
  induction bytes generalizing value with
  | nil => simp [readBytes]
  | cons byte rest ih =>
      have bound := byte.toNat_lt
      have later := ih (256 * value + byte.toNat)
      have step : (256 * value + byte.toNat + 1) * 256 ^ rest.length ≤
          ((value + 1) * 256) * 256 ^ rest.length := Nat.mul_le_mul_right _ (by omega)
      rw [List.length_cons, Nat.pow_succ', ← Nat.mul_assoc]
      exact Nat.lt_of_lt_of_le later step

theorem readBytes_eq_zero {value : Nat} {bytes : Bytes} (zero : readBytes value bytes = 0) :
    value = 0 ∧ ∀ byte ∈ bytes, byte = 0 := by
  induction bytes generalizing value with
  | nil => exact ⟨zero, fun _ member => absurd member List.not_mem_nil⟩
  | cons byte rest ih =>
      have read : readBytes (256 * value + byte.toNat) rest = 0 := zero
      obtain ⟨first, others⟩ := ih read
      have none : byte.toNat = 0 := by omega
      refine ⟨by omega, List.forall_mem_cons.mpr ⟨?_, others⟩⟩
      exact UInt8.toNat_inj.mp none

theorem bigEndian_succ (width n : Nat) :
    bigEndian (width + 1) n = bigEndian width (n / 256) ++ [UInt8.ofNat n] := by
  rw [bigEndian, List.range_succ, List.map_append, bigEndian]
  congr 1
  · apply List.map_congr_left
    intro place below
    have before := List.mem_range.mp below
    have shift : 8 * (width + 1 - 1 - place) = 8 + 8 * (width - 1 - place) := by omega
    rw [shift, Nat.shiftRight_add, Nat.shiftRight_eq_div_pow n 8]
  · simp

theorem readBytes_bigEndian (width n : Nat) :
    readBytes 0 (bigEndian width n) = n % 256 ^ width := by
  induction width generalizing n with
  | zero =>
      rw [Nat.pow_zero, Nat.mod_one]
      rfl
  | succ width ih =>
      have whole : n % 256 ^ (width + 1) = n % 256 + 256 * (n / 256 % 256 ^ width) := by
        rw [Nat.pow_succ', Nat.mod_mul]
      have front := ih (n / 256)
      rw [readBytes] at front
      rw [readBytes, bigEndian_succ, List.foldl_append, front, whole, Nat.add_comm]
      simp

theorem bigEndian_readBytes (bytes : Bytes) :
    bigEndian bytes.length (readBytes 0 bytes) = bytes := by
  induction bytes using List.reverseRecOn with
  | nil => rfl
  | append_singleton front byte ih =>
      have small := byte.toNat_lt
      have value : readBytes 0 (front ++ [byte]) = 256 * readBytes 0 front + byte.toNat := by
        rw [readBytes, List.foldl_append, ← readBytes]
        rfl
      have high : (256 * readBytes 0 front + byte.toNat) / 256 = readBytes 0 front := by omega
      have low : UInt8.ofNat (256 * readBytes 0 front + byte.toNat) = byte := by
        apply UInt8.toNat_inj.mp
        rw [UInt8.toNat_ofNat']
        omega
      rw [List.length_append, List.length_singleton, bigEndian_succ, value, high, low, ih]

end CandyCloud
