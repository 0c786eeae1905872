import CandyCloud.Client.Envelopes
import CandyCloud.Encoding

/-! # Spellings of content hashes

A content hash travels as a text: a marker and sixty-four digits. Three crates read it back,
with two alphabets.
-/

namespace CandyCloud

open Foundation

def hexSymbol (digit : Nat) : UInt8 := UInt8.ofNat (if digit < 10 then 48 + digit else 87 + digit)

/-- A byte in the format `{byte:02x}`. -/
def hexByte (byte : UInt8) : Bytes := [hexSymbol (byte.toNat / 16), hexSymbol (byte.toNat % 16)]

def contentHashMarker : Bytes := utf8 "sha256:"

/-- The body both crates give `format_content_hash`. -/
def spelledHash (hash : Hash) : Bytes := contentHashMarker ++ (hashBytes hash).flatMap hexByte

def CloudClientGrant.formatContentHash (hash : Hash) : Bytes := spelledHash hash
def CloudClientProjection.formatContentHash (hash : Hash) : Bytes := spelledHash hash

/-- The terminal plane writes hashes with the function of the projection crate. -/
def CloudApi.formatContentHash (hash : Hash) : Bytes := CloudClientProjection.formatContentHash hash

def hexDigitValue (byte : UInt8) : Nat :=
  if byte ≤ 57 then byte.toNat - 48 else if byte ≤ 70 then byte.toNat - 55 else byte.toNat - 87

def hexadecimalValue (digits : Bytes) : Nat :=
  digits.foldl (fun value byte => 16 * value + hexDigitValue byte) 0

/-- `u8::from_str_radix` with sixteen digits: one leading plus sign is skipped. -/
def parseHexByte (text : Bytes) : Option UInt8 :=
  let digits := if text.head? == some 43 then text.tail else text
  if !digits.isEmpty && digits.all asciiHex && decide (hexadecimalValue digits ≤ 255) then
    some (UInt8.ofNat (hexadecimalValue digits))
  else none

/-- The bytes of the chunks of two digits; an odd last digit is a chunk of its own. -/
def hexChunks : Bytes → Option Bytes
  | [] => some []
  | [last] => do return [← parseHexByte [last]]
  | high :: low :: rest => do
      let byte ← parseHexByte [high, low]
      let bytes ← hexChunks rest
      return byte :: bytes

/-- The body of `parse_content_hash` over the digits the crate lets through. They are
    ASCII, so that no chunk fails to be UTF-8. -/
def readHash (digit : UInt8 → Bool) (text : Bytes) : Option Hash := do
  let hex ← text.dropPrefix? contentHashMarker
  if decide (hex.length ≠ 64) || !hex.all digit then none
  else fixedHash (← hexChunks hex)

def CloudClientGrant.parseContentHash (text : Bytes) : Except ClientGrantError Hash :=
  orElse .invalidEnvelope (readHash asciiHex text)

def CloudClientProjection.parseContentHash (text : Bytes) : Except PolicyProjectionError Hash :=
  orElse .invalidProjection (readHash asciiHex text)

def CloudApi.parseContentHash (text : Bytes) : Option Hash := readHash lowerHexDigit text

theorem hexSymbol_value {digit : Nat} (below : digit < 16) :
    lowerHexDigit (hexSymbol digit) = true ∧ hexDigitValue (hexSymbol digit) = digit := by
  revert digit
  decide

theorem lowerHexDigit_symbol {byte : UInt8} (lower : lowerHexDigit byte = true) :
    hexDigitValue byte < 16 ∧ hexSymbol (hexDigitValue byte) = byte := by
  have all : ∀ n < 256, lowerHexDigit (UInt8.ofNat n) = true →
      hexDigitValue (UInt8.ofNat n) < 16 ∧ hexSymbol (hexDigitValue (UInt8.ofNat n)) =
        UInt8.ofNat n := by
    decide +kernel
  have value : UInt8.ofNat byte.toNat = byte := UInt8.ofNat_toNat
  have known := all byte.toNat byte.toNat_lt
  rw [value] at known
  exact known lower

theorem lowerHexDigit_iff (byte : UInt8) :
    lowerHexDigit byte = true ↔ asciiHex byte = true ∧ asciiUpper byte = false := by
  simp only [lowerHexDigit, asciiHex, asciiDigit, asciiUpper, Bool.or_eq_true, Bool.and_eq_true,
    Bool.and_eq_false_iff, decide_eq_true_eq, decide_eq_false_iff_not, UInt8.le_iff_toNat_le,
    UInt8.reduceToNat]
  omega

theorem lowerHexDigit_hex {byte : UInt8} (lower : lowerHexDigit byte = true) :
    asciiHex byte = true :=
  ((lowerHexDigit_iff byte).mp lower).1

theorem hexDigitValue_lt {byte : UInt8} (digit : asciiHex byte = true) :
    hexDigitValue byte < 16 := by
  simp only [asciiHex, asciiDigit, hexDigitValue, Bool.or_eq_true, Bool.and_eq_true,
    decide_eq_true_eq, UInt8.le_iff_toNat_le, UInt8.reduceToNat] at digit ⊢
  grind

theorem parseHexByte_pair {high low : UInt8} (first : asciiHex high = true)
    (second : asciiHex low = true) : parseHexByte [high, low] =
      some (UInt8.ofNat (16 * hexDigitValue high + hexDigitValue low)) := by
  have unsigned : high ≠ 43 := by
    rintro rfl
    exact absurd first (by decide)
  have below := hexDigitValue_lt first
  have below' := hexDigitValue_lt second
  have value : hexadecimalValue [high, low] = 16 * hexDigitValue high + hexDigitValue low := by
    simp [hexadecimalValue]
  have small : hexadecimalValue [high, low] ≤ 255 := by omega
  simp [parseHexByte, unsigned, first, second, value, value ▸ small]

theorem hexChunks_written (bytes : Bytes) : hexChunks (bytes.flatMap hexByte) = some bytes := by
  induction bytes with
  | nil => rfl
  | cons byte rest ih =>
      have high : byte.toNat / 16 < 16 := by
        have small := byte.toNat_lt
        omega
      have low : byte.toNat % 16 < 16 := Nat.mod_lt _ (by decide)
      have ⟨first, firstValue⟩ := hexSymbol_value high
      have ⟨second, secondValue⟩ := hexSymbol_value low
      have pair : parseHexByte (hexByte byte) = some byte := by
        rw [hexByte, parseHexByte_pair (lowerHexDigit_hex first) (lowerHexDigit_hex second),
          firstValue, secondValue, Nat.div_add_mod, UInt8.ofNat_toNat]
      simp only [hexByte] at pair
      simp only [List.flatMap_cons, hexByte, List.cons_append, List.nil_append, hexChunks, pair]
      change (hexChunks (rest.flatMap hexByte) >>= fun bytes => some (byte :: bytes)) = _
      rw [ih]
      rfl

theorem hexByte_pair {high low : UInt8} (first : lowerHexDigit high = true)
    (second : lowerHexDigit low = true) :
    hexByte (UInt8.ofNat (16 * hexDigitValue high + hexDigitValue low)) = [high, low] := by
  have ⟨below, symbol⟩ := lowerHexDigit_symbol first
  have ⟨below', symbol'⟩ := lowerHexDigit_symbol second
  have value : (UInt8.ofNat (16 * hexDigitValue high + hexDigitValue low)).toNat =
      16 * hexDigitValue high + hexDigitValue low := by
    rw [UInt8.toNat_ofNat']
    omega
  have front : (16 * hexDigitValue high + hexDigitValue low) / 16 = hexDigitValue high := by omega
  have back : (16 * hexDigitValue high + hexDigitValue low) % 16 = hexDigitValue low := by omega
  rw [hexByte, value, front, back, symbol, symbol']

theorem hexChunks_lower {digits bytes : Bytes} (read : hexChunks digits = some bytes)
    (even : digits.length % 2 = 0) (lower : ∀ byte ∈ digits, lowerHexDigit byte = true) :
    bytes.flatMap hexByte = digits := by
  induction digits using hexChunks.induct generalizing bytes with
  | case1 =>
      cases read
      rfl
  | case2 last => simp at even
  | case3 high low rest ih =>
      have first := lower high (by simp)
      have second := lower low (by simp)
      rw [hexChunks, parseHexByte_pair (lowerHexDigit_hex first) (lowerHexDigit_hex second),
        Option.bind_eq_bind, Option.bind_some] at read
      obtain ⟨tail, chunks, made⟩ := Option.bind_eq_some_iff.mp read
      cases made
      have shorter : rest.length % 2 = 0 := by
        simp only [List.length_cons] at even
        omega
      rw [List.flatMap_cons, hexByte_pair first second,
        ih chunks shorter fun byte inside => lower byte (by simp [inside])]
      rfl

theorem fixedHash_eq {bytes : Bytes} {hash : Hash} :
    fixedHash bytes = some hash ↔ bytes = hashBytes hash := by
  have read : ∀ text : Bytes, text.foldl (fun value byte => 256 * value + byte.toNat) 0 =
      readBytes 0 text := fun _ => rfl
  rw [fixedHash, read]
  constructor
  · intro fixed
    split at fixed
    · rename_i wide
      cases fixed
      have small := readBytes_lt 0 bytes
      rw [wide, Nat.zero_add, Nat.one_mul] at small
      rw [hashBytes, BitVec.toNat_ofNat, Nat.mod_eq_of_lt (by simpa using small), ← wide,
        bigEndian_readBytes]
    · exact absurd fixed (by simp)
  · rintro rfl
    rw [if_pos (hashBytes_length hash), hashBytes, readBytes_bigEndian]
    have small : hash.toNat < 256 ^ 32 := hash.isLt
    rw [Nat.mod_eq_of_lt small, BitVec.ofNat_toNat, BitVec.setWidth_eq]

theorem readHash_some {digit : UInt8 → Bool} {text : Bytes} {hash : Hash} :
    readHash digit text = some hash ↔ ∃ hex : Bytes, text = contentHashMarker ++ hex ∧
      hex.length = 64 ∧ (∀ byte ∈ hex, digit byte = true) ∧
      hexChunks hex = some (hashBytes hash) := by
  simp only [readHash, Option.bind_eq_bind, Option.bind_eq_some_iff, List.dropPrefix?_eq_some_iff,
    beq_iff_eq, ite_eq_iff, Bool.or_eq_true, decide_eq_true_eq, Bool.not_eq_true', reduceCtorEq,
    and_false, false_or, not_or, not_not, fixedHash_eq, Bool.not_eq_false, List.all_eq_true,
    exists_eq_right, and_assoc]

theorem spelledHash_digits (hash : Hash) : ((hashBytes hash).flatMap hexByte).length = 64 ∧
    ∀ byte ∈ (hashBytes hash).flatMap hexByte, lowerHexDigit byte = true := by
  constructor
  · simp [hexByte, List.length_flatMap, hashBytes_length]
  · intro byte inside
    obtain ⟨whole, -, symbol⟩ := List.mem_flatMap.mp inside
    have small := whole.toNat_lt
    simp only [hexByte, List.mem_cons, List.not_mem_nil, or_false] at symbol
    cases symbol with
    | inl high =>
        rw [high]
        exact (hexSymbol_value (by omega)).1
    | inr low =>
        rw [low]
        exact (hexSymbol_value (by omega)).1

theorem readHash_spelled {digit : UInt8 → Bool}
    (contains : ∀ byte, lowerHexDigit byte = true → digit byte = true) (hash : Hash) :
    readHash digit (spelledHash hash) = some hash := by
  have ⟨wide, lower⟩ := spelledHash_digits hash
  exact readHash_some.mpr ⟨_, rfl, wide, fun byte inside => contains byte (lower byte inside),
    hexChunks_written _⟩

theorem readHash_lower {digit : UInt8 → Bool} {text : Bytes} {hash : Hash}
    (read : readHash digit text = some hash)
    (lower : ∀ byte ∈ text.drop 7, lowerHexDigit byte = true) : text = spelledHash hash := by
  obtain ⟨hex, rfl, wide, -, chunks⟩ := readHash_some.mp read
  have even : hex.length % 2 = 0 := by omega
  have digits := hexChunks_lower chunks even fun byte inside => lower byte (by
    rwa [List.drop_left' (by decide)])
  rw [spelledHash, digits]

theorem readHash_lowerDigits {text : Bytes} {hash : Hash}
    (read : readHash lowerHexDigit text = some hash) : text = spelledHash hash := by
  obtain ⟨hex, rfl, -, digits, -⟩ := readHash_some.mp read
  apply readHash_lower read
  rwa [List.drop_left' (by decide)]

theorem readHash_capitals {text : Bytes} {hash : Hash} (read : readHash asciiHex text = some hash) :
    text = spelledHash hash ↔ ∀ byte ∈ text, asciiUpper byte = false := by
  constructor
  · rintro rfl byte inside
    cases List.mem_append.mp inside with
    | inl marker =>
        have plain : contentHashMarker.all (fun byte => !asciiUpper byte) = true := by decide
        simpa using List.all_eq_true.mp plain byte marker
    | inr digit =>
        exact ((lowerHexDigit_iff byte).mp ((spelledHash_digits hash).2 byte digit)).2
  · intro plain
    obtain ⟨hex, rfl, -, digits, -⟩ := readHash_some.mp read
    apply readHash_lower read
    intro byte inside
    rw [List.drop_left' (by decide)] at inside
    exact (lowerHexDigit_iff byte).mpr
      ⟨digits byte inside, plain byte (List.mem_append_right _ inside)⟩

/-- What a codec makes of a text and a hash. Plain texts are the ones it spells one way. -/
structure OneSpelling (format : Hash → Bytes) (parse : Bytes → Option Hash)
    (plain : Bytes → Prop) (text : Bytes) (hash : Hash) : Prop where
  reads : parse (format hash) = some hash
  spelled : parse text = some hash → (text = format hash ↔ plain text)
  single : ∀ second, parse text = some hash → parse second = some hash →
    plain text → plain second → text = second

def WithoutCapitals (text : Bytes) : Prop := ∀ byte ∈ text, asciiUpper byte = false

theorem toOption_orElse {ε α : Type} {error : ε} {o : Option α} :
    (orElse error o).toOption = o := by
  cases o <;> rfl

theorem oneSpelling_capitals (text : Bytes) (hash : Hash) :
    OneSpelling spelledHash (readHash asciiHex) WithoutCapitals text hash where
  reads := readHash_spelled (fun _ => lowerHexDigit_hex) hash
  spelled := readHash_capitals
  single := fun _ read read' plain plain' =>
    ((readHash_capitals read).mpr plain).trans ((readHash_capitals read').mpr plain').symm

theorem oneSpelling_lower (text : Bytes) (hash : Hash) :
    OneSpelling spelledHash (readHash lowerHexDigit) (fun _ => True) text hash where
  reads := readHash_spelled (fun _ => id) hash
  spelled := fun read => iff_true_intro (readHash_lowerDigits read)
  single := fun _ read read' _ _ =>
    (readHash_lowerDigits read).trans (readHash_lowerDigits read').symm

/-- Every hash is read back from its text. The terminal plane reads no other text; the
    crates of the signed documents also read those with capitals. -/
theorem content_hashes (text : Bytes) (hash : Hash) :
    OneSpelling CloudClientGrant.formatContentHash
      (fun text => (CloudClientGrant.parseContentHash text).toOption) WithoutCapitals text hash ∧
    OneSpelling CloudClientProjection.formatContentHash
      (fun text => (CloudClientProjection.parseContentHash text).toOption) WithoutCapitals text
      hash ∧
    OneSpelling CloudApi.formatContentHash CloudApi.parseContentHash (fun _ => True) text hash := by
  have grant : (fun text => (CloudClientGrant.parseContentHash text).toOption) =
      readHash asciiHex := funext fun _ => toOption_orElse
  have projection : (fun text => (CloudClientProjection.parseContentHash text).toOption) =
      readHash asciiHex := funext fun _ => toOption_orElse
  rw [grant, projection]
  exact ⟨oneSpelling_capitals text hash, oneSpelling_capitals text hash,
    oneSpelling_lower text hash⟩

def repeatedDigit (digit : UInt8) : Bytes := contentHashMarker ++ List.replicate 64 digit

/-- The hash of sixty-four times the digit ten has the two spellings of that digit. -/
theorem content_hash_capitals :
    ¬ (∀ text hash, CloudClientGrant.parseContentHash text = .ok hash →
        text = CloudClientGrant.formatContentHash hash) ∧
    ¬ (∀ text hash, CloudClientProjection.parseContentHash text = .ok hash →
        text = CloudClientProjection.formatContentHash hash) ∧
    CloudClientGrant.parseContentHash (repeatedDigit 65) =
      CloudClientGrant.parseContentHash (repeatedDigit 97) ∧
    repeatedDigit 65 ≠ repeatedDigit 97 := by
  have spelling : repeatedDigit 65 ≠ spelledHash
      0xAAAAAAAAAAAAAAAAAAAAAAAAAAAAAAAAAAAAAAAAAAAAAAAAAAAAAAAAAAAAAAAA := by
    decide +kernel
  refine ⟨fun all => ?_, fun all => ?_, by decide +kernel, by decide⟩
  · exact spelling (all _ _ (by decide +kernel))
  · exact spelling (all _ _ (by decide +kernel))

end CandyCloud
