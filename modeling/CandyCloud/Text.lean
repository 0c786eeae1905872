import CandyCloud.Primitives

/-! # Character classes

The tests of the standard library on the characters of a text or on its UTF-8
bytes.
-/

namespace CandyCloud

/-- The characters with the Unicode property `White_Space`. -/
def isWhitespace (c : Char) : Bool :=
  let code := c.toNat
  (9 ≤ code && code ≤ 13) || code == 0x20 || code == 0x85 || code == 0xA0 || code == 0x1680 ||
    (0x2000 ≤ code && code ≤ 0x200A) || code == 0x2028 || code == 0x2029 || code == 0x202F ||
    code == 0x205F || code == 0x3000

/-- The characters of category `Cc`. -/
def isControl (c : Char) : Bool :=
  c.toNat < 0x20 || (0x7F ≤ c.toNat && c.toNat < 0xA0)

def trim (chars : List Char) : List Char :=
  ((chars.dropWhile isWhitespace).reverse.dropWhile isWhitespace).reverse

def asciiUpper (byte : UInt8) : Bool := 65 ≤ byte && byte ≤ 90
def asciiLower (byte : UInt8) : Bool := 97 ≤ byte && byte ≤ 122
def asciiDigit (byte : UInt8) : Bool := 48 ≤ byte && byte ≤ 57
def asciiHex (byte : UInt8) : Bool :=
  asciiDigit byte || (65 ≤ byte && byte ≤ 70) || (97 ≤ byte && byte ≤ 102)
def asciiAlphanumeric (byte : UInt8) : Bool :=
  asciiUpper byte || asciiLower byte || asciiDigit byte

def dnsLabel (label : Bytes) : Bool :=
  !label.isEmpty && decide (label.length ≤ 63) && label.head? != some 45 &&
    label.getLast? != some 45 &&
    label.all fun byte => asciiLower byte || asciiDigit byte || byte == 45

/-- `is_ascii_hexdigit` without the upper case. -/
def lowerHexDigit (byte : UInt8) : Bool :=
  (48 ≤ byte && byte ≤ 57) || (97 ≤ byte && byte ≤ 102)

def asciiControl (byte : UInt8) : Bool := byte < 32 || byte == 127

def decimalValue (digits : Bytes) : Nat :=
  digits.foldl (fun value byte => 10 * value + (byte.toNat - 48)) 0

/-- `str::parse` of an unsigned integer: one leading plus sign is skipped, and a
    number past the largest value is an error. -/
def parseUnsigned (largest : Nat) (text : Bytes) : Option Nat :=
  let digits := if text.head? == some 43 then text.tail else text
  if !digits.isEmpty && digits.all asciiDigit && decide (decimalValue digits ≤ largest) then
    some (decimalValue digits)
  else none

/-- A group of an address: at most three digits and no leading zero. -/
def parseOctet (digits : Bytes) : Option Nat :=
  if decide (digits.length ≤ 3) && !(decide (1 < digits.length) && digits.head? == some 48) &&
      digits.head? != some 43 then
    parseUnsigned 255 digits
  else none

/-- `str::parse::<Ipv4Addr>`. -/
def parseIpv4 (text : Bytes) : Option (BitVec 32) :=
  match text.splitOn 46 with
  | [a, b, c, d] => do
      let a ← parseOctet a
      let b ← parseOctet b
      let c ← parseOctet c
      let d ← parseOctet d
      return BitVec.ofNat 32 (((a * 256 + b) * 256 + c) * 256 + d)
  | _ => none

theorem mem_splitOn (separator : UInt8) {byte : UInt8} {text : Bytes} (member : byte ∈ text) :
    byte = separator ∨ ∃ part ∈ text.splitOn separator, byte ∈ part := by
  induction text with
  | nil => cases member
  | cons first rest ih =>
      rw [List.splitOn_cons_eq_if_modifyHead]
      split
      · rename_i separates
        rcases List.mem_cons.mp member with rfl | later
        · exact .inl (beq_iff_eq.mp separates)
        · rcases ih later with same | ⟨part, listed, inside⟩
          · exact .inl same
          · exact .inr ⟨part, List.mem_cons_of_mem _ listed, inside⟩
      · cases parts : rest.splitOn separator with
        | nil => exact absurd parts (List.splitOn_ne_nil separator rest)
        | cons part parts' =>
            rw [parts] at ih
            rw [List.modifyHead_cons]
            rcases List.mem_cons.mp member with rfl | later
            · exact .inr ⟨_, List.mem_cons_self, List.mem_cons_self⟩
            · rcases ih later with same | ⟨other, listed, inside⟩
              · exact .inl same
              · rcases List.mem_cons.mp listed with rfl | behind
                · exact .inr ⟨_, List.mem_cons_self, List.mem_cons_of_mem _ inside⟩
                · exact .inr ⟨other, List.mem_cons_of_mem _ behind, inside⟩

/-- `str::split_once`: the bytes before and after the first separator. -/
def splitOnce (separator : UInt8) (text : Bytes) : Option (Bytes × Bytes) :=
  if text.contains separator then
    some (text.takeWhile (· != separator), (text.dropWhile (· != separator)).tail)
  else none

/-- Lower-case hexadecimal digits, padded to the given width. -/
def hexDigits (width n : Nat) : List Char :=
  let digits := Nat.toDigits 16 n
  List.replicate (width - digits.length) '0' ++ digits

def uuidText (id : Uuid) : String :=
  let digits := hexDigits 32 id.toNat
  String.ofList (digits.take 8 ++ '-' :: (digits.drop 8).take 4 ++ '-' :: (digits.drop 12).take 4 ++
    '-' :: (digits.drop 16).take 4 ++ '-' :: digits.drop 20)

/-- The reader of `std::net`: every function takes what is left of the text and gives
what is left after the part it reads. -/
def readByte (byte : UInt8) : Bytes → Option Bytes
  | [] => none
  | first :: rest => if first = byte then some rest else none

def readOctet (text : Bytes) : Option Bytes :=
  let digits := text.takeWhile asciiDigit
  (parseOctet digits).map fun _ => text.drop digits.length

def readIpv4 (text : Bytes) : Option Bytes := do
  let text ← readOctet text
  let text ← readByte 46 text
  let text ← readOctet text
  let text ← readByte 46 text
  let text ← readOctet text
  let text ← readByte 46 text
  readOctet text

/-- One to four hexadecimal digits. -/
def readGroup (text : Bytes) : Option Bytes :=
  let digits := text.takeWhile asciiHex
  if digits.isEmpty || decide (4 < digits.length) then none else some (text.drop digits.length)

/-- Every part but the first comes after a colon. -/
def readSeparated (first : Bool) (read : Bytes → Option Bytes) (text : Bytes) : Option Bytes :=
  if first then read text else (readByte 58 text).bind read

/-- At most the given number of groups; the last two may be an IPv4 address. How
    many were read, whether they end in an address, and what is left. -/
def readGroups (first : Bool) : Nat → Bytes → Nat × Bool × Bytes
  | 0, text => (0, false, text)
  | slots + 1, text =>
      match if slots = 0 then none else readSeparated first readIpv4 text with
      | some rest => (2, true, rest)
      | none =>
          match readSeparated first readGroup text with
          | none => (0, false, text)
          | some rest =>
              let (groups, ipv4, rest) := readGroups false slots rest
              (groups + 1, ipv4, rest)

/-- Eight groups, or fewer around one `::` with no address before it. -/
def readIpv6 (text : Bytes) : Option Bytes :=
  let (groups, ipv4, rest) := readGroups true 8 text
  if groups = 8 then some rest
  else if ipv4 then none
  else do
    let rest ← readByte 58 rest
    let rest ← readByte 58 rest
    return (readGroups true (7 - groups) rest).2.2

/-- `str::parse::<IpAddr>` succeeds. -/
def isIpAddr (text : Bytes) : Bool :=
  match readIpv4 text with
  | some rest => rest.isEmpty
  | none => (readIpv6 text).any (·.isEmpty)

example : ["10.0.0.1", "::1", "2001:db8::10.0.0.1", "1:2:3:4:5:6:7::", "10.0.0.01", "1::2::3",
    "::1:2:3:4:5:6:7:8", "edge"].map (fun text => isIpAddr (utf8 text)) =
    [true, true, true, true, false, false, false, false] := by
  decide +kernel

end CandyCloud
