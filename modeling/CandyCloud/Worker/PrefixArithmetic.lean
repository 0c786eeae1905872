import CandyCloud.Worker.EgressPriority
import Mathlib.Algebra.Group.Nat.Defs

/-! # Prefixes as ranges of addresses

Three crates compute masks by shifts, with a case of its own for an empty prefix where one is
possible.
-/

namespace CandyCloud

open Foundation

/-- `u32::MAX << (32 - len)`: nothing where the subtraction or the shift overflows. -/
def shiftedMask (len : Nat) : Option (BitVec 32) :=
  if len ≤ 32 ∧ 32 - len < 32 then some (BitVec.allOnes 32 <<< (32 - len)) else none

/-- The mask of both forms of `Ipv4PrefixV1`. -/
def guardedMask (len : Nat) : Option (BitVec 32) :=
  if len == 0 then some 0 else shiftedMask len

namespace CloudControl

def validateWithDefault (value : Ipv4PrefixV1) (allowDefault : Bool) :
    Option (Except ContractError Unit) :=
  if decide (32 < value.prefixLen) || (!allowDefault && value.prefixLen == 0) then
    some (.error .invalidPrefix)
  else do
    let mask ← guardedMask value.prefixLen
    return reject (value.network &&& ~~~mask != 0) .invalidPrefix

def overlaps (value other : Ipv4PrefixV1) : Option Bool := do
  let mask ← guardedMask (min value.prefixLen other.prefixLen)
  return value.network &&& mask == other.network &&& mask

end CloudControl

namespace CloudWorker

def newWithDefault (network : BitVec 32) (prefixLen : Nat) (allowDefault : Bool) :
    Option (Except RouteTypeError Ipv4PrefixV1) :=
  if decide (32 < prefixLen) || (!allowDefault && prefixLen == 0) then
    some (.error .invalidIpv4Prefix)
  else do
    let mask ← guardedMask prefixLen
    if network &&& mask != network then return .error .invalidIpv4Prefix
    else return .ok ⟨network, prefixLen⟩

def overlaps (value other : Ipv4PrefixV1) : Option Bool := do
  let mask ← guardedMask (min value.prefixLen other.prefixLen)
  return value.network &&& mask == other.network &&& mask

end CloudWorker

/-- The prefix of the `sdwan` module, which is never empty. -/
structure Ipv4Prefix where
  network : BitVec 32
  prefixLen : Nat
deriving DecidableEq

namespace Ipv4Prefix

def new (network : BitVec 32) (prefixLen : Nat) : Option (Except SdwanError Ipv4Prefix) :=
  if prefixLen == 0 || decide (32 < prefixLen) then some (.error .invalidPrefix)
  else do
    let mask ← shiftedMask prefixLen
    if network &&& ~~~mask != 0 then return .error .invalidPrefix
    else return .ok ⟨network, prefixLen⟩

def overlaps (value other : Ipv4Prefix) : Option Bool := do
  let mask ← shiftedMask (min value.prefixLen other.prefixLen)
  return value.network &&& mask == other.network &&& mask

end Ipv4Prefix

def checkedOverlayHost (overlay : Ipv4PrefixV1) (address : BitVec 32) : Option Bool :=
  if overlay.prefixLen == 0 || decide (32 < overlay.prefixLen) then some false
  else do
    let mask ← shiftedMask overlay.prefixLen
    if address &&& mask != overlay.network then return false
    else if overlay.prefixLen ≤ 30 then
      return address != overlay.network && address != (overlay.network ||| ~~~mask)
    else return true

theorem guardedMask_some {len : Nat} (short : len ≤ 32) :
    guardedMask len = some (Ipv4PrefixV1.mask len) := by
  rw [guardedMask, Ipv4PrefixV1.mask]
  by_cases empty : len = 0
  · simp [empty]
  · have shift : len ≤ 32 ∧ 32 - len < 32 := ⟨short, by omega⟩
    simp [empty, shiftedMask, shift]

theorem shiftedMask_some {len : Nat} (positive : len ≠ 0) (short : len ≤ 32) :
    shiftedMask len = some (Ipv4PrefixV1.mask len) := by
  rw [← guardedMask_some short, guardedMask, if_neg (by simpa using positive)]

namespace Ipv4PrefixV1

def size (block : Ipv4PrefixV1) : Nat := 1 <<< (32 - block.prefixLen)

def addresses (block : Ipv4PrefixV1) : Set (BitVec 32) :=
  {address | block.network.toNat ≤ address.toNat ∧
    address.toNat < block.network.toNat + block.size}

structure Canonical (block : Ipv4PrefixV1) : Prop where
  short : block.prefixLen ≤ 32
  aligned : block.size ∣ block.network.toNat

theorem mask_toNat (len : Nat) (address : BitVec 32) :
    (address &&& mask len).toNat = address.toNat / 2 ^ (32 - len) * 2 ^ (32 - len) := by
  have shifts : address &&& mask len = (address >>> (32 - len)) <<< (32 - len) := by
    apply BitVec.eq_of_getLsbD_eq
    intro i inside
    simp only [BitVec.getLsbD_and, mask_bit, BitVec.getLsbD_shiftLeft, BitVec.getLsbD_ushiftRight]
    by_cases high : 32 - len ≤ i
    · have place : 32 - len + (i - (32 - len)) = i := by omega
      simp [high, inside, place]
    · simp [high, inside, Nat.lt_of_not_le high]
  have small := address.isLt
  have below : address.toNat / 2 ^ (32 - len) * 2 ^ (32 - len) ≤ address.toNat :=
    Nat.div_mul_le_self _ _
  rw [shifts, BitVec.toNat_shiftLeft, BitVec.toNat_ushiftRight, Nat.shiftRight_eq_div_pow,
    Nat.shiftLeft_eq, Nat.mod_eq_of_lt (by omega)]

theorem size_eq (block : Ipv4PrefixV1) : block.size = 2 ^ (32 - block.prefixLen) :=
  Nat.one_shiftLeft _

theorem masked_iff {block : Ipv4PrefixV1} :
    block.network &&& mask block.prefixLen = block.network ↔ block.size ∣ block.network.toNat := by
  rw [← BitVec.toNat_inj, mask_toNat, size_eq]
  exact ⟨fun same => ⟨_, (same.symm.trans (Nat.mul_comm _ _))⟩, Nat.div_mul_cancel⟩

theorem mem_addresses {block : Ipv4PrefixV1} (canonical : block.Canonical) (address : BitVec 32) :
    address ∈ block.addresses ↔ block.Covers address := by
  obtain ⟨short, aligned⟩ := canonical
  rw [Covers, ← BitVec.toNat_inj, mask_toNat]
  rw [size_eq] at aligned
  obtain ⟨index, network⟩ := aligned
  have positive : 0 < 2 ^ (32 - block.prefixLen) := Nat.two_pow_pos _
  change (block.network.toNat ≤ _ ∧ _ < block.network.toNat + block.size) ↔ _
  rw [size_eq, network, Nat.mul_comm _ index]
  constructor
  · rintro ⟨above, below⟩
    congr 1
    exact Nat.div_eq_of_lt_le above (by rwa [Nat.succ_mul])
  · intro same
    have quotient := Nat.eq_of_mul_eq_mul_right positive same
    rw [← quotient]
    have whole := Nat.div_add_mod address.toNat (2 ^ (32 - block.prefixLen))
    have rest := Nat.mod_lt address.toNat positive
    rw [Nat.mul_comm] at whole
    omega

theorem Canonical.masked {block : Ipv4PrefixV1} (canonical : block.Canonical) :
    block.network &&& mask block.prefixLen = block.network :=
  masked_iff.mpr canonical.aligned

theorem Canonical.network_mem {block : Ipv4PrefixV1} (canonical : block.Canonical) :
    block.network ∈ block.addresses :=
  (mem_addresses canonical _).mpr canonical.masked

theorem subset_of_overlaps {a b : Ipv4PrefixV1} (canonicalA : a.Canonical)
    (canonicalB : b.Canonical) (shorter : a.prefixLen ≤ b.prefixLen)
    (overlapping : a.overlaps b = true) : b.addresses ⊆ a.addresses := by
  intro address inside
  rw [mem_addresses canonicalB] at inside
  rw [mem_addresses canonicalA, Covers, ← inside.network shorter]
  simp only [overlaps, beq_iff_eq, Nat.min_eq_left shorter, canonicalA.masked] at overlapping
  exact overlapping.symm

theorem overlaps_iff_subset {a b : Ipv4PrefixV1} (canonicalA : a.Canonical)
    (canonicalB : b.Canonical) : a.overlaps b = true ↔
      a.addresses ⊆ b.addresses ∨ b.addresses ⊆ a.addresses := by
  constructor
  · intro overlapping
    cases Nat.le_total a.prefixLen b.prefixLen with
    | inl shorter => exact .inr (subset_of_overlaps canonicalA canonicalB shorter overlapping)
    | inr shorter =>
        exact .inl (subset_of_overlaps canonicalB canonicalA shorter
          ((overlaps_comm b a).trans overlapping))
  · intro contained
    have common : ∃ address, a.Covers address ∧ b.Covers address := by
      cases contained with
      | inl inside =>
          exact ⟨a.network, (mem_addresses canonicalA _).mp canonicalA.network_mem,
            (mem_addresses canonicalB _).mp (inside canonicalA.network_mem)⟩
      | inr inside =>
          exact ⟨b.network, (mem_addresses canonicalA _).mp (inside canonicalB.network_mem),
            (mem_addresses canonicalB _).mp canonicalB.network_mem⟩
    by_contra apart
    have ⟨address, both⟩ := common
    exact disjoint_of_overlaps (Bool.not_eq_true _ ▸ apart) address both

theorem overlaps_iff_meet {a b : Ipv4PrefixV1} (canonicalA : a.Canonical)
    (canonicalB : b.Canonical) : a.overlaps b = true ↔ (a.addresses ∩ b.addresses).Nonempty := by
  constructor
  · intro overlapping
    cases (overlaps_iff_subset canonicalA canonicalB).mp overlapping with
    | inl inside => exact ⟨a.network, canonicalA.network_mem, inside canonicalA.network_mem⟩
    | inr inside => exact ⟨b.network, inside canonicalB.network_mem, canonicalB.network_mem⟩
  · rintro ⟨address, inA, inB⟩
    by_contra apart
    exact disjoint_of_overlaps (Bool.not_eq_true _ ▸ apart) address
      ⟨(mem_addresses canonicalA _).mp inA, (mem_addresses canonicalB _).mp inB⟩

theorem not_mask_toNat (len : Nat) : (~~~(mask len)).toNat = 2 ^ (32 - len) - 1 := by
  have ones : ~~~(mask len) = BitVec.ofNat 32 (2 ^ (32 - len) - 1) := by
    apply BitVec.eq_of_getLsbD_eq
    intro i inside
    simp only [BitVec.getLsbD_not, mask_bit, BitVec.getLsbD_ofNat, Nat.testBit_two_pow_sub_one]
    rw [Bool.eq_iff_iff]
    simp only [inside, decide_true, Bool.true_and, Bool.not_eq_true', decide_eq_false_iff_not,
      decide_eq_true_eq, and_true, not_le]
  have below : 2 ^ (32 - len) ≤ 2 ^ 32 := Nat.pow_le_pow_right (by decide) (Nat.sub_le _ _)
  have positive : 0 < 2 ^ (32 - len) := Nat.two_pow_pos _
  rw [ones, BitVec.toNat_ofNat, Nat.mod_eq_of_lt (by omega)]

theorem Canonical.broadcast {block : Ipv4PrefixV1} (canonical : block.Canonical) :
    (block.network ||| ~~~(mask block.prefixLen)).toNat =
      block.network.toNat + block.size - 1 := by
  obtain ⟨-, index, network⟩ := canonical
  rw [size_eq] at network ⊢
  have positive : 0 < 2 ^ (32 - block.prefixLen) := Nat.two_pow_pos _
  rw [BitVec.toNat_or, not_mask_toNat, network,
    ← Nat.two_pow_add_eq_or_of_lt (by omega : 2 ^ (32 - block.prefixLen) - 1 < _)]
  omega

/-- The addresses of a prefix that a host may have. -/
structure IsHost (block : Ipv4PrefixV1) (address : BitVec 32) : Prop where
  inside : address ∈ block.addresses
  inner : block.prefixLen ≤ 30 → address.toNat ≠ block.network.toNat ∧
    address.toNat ≠ block.network.toNat + block.size - 1

theorem validOverlayHost_iff {block : Ipv4PrefixV1} (canonical : block.Canonical)
    (address : BitVec 32) : validOverlayHost block address = true ↔
      block.prefixLen ≠ 0 ∧ block.IsHost address := by
  have last : address = (block.network ||| ~~~(mask block.prefixLen)) ↔
      address.toNat = block.network.toNat + block.size - 1 := by
    rw [← BitVec.toNat_inj, canonical.broadcast]
  have first : address = block.network ↔ address.toNat = block.network.toNat :=
    BitVec.toNat_inj.symm
  have short : ¬ 32 < block.prefixLen := Nat.not_lt.mpr canonical.short
  constructor
  · intro valid
    have usable := usableHost_of_valid valid
    refine ⟨?_, (mem_addresses canonical _).mpr usable.1, ?_⟩
    · intro empty
      simp [validOverlayHost, empty] at valid
    · intro wide
      exact ⟨mt first.mpr (usable.2 wide).1, mt last.mpr (usable.2 wide).2⟩
  · rintro ⟨positive, inside, inner⟩
    have covered : address &&& mask block.prefixLen = block.network :=
      (mem_addresses canonical _).mp inside
    by_cases wide : block.prefixLen ≤ 30
    · have outer := inner wide
      rw [Ne, Ne, ← first, ← last] at outer
      simp [validOverlayHost, positive, short, covered, wide, outer]
    · simp [validOverlayHost, positive, short, covered, wide]

end Ipv4PrefixV1

open Ipv4PrefixV1

theorem validateWithDefault_checked (block : Ipv4PrefixV1) (allowDefault : Bool) :
    CloudControl.validateWithDefault block allowDefault =
      some (block.validateWithDefault allowDefault) := by
  rw [CloudControl.validateWithDefault, validateWithDefault, reject]
  split
  · rfl
  · rename_i accepted
    simp only [Bool.or_eq_true, decide_eq_true_eq, not_or, not_lt] at accepted
    rw [guardedMask_some accepted.1]
    rfl

theorem newWithDefault_checked (network : BitVec 32) (prefixLen : Nat) (allowDefault : Bool) :
    CloudWorker.newWithDefault network prefixLen allowDefault =
      some (newWithDefault network prefixLen allowDefault) := by
  rw [CloudWorker.newWithDefault, newWithDefault, reject]
  split
  · rfl
  · rename_i accepted
    simp only [Bool.or_eq_true, decide_eq_true_eq, not_or, not_lt] at accepted
    rw [guardedMask_some accepted.1, reject]
    change (if _ then _ else _) = _
    split
    · rfl
    · rfl

theorem canonical_iff {block : Ipv4PrefixV1} : block.Canonical ↔
    block.prefixLen ≤ 32 ∧ block.network &&& mask block.prefixLen = block.network := by
  rw [masked_iff]
  exact ⟨fun canonical => ⟨canonical.short, canonical.aligned⟩, fun both => ⟨both.1, both.2⟩⟩

/-- What the three crates accept, with or without the empty prefix; no shift overflows. -/
structure AcceptedAlike (block : Ipv4PrefixV1) (allowDefault : Bool) : Prop where
  control : CloudControl.validateWithDefault block allowDefault = some (.ok ()) ↔
    block.Canonical ∧ (block.prefixLen = 0 → allowDefault = true)
  worker : CloudWorker.newWithDefault block.network block.prefixLen allowDefault =
      some (.ok block) ↔ block.Canonical ∧ (block.prefixLen = 0 → allowDefault = true)
  sdwan : Ipv4Prefix.new block.network block.prefixLen =
      some (.ok ⟨block.network, block.prefixLen⟩) ↔ block.Canonical ∧ block.prefixLen ≠ 0
  controlShifts : CloudControl.validateWithDefault block allowDefault ≠ none
  workerShifts : CloudWorker.newWithDefault block.network block.prefixLen allowDefault ≠ none
  sdwanShifts : Ipv4Prefix.new block.network block.prefixLen ≠ none

theorem Ipv4Prefix.new_checked (network : BitVec 32) (prefixLen : Nat) :
    Ipv4Prefix.new network prefixLen = some (
      if prefixLen = 0 ∨ 32 < prefixLen ∨ network &&& mask prefixLen ≠ network then
        .error .invalidPrefix
      else .ok ⟨network, prefixLen⟩) := by
  rw [Ipv4Prefix.new]
  split
  · rename_i refused
    simp only [Bool.or_eq_true, beq_iff_eq, decide_eq_true_eq] at refused
    have early : prefixLen = 0 ∨ 32 < prefixLen ∨ network &&& mask prefixLen ≠ network :=
      refused.imp_right Or.inl
    rw [if_pos early]
  · rename_i accepted
    simp only [Bool.or_eq_true, beq_iff_eq, decide_eq_true_eq, not_or, not_lt] at accepted
    obtain ⟨positive, short⟩ := accepted
    rw [shiftedMask_some positive short]
    simp only [Option.bind_eq_bind, Option.bind_some, bne_iff_ne, ne_eq, unmasked_iff, positive,
      Nat.not_lt.mpr short, false_or]
    split
    · rfl
    · rfl

theorem acceptedAlike (block : Ipv4PrefixV1) (allowDefault : Bool) :
    AcceptedAlike block allowDefault := by
  constructor
  · rw [validateWithDefault_checked, Option.some.injEq, canonical_iff]
    simp only [validateWithDefault, unit_bind_ok, reject_ok, Bool.or_eq_false_iff,
      decide_eq_false_iff_not, not_lt, Bool.and_eq_false_iff, bne_eq_false_iff_eq, unmasked_iff,
      Bool.not_eq_false', beq_eq_false_iff_ne]
    grind
  · rw [newWithDefault_checked, Option.some.injEq, canonical_iff]
    simp only [newWithDefault, unit_bind_ok, reject_ok, pure_ok, Bool.or_eq_false_iff,
      decide_eq_false_iff_not, not_lt, Bool.and_eq_false_iff, bne_eq_false_iff_eq,
      Bool.not_eq_false', beq_eq_false_iff_ne]
    grind
  · rw [Ipv4Prefix.new_checked, Option.some.injEq, canonical_iff]
    grind
  · rw [validateWithDefault_checked]
    exact Option.some_ne_none _
  · rw [newWithDefault_checked]
    exact Option.some_ne_none _
  · rw [Ipv4Prefix.new_checked]
    exact Option.some_ne_none _

/-- The answer all three give for two prefixes, and what it says of their ranges. -/
structure OverlapAlike (a b : Ipv4PrefixV1) (answer : Bool) : Prop where
  control : CloudControl.overlaps a b = some answer
  worker : CloudWorker.overlaps a b = some answer
  sdwan : ∀ a' b', Ipv4Prefix.new a.network a.prefixLen = some (.ok a') →
    Ipv4Prefix.new b.network b.prefixLen = some (.ok b') → a'.overlaps b' = some answer
  meet : answer = true ↔ (a.addresses ∩ b.addresses).Nonempty
  contained : answer = true ↔ a.addresses ⊆ b.addresses ∨ b.addresses ⊆ a.addresses

theorem overlapAlike {a b : Ipv4PrefixV1} (canonicalA : a.Canonical) (canonicalB : b.Canonical) :
    OverlapAlike a b (a.overlaps b) := by
  have short : min a.prefixLen b.prefixLen ≤ 32 := Nat.le_trans (Nat.min_le_left _ _) canonicalA.short
  constructor
  · rw [CloudControl.overlaps, guardedMask_some short]
    rfl
  · rw [CloudWorker.overlaps, guardedMask_some short]
    rfl
  · intro a' b' newA newB
    simp only [Ipv4Prefix.new_checked, Option.some.injEq, ite_eq_iff, reduceCtorEq, and_false,
      false_or, Except.ok.injEq, not_or] at newA newB
    obtain ⟨⟨positiveA, -⟩, rfl⟩ := newA
    obtain ⟨⟨positiveB, -⟩, rfl⟩ := newB
    have positive : min a.prefixLen b.prefixLen ≠ 0 := by omega
    rw [Ipv4Prefix.overlaps, shiftedMask_some positive short]
    rfl
  · exact overlaps_iff_meet canonicalA canonicalB
  · exact overlaps_iff_subset canonicalA canonicalB

theorem checkedOverlayHost_eq (block : Ipv4PrefixV1) (address : BitVec 32) :
    checkedOverlayHost block address = some (validOverlayHost block address) := by
  rw [checkedOverlayHost, validOverlayHost]
  split
  · rfl
  · rename_i accepted
    simp only [Bool.or_eq_true, beq_iff_eq, decide_eq_true_eq, not_or, not_lt] at accepted
    rw [shiftedMask_some accepted.1 accepted.2]
    simp only [Option.bind_eq_bind, Option.bind_some, pure, apply_ite some]

/-- The three crates accept the same prefixes apart from the empty one and find the overlaps
    of the ranges; the hosts of an overlay are inside its range, and an empty prefix has none. -/
theorem prefix_arithmetic :
    (∀ block allowDefault, AcceptedAlike block allowDefault) ∧
    (∀ a b : Ipv4PrefixV1, a.Canonical → b.Canonical → ∃ answer, OverlapAlike a b answer) ∧
    (∀ (block : Ipv4PrefixV1) (address : BitVec 32), block.Canonical → ∃ answer,
      checkedOverlayHost block address = some answer ∧
        (answer = true ↔ block.prefixLen ≠ 0 ∧ block.IsHost address)) := by
  refine ⟨acceptedAlike, fun a b canonicalA canonicalB => ?_, fun block address canonical => ?_⟩
  · exact ⟨_, overlapAlike canonicalA canonicalB⟩
  · exact ⟨_, checkedOverlayHost_eq block address, validOverlayHost_iff canonical address⟩

/-- A block overlaps its subnet; an address inside the subnet is a host of it, and the
    address of the network is none. -/
theorem prefix_arithmetic_subnet :
    OverlapAlike ⟨0x0A000000, 16⟩ ⟨0x0A000100, 24⟩ true ∧
      checkedOverlayHost ⟨0x0A000100, 24⟩ 0x0A000107 = some true ∧
      ¬ Ipv4PrefixV1.IsHost ⟨0x0A000100, 24⟩ 0x0A000100 := by
  obtain ⟨-, overlaps, hosts⟩ := prefix_arithmetic
  have canonical : Ipv4PrefixV1.Canonical ⟨0x0A000100, 24⟩ := ⟨by decide, by decide⟩
  obtain ⟨answer, alike⟩ := overlaps ⟨0x0A000000, 16⟩ _ ⟨by decide, by decide⟩ canonical
  have overlapping : answer = true := Option.some.inj (alike.control.symm.trans (by decide))
  obtain ⟨network, checked, inside⟩ := hosts _ 0x0A000100 canonical
  refine ⟨overlapping ▸ alike, by decide, ?_⟩
  intro host
  rw [inside.mpr ⟨by decide, host⟩] at checked
  revert checked
  decide

/-- An address in the middle of the empty prefix is no host of it. -/
theorem empty_overlay_host :
    ¬ ∀ (block : Ipv4PrefixV1) (address : BitVec 32), block.Canonical →
      (checkedOverlayHost block address = some true ↔ block.IsHost address) := by
  intro claimed
  have host : Ipv4PrefixV1.IsHost ⟨0, 0⟩ 0x0A000001 := by
    refine ⟨?_, fun _ => ?_⟩
    · change (0 ≤ _ ∧ _ < 0 + _)
      decide
    · decide
  have answered := (claimed ⟨0, 0⟩ 0x0A000001 ⟨by decide, by decide⟩).mpr host
  revert answered
  decide

end CandyCloud
