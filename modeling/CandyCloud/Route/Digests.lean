import CandyCloud.Encoding
import CandyCloud.Foundation.Framing
import CandyCloud.Route.Pointer

/-! # The digest of a configuration

The digest of a configuration is over the signed objects and both catalogs, each variable
part after its length.
-/

namespace CandyCloud

open Foundation

/-- Bytes after their length as a `u64`. -/
def sizedBytes (value : Bytes) : Bytes := bigEndian 8 value.length ++ value

/-- Encoded elements after their number as a `u64`. -/
def countedBytes {α : Type} (encode : α → Bytes) (elements : List α) : Bytes :=
  bigEndian 8 elements.length ++ elements.flatMap encode

def RuntimePeerProjection.bytes (peer : RuntimePeerProjection) : Bytes :=
  uuidBytes peer.projectionId ++ bigEndian 8 peer.projectionGeneration ++
    hashBytes peer.projectionContentHash ++ sizedBytes peer.signedProjectionEnvelope

def RuntimeCompatibilityGeneration.bytes (generation : RuntimeCompatibilityGeneration) : Bytes :=
  bigEndian 8 generation.segmentGeneration ++ hashBytes generation.segmentContentHash ++
    sizedBytes generation.signedSegmentEnvelope ++
    countedBytes RuntimePeerProjection.bytes generation.peerProjectionCatalog

def RuntimeConfigurationRecord.envelopeBytes (record : RuntimeConfigurationRecord) : Bytes :=
  utf8 "candy/runtime-configuration-v1\x00" ++ sizedBytes record.signedSegmentEnvelope ++
    sizedBytes record.signedProjectionEnvelope ++
    countedBytes RuntimePeerProjection.bytes record.peerProjectionCatalog ++
    countedBytes RuntimeCompatibilityGeneration.bytes record.compatibilityGenerations

def RuntimeConfigurationRecord.envelopeSha256 (sha256 : Bytes → Hash)
    (record : RuntimeConfigurationRecord) : Hash :=
  sha256 record.envelopeBytes

theorem number_readsBack : ReadsBack (· ≤ u64Max) (bigEndian 8) := by
  refine readsBack_fixed (fun n => bigEndian_length 8 n) ?_
  intro a b left right same
  have width : u64Max < 256 ^ 8 := by decide
  exact bigEndian_inj (Nat.lt_of_le_of_lt left width) (Nat.lt_of_le_of_lt right width) same

theorem uuid_readsBack : ReadsBack (fun _ => True) uuidBytes :=
  readsBack_fixed uuidBytes_length fun _ _ _ _ same => uuidBytes_inj same

theorem hash_readsBack : ReadsBack (fun _ => True) hashBytes :=
  readsBack_fixed hashBytes_length fun _ _ _ _ same => hashBytes_inj same

theorem sized_readsBack : ReadsBack (fun value : Bytes => value.length ≤ u64Max) sizedBytes :=
  number_readsBack.framed

theorem counted_readsBack {α : Type} {valid : α → Prop} {encode : α → Bytes}
    (reads : ReadsBack valid encode) :
    ReadsBack (fun elements : List α => elements.length ≤ u64Max ∧ ∀ a ∈ elements, valid a)
      (countedBytes encode) :=
  number_readsBack.counted reads

/-- The numbers and lengths of a peer are those of its `u64` columns. -/
structure RuntimePeerProjection.Fits (peer : RuntimePeerProjection) : Prop where
  generation : peer.projectionGeneration ≤ u64Max
  envelope : peer.signedProjectionEnvelope.length ≤ u64Max

structure RuntimeCompatibilityGeneration.Fits (older : RuntimeCompatibilityGeneration) : Prop where
  generation : older.segmentGeneration ≤ u64Max
  envelope : older.signedSegmentEnvelope.length ≤ u64Max
  catalog : older.peerProjectionCatalog.length ≤ u64Max ∧
    ∀ peer ∈ older.peerProjectionCatalog, peer.Fits

structure RuntimeConfigurationRecord.Fits (record : RuntimeConfigurationRecord) : Prop where
  segment : record.signedSegmentEnvelope.length ≤ u64Max
  projection : record.signedProjectionEnvelope.length ≤ u64Max
  catalog : record.peerProjectionCatalog.length ≤ u64Max ∧
    ∀ peer ∈ record.peerProjectionCatalog, peer.Fits
  compatibility : record.compatibilityGenerations.length ≤ u64Max ∧
    ∀ older ∈ record.compatibilityGenerations, older.Fits

theorem peer_readsBack : ReadsBack RuntimePeerProjection.Fits RuntimePeerProjection.bytes := by
  intro a b rest rest' left right same
  simp only [RuntimePeerProjection.bytes, List.append_assoc] at same
  obtain ⟨id, same⟩ := uuid_readsBack _ _ _ _ trivial trivial same
  obtain ⟨generation, same⟩ := number_readsBack _ _ _ _ left.generation right.generation same
  obtain ⟨hash, same⟩ := hash_readsBack _ _ _ _ trivial trivial same
  obtain ⟨envelope, rests⟩ := sized_readsBack _ _ _ _ left.envelope right.envelope same
  refine ⟨?_, rests⟩
  cases a
  cases b
  simp only at id generation hash envelope
  rw [id, generation, hash, envelope]

theorem compatibility_readsBack :
    ReadsBack RuntimeCompatibilityGeneration.Fits RuntimeCompatibilityGeneration.bytes := by
  intro a b rest rest' left right same
  simp only [RuntimeCompatibilityGeneration.bytes, List.append_assoc] at same
  obtain ⟨generation, same⟩ := number_readsBack _ _ _ _ left.generation right.generation same
  obtain ⟨hash, same⟩ := hash_readsBack _ _ _ _ trivial trivial same
  obtain ⟨envelope, same⟩ := sized_readsBack _ _ _ _ left.envelope right.envelope same
  obtain ⟨catalog, rests⟩ :=
    counted_readsBack peer_readsBack _ _ _ _ left.catalog right.catalog same
  refine ⟨?_, rests⟩
  cases a
  cases b
  simp only at generation hash envelope catalog
  rw [generation, hash, envelope, catalog]

/-- The parts of a record that its digest covers. -/
structure SameObjects (a b : RuntimeConfigurationRecord) : Prop where
  segment : a.signedSegmentEnvelope = b.signedSegmentEnvelope
  projection : a.signedProjectionEnvelope = b.signedProjectionEnvelope
  catalog : a.peerProjectionCatalog = b.peerProjectionCatalog
  compatibility : a.compatibilityGenerations = b.compatibilityGenerations

theorem envelopeBytes_inj {a b : RuntimeConfigurationRecord} (left : a.Fits) (right : b.Fits)
    (same : a.envelopeBytes = b.envelopeBytes) : SameObjects a b := by
  simp only [RuntimeConfigurationRecord.envelopeBytes, List.append_assoc,
    List.append_cancel_left_eq] at same
  obtain ⟨segment, same⟩ := sized_readsBack _ _ _ _ left.segment right.segment same
  obtain ⟨projection, same⟩ := sized_readsBack _ _ _ _ left.projection right.projection same
  obtain ⟨catalog, same⟩ := counted_readsBack peer_readsBack _ _ _ _ left.catalog right.catalog same
  exact ⟨segment, projection, catalog,
    (counted_readsBack compatibility_readsBack).inj left.compatibility right.compatibility same⟩

end CandyCloud
