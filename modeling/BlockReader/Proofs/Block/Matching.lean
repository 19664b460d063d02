import BlockReader.Proofs.Block.Summary
set_option autoImplicit false

namespace BlockReader

namespace Base58

theorem encode_replicate_zero (count : Nat) :
    encode (List.replicate count 0) = List.replicate count '1' := by
  have zero : UInt8.toNat 0 = 0 := rfl
  have one : digit 0 = '1' := rfl
  have leading := Radix.leadingZeros_replicate_append count [] nofun
  have number := Radix.value_replicate_append 256 count []
  have nothing : Radix.value 256 [] = 0 := rfl
  rw [List.append_nil] at leading number
  rw [encode_eq_rebase, List.map_replicate, zero, Radix.rebase, leading, number, nothing,
    Radix.digits_zero, List.append_nil, List.map_replicate, one]

end Base58

namespace Digest

/-- The text that stands for a parent that is no longer kept. -/
def prunedText : String :=
  "11111111111111111111111111111111"

theorem text_zeroHash : zeroHash.text = prunedText := by
  rw [text, zeroHash, Base58.encode_replicate_zero]
  rfl

theorem bytes_eq_iff {kind : DigestKind} (first second : Digest kind) :
    first.bytes = second.bytes ↔ first = second := by
  cases first
  cases second
  rw [mk.injEq]

/-- Digests are told apart by their texts. -/
theorem text_eq_iff {kind : DigestKind} (first second : Digest kind) :
    first.text = second.text ↔ first = second := by
  constructor
  · intro same
    have read := parse_text first
    rw [same, parse_text second] at read
    exact (Except.ok.inj read).symm
  · rintro rfl
    rfl

end Digest

namespace Block

theorem parentPruned_iff (block : Block) :
    block.parentPruned = true ↔ block.previousBlockhash.text = Digest.prunedText := by
  rw [parentPruned, decide_eq_true_iff, ← Digest.text_zeroHash, Digest.text_eq_iff]

/-- The texts of the hashes in a result. -/
structure HasHashes (raw : Json.Members) (hash parent : String) : Prop where
  blockhash : raw.get? "blockhash" = some (.text hash)
  previousBlockhash : raw.get? "previousBlockhash" = some (.text parent)

/-- The texts of the hashes in two results decide which blocks match, the hash or the parent of one
the hash of the other, and whether the parent is still kept. A summary says the same, and it
repeats the text of the hash. -/
theorem hashes_match (slot level otherSlot otherLevel : Json) (raw otherRaw : Json.Members)
    (block other : Block) (decoded : decode slot (.object raw) level = .ok block)
    (decodedOther : decode otherSlot (.object otherRaw) otherLevel = .ok other) :
    ∃ hash parent otherHash otherParent : String,
      HasHashes raw hash parent ∧ HasHashes otherRaw otherHash otherParent ∧
      (block.parentPruned = true ↔ parent = Digest.prunedText) ∧
      (∀ slot summary, Summary.ofBlock slot block = .ok summary → summary.blockhash = hash ∧
        (summary.parentPruned = true ↔ parent = Digest.prunedText)) ∧
      (block.blockhash.bytes = other.blockhash.bytes ↔ hash = otherHash) ∧
      (block.previousBlockhash.bytes = other.blockhash.bytes ↔ parent = otherHash) := by
  have given := (decode_object_eq_ok_iff slot level raw block).mp decoded
  have givenOther := (decode_object_eq_ok_iff otherSlot otherLevel otherRaw other).mp decodedOther
  refine ⟨_, _, _, _, ⟨given.blockhash, given.previousBlockhash⟩,
    ⟨givenOther.blockhash, givenOther.previousBlockhash⟩, block.parentPruned_iff, ?_, ?_, ?_⟩
  · intro slot summary made
    have describes := (Summary.ofBlock_eq_ok_iff slot (proper_of_decode decoded) summary).mp made
    refine ⟨describes.blockhash, ?_⟩
    rw [describes.parentPruned]
    exact block.parentPruned_iff
  · rw [Digest.bytes_eq_iff, Digest.text_eq_iff]
  · rw [Digest.bytes_eq_iff, Digest.text_eq_iff]

/-- A hash of zeros whose last bit is one is not that of a parent that is no longer kept, although
its text differs in one digit only. -/
theorem hashes_match_last_bit :
    let zeros := Json.text "11111111111111111111111111111111"
    let lastBit := Json.text "11111111111111111111111111111112"
    let child : Json.Members :=
      [("blockhash", zeros), ("previousBlockhash", lastBit), ("parentSlot", .int 4)]
    let parent : Json.Members :=
      [("blockhash", lastBit), ("previousBlockhash", zeros), ("parentSlot", .int 3)]
    ∃ block other,
      (decode (.int 5) (.object child) (.text "none") = .ok block ∧
        decode (.int 4) (.object parent) (.text "full") = .ok other) ∧
      block.parentPruned = false ∧ block.previousBlockhash.bytes = other.blockhash.bytes ∧
      block.blockhash.bytes ≠ other.blockhash.bytes := by
  intro zeros lastBit child parent
  let last : Digest .hash := ⟨List.replicate 31 0 ++ [1], rfl⟩
  have spelled : "11111111111111111111111111111112" = last.text := by decide +kernel
  have decoded : decode (.int 5) (.object child) (.text "none") =
      .ok { blockhash := Digest.zeroHash, previousBlockhash := last, parentSlot := .int 4 } := by
    rw [decode_object_eq_ok_iff]
    refine ⟨?_, ?_, ⟨.int 4, 4, rfl, rfl, rfl⟩, rfl, rfl, rfl, rfl⟩
    · rw [Digest.text_zeroHash]
      rfl
    · rw [← spelled]
      rfl
  have decodedOther : decode (.int 4) (.object parent) (.text "full") =
      .ok { blockhash := last, previousBlockhash := Digest.zeroHash, parentSlot := .int 3,
            details := .full (.array []) } := by
    rw [decode_object_eq_ok_iff]
    refine ⟨?_, ?_, ⟨.int 3, 3, rfl, rfl, rfl⟩, rfl, rfl, rfl, rfl⟩
    · rw [← spelled]
      rfl
    · rw [Digest.text_zeroHash]
      rfl
  obtain ⟨hash, previous, otherHash, otherPrevious, ⟨hashed, parented⟩, ⟨otherHashed, _⟩, pruned,
    _, sameHash, sameParent⟩ := hashes_match _ _ _ _ child parent _ _ decoded decodedOther
  obtain rfl : "11111111111111111111111111111111" = hash :=
    Text.proper.inj (Json.text.inj (Option.some.inj hashed))
  obtain rfl : "11111111111111111111111111111112" = previous :=
    Text.proper.inj (Json.text.inj (Option.some.inj parented))
  obtain rfl : "11111111111111111111111111111112" = otherHash :=
    Text.proper.inj (Json.text.inj (Option.some.inj otherHashed))
  refine ⟨_, _, ⟨decoded, decodedOther⟩, ?_, sameParent.mpr rfl, fun same => ?_⟩
  · exact Bool.eq_false_of_not_eq_true fun told => absurd (pruned.mp told) (by decide)
  · exact absurd (sameHash.mp same) (by decide)

end Block

end BlockReader
