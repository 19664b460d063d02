import BlockReader.Proofs.Block.Fault
set_option autoImplicit false

namespace BlockReader

namespace Details

/-- Two results agree on the details at a level. Null is as good as a member that is not there. -/
structure AgreeAt (level : Json) (first second : Json.Members) : Prop where
  full : level = .text "full" →
    first.getOrNull "transactions" = second.getOrNull "transactions"
  signatures : level = .text "signatures" →
    first.getOrNull "signatures" = second.getOrNull "signatures"
  otherTransactions : (∀ name ∈ knownLevels, level ≠ .text name) →
    first.getOrNull "transactions" = second.getOrNull "transactions"
  /-- Where there are transactions the signatures are not looked at. -/
  otherSignatures : (∀ name ∈ knownLevels, level ≠ .text name) →
    first.getOrNull "transactions" = .null →
    first.getOrNull "signatures" = second.getOrNull "signatures"

theorem decode_congr {level : Json} {first second : Json.Members}
    (agree : AgreeAt level first second) : decode level first = decode level second := by
  rcases level_cases level with rfl | rfl | rfl | unknown
  · rw [decode_full, decode_full, agree.full rfl]
  · rw [decode_signatures, decode_signatures, agree.signatures rfl]
  · rfl
  · have transactions := agree.otherTransactions unknown
    by_cases absent : first.getOrNull "transactions" = .null
    · rw [decode_unknown level first unknown, decode_unknown level second unknown, transactions,
        agree.otherSignatures unknown absent]
    · rw [decode_of_transactions unknown absent,
        decode_of_transactions unknown (transactions ▸ absent), transactions]

end Details

namespace Block

/-- Two results agree on what is looked at for a block at a level. The hashes and the parent slot
have to be there; for all else null is as good as a member that is not there. -/
structure AgreeAt (level : Json) (first second : Json.Members) : Prop where
  blockhash : first.get? "blockhash" = second.get? "blockhash"
  previousBlockhash : first.get? "previousBlockhash" = second.get? "previousBlockhash"
  parentSlot : first.get? "parentSlot" = second.get? "parentSlot"
  details : Details.AgreeAt level first second
  rewards : first.getOrNull "rewards" = second.getOrNull "rewards"
  blockTime : first.getOrNull "blockTime" = second.getOrNull "blockTime"
  blockHeight : first.getOrNull "blockHeight" = second.getOrNull "blockHeight"

theorem member_congr {name : Text} {first second : Json.Members}
    (same : first.get? name = second.get? name) :
    Json.member name (.object first) = Json.member name (.object second) := by
  rw [Json.member, Json.member, same]

/-- Results that agree on what is looked at are read alike, as one block or with one failure,
whatever else they hold. -/
theorem decode_shielded (slot level : Json) (first second : Json.Members)
    (agree : AgreeAt level first second) :
    decode slot (.object first) level = decode slot (.object second) level := by
  rw [decode_object, decode_object, member_congr agree.blockhash,
    member_congr agree.previousBlockhash, member_congr agree.parentSlot,
    Details.decode_congr agree.details, agree.rewards, agree.blockTime, agree.blockHeight]

/-- At a level that is not known, transactions shield a block from signatures that are none, from
members that are not known and from their order; null rewards are no rewards. -/
theorem decode_shielded_unknown_level :
    let hash := Json.text Digest.zeroHash.text
    let first : Json.Members :=
      [("blockhash", hash), ("previousBlockhash", hash), ("parentSlot", .int 4),
        ("transactions", .array [.int 1])]
    let second : Json.Members :=
      [("transactionDetails", .text "signatures"), ("signatures", .array [.int 7]),
        ("rewards", .null), ("transactions", .array [.int 1]), ("parentSlot", .int 4),
        ("previousBlockhash", hash), ("blockhash", hash)]
    let level := Json.text "accounts"
    AgreeAt level first second ∧
      decode (.int 5) (.object first) level = decode (.int 5) (.object second) level := by
  intro hash first second level
  have details : Details.AgreeAt level first second :=
    ⟨fun same => absurd (Json.text.inj same) (by decide),
      fun same => absurd (Json.text.inj same) (by decide), fun _ => rfl, fun _ => nofun⟩
  have agree : AgreeAt level first second := ⟨rfl, rfl, rfl, details, rfl, rfl, rfl⟩
  exact ⟨agree, decode_shielded (.int 5) level first second agree⟩

end Block

end BlockReader
