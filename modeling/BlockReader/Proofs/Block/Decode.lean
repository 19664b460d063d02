import BlockReader.Block.Decode
import BlockReader.Proofs.Failure
import BlockReader.Proofs.Json.Access
set_option autoImplicit false

namespace BlockReader

open Result

namespace Details

/-- The levels that decide by themselves what a result is read as. -/
def knownLevels : List Text :=
  ["full", "signatures", "none"]

/-- The level that asks for such details. -/
def level : Details → Text
  | .full _ => "full"
  | .signatures _ => "signatures"
  | .none => "none"

theorem decodeSignatures_eq_ok_iff (value : Json) (details : Details) :
    decodeSignatures value = .ok details ↔
      ∃ signatures : List (Digest .signature),
        value.items = .ok (signatures.map fun signature => .text signature.text) ∧
          details = .signatures signatures := by
  rw [decodeSignatures, bind_eq_ok_iff]
  constructor
  · rintro ⟨spellings, listed, read⟩
    obtain ⟨signatures, spelled, same⟩ := (bind_eq_ok_iff _ _ _).mp read
    cases same
    rw [Json.mapM_toDigest_eq_ok_iff] at spelled
    exact ⟨signatures, by rw [listed, spelled], rfl⟩
  · rintro ⟨signatures, listed, rfl⟩
    refine ⟨_, listed, ?_⟩
    rw [bind_eq_ok_iff]
    exact ⟨signatures, (Json.mapM_toDigest_eq_ok_iff _ _).mpr rfl, rfl⟩

theorem decodeTransactions_eq_ok_iff (value : Json) (details : Details) :
    decodeTransactions value = .ok details ↔
      ∃ items, value.items = .ok items ∧ details = .full (.array items) := by
  rw [decodeTransactions, bind_eq_ok_iff]
  exact exists_congr fun items => and_congr_right fun _ => (pure_eq_ok_iff _ _).trans eq_comm

theorem decodeTransactions_array (items : List Json) :
    decodeTransactions (.array items) = .ok (.full (.array items)) := rfl

theorem decodeSignatures_array_eq_ok_iff (items : List Json) (details : Details) :
    decodeSignatures (.array items) = .ok details ↔
      ∃ signatures : List (Digest .signature), details = .signatures signatures ∧
        items = signatures.map fun signature => .text signature.text := by
  rw [decodeSignatures_eq_ok_iff]
  constructor
  · rintro ⟨signatures, listed, same⟩
    exact ⟨signatures, same, Except.ok.inj listed⟩
  · rintro ⟨signatures, same, rfl⟩
    exact ⟨signatures, rfl, same⟩

theorem decode_unknown (level : Json) (members : Json.Members)
    (unknown : ∀ name ∈ knownLevels, level ≠ .text name) :
    decode level members =
      if !(members.getOrNull "transactions").isNull then
        decodeTransactions (members.getOrNull "transactions")
      else if !(members.getOrNull "signatures").isNull then
        decodeSignatures (members.getOrNull "signatures")
      else .ok .none := by
  simp only [knownLevels, List.forall_mem_cons] at unknown
  unfold decode
  split
  · exact absurd rfl unknown.1
  · exact absurd rfl unknown.2.1
  · exact absurd rfl unknown.2.2.1
  · rfl

theorem decodeTransactions_failsOnly (value : Json) :
    FailsOnly (fun failure => failure.isMalformed) (decodeTransactions value) := by
  apply failsOnly_bind value.items_failsOnly
  intro items
  exact failsOnly_ok _

theorem decodeSignatures_failsOnly (value : Json) :
    FailsOnly (fun failure => failure.isMalformed) (decodeSignatures value) := by
  apply failsOnly_bind value.items_failsOnly
  intro spellings
  apply failsOnly_bind (failsOnly_mapM (Json.toDigest_failsOnly .signature) spellings)
  intro signatures
  exact failsOnly_ok _

theorem decode_failsOnly (level : Json) (members : Json.Members) :
    FailsOnly (fun failure => failure.isMalformed) (decode level members) := by
  unfold decode
  split
  · exact decodeTransactions_failsOnly _
  · exact decodeSignatures_failsOnly _
  · exact failsOnly_ok _
  · dsimp only
    split
    · exact decodeTransactions_failsOnly _
    · split
      · exact decodeSignatures_failsOnly _
      · exact failsOnly_ok _

end Details

namespace Block

/-- A block as the members of a result give it at a level. -/
structure IsReadFrom (members : Json.Members) (level : Json) (block : Block) : Prop where
  blockhash : members.get? "blockhash" = some (.text block.blockhash.text)
  previousBlockhash : members.get? "previousBlockhash" = some (.text block.previousBlockhash.text)
  parentSlot : ∃ value number, members.get? "parentSlot" = some value ∧
    value.toInt = .ok number ∧ block.parentSlot = .int number
  details : Details.decode level members = .ok block.details
  rewards : block.rewards = members.getOrNull "rewards"
  blockTime : block.blockTime = members.getOrNull "blockTime"
  blockHeight : block.blockHeight = members.getOrNull "blockHeight"

/-- Only an object is read as a block. -/
theorem exists_members_of_decode {slot raw level : Json} {block : Block}
    (decoded : decode slot raw level = .ok block) : ∃ members, raw = .object members := by
  cases raw with
  | object members => exact ⟨members, rfl⟩
  | _ => cases decoded

theorem member_object_eq_ok_iff (name : Text) (members : Json.Members) (value : Json) :
    Json.member name (.object members) = .ok value ↔ members.get? name = some value := by
  rw [Json.member]
  cases members.get? name <;> simp

theorem decode_object_eq_ok_iff (slot level : Json) (members : Json.Members) (block : Block) :
    decode slot (.object members) level = .ok block ↔ IsReadFrom members level block := by
  have present : ¬ (Json.object members).isNull = true := Bool.false_ne_true
  rw [decode, if_neg present]
  simp only [bind_eq_ok_iff, member_object_eq_ok_iff, Json.toDigest_eq_ok_iff, pure_eq_ok_iff]
  constructor
  · rintro ⟨_, hash, blockhash, rfl, _, previous, previousBlockhash, rfl, value, parent, number,
      whole, details, read, rfl⟩
    exact ⟨hash, previous, ⟨value, number, parent, whole, rfl⟩, read, rfl, rfl, rfl⟩
  · rintro ⟨hash, previous, ⟨value, number, parent, whole, same⟩, read, rewards, time, height⟩
    cases block
    subst same rewards time height
    exact ⟨_, hash, _, rfl, _, previous, _, rfl, value, parent, number, whole, _, read, rfl⟩

/-- The failure of an unconfirmed block stands for null alone: whatever else is wrong with a result
is reported as malformed. -/
theorem decode_failsOnly (slot raw level : Json) (present : raw.isNull = false) :
    FailsOnly (fun failure => failure.isMalformed) (decode slot raw level) := by
  rw [decode, if_neg (by rw [present]; exact Bool.false_ne_true)]
  apply failsOnly_bind (raw.member_failsOnly _)
  intro value
  apply failsOnly_bind (value.toDigest_failsOnly .hash)
  intro blockhash
  apply failsOnly_bind (raw.member_failsOnly _)
  intro value
  apply failsOnly_bind (value.toDigest_failsOnly .hash)
  intro previousBlockhash
  apply failsOnly_bind (raw.member_failsOnly _)
  intro value
  apply failsOnly_bind value.toInt_failsOnly
  intro parentSlot
  apply failsOnly_bind (Details.decode_failsOnly level raw.members)
  intro details
  exact failsOnly_ok _

theorem decode_null (slot level : Json) :
    decode slot .null level = .error (Failure.notConfirmed slot).raised := rfl

theorem decode_eq_notConfirmed_iff (slot raw level other : Json) :
    decode slot raw level = .error (.notConfirmed other) ↔
      raw = .null ∧ (Failure.notConfirmed slot).HasMessage ∧ other = slot := by
  constructor
  · intro failed
    cases raw with
    | null =>
      obtain ⟨same, written⟩ := Failure.eq_of_raised (Except.error.inj failed) nofun
      exact ⟨rfl, written, (Failure.notConfirmed.inj same).symm⟩
    | _ => cases decode_failsOnly slot _ level rfl _ failed
  · rintro ⟨rfl, written, rfl⟩
    rw [decode_null, Failure.raised_of_hasMessage written]

end Block

end BlockReader
