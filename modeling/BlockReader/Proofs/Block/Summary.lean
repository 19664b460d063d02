import BlockReader.Block.Summary
import BlockReader.Proofs.Block.Rendering
set_option autoImplicit false

namespace BlockReader

open Result

namespace Json

/-- The length of a value. What counts as false is as good as empty. -/
inductive HasLength : Json → Nat → Prop
  | array (items : List Json) : HasLength (.array items) items.length
  | text (value : Text) : HasLength (.text value) value.length
  | object (members : Members) : HasLength (.object members) members.length
  | falsy (value : Json) (untrue : value.truthy = false) : HasLength value 0

/-- Numbers other than zero have no length, and neither has the value true. -/
def IsLengthless (value : Json) : Prop :=
  value.isNumber = true ∧ value.truthy = true

theorem count_orEmpty_of_falsy {value : Json} (untrue : value.truthy = false) :
    value.orEmpty.count = .ok 0 := by
  rw [orEmpty, untrue]
  rfl

theorem count_orEmpty_of_truthy {value : Json} (counts : value.truthy = true) :
    value.orEmpty.count = value.count := by
  rw [orEmpty, if_pos counts]

theorem eq_nil_or_of_items_orEmpty {value : Json} {items : List Json}
    (inside : value.orEmpty.items = .ok items) : items = [] ∨ value.items = .ok items := by
  rw [orEmpty] at inside
  split at inside
  · exact .inr inside
  · cases inside
    exact .inl rfl

theorem HasLength.count_orEmpty {value : Json} {length : Nat} (has : value.HasLength length) :
    value.orEmpty.count = .ok length := by
  cases has with
  | array items =>
    rw [orEmpty_array]
    rfl
  | text value =>
    cases counts : (Json.text value).truthy with
    | true =>
      rw [count_orEmpty_of_truthy counts]
      rfl
    | false =>
      have empty : value = "" := by simpa [truthy] using counts
      rw [empty]
      rfl
  | object members => cases members <;> rfl
  | falsy _ untrue => exact count_orEmpty_of_falsy untrue

theorem IsLengthless.count_orEmpty {value : Json} (lengthless : value.IsLengthless) :
    value.orEmpty.count = .error (.shape (.noLength value.kind)) := by
  rw [count_orEmpty_of_truthy lengthless.2]
  cases value with
  | bool _ | int _ | float _ => rfl
  | _ => cases lengthless.1

theorem hasLength_or_lengthless (value : Json) :
    (∃ length, value.HasLength length) ∨ value.IsLengthless := by
  cases counts : value.truthy with
  | false => exact Or.inl ⟨0, .falsy value counts⟩
  | true =>
    cases value with
    | null => cases counts
    | array items => exact Or.inl ⟨_, .array items⟩
    | text value => exact Or.inl ⟨_, .text value⟩
    | object members => exact Or.inl ⟨_, .object members⟩
    | bool _ | int _ | float _ => exact Or.inr ⟨rfl, counts⟩

theorem count_orEmpty_eq_ok_iff (value : Json) (length : Nat) :
    value.orEmpty.count = .ok length ↔ value.HasLength length := by
  constructor
  · intro counted
    rcases value.hasLength_or_lengthless with ⟨other, has⟩ | lengthless
    · rw [has.count_orEmpty, Except.ok.injEq] at counted
      rw [← counted]
      exact has
    · rw [lengthless.count_orEmpty] at counted
      cases counted
  · exact HasLength.count_orEmpty

theorem count_orEmpty_eq_error_iff (value : Json) (failure : Failure) :
    value.orEmpty.count = .error failure ↔
      value.IsLengthless ∧ failure = .shape (.noLength value.kind) := by
  constructor
  · intro failed
    rcases value.hasLength_or_lengthless with ⟨length, has⟩ | lengthless
    · rw [has.count_orEmpty] at failed
      cases failed
    · rw [lengthless.count_orEmpty, Except.error.injEq] at failed
      exact ⟨lengthless, failed.symm⟩
  · rintro ⟨lengthless, rfl⟩
    exact lengthless.count_orEmpty

end Json

namespace Details

/-- The length of the one list that details carry, if they carry one. -/
inductive HasLength : Details → Nat → Prop
  | full (items : List Json) : HasLength (.full (.array items)) items.length
  | signatures (signatures : List (Digest .signature)) :
    HasLength (.signatures signatures) signatures.length
  | none : HasLength .none 0

theorem HasLength.countDetails {details : Details} {length : Nat}
    (has : details.HasLength length) : Summary.countDetails details = .ok length := by
  cases has with
  | full items => rw [Summary.countDetails, Json.orEmpty_array, Json.count]
  | signatures signatures => rfl
  | none => rfl

/-- Details that were read carry their transactions in a list, which is empty or holds the items of
what the result has for them. -/
theorem listed_of_decode {level : Json} {members : Json.Members} {transactions : Json}
    (read : decode level members = .ok (.full transactions)) :
    ∃ items, transactions = .array items ∧
      (items = [] ∨ (members.getOrNull "transactions").items = .ok items) := by
  have listed (value : Json) (read : decodeTransactions value = .ok (.full transactions)) :
      ∃ items, transactions = .array items ∧ value.items = .ok items := by
    obtain ⟨items, inside, same⟩ := (decodeTransactions_eq_ok_iff value _).mp read
    exact ⟨items, Details.full.inj same, inside⟩
  have never (value : Json) (read : decodeSignatures value = .ok (.full transactions)) :
      False := by
    obtain ⟨_, _, same⟩ := (decodeSignatures_eq_ok_iff value _).mp read
    cases same
  unfold decode at read
  dsimp only at read
  split at read
  · obtain ⟨items, same, inside⟩ := listed _ read
    exact ⟨items, same, Json.eq_nil_or_of_items_orEmpty inside⟩
  · exact (never _ read).elim
  · cases read
  · split at read
    · obtain ⟨items, same, inside⟩ := listed _ read
      exact ⟨items, same, .inr inside⟩
    · split at read
      · exact (never _ read).elim
      · cases read

end Details

namespace Block

theorem proper_of_decode {slot raw level : Json} {block : Block}
    (decoded : decode slot raw level = .ok block) : block.Proper := by
  obtain ⟨members, rfl⟩ := exists_members_of_decode decoded
  have given := (decode_object_eq_ok_iff slot level members block).mp decoded
  obtain ⟨_, number, _, _, whole⟩ := given.parentSlot
  refine ⟨⟨number, whole⟩, ?_⟩
  intro transactions full
  have read := given.details
  rw [full] at read
  obtain ⟨items, listed, _⟩ := Details.listed_of_decode read
  exact ⟨items, listed⟩

theorem Proper.exists_hasLength {block : Block} (proper : block.Proper) :
    ∃ length, block.details.HasLength length := by
  cases carried : block.details with
  | full transactions =>
    obtain ⟨items, rfl⟩ := proper.transactions transactions carried
    exact ⟨_, .full items⟩
  | signatures signatures => exact ⟨_, .signatures signatures⟩
  | none => exact ⟨0, .none⟩

end Block

namespace Summary

/-- What a summary says of the block at a slot. -/
structure Describes (slot : Json) (block : Block) (summary : Summary) : Prop where
  slot : summary.slot = slot
  blockhash : summary.blockhash = block.blockhash.text
  parentSlot : summary.parentSlot = block.parentSlot
  parentPruned : summary.parentPruned = block.parentPruned
  blockTime : summary.blockTime = block.blockTime
  blockHeight : summary.blockHeight = block.blockHeight
  transactionCount : block.details.HasLength summary.transactionCount
  rewardCount : block.rewards.HasLength summary.rewardCount

variable (slot : Json) {block : Block} (proper : block.Proper)

include proper

theorem countDetails_eq_ok_iff (length : Nat) :
    countDetails block.details = .ok length ↔ block.details.HasLength length := by
  constructor
  · intro counted
    obtain ⟨other, has⟩ := proper.exists_hasLength
    rw [has.countDetails, Except.ok.injEq] at counted
    rw [← counted]
    exact has
  · exact Details.HasLength.countDetails

theorem ofBlock_eq_ok_iff (summary : Summary) :
    ofBlock slot block = .ok summary ↔ Describes slot block summary := by
  simp only [ofBlock, bind_eq_ok_iff, countDetails_eq_ok_iff proper,
    Json.count_orEmpty_eq_ok_iff, pure_eq_ok_iff]
  constructor
  · rintro ⟨_, transactions, _, rewards, rfl⟩
    exact ⟨rfl, rfl, rfl, rfl, rfl, rfl, transactions, rewards⟩
  · rintro ⟨rfl, blockhash, parentSlot, parentPruned, time, height, transactions, rewards⟩
    refine ⟨_, transactions, _, rewards, ?_⟩
    rw [← blockhash, ← parentSlot, ← parentPruned, ← time, ← height]

theorem ofBlock_eq_error_iff (failure : Failure) : ofBlock slot block = .error failure ↔
    block.rewards.IsLengthless ∧ failure = .shape (.noLength block.rewards.kind) := by
  obtain ⟨length, has⟩ := proper.exists_hasLength
  rw [← Json.count_orEmpty_eq_error_iff, ofBlock, bind_eq_error_iff, has.countDetails]
  constructor
  · rintro (impossible | ⟨_, _, failed⟩)
    · cases impossible
    · rcases (bind_eq_error_iff _ _ _).mp failed with first | ⟨_, _, impossible⟩
      · exact first
      · cases impossible
  · intro failed
    refine Or.inr ⟨length, rfl, ?_⟩
    rw [failed]
    rfl

end Summary

end BlockReader
