import BlockReader.Proofs.Block.Decode
import BlockReader.Proofs.Json.Fault
set_option autoImplicit false

namespace BlockReader

open Result

namespace Details

/-- The details that the members of a result give are acceptable at a level. A member that is not
there counts as null. -/
inductive Acceptable (members : Json.Members) : (level : Json) → Prop
  | full (listed : (members.getOrNull "transactions").truthy = false ∨
      (members.getOrNull "transactions").Iterable) : Acceptable members (.text "full")
  | signatures (listed : (members.getOrNull "signatures").truthy = false ∨
      (members.getOrNull "signatures").ListsSignatures) : Acceptable members (.text "signatures")
  | none : Acceptable members (.text "none")
  | otherTransactions (level : Json) (unknown : ∀ name ∈ knownLevels, level ≠ .text name)
    (given : members.getOrNull "transactions" ≠ .null)
    (listed : (members.getOrNull "transactions").Iterable) : Acceptable members level
  | otherSignatures (level : Json) (unknown : ∀ name ∈ knownLevels, level ≠ .text name)
    (noTransactions : members.getOrNull "transactions" = .null)
    (given : members.getOrNull "signatures" ≠ .null)
    (listed : (members.getOrNull "signatures").ListsSignatures) : Acceptable members level
  | otherNone (level : Json) (unknown : ∀ name ∈ knownLevels, level ≠ .text name)
    (noTransactions : members.getOrNull "transactions" = .null)
    (noSignatures : members.getOrNull "signatures" = .null) : Acceptable members level

/-- How the details that the members of a result give fail at a level. Only a level that is not
known minds a value that counts as false and cannot be gone through. -/
inductive Faulty (members : Json.Members) : (level : Json) → Failure → Prop
  | full (given : (members.getOrNull "transactions").truthy = true)
    (unlisted : ¬ (members.getOrNull "transactions").Iterable) :
    Faulty members (.text "full")
      (.shape (.notIterable (members.getOrNull "transactions").kind))
  | signatures (given : (members.getOrNull "signatures").truthy = true) (failure : Failure)
    (broken : (members.getOrNull "signatures").NotSignatures failure) :
    Faulty members (.text "signatures") failure
  | otherTransactions (level : Json) (unknown : ∀ name ∈ knownLevels, level ≠ .text name)
    (given : members.getOrNull "transactions" ≠ .null)
    (unlisted : ¬ (members.getOrNull "transactions").Iterable) :
    Faulty members level (.shape (.notIterable (members.getOrNull "transactions").kind))
  | otherSignatures (level : Json) (unknown : ∀ name ∈ knownLevels, level ≠ .text name)
    (noTransactions : members.getOrNull "transactions" = .null)
    (given : members.getOrNull "signatures" ≠ .null) (failure : Failure)
    (broken : (members.getOrNull "signatures").NotSignatures failure) :
    Faulty members level failure

theorem decodeTransactions_isOk_iff (value : Json) :
    (∃ details, decodeTransactions value = .ok details) ↔ value.Iterable := by
  simp only [decodeTransactions_eq_ok_iff, Json.items_eq_ok_iff]
  constructor
  · rintro ⟨_, items, listed, rfl⟩
    exact ⟨items, listed⟩
  · rintro ⟨items, listed⟩
    exact ⟨_, items, listed, rfl⟩

theorem decodeTransactions_eq_error_iff (value : Json) (failure : Failure) :
    decodeTransactions value = .error failure ↔
      ¬ value.Iterable ∧ failure = .shape (.notIterable value.kind) := by
  rw [decodeTransactions, bind_eq_error_iff, Json.items_eq_error_iff]
  constructor
  · rintro (failed | ⟨items, -, impossible⟩)
    · exact failed
    · cases impossible
  · exact .inl

theorem decodeSignatures_isOk_iff (value : Json) :
    (∃ details, decodeSignatures value = .ok details) ↔ value.ListsSignatures := by
  simp only [decodeSignatures_eq_ok_iff, Json.items_eq_ok_iff]
  constructor
  · rintro ⟨_, signatures, listed, rfl⟩
    exact ⟨signatures, listed⟩
  · rintro ⟨signatures, listed⟩
    exact ⟨_, signatures, listed, rfl⟩

theorem decodeSignatures_eq_error_iff (value : Json) (failure : Failure) :
    decodeSignatures value = .error failure ↔ value.NotSignatures failure := by
  rw [decodeSignatures, bind_eq_error_iff]
  constructor
  · rintro (failed | ⟨items, listed, failed⟩)
    · obtain ⟨unlisted, rfl⟩ := (Json.items_eq_error_iff value failure).mp failed
      exact .notIterable unlisted
    rcases (bind_eq_error_iff _ _ _).mp failed with failed | ⟨_, _, impossible⟩
    · obtain ⟨_, signatures, item, behind, rfl, before, broken⟩ :=
        (mapM_eq_error_iff _ items failure).mp failed
      rw [Json.mapM_toDigest_eq_ok_iff] at before
      subst before
      exact .item signatures item behind ((Json.items_eq_ok_iff _ _).mp listed) failure
        ((Json.toDigest_eq_error_iff _ _ _).mp broken)
    · cases impossible
  · intro broken
    cases broken with
    | notIterable unlisted =>
      exact .inl ((Json.items_eq_error_iff value _).mpr ⟨unlisted, rfl⟩)
    | item signatures item behind listed _ broken =>
      refine .inr ⟨_, (Json.items_eq_ok_iff value _).mpr listed, ?_⟩
      refine (bind_eq_error_iff _ _ _).mpr (.inl ((mapM_eq_error_iff _ _ failure).mpr ?_))
      exact ⟨_, signatures, item, behind, rfl, (Json.mapM_toDigest_eq_ok_iff _ _).mpr rfl,
        (Json.toDigest_eq_error_iff _ _ _).mpr broken⟩

section OrEmpty

variable {read : Json → Except Failure Details} (value : Json)

/-- What is read of nothing is also read of a value that counts as false. -/
theorem orEmpty_isOk_iff {empty : Details} (nothing : read (.array []) = .ok empty) :
    (∃ details, read value.orEmpty = .ok details) ↔
      value.truthy = false ∨ ∃ details, read value = .ok details := by
  rw [Json.orEmpty]
  cases value.truthy with
  | true => exact ⟨.inr, fun either => either.resolve_left nofun⟩
  | false => exact ⟨fun _ => .inl rfl, fun _ => ⟨empty, nothing⟩⟩

theorem orEmpty_eq_error_iff {empty : Details} (nothing : read (.array []) = .ok empty)
    (failure : Failure) : read value.orEmpty = .error failure ↔
      value.truthy = true ∧ read value = .error failure := by
  rw [Json.orEmpty]
  cases value.truthy with
  | true => exact ⟨fun failed => ⟨rfl, failed⟩, fun both => both.2⟩
  | false =>
    rw [if_neg Bool.false_ne_true, nothing]
    exact ⟨nofun, nofun⟩

end OrEmpty

theorem level_cases (level : Json) :
    level = .text "full" ∨ level = .text "signatures" ∨ level = .text "none" ∨
      ∀ name ∈ knownLevels, level ≠ .text name := by
  by_cases known : ∃ name ∈ knownLevels, level = .text name
  · obtain ⟨name, listed, rfl⟩ := known
    simp only [knownLevels, List.mem_cons, List.not_mem_nil, or_false] at listed
    rcases listed with rfl | rfl | rfl
    · exact .inl rfl
    · exact .inr (.inl rfl)
    · exact .inr (.inr (.inl rfl))
  · exact .inr (.inr (.inr fun name listed same => known ⟨name, listed, same⟩))

section Unknown

variable {level : Json} {members : Json.Members}
  (unknown : ∀ name ∈ knownLevels, level ≠ .text name)

include unknown

theorem decode_of_transactions (given : members.getOrNull "transactions" ≠ .null) :
    decode level members = decodeTransactions (members.getOrNull "transactions") := by
  rw [decode_unknown level members unknown]
  cases found : members.getOrNull "transactions" with
  | null => exact absurd found given
  | _ => rfl

theorem decode_of_signatures (noTransactions : members.getOrNull "transactions" = .null)
    (given : members.getOrNull "signatures" ≠ .null) :
    decode level members = decodeSignatures (members.getOrNull "signatures") := by
  rw [decode_unknown level members unknown, noTransactions]
  cases found : members.getOrNull "signatures" with
  | null => exact absurd found given
  | _ => rfl

theorem decode_of_nothing (noTransactions : members.getOrNull "transactions" = .null)
    (noSignatures : members.getOrNull "signatures" = .null) :
    decode level members = .ok .none := by
  rw [decode_unknown level members unknown, noTransactions, noSignatures]
  rfl

end Unknown

theorem decode_full (members : Json.Members) : decode (.text "full") members =
    decodeTransactions (members.getOrNull "transactions").orEmpty := rfl

theorem decode_signatures (members : Json.Members) : decode (.text "signatures") members =
    decodeSignatures (members.getOrNull "signatures").orEmpty := rfl

/-- What is acceptable at a level is read. -/
theorem isOk_of_acceptable {level : Json} {members : Json.Members}
    (acceptable : Acceptable members level) : ∃ details, decode level members = .ok details := by
  cases acceptable with
  | full listed =>
    rw [decode_full, orEmpty_isOk_iff _ rfl, decodeTransactions_isOk_iff]
    exact listed
  | signatures listed =>
    rw [decode_signatures, orEmpty_isOk_iff _ rfl, decodeSignatures_isOk_iff]
    exact listed
  | none => exact ⟨.none, rfl⟩
  | otherTransactions _ unknown given listed =>
    rw [decode_of_transactions unknown given, decodeTransactions_isOk_iff]
    exact listed
  | otherSignatures _ unknown noTransactions given listed =>
    rw [decode_of_signatures unknown noTransactions given, decodeSignatures_isOk_iff]
    exact listed
  | otherNone _ unknown noTransactions noSignatures =>
    exact ⟨.none, decode_of_nothing unknown noTransactions noSignatures⟩

theorem eq_error_of_faulty {level : Json} {members : Json.Members} {failure : Failure}
    (faulty : Faulty members level failure) : decode level members = .error failure := by
  cases faulty with
  | full given unlisted =>
    rw [decode_full, orEmpty_eq_error_iff _ rfl, decodeTransactions_eq_error_iff]
    exact ⟨given, unlisted, rfl⟩
  | signatures given failure broken =>
    rw [decode_signatures, orEmpty_eq_error_iff _ rfl, decodeSignatures_eq_error_iff]
    exact ⟨given, broken⟩
  | otherTransactions _ unknown given unlisted =>
    rw [decode_of_transactions unknown given, decodeTransactions_eq_error_iff]
    exact ⟨unlisted, rfl⟩
  | otherSignatures _ unknown noTransactions given failure broken =>
    rw [decode_of_signatures unknown noTransactions given, decodeSignatures_eq_error_iff]
    exact broken

theorem listsSignatures_or_notSignatures (value : Json) :
    value.ListsSignatures ∨ ∃ failure, value.NotSignatures failure := by
  cases read : decodeSignatures value with
  | ok details => exact .inl ((decodeSignatures_isOk_iff value).mp ⟨details, read⟩)
  | error failure => exact .inr ⟨failure, (decodeSignatures_eq_error_iff value failure).mp read⟩

/-- No details are left over. -/
theorem acceptable_or_faulty (level : Json) (members : Json.Members) :
    Acceptable members level ∨ ∃ failure, Faulty members level failure := by
  rcases level_cases level with rfl | rfl | rfl | unknown
  · by_cases listed : (members.getOrNull "transactions").Iterable
    · exact .inl (.full (.inr listed))
    · cases given : (members.getOrNull "transactions").truthy with
      | false => exact .inl (.full (.inl given))
      | true => exact .inr ⟨_, .full given listed⟩
  · cases given : (members.getOrNull "signatures").truthy with
    | false => exact .inl (.signatures (.inl given))
    | true =>
      rcases listsSignatures_or_notSignatures (members.getOrNull "signatures") with
        listed | ⟨failure, broken⟩
      · exact .inl (.signatures (.inr listed))
      · exact .inr ⟨failure, .signatures given failure broken⟩
  · exact .inl .none
  · by_cases noTransactions : members.getOrNull "transactions" = .null
    · by_cases noSignatures : members.getOrNull "signatures" = .null
      · exact .inl (.otherNone level unknown noTransactions noSignatures)
      rcases listsSignatures_or_notSignatures (members.getOrNull "signatures") with
        listed | ⟨failure, broken⟩
      · exact .inl (.otherSignatures level unknown noTransactions noSignatures listed)
      · exact .inr ⟨failure,
          .otherSignatures level unknown noTransactions noSignatures failure broken⟩
    · by_cases listed : (members.getOrNull "transactions").Iterable
      · exact .inl (.otherTransactions level unknown noTransactions listed)
      · exact .inr ⟨_, .otherTransactions level unknown noTransactions listed⟩

theorem decode_isOk_iff (level : Json) (members : Json.Members) :
    (∃ details, decode level members = .ok details) ↔ Acceptable members level := by
  constructor
  · rintro ⟨details, read⟩
    refine (acceptable_or_faulty level members).resolve_right ?_
    rintro ⟨failure, faulty⟩
    rw [eq_error_of_faulty faulty] at read
    cases read
  · exact isOk_of_acceptable

theorem decode_eq_error_iff (level : Json) (members : Json.Members) (failure : Failure) :
    decode level members = .error failure ↔ Faulty members level failure := by
  constructor
  · intro failed
    rcases acceptable_or_faulty level members with acceptable | ⟨other, faulty⟩
    · obtain ⟨details, read⟩ := isOk_of_acceptable acceptable
      rw [failed] at read
      cases read
    · rw [eq_error_of_faulty faulty] at failed
      cases failed
      exact faulty
  · exact eq_error_of_faulty

end Details

namespace Block

/-- The members of a result are acceptable as a block at a level. -/
structure Acceptable (level : Json) (members : Json.Members) : Prop where
  blockhash : members.HasDigest .hash "blockhash"
  previousBlockhash : members.HasDigest .hash "previousBlockhash"
  parentSlot : members.HasWhole "parentSlot"
  details : Details.Acceptable members level

/-- How a result fails at a level: it has no members to look at, or the first thing that is looked
at and not acceptable fails. What stands behind that does not matter. -/
inductive Faulty (level : Json) : (raw : Json) → Failure → Prop
  | list (items : List Json) : Faulty level (.array items) (.shape .listIndex)
  | text (value : Text) : Faulty level (.text value) (.shape .textIndex)
  | number (value : Json) (plain : value.isNumber = true) :
    Faulty level value (.shape (.notSubscriptable value.kind))
  | blockhash (members : Json.Members) (failure : Failure)
    (broken : members.Lacks (Json.NotDigest .hash) "blockhash" failure) :
    Faulty level (.object members) failure
  | previousBlockhash (members : Json.Members) (failure : Failure)
    (blockhash : members.HasDigest .hash "blockhash")
    (broken : members.Lacks (Json.NotDigest .hash) "previousBlockhash" failure) :
    Faulty level (.object members) failure
  | parentSlot (members : Json.Members) (failure : Failure)
    (blockhash : members.HasDigest .hash "blockhash")
    (previousBlockhash : members.HasDigest .hash "previousBlockhash")
    (broken : members.Lacks Json.NotWhole "parentSlot" failure) :
    Faulty level (.object members) failure
  | details (members : Json.Members) (failure : Failure)
    (blockhash : members.HasDigest .hash "blockhash")
    (previousBlockhash : members.HasDigest .hash "previousBlockhash")
    (parentSlot : members.HasWhole "parentSlot")
    (broken : Details.Faulty members level failure) : Faulty level (.object members) failure

section Members

variable (level : Json) (members : Json.Members)

/-- What a block is made of, read in order. -/
theorem decode_object (slot : Json) : decode slot (.object members) level = (do
    let blockhash ← Json.member "blockhash" (.object members) >>= Json.toDigest .hash
    let previous ← Json.member "previousBlockhash" (.object members) >>= Json.toDigest .hash
    let parentSlot ← Json.member "parentSlot" (.object members) >>= Json.toInt
    let details ← Details.decode level members
    pure ⟨blockhash, previous, .int parentSlot, details, members.getOrNull "rewards",
      members.getOrNull "blockTime", members.getOrNull "blockHeight"⟩) := by
  have present : ¬ (Json.object members).isNull = true := Bool.false_ne_true
  rw [decode, if_neg present]
  simp only [bind_assoc]
  rfl

theorem decode_object_isOk_iff (slot : Json) :
    (∃ block, decode slot (.object members) level = .ok block) ↔ Acceptable level members := by
  simp only [decode_object_eq_ok_iff]
  constructor
  · rintro ⟨block, read⟩
    obtain ⟨value, number, found, whole, -⟩ := read.parentSlot
    exact ⟨⟨_, read.blockhash⟩, ⟨_, read.previousBlockhash⟩,
      ⟨value, found, (Json.toInt_isOk_iff value).mp ⟨number, whole⟩⟩,
      (Details.decode_isOk_iff level members).mp ⟨_, read.details⟩⟩
  · rintro ⟨⟨blockhash, first⟩, ⟨previous, second⟩, ⟨value, found, whole⟩, acceptable⟩
    obtain ⟨number, converted⟩ := (Json.toInt_isOk_iff value).mpr whole
    obtain ⟨details, read⟩ := (Details.decode_isOk_iff level members).mpr acceptable
    exact ⟨⟨blockhash, previous, .int number, details, _, _, _⟩, first, second,
      ⟨value, number, found, converted, rfl⟩, read, rfl, rfl, rfl⟩

theorem decode_object_eq_error_iff (slot : Json) (failure : Failure) :
    decode slot (.object members) level = .error failure ↔
      Faulty level (.object members) failure := by
  have noDigest (name : Text) := Json.member_bind_eq_error_iff (Json.toDigest .hash) name members
    (Json.toDigest_eq_error_iff .hash) failure
  have notWhole := Json.member_bind_eq_error_iff Json.toInt "parentSlot" members
    Json.toInt_eq_error_iff failure
  rw [decode_object]
  constructor
  · intro failed
    -- What a step has read is what the faults behind it ask for.
    rcases (bind_eq_error_iff _ _ _).mp failed with failed | ⟨_, blockhash, failed⟩
    · exact .blockhash members failure ((noDigest _).mp failed)
    have first := (Json.Members.hasDigest_iff .hash "blockhash" members).mpr ⟨_, blockhash⟩
    rcases (bind_eq_error_iff _ _ _).mp failed with failed | ⟨_, previous, failed⟩
    · exact .previousBlockhash members failure first ((noDigest _).mp failed)
    have second := (Json.Members.hasDigest_iff .hash "previousBlockhash" members).mpr ⟨_, previous⟩
    rcases (bind_eq_error_iff _ _ _).mp failed with failed | ⟨_, number, failed⟩
    · exact .parentSlot members failure first second (notWhole.mp failed)
    have third := (Json.Members.hasWhole_iff "parentSlot" members).mpr ⟨_, number⟩
    rcases (bind_eq_error_iff _ _ _).mp failed with failed | ⟨_, _, impossible⟩
    · exact .details members failure first second third
        ((Details.decode_eq_error_iff level members failure).mp failed)
    · cases impossible
  · intro faulty
    have hash {name : Text} (has : members.HasDigest .hash name) :=
      (Json.Members.hasDigest_iff .hash name members).mp has
    cases faulty with
    | number _ plain => cases plain
    | blockhash _ _ broken => exact bind_fails_first ((noDigest _).mpr broken) _
    | previousBlockhash _ _ first broken =>
      obtain ⟨_, first⟩ := hash first
      refine bind_fails_later first ?_
      exact bind_fails_first ((noDigest _).mpr broken) _
    | parentSlot _ _ first second broken =>
      obtain ⟨_, first⟩ := hash first
      obtain ⟨_, second⟩ := hash second
      refine bind_fails_later first (bind_fails_later second ?_)
      exact bind_fails_first (notWhole.mpr broken) _
    | details _ _ first second third broken =>
      obtain ⟨_, first⟩ := hash first
      obtain ⟨_, second⟩ := hash second
      obtain ⟨_, third⟩ := (Json.Members.hasWhole_iff "parentSlot" members).mp third
      refine bind_fails_later first (bind_fails_later second (bind_fails_later third ?_))
      exact bind_fails_first ((Details.decode_eq_error_iff level members failure).mpr broken) _

end Members

/-- A result other than null is read as a block exactly when it is an object whose hashes, parent
slot and details are acceptable; otherwise the failure is that of the first of them that is
not, and there is no other. -/
theorem decode_outcome_iff (slot raw level : Json) (present : raw ≠ .null) :
    ((∃ block, decode slot raw level = .ok block) ↔
        ∃ members, raw = .object members ∧ Acceptable level members) ∧
      ∀ failure, decode slot raw level = .error failure ↔ Faulty level raw failure := by
  cases raw with
  | null => exact absurd rfl present
  | object members =>
    refine ⟨(decode_object_isOk_iff level members slot).trans ?_,
      decode_object_eq_error_iff level members slot⟩
    constructor
    · exact fun acceptable => ⟨members, rfl, acceptable⟩
    · rintro ⟨_, same, acceptable⟩
      cases same
      exact acceptable
  | array items =>
    refine ⟨⟨nofun, nofun⟩, fun failure => ⟨fun failed => ?_, fun faulty => ?_⟩⟩
    · cases failed
      exact .list items
    · cases faulty with
      | list _ => rfl
      | number _ plain => cases plain
  | text value =>
    refine ⟨⟨nofun, nofun⟩, fun failure => ⟨fun failed => ?_, fun faulty => ?_⟩⟩
    · cases failed
      exact .text value
    · cases faulty with
      | text _ => rfl
      | number _ plain => cases plain
  | _ =>
    refine ⟨⟨nofun, nofun⟩, fun failure => ⟨fun failed => ?_, fun faulty => ?_⟩⟩
    · cases failed
      exact .number _ rfl
    · cases faulty
      rfl

/-- Transactions that count as false and cannot be gone through are none where they were asked for
in full, and are refused at a level that is not known. -/
theorem decode_outcome_false_transactions :
    let zeros := Json.text Digest.zeroHash.text
    let raw := Json.object [("blockhash", zeros), ("previousBlockhash", zeros),
      ("parentSlot", .bool true), ("transactions", .bool false)]
    raw ≠ .null ∧ (∃ block, decode (.int 5) raw (.text "full") = .ok block) ∧
      decode (.int 5) raw (.text "accounts") = .error (.shape (.notIterable "bool")) := by
  intro zeros raw
  have present : raw ≠ .null := nofun
  refine ⟨present, ?_, ?_⟩
  · refine (decode_outcome_iff (.int 5) raw (.text "full") present).1.mpr ⟨_, rfl, ?_⟩
    exact ⟨⟨Digest.zeroHash, rfl⟩, ⟨Digest.zeroHash, rfl⟩, ⟨_, rfl, .bool true⟩, .full (.inl rfl)⟩
  · refine ((decode_outcome_iff (.int 5) raw (.text "accounts") present).2 _).mpr ?_
    have unknown : ∀ name ∈ Details.knownLevels, Json.text "accounts" ≠ .text name := by
      intro name listed same
      cases same
      exact absurd listed (by decide)
    have unlisted : ¬ (Json.bool false).Iterable := by
      rintro ⟨items, lists⟩
      cases lists
    exact .details _ _ ⟨Digest.zeroHash, rfl⟩ ⟨Digest.zeroHash, rfl⟩ ⟨_, rfl, .bool true⟩
      (.otherTransactions _ unknown nofun unlisted)

end Block

end BlockReader
