import BlockReader.Proofs.Block.Decode
set_option autoImplicit false

namespace BlockReader

namespace Json

/-- A list, or nothing in the place of one. -/
def IsListOrNull : Json → Prop
  | .null | .array _ => True
  | _ => False

theorem orEmpty_array (items : List Json) : (Json.array items).orEmpty = .array items := by
  cases items <;> rfl

namespace Members

/-- The items of the list that a member holds; none when it holds no list. -/
def listIn (name : Text) (members : Members) : List Json :=
  match members.get? name with
  | some (.array items) => items
  | _ => []

theorem getOrNull_eq_listIn {name : Text} {members : Members}
    (listed : IsListOrNull (members.getOrNull name)) :
    members.getOrNull name = .null ∧ members.listIn name = [] ∨
      members.getOrNull name = .array (members.listIn name) := by
  rw [getOrNull] at listed ⊢
  rw [listIn]
  cases found : members.get? name with
  | none => exact Or.inl ⟨rfl, rfl⟩
  | some value =>
    rw [found, Option.getD_some] at listed
    cases value with
    | null => exact Or.inl ⟨rfl, rfl⟩
    | array items => exact Or.inr rfl
    | _ => exact listed.elim

theorem orEmpty_getOrNull {name : Text} {members : Members}
    (listed : IsListOrNull (members.getOrNull name)) :
    (members.getOrNull name).orEmpty = .array (members.listIn name) := by
  rcases getOrNull_eq_listIn listed with ⟨absent, empty⟩ | present
  · rw [absent, empty]
    rfl
  · rw [present]
    exact orEmpty_array _

theorem map_fst_optional (name : Text) (value : Option Json) :
    List.Sublist ((Config.optional name value).map Prod.fst) [name] := by
  cases value with
  | none => exact List.nil_sublist _
  | some value => exact List.Sublist.refl _

end Members

end Json

namespace Details

/-- A level suits details when it asks for just them, or is none of the levels that decide by
themselves. -/
def SuitedBy (details : Details) (level : Text) : Prop :=
  level = details.level ∨ level ∉ Details.knownLevels

instance (details : Details) (level : Text) : Decidable (SuitedBy details level) :=
  inferInstanceAs (Decidable (_ ∨ _))

end Details

namespace Block

/-- The members by which a block can be told. -/
structure ShownIn (members : Json.Members) (block : Block) : Prop where
  blockhash : members.get? "blockhash" = some (.text block.blockhash.text)
  previousBlockhash : members.get? "previousBlockhash" = some (.text block.previousBlockhash.text)
  parentSlot : members.get? "parentSlot" = some block.parentSlot
  blockTime : members.get? "blockTime" = some block.blockTime
  blockHeight : members.get? "blockHeight" = some block.blockHeight
  transactions : members.get? "transactions" = Options.ifSet block.transactions
  signatures : members.get? "signatures" = block.signatures?.map fun signatures =>
    .array (signatures.map fun signature => .text signature.text)
  rewards : members.get? "rewards" = Options.ifSet block.rewards

theorem members_shown (block : Block) : block.ShownIn block.members := by
  constructor <;>
    simp [members, optionalMembers, Json.Members.get?_cons, Json.Members.get?_append,
      Json.Members.get?_optional]

theorem getOrNull_transactions {members : Json.Members} {block : Block}
    (shown : block.ShownIn members) :
    members.getOrNull "transactions" = block.transactions := by
  rw [Json.Members.getOrNull, shown.transactions, Options.ifSet]
  cases block.transactions <;> rfl

theorem getOrNull_signatures {members : Json.Members} {block : Block}
    (shown : block.ShownIn members) :
    members.getOrNull "signatures" = (block.signatures?.map fun signatures =>
      Json.array (signatures.map fun signature => .text signature.text)).getD .null := by
  rw [Json.Members.getOrNull, shown.signatures]

theorem getOrNull_rewards {members : Json.Members} {block : Block}
    (shown : block.ShownIn members) : members.getOrNull "rewards" = block.rewards := by
  rw [Json.Members.getOrNull, shown.rewards, Options.ifSet]
  cases block.rewards <;> rfl

/-- The data that a node can have given: a whole parent slot, and transactions in a list. -/
structure Proper (block : Block) : Prop where
  parentSlot : ∃ number : Int, block.parentSlot = .int number
  transactions : ∀ transactions, block.details = .full transactions →
    ∃ items, transactions = .array items

/-- The details are read back at every level that suits them, from empty lists too: at a level
that is not known the mere presence of a list decides. -/
theorem decode_details_of_shown {members : Json.Members} {block : Block}
    (shown : block.ShownIn members) (proper : block.Proper) (level : Text)
    (suited : block.details.SuitedBy level) :
    Details.decode (.text level) members = .ok block.details := by
  have transactions := getOrNull_transactions shown
  have signatures := getOrNull_signatures shown
  have listed := proper.transactions
  obtain ⟨_, _, _, details, _, _, _⟩ := block
  dsimp only at suited listed ⊢
  have other (unknown : level ∉ Details.knownLevels) :
      ∀ name ∈ Details.knownLevels, Json.text level ≠ .text name := by
    intro name known same
    cases same
    exact unknown known
  cases details with
  | full value =>
    obtain ⟨items, rfl⟩ := listed value rfl
    rw [Block.transactions] at transactions
    dsimp only at transactions
    rcases suited with rfl | unknown
    · show Details.decodeTransactions (members.getOrNull "transactions").orEmpty = _
      rw [transactions, Json.orEmpty_array, Details.decodeTransactions_array]
    · rw [Details.decode_unknown _ _ (other unknown), transactions]
      rfl
  | signatures given =>
    rw [Block.transactions] at transactions
    rw [signatures?] at signatures
    dsimp only [Option.map_some, Option.getD_some] at transactions signatures
    have read : Details.decodeSignatures
        (.array (given.map fun signature => .text signature.text)) = .ok (.signatures given) :=
      (Details.decodeSignatures_array_eq_ok_iff _ _).mpr ⟨given, rfl, rfl⟩
    rcases suited with rfl | unknown
    · show Details.decodeSignatures (members.getOrNull "signatures").orEmpty = _
      rw [signatures, Json.orEmpty_array, read]
    · rw [Details.decode_unknown _ _ (other unknown), transactions, signatures, read]
      rfl
  | none =>
    rw [Block.transactions] at transactions
    rw [signatures?] at signatures
    dsimp only [Option.map_none, Option.getD_none] at transactions signatures
    rcases suited with rfl | unknown
    · rfl
    · rw [Details.decode_unknown _ _ (other unknown), transactions, signatures]
      rfl

theorem isReadFrom_of_shown {members : Json.Members} {block : Block}
    (shown : block.ShownIn members) (proper : block.Proper) (level : Text)
    (suited : block.details.SuitedBy level) : IsReadFrom members (.text level) block := by
  obtain ⟨number, whole⟩ := proper.parentSlot
  refine ⟨shown.blockhash, shown.previousBlockhash, ⟨.int number, number, ?_, rfl, whole⟩,
    decode_details_of_shown shown proper level suited, (getOrNull_rewards shown).symm,
    (Json.Members.getOrNull_of_some shown.blockTime).symm,
    (Json.Members.getOrNull_of_some shown.blockHeight).symm⟩
  rw [shown.parentSlot, whole]

/-- Reading the JSON of a block gives the block back, at the level of its details and at every
level that is not known. -/
theorem decode_toJson (slot : Json) (block : Block) (proper : block.Proper) (level : Text)
    (suited : block.details.SuitedBy level) :
    decode slot block.toJson (.text level) = .ok block :=
  (decode_object_eq_ok_iff slot (.text level) block.members block).mpr
    (isReadFrom_of_shown block.members_shown proper level suited)

theorem decode_toJson_unknown_level :
    let block : Block :=
      { blockhash := Digest.zeroHash
        previousBlockhash := ⟨0 :: List.replicate 31 255, rfl⟩
        parentSlot := .int 41
        details := .signatures [⟨List.replicate 63 0 ++ [1], rfl⟩, ⟨List.replicate 64 255, rfl⟩]
        rewards := .bool false }
    (block.Proper ∧ block.details.SuitedBy "accounts") ∧
      decode (.int 42) block.toJson (.text "accounts") = .ok block := by
  intro block
  have proper : block.Proper := ⟨⟨41, rfl⟩, nofun⟩
  have suited : block.details.SuitedBy "accounts" := Or.inr (by decide)
  exact ⟨⟨proper, suited⟩, decode_toJson (.int 42) block proper "accounts" suited⟩

def shownNames : List Text :=
  ["blockhash", "previousBlockhash", "parentSlot", "blockTime", "blockHeight", "transactions",
    "signatures", "rewards"]

/-- Each list is shown by the details that carry it and by no others. -/
structure ShowsLists (raw shown : Json.Members) (details : Details) : Prop where
  signatures : ∀ value, shown.get? "signatures" = some value ↔
    (∃ signatures, details = .signatures signatures) ∧ value = .array (raw.listIn "signatures")
  transactions : ∀ value, shown.get? "transactions" = some value ↔
    (∃ transactions, details = .full transactions) ∧ value = .array (raw.listIn "transactions")
  oneList : shown.get? "signatures" = none ∨ shown.get? "transactions" = none

/-- What is shown of a block is what the result that it was read from says: the same texts and
values, the lists of that result and no other, and a parent slot as a whole number. -/
structure Repeats (raw shown : Json.Members) (block : Block) : Prop where
  blockhash : ∃ spelling, raw.get? "blockhash" = some (.text spelling) ∧
    shown.get? "blockhash" = some (.text spelling)
  previousBlockhash : ∃ spelling, raw.get? "previousBlockhash" = some (.text spelling) ∧
    shown.get? "previousBlockhash" = some (.text spelling)
  parentSlot : ∃ value number, raw.get? "parentSlot" = some value ∧ value.toInt = .ok number ∧
    shown.get? "parentSlot" = some (.int number)
  blockTime : shown.get? "blockTime" = some (raw.getOrNull "blockTime")
  blockHeight : shown.get? "blockHeight" = some (raw.getOrNull "blockHeight")
  rewards : ∀ value, shown.get? "rewards" = some value ↔
    raw.get? "rewards" = some value ∧ value.isNull = false
  lists : ShowsLists raw shown block.details
  names : ∀ name ∈ shown.map Prod.fst, name ∈ shownNames
  distinct : (shown.map Prod.fst).Nodup

theorem names_sublist (block : Block) : List.Sublist (block.members.map Prod.fst) shownNames := by
  have transactions := Json.Members.map_fst_optional "transactions"
    (Options.ifSet block.transactions)
  have signatures := Json.Members.map_fst_optional "signatures"
    (block.signatures?.map fun signatures =>
      .array (signatures.map fun signature => .text signature.text))
  have rewards := Json.Members.map_fst_optional "rewards" (Options.ifSet block.rewards)
  simp only [members, optionalMembers, List.map_cons, List.map_append, shownNames,
    List.cons_sublist_cons]
  exact (transactions.append signatures).append rewards

/-- Where the lists of a result are lists or missing, the details are one of them or none. -/
theorem details_of_lists {raw : Json.Members} {level : Json} {details : Details}
    (transactionsListed : Json.IsListOrNull (raw.getOrNull "transactions"))
    (signaturesListed : Json.IsListOrNull (raw.getOrNull "signatures"))
    (read : Details.decode level raw = .ok details) :
    details = .full (.array (raw.listIn "transactions")) ∨
      (∃ signatures : List (Digest .signature), details = .signatures signatures ∧
        raw.listIn "signatures" = signatures.map fun signature => .text signature.text) ∨
      details = .none := by
  have full (read : Details.decodeTransactions (.array (raw.listIn "transactions")) = .ok details) :
      details = .full (.array (raw.listIn "transactions")) :=
    (Except.ok.inj read).symm
  have signatures := Details.decodeSignatures_array_eq_ok_iff (raw.listIn "signatures") details
  unfold Details.decode at read
  dsimp only at read
  split at read
  · rw [Json.Members.orEmpty_getOrNull transactionsListed] at read
    exact Or.inl (full read)
  · rw [Json.Members.orEmpty_getOrNull signaturesListed] at read
    exact Or.inr (Or.inl (signatures.mp read))
  · exact Or.inr (Or.inr (Except.ok.inj read).symm)
  · rcases Json.Members.getOrNull_eq_listIn transactionsListed with ⟨absent, _⟩ | present
    · rcases Json.Members.getOrNull_eq_listIn signaturesListed with ⟨missing, _⟩ | given
      · rw [absent, missing] at read
        exact Or.inr (Or.inr (Except.ok.inj read).symm)
      · rw [absent, given] at read
        exact Or.inr (Or.inl (signatures.mp read))
    · rw [present] at read
      exact Or.inl (full read)

theorem showsLists_of_decode {raw shown : Json.Members} {level : Json} {block : Block}
    (shows : block.ShownIn shown)
    (transactionsListed : Json.IsListOrNull (raw.getOrNull "transactions"))
    (signaturesListed : Json.IsListOrNull (raw.getOrNull "signatures"))
    (read : Details.decode level raw = .ok block.details) :
    ShowsLists raw shown block.details := by
  have transactions := shows.transactions
  have signatures := shows.signatures
  rw [Block.transactions] at transactions
  rw [signatures?] at signatures
  rcases details_of_lists transactionsListed signaturesListed read with
    full | ⟨listed, only, spelled⟩ | none
  · rw [full] at transactions signatures ⊢
    constructor
    · simp [signatures]
    · simp [transactions, Options.ifSet, Json.isNull, eq_comm]
    · exact Or.inl signatures
  · rw [only] at transactions signatures ⊢
    constructor
    · simp [signatures, spelled, eq_comm]
    · simp [transactions, Options.ifSet, Json.isNull]
    · exact Or.inr transactions
  · rw [none] at transactions signatures ⊢
    constructor
    · simp [signatures]
    · simp [transactions, Options.ifSet, Json.isNull]
    · exact Or.inl signatures

theorem ifSet_getOrNull_eq_some_iff (name : Text) (raw : Json.Members) (value : Json) :
    Options.ifSet (raw.getOrNull name) = some value ↔
      raw.get? name = some value ∧ value.isNull = false := by
  rw [Options.ifSet, Json.Members.getOrNull]
  cases raw.get? name with
  | none => simp [Json.isNull]
  | some other =>
    rw [Option.getD_some]
    constructor
    · intro set
      split at set
      · cases set
      · rename_i present
        cases set
        exact ⟨rfl, Bool.eq_false_of_not_eq_true present⟩
    · rintro ⟨same, present⟩
      cases same
      rw [present]
      rfl

/-- The JSON of a block repeats the result that the block was read from, at every level. -/
theorem toJson_of_decode (slot level : Json) (raw : Json.Members) (block : Block)
    (transactionsListed : Json.IsListOrNull (raw.getOrNull "transactions"))
    (signaturesListed : Json.IsListOrNull (raw.getOrNull "signatures"))
    (decoded : decode slot (.object raw) level = .ok block) :
    ∃ shown, block.toJson = .object shown ∧ Repeats raw shown block := by
  have given := (decode_object_eq_ok_iff slot level raw block).mp decoded
  have shows := block.members_shown
  obtain ⟨value, number, parent, whole, same⟩ := given.parentSlot
  refine ⟨block.members, rfl, ?_⟩
  exact {
    blockhash := ⟨_, given.blockhash, shows.blockhash⟩
    previousBlockhash := ⟨_, given.previousBlockhash, shows.previousBlockhash⟩
    parentSlot := ⟨value, number, parent, whole, by rw [shows.parentSlot, same]⟩
    blockTime := by rw [shows.blockTime, given.blockTime]
    blockHeight := by rw [shows.blockHeight, given.blockHeight]
    rewards := by
      rw [shows.rewards, given.rewards]
      exact ifSet_getOrNull_eq_some_iff "rewards" raw
    lists := showsLists_of_decode shows transactionsListed signaturesListed given.details
    names := fun name member => (names_sublist block).subset member
    distinct := (names_sublist block).nodup (by decide) }

theorem toJson_of_decode_leading_zeros :
    let raw : Json.Members :=
      [("signatures", .array [.text (.proper ("".pushn '1' 63 ++ "2"))]),
        ("parentSlot", .bool true), ("rewards", .null), ("blockhash", .text ("".pushn '1' 32)),
        ("previousBlockhash", .text "14uQeVj5tqViQh7yWWGStvkEG1Zmhx6uasJtWCJziofL")]
    let block : Block :=
      { blockhash := Digest.zeroHash
        previousBlockhash := ⟨0 :: List.replicate 31 255, rfl⟩
        parentSlot := .int 1
        details := .signatures [⟨List.replicate 63 0 ++ [1], rfl⟩] }
    (Json.IsListOrNull (raw.getOrNull "transactions") ∧
        Json.IsListOrNull (raw.getOrNull "signatures") ∧
        decode (.int 42) (.object raw) (.text "accounts") = .ok block) ∧
      ∃ shown, block.toJson = .object shown ∧ Repeats raw shown block := by
  intro raw block
  have hash : "".pushn '1' 32 = block.blockhash.text := by decide +kernel
  have previous : "14uQeVj5tqViQh7yWWGStvkEG1Zmhx6uasJtWCJziofL" =
      block.previousBlockhash.text := by decide +kernel
  have signature : "".pushn '1' 63 ++ "2" =
      (⟨List.replicate 63 0 ++ [1], rfl⟩ : Digest .signature).text := by decide +kernel
  have decoded : decode (.int 42) (.object raw) (.text "accounts") = .ok block := by
    rw [decode_object_eq_ok_iff]
    refine ⟨?_, ?_, ⟨.bool true, 1, rfl, rfl, rfl⟩, ?_, rfl, rfl, rfl⟩
    · rw [← hash]
      rfl
    · rw [← previous]
      rfl
    · exact (Details.decodeSignatures_array_eq_ok_iff _ _).mpr ⟨_, rfl, by rw [signature]; rfl⟩
  exact ⟨⟨trivial, trivial, decoded⟩,
    toJson_of_decode (.int 42) (.text "accounts") raw block trivial trivial decoded⟩

end Block

end BlockReader
