import BlockReader.Proofs.Block.Rendering
import BlockReader.Proofs.Block.Summary
import BlockReader.Proofs.Json.Shape
import BlockReader.Proofs.Level
import BlockReader.Proofs.Validation
set_option autoImplicit false

namespace BlockReader

namespace Json

/-- A value by itself, whatever it holds, is passed on as it is: it is no floating-point value, no
whole number that is too long for a reader and no text with a lone half, and it has no name with
one and none that is reserved. -/
def PassesOn : Json → Prop
  | .float _ => False
  | .int number => Numeral.digitCount number ≤ Numeral.digitLimit
  | .text value => value.IsProper
  | .object members =>
    ∀ member ∈ members, member.1.IsProper ∧ member.1.front.startsWith "_sa" = false
  | _ => True

mutual

theorem withoutReserved_eq_self (value : Json) (portable : value.Throughout PassesOn) :
    value.withoutReserved = value := by
  cases value with
  | array items =>
    obtain ⟨_, each⟩ := (throughout_array_iff _ _).mp portable
    rw [withoutReserved, itemsWithoutReserved_eq_self items each]
  | object members =>
    obtain ⟨free, each⟩ := (throughout_object_iff _ _).mp portable
    rw [withoutReserved, membersWithoutReserved_eq_self members free each]
  | _ => rfl

theorem itemsWithoutReserved_eq_self (items : List Json)
    (each : ∀ item ∈ items, item.Throughout PassesOn) : itemsWithoutReserved items = items := by
  cases items with
  | nil => rfl
  | cons item rest =>
    obtain ⟨first, others⟩ := List.forall_mem_cons.mp each
    rw [itemsWithoutReserved, withoutReserved_eq_self item first,
      itemsWithoutReserved_eq_self rest others]

theorem membersWithoutReserved_eq_self (members : Members)
    (free : ∀ member ∈ members, member.1.IsProper ∧ member.1.front.startsWith "_sa" = false)
    (each : ∀ member ∈ members, member.2.Throughout PassesOn) :
    membersWithoutReserved members = members := by
  cases members with
  | nil => rfl
  | cons member rest =>
    obtain ⟨name, value⟩ := member
    obtain ⟨first, others⟩ := List.forall_mem_cons.mp each
    obtain ⟨⟨-, kept⟩, freeOthers⟩ := List.forall_mem_cons.mp free
    rw [membersWithoutReserved, if_neg (by rw [kept]; exact Bool.false_ne_true),
      withoutReserved_eq_self value first, membersWithoutReserved_eq_self rest freeOthers others]

end

theorem isWritable_of_passesOn {value : Json} (portable : value.PassesOn) : value.IsWritable := by
  cases value with
  | float number => exact portable.elim
  | int number => exact ⟨portable, trivial, trivial⟩
  | text value => exact ⟨trivial, trivial, portable⟩
  | object members => exact ⟨trivial, trivial, fun member listed => (portable member listed).1⟩
  | _ => exact ⟨trivial, trivial, trivial⟩

theorem renderable_of_passesOn [Nesting] {value : Json} (portable : value.Throughout PassesOn)
    (depth : value.depth ≤ Nesting.writable) : value.Renderable := by
  obtain ⟨short, finite, encodable⟩ := (throughout_isWritable_iff value).mp fun part held =>
    isWritable_of_passesOn (portable part held)
  exact ⟨short, finite, encodable, depth⟩

theorem isLegible_of_passesOn {value : Json} (portable : value.Throughout PassesOn)
    (once : value.Throughout NamesOnce) : value.Throughout IsLegible := by
  intro part held
  cases part with
  | float number => exact portable _ held
  | object members => exact once _ held
  | _ => trivial

end Json

namespace Block

/-- A value that the JSON of a block shows, by the result that the block was read from: a hash, the
parent slot, the signatures, what the result has under a name, or the items of that. -/
inductive ShownOf (raw : Json.Members) : Json → Prop
  | text (value : String) : ShownOf raw (.text value)
  | parentSlot (value : Json) (number : Int) (found : raw.get? "parentSlot" = some value)
    (whole : value.toInt = .ok number) : ShownOf raw (.int number)
  | texts (items : List Json) (each : ∀ item ∈ items, ∃ value : String, item = .text value) :
    ShownOf raw (.array items)
  | given (name : Text) : ShownOf raw (raw.getOrNull name)
  | listed (name : Text) (items : List Json)
    (inside : (raw.getOrNull name).items = .ok items) : ShownOf raw (.array items)

theorem shownOf_transactions {raw : Json.Members} {level : Json} {block : Block}
    (given : block.IsReadFrom raw level) {value : Json}
    (present : Options.ifSet block.transactions = some value) : ShownOf raw value := by
  have read := given.details
  rw [((Options.ifSet_eq_some_iff _ _).mp present).1, transactions]
  cases carried : block.details with
  | full transactions =>
    rw [carried] at read
    obtain ⟨items, rfl, empty | inside⟩ := Details.listed_of_decode read
    · rw [empty]
      exact .texts [] fun _ inside => absurd inside List.not_mem_nil
    · exact .listed "transactions" items inside
  | _ =>
    rw [transactions, carried] at present
    cases present

theorem shownOf_signatures (raw : Json.Members) {block : Block} {value : Json}
    (present : (block.signatures?.map fun signatures =>
      Json.array (signatures.map fun signature => .text signature.text)) = some value) :
    ShownOf raw value := by
  obtain ⟨signatures, _, rfl⟩ := Option.map_eq_some_iff.mp present
  refine .texts _ fun item listed => ?_
  obtain ⟨signature, _, rfl⟩ := List.mem_map.mp listed
  exact ⟨_, rfl⟩

theorem shownOf_members {raw : Json.Members} {level : Json} {block : Block}
    (given : block.IsReadFrom raw level) {member : Text × Json}
    (listed : member ∈ block.members) : ShownOf raw member.2 := by
  obtain ⟨value, number, found, whole, read⟩ := given.parentSlot
  simp only [members, optionalMembers, List.mem_cons, List.mem_append] at listed
  rcases listed with rfl | rfl | rfl | rfl | rfl | (transactions | signatures) | rewards
  · exact .text _
  · exact .text _
  · dsimp only
    rw [read]
    exact .parentSlot value number found whole
  · dsimp only
    rw [given.blockTime]
    exact .given "blockTime"
  · dsimp only
    rw [given.blockHeight]
    exact .given "blockHeight"
  · exact shownOf_transactions given (Json.Members.eq_of_mem_optional transactions)
  · exact shownOf_signatures raw (Json.Members.eq_of_mem_optional signatures)
  · have set := Json.Members.eq_of_mem_optional rewards
    rw [((Options.ifSet_eq_some_iff _ _).mp set).1, given.rewards]
    exact .given "rewards"

theorem ShownOf.wellShaped {raw : Json.Members} {value : Json} (shown : ShownOf raw value)
    {levels : Nat} (shaped : (Json.object raw).WellShaped (levels + 2)) :
    value.WellShaped (levels + 1) := by
  cases shown with
  | text value => exact Json.wellShaped_text value
  | parentSlot value number found whole => exact Json.wellShaped_int number
  | texts items each =>
    refine Json.wellShaped_texts fun item listed => ?_
    obtain ⟨value, rfl⟩ := each item listed
    exact ⟨value, rfl⟩
  | given name => exact Json.wellShaped_getOrNull shaped name
  | listed name items inside =>
    exact Json.wellShaped_items (Json.wellShaped_getOrNull shaped name) inside

/-- The JSON of a block is as well shaped as the result that the block was read from. Two levels are
for the block itself and for what stands in the place of a list. -/
theorem wellShaped_toJson {slot raw level : Json} {block : Block}
    (decoded : decode slot raw level = .ok block) {levels : Nat}
    (shaped : raw.WellShaped (levels + 2)) : block.toJson.WellShaped (levels + 2) := by
  obtain ⟨members, rfl⟩ := exists_members_of_decode decoded
  have given := (decode_object_eq_ok_iff slot level members block).mp decoded
  rw [toJson, Json.wellShaped_object_iff]
  refine ⟨(names_sublist block).nodup (by decide), ?_⟩
  intro member listed
  exact (shownOf_members given listed).wellShaped shaped

/-- A block that was read at a level is read again from its JSON, at the same level. -/
theorem decode_toJson_of_decode {slot raw : Json} {level : Text} {block : Block}
    (decoded : decode slot raw (.text level) = .ok block) :
    decode slot block.toJson (.text level) = .ok block := by
  have proper := proper_of_decode decoded
  obtain ⟨members, rfl⟩ := exists_members_of_decode decoded
  have read := ((decode_object_eq_ok_iff slot (.text level) members block).mp decoded).details
  have suited : block.details.SuitedBy level := by
    by_cases known : level ∈ Details.knownLevels
    · exact .inl (Details.level_of_decode_known known read).symm
    · exact .inr known
  exact decode_toJson slot block proper level suited

end Block

namespace Api

/-- The detail level of a request is a text, its own or that of the default. -/
theorem Request.Asks.exists_level {request : Request} {slot : Int} {options : Options}
    (asked : request.Asks slot options) : ∃ level : Text, options.level = .text level := by
  obtain ⟨_, spelling, _, _, _, read⟩ := asked
  rw [Options.level, (texts_of_readRequest read).2]
  cases request.target.parameter? "transaction_details" with
  | none => exact ⟨"full", rfl⟩
  | some level =>
    by_cases counts : (Json.text level).truthy = true
    · exact ⟨level, if_pos counts⟩
    · exact ⟨"full", if_neg counts⟩

section Showing

variable [Json.Nesting]

/-- A response that shows a block as the client of the service saw it, at a level. -/
structure Response.Shows (slot : Int) (level : Json) (block : Block) (response : Response) :
    Prop where
  status : response.status = 200
  contentType : response.contentType = some "application/json"
  /-- The body reads back as the JSON of the block, its members in their order, if the reader goes
  as deep as they do. -/
  read : ∀ levels, block.toJson.depth ≤ levels →
    Json.readWithin levels response.body.toList = .ok block.toJson
  decoded : Block.decode (.int slot) block.toJson level = .ok block
  /-- A client to whose call this is the answer has the same block, whatever its transport and its
  other options are. -/
  fetched : ∀ {τ : Type} (transport : Transport τ) (node : τ) (options : Options)
    (config : Config), options.level = level → options.config = .ok config →
    (transport.call blockMethod (config.params (.int slot)) node).result = .ok block.toJson →
    (fetchBlock transport (.int slot) options node).result = .ok block

theorem Response.ofBlock_shows {slot : Int} {level : Json} {block : Block}
    (again : Block.decode (.int slot) block.toJson level = .ok block)
    (once : block.toJson.Throughout Json.NamesOnce)
    (portable : block.toJson.Throughout Json.PassesOn)
    (written : block.toJson.depth ≤ Json.Nesting.writable) :
    (ofBlock block).Shows slot level block := by
  have carries : (ofBlock block).Carries 200 block.toJson := by
    rw [ofBlock, Json.withoutReserved_eq_self block.toJson portable]
    exact ofJson_carries 200 (Json.renderable_of_passesOn portable written)
  refine ⟨carries.status, carries.contentType, ?_, again, ?_⟩
  · intro levels deep
    have legible := Json.isLegible_of_passesOn portable once
    exact Json.readWithin_compact legible carries.body levels deep
  · intro τ transport node options config same accepted answered
    rw [fetchBlock_of_accepted transport _ options config accepted]
    dsimp only
    rw [answered, same]
    exact again

namespace Site

variable {σ : Type}

theorem result_serve_of_asked (backend : Backend σ) {request : Request} {slot : Int}
    {options : Options} (asked : request.Asks slot options) {config : Config}
    (accepted : options.config = .ok config) (site : Site σ) :
    (serve backend request site).result = .ok (.ofFetched
      ((backend.transport.call blockMethod (config.params (.int slot))
        (ensureClient backend site).node.node).result >>= fun raw =>
          Block.decode (.int slot) raw options.level)) := by
  rw [serve_of_asked backend asked, serveBlock_of_any backend asked.isShort]
  dsimp only
  rw [fetchBlock_of_accepted _ _ options config accepted]

/-- A result with a shape leads to a block with that shape. -/
theorem serve_shows (backend : Backend σ) {request : Request} {slot : Int} {options : Options}
    (asked : request.Asks slot options) {config : Config} (accepted : options.config = .ok config)
    (site : Site σ) {raw : Json} {block : Block}
    (answered : (backend.transport.call blockMethod (config.params (.int slot))
      (ensureClient backend site).node.node).result = .ok raw)
    (decoded : Block.decode (.int slot) raw options.level = .ok block)
    (portable : block.toJson.Throughout Json.PassesOn)
    (written : block.toJson.depth ≤ Json.Nesting.writable) {levels : Nat}
    (shaped : raw.WellShaped (levels + 2)) :
    ∃ response, (serve backend request site).result = .ok response ∧
      response.Shows slot options.level block ∧ block.toJson.depth ≤ levels + 2 := by
  obtain ⟨level, same⟩ := asked.exists_level
  rw [same] at decoded ⊢
  have again := Block.decode_toJson_of_decode decoded
  have shown := Block.wellShaped_toJson decoded shaped
  have shows := Response.ofBlock_shows again shown.once portable written
  refine ⟨.ofBlock block, ?_, shows, shown.depth⟩
  rw [result_serve_of_asked backend asked accepted, answered, same]
  exact congrArg (fun fetched => Except.ok (Response.ofFetched fetched)) decoded

/-- Over HTTP the result has the shape of what was read, so that its block is read again from the
body as the replies of the node are. -/
theorem serve_overHttp_shows (url : String) (timeout : Json) {request : Request} {slot : Int}
    {options : Options} (asked : request.Asks slot options) {config : Config}
    (accepted : options.config = .ok config) (site : Site Wire) {raw : Json} {block : Block}
    (answered : (Wire.transport.call blockMethod (config.params (.int slot))
      (ensureClient (overHttp url timeout) site).node.node).result = .ok raw)
    (decoded : Block.decode (.int slot) raw options.level = .ok block)
    (portable : block.toJson.Throughout Json.PassesOn)
    (written : block.toJson.depth ≤ Json.Nesting.writable) :
    ∃ response, (serve (overHttp url timeout) request site).result = .ok response ∧
      response.Shows slot options.level block ∧
      Json.read response.body.toList = .ok block.toJson := by
  obtain ⟨outer, readable, shaped⟩ := Reply.wellShaped_of_receive answered
  obtain ⟨members, rfl⟩ := Block.exists_members_of_decode decoded
  obtain ⟨levels, rfl⟩ : ∃ levels, outer = levels + 1 :=
    Nat.exists_eq_add_one.mpr (Nat.lt_of_lt_of_le (Nat.succ_pos _) shaped.depth)
  obtain ⟨response, served, shows, depth⟩ := serve_shows (overHttp url timeout) asked accepted site
    answered decoded portable written (shaped.mono (Nat.le_succ _))
  exact ⟨response, served, shows, shows.read _ (readable.symm ▸ depth)⟩

/-- The service passes blocks on, over any transport and with a client of any state. If the result
of the call is a block, has no object with a name twice, and can be written and read exactly, then
the response shows that block at the level of the request. Its body is no deeper than the result,
the two levels of the block's own apart. -/
theorem serve_transparent (backend : Backend σ) (request : Request) (slot : Int)
    (options : Options) (config : Config) (site : Site σ) (raw : Json) (block : Block)
    (asked : request.Asks slot options) (accepted : options.config = .ok config)
    (answered : (backend.transport.call blockMethod (config.params (.int slot))
      (ensureClient backend site).node.node).result = .ok raw)
    (once : raw.Throughout Json.NamesOnce)
    (decoded : Block.decode (.int slot) raw options.level = .ok block)
    (portable : block.toJson.Throughout Json.PassesOn)
    (written : block.toJson.depth ≤ Json.Nesting.writable) :
    ∃ response, (serve backend request site).result = .ok response ∧
      response.Shows slot options.level block ∧
      block.toJson.depth ≤ max 2 raw.depth := by
  obtain ⟨levels, enough⟩ : ∃ levels, max 2 raw.depth = levels + 2 :=
    ⟨max 2 raw.depth - 2, by omega⟩
  have shaped : raw.WellShaped (levels + 2) := ⟨once, by omega⟩
  rw [enough]
  exact serve_shows backend asked accepted site answered decoded portable written shaped

end Site

end Showing

namespace Site

/-- A level that is not known, rewards whose texts are escaped, and a parent slot that is no whole
number before it is read. -/
theorem serve_transparent_unknown_level :
    let request := Request.get "/blocks/42" "transaction_details=accounts"
    let options : Options := { transactionDetails := .text "accounts" }
    let reward : Json := .object [("pubkey", .text "\"\\\n\u0001é"), ("lamports", .int (-5))]
    let raw : Json := .object
      [("rewards", .array [reward]), ("parentSlot", .bool true),
        ("signatures", .array [.text ("".pushn '1' 63 ++ "2" : String)]),
        ("previousBlockhash", .text Digest.zeroHash.text),
        ("blockhash", .text Digest.zeroHash.text)]
    let block : Block :=
      { blockhash := Digest.zeroHash
        previousBlockhash := Digest.zeroHash
        parentSlot := .int 1
        details := .signatures [⟨List.replicate 63 0 ++ [1], rfl⟩]
        rewards := .array [reward] }
    ∃ config,
      (request.Asks 42 options ∧ options.config = .ok config ∧
        raw.Throughout Json.NamesOnce ∧ block.toJson.Throughout Json.PassesOn ∧
        block.toJson.depth ≤ Json.Nesting.writable ∧
        Block.decode (.int 42) raw options.level = .ok block) ∧
      ∃ response, (serve scripted request ⟨⟨[.ok raw], 0⟩, false⟩).result = .ok response ∧
        response.Shows 42 (.text "accounts") block ∧
        block.toJson.depth ≤ 3 := by
  intro request options reward raw block
  have method : request.method.toUpper = "GET" := by
    show "GET".toUpper = "GET"
    decide +kernel
  have parameters : request.target.parameters = [("transaction_details", "accounts")] := by
    decide +kernel
  have asked : request.Asks 42 options := by
    refine ⟨method, "42", rfl, by decide, by decide, ?_⟩
    unfold readRequest Target.parameter?
    rw [parameters]
    rfl
  have signature : "".pushn '1' 63 ++ "2" =
      (⟨List.replicate 63 0 ++ [1], rfl⟩ : Digest .signature).text := by
    decide +kernel
  have decoded : Block.decode (.int 42) raw options.level = .ok block := by
    rw [Block.decode_object_eq_ok_iff]
    refine ⟨rfl, rfl, ⟨.bool true, 1, rfl, rfl, rfl⟩, ?_, rfl, rfl, rfl⟩
    exact (Details.decodeSignatures_array_eq_ok_iff _ _).mpr ⟨_, rfl, by rw [signature]; rfl⟩
  have shaped : raw.WellShaped 3 := by
    simp [raw, reward, Json.wellShaped_object_iff, Json.wellShaped_array_iff,
      Json.wellShaped_text, Json.wellShaped_int, Json.wellShaped_bool]
  have portable : block.toJson.Throughout Json.PassesOn := by
    have text (value : String) : (Json.text value).Throughout Json.PassesOn :=
      Json.throughout_of_leaf (Text.isProper_proper value) rfl
    have null : Json.null.Throughout Json.PassesOn :=
      Json.throughout_of_leaf trivial rfl
    have int (number : Int) (short : Numeral.digitCount number ≤ Numeral.digitLimit) :
        (Json.int number).Throughout Json.PassesOn :=
      Json.throughout_of_leaf short rfl
    have one := int 1 (by decide +kernel)
    have loss := int (-5) (by decide +kernel)
    simp [block, reward, Block.toJson, Block.members, Block.optionalMembers, Block.transactions,
      Block.signatures?, Options.ifSet, Json.isNull, Config.optional, Json.throughout_object_iff,
      Json.throughout_array_iff, Json.PassesOn, Text.front, text, null, one, loss]
  have written : block.toJson.depth ≤ Json.Nesting.writable := by
    decide +kernel
  have config : options.config = .ok ⟨.json, some (.text "accounts"), none, none, none⟩ := by
    rfl
  exact ⟨_, ⟨asked, config, shaped.once, portable, written, decoded⟩,
    serve_transparent scripted request 42 options _ ⟨⟨[.ok raw], 0⟩, false⟩ raw block asked config
      rfl shaped.once decoded portable written⟩

end Site

end Api

end BlockReader
