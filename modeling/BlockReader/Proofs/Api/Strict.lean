import BlockReader.Proofs.Api.Transparency
import BlockReader.Proofs.Block.Matching
import BlockReader.Proofs.Text.Utf8
import Mathlib
set_option autoImplicit false

namespace BlockReader

namespace Block

theorem ShownOf.throughout {condition : Json → Prop} (inherited : Json.Inherited condition)
    {raw : Json.Members} (all : (Json.object raw).Throughout condition) {value : Json}
    (shown : ShownOf raw value) : value.Throughout condition := by
  cases shown with
  | text value => exact Json.throughout_of_leaf (inherited.text value) rfl
  | parentSlot value number found whole =>
    have given := inherited.throughout_getOrNull all "parentSlot"
    rw [Json.Members.getOrNull_of_some found] at given
    have converted := inherited.whole value number (given value (.itself value)) whole
    exact Json.throughout_of_leaf converted rfl
  | texts items each =>
    refine inherited.throughout_texts fun item listed => ?_
    obtain ⟨value, rfl⟩ := each item listed
    exact ⟨value, rfl, inherited.text value⟩
  | given name => exact inherited.throughout_getOrNull all name
  | listed name items inside =>
    exact inherited.throughout_items (inherited.throughout_getOrNull all name) inside

/-- What holds throughout a result holds throughout the JSON of its block, if it holds of the names
that the block has for itself. -/
theorem throughout_toJson {condition : Json → Prop} (inherited : Json.Inherited condition)
    {slot raw level : Json} {block : Block} (decoded : decode slot raw level = .ok block)
    (all : raw.Throughout condition) (itself : condition block.toJson) :
    block.toJson.Throughout condition := by
  obtain ⟨members, rfl⟩ := exists_members_of_decode decoded
  have given := (decode_object_eq_ok_iff slot level members block).mp decoded
  refine (Json.throughout_object_iff _ _).mpr ⟨itself, fun member listed => ?_⟩
  exact (shownOf_members given listed).throughout inherited all

theorem isEncodable_names (block : Block) : block.toJson.IsEncodable := by
  intro member listed
  have offered : ∀ name ∈ shownNames, name.IsProper := by
    simp [shownNames]
  exact offered member.1 ((names_sublist block).subset (List.mem_map_of_mem listed))

end Block

namespace Wire

/-- Where the replies are the same, so is the next one; only a node that is not to be reached is
named by its line. -/
theorem next_eq_answer {first second : Wire} (same : first.replies = second.replies) {status : Int}
    {body : List UInt8} (answered : first.next.1 = .answer status body) :
    second.next.1 = .answer status body := by
  unfold next at answered ⊢
  rw [← same]
  cases left : first.replies with
  | nil =>
    rw [left] at answered
    cases answered
  | cons reply rest =>
    rw [left] at answered
    exact answered

end Wire

section Serving

variable [Json.Nesting]

theorem fetchBlock_overHttp_eq_ok_iff (slot : Json) (options : Options) (client : Wire)
    (block : Block) :
    (fetchBlock Wire.transport slot options client).result = .ok block ↔
      ∃ config raw, options.config = .ok config ∧
        client.next.1.receive blockMethod client.line.url = .ok raw ∧
        Block.decode slot raw options.level = .ok block := by
  cases built : options.config with
  | error failure =>
    rw [fetchBlock_of_rejected _ slot options failure built]
    exact ⟨nofun, nofun⟩
  | ok config =>
    rw [fetchBlock_of_accepted _ slot options config built]
    dsimp only
    rw [Result.bind_eq_ok_iff]
    constructor
    · rintro ⟨raw, received, decoded⟩
      exact ⟨config, raw, rfl, received, decoded⟩
    · rintro ⟨_, raw, _, received, decoded⟩
      exact ⟨raw, received, decoded⟩

/-- What is read of the body of a reply has no lone halves. -/
def Reply.IsProper (reply : Reply) : Prop :=
  ∀ status body members, reply = .answer status body → Holds body members →
    (Json.object members).Throughout Json.IsEncodable

theorem Reply.IsProper.receive {reply : Reply} (proper : reply.IsProper) {method url : String}
    {raw : Json} (received : reply.receive method url = .ok raw) :
    raw.Throughout Json.IsEncodable := by
  obtain ⟨body, members, answered, holds, -, rfl⟩ := (receive_eq_ok_iff _ _ _ _).mp received
  have all := proper _ body members answered holds
  exact Json.inherited_isEncodable.throughout_getOrNull all "result"

namespace Api.Site

theorem replies_ensureClient (url : String) (timeout : Json) (site : Site Wire) :
    (ensureClient (overHttp url timeout) site).node.node.replies = site.node.replies := by
  obtain ⟨node, installed⟩ := site
  cases installed <;> rfl

/-- The service over HTTP answers with the block that a client of the same reply would fetch. -/
theorem serve_ofBlock (url : String) (timeout : Json) {request : Request} {slot : Int}
    {options : Options} (asked : request.Asks slot options) (site : Site Wire) {client : Wire}
    (sameReply : client.next.1 = site.node.next.1) {block : Block}
    (fetched : (fetchBlock Wire.transport (.int slot) options client).result = .ok block) :
    (serve (overHttp url timeout) request site).result = .ok (.ofBlock block) := by
  obtain ⟨config, raw, accepted, received, decoded⟩ :=
    (fetchBlock_overHttp_eq_ok_iff _ _ _ _).mp fetched
  obtain ⟨body, members, answered, told⟩ := (Reply.receive_eq_ok_iff _ _ _ _).mp received
  have ready := Wire.next_eq_answer (replies_ensureClient url timeout site).symm
    (sameReply.symm.trans answered)
  have again (url : String) :
      Reply.receive blockMethod url (.answer Reply.success body) = .ok raw :=
    (Reply.receive_eq_ok_iff _ _ _ _).mpr ⟨body, members, rfl, told⟩
  rw [result_serve_of_asked _ asked accepted]
  show Except.ok (Response.ofFetched
    ((Wire.next _).1.receive blockMethod _ >>= fun raw => Block.decode _ raw _)) = _
  rw [ready, again]
  exact congrArg (fun ended => Except.ok (Response.ofFetched ended)) decoded

/-- Of a block that is fetched over HTTP, only the floating-point numbers and the depth can stand
in the way of writing it. -/
theorem renderable_fetched_iff {slot : Json} {options : Options} {client : Wire}
    (proper : client.next.1.IsProper) {block : Block}
    (fetched : (fetchBlock Wire.transport slot options client).result = .ok block) :
    let shown := block.toJson.withoutReserved
    shown.Renderable ↔
      shown.Throughout Json.IsFinite ∧ shown.depth ≤ Json.Nesting.writable := by
  intro shown
  obtain ⟨config, raw, accepted, received, decoded⟩ :=
    (fetchBlock_overHttp_eq_ok_iff _ _ _ _).mp fetched
  have short := Block.throughout_toJson Json.inherited_isShort decoded
    (Json.isShort_of_receive received) trivial
  have encodable := Block.throughout_toJson Json.inherited_isEncodable decoded
    (proper.receive received) block.isEncodable_names
  constructor
  · intro renderable
    exact ⟨renderable.finite, renderable.depth⟩
  · rintro ⟨finite, depth⟩
    exact ⟨Json.isShort_withoutReserved short, finite, Json.isEncodable_withoutReserved encodable,
      depth⟩

/-- The service passes a block that can be fetched on exactly when all numbers in it are finite and
it is no deeper than what can be written, members with reserved names apart. Any other block is an
internal error. Texts with lone halves are left aside. -/
theorem serve_finite (url : String) (timeout : Json) (request : Request) (slot : Int)
    (options : Options) (site : Site Wire) (client : Wire) (block : Block)
    (asked : request.Asks slot options) (sameReply : client.next.1 = site.node.next.1)
    (proper : client.next.1.IsProper)
    (fetched : (fetchBlock Wire.transport (.int slot) options client).result = .ok block) :
    let shown := block.toJson.withoutReserved
    let passes := shown.Throughout Json.IsFinite ∧ shown.depth ≤ Json.Nesting.writable
    ∃ response, (serve (overHttp url timeout) request site).result = .ok response ∧
      (response.status = 200 ↔ passes) ∧
      (passes → response.Carries 200 shown) ∧
      (¬ passes → response = .internalError) := by
  intro shown passes
  have written := renderable_fetched_iff proper fetched
  have carried (passed : passes) : (Response.ofBlock block).Carries 200 shown :=
    Response.ofJson_carries 200 (written.mpr passed)
  have failed (other : ¬ passes) : Response.ofBlock block = .internalError :=
    Response.ofJson_of_not_renderable 200 fun renderable => other (written.mp renderable)
  refine ⟨.ofBlock block, serve_ofBlock url timeout asked site sameReply fetched,
    ⟨fun passed => ?_, fun passed => (carried passed).status⟩, carried, failed⟩
  by_contra other
  rw [failed other] at passed
  cases passed

end Api.Site

end Serving

namespace Api.Site

/-- The text of an answer with a block. Its only transaction is a number that is too large to be
finite. -/
def overflownText : List Char :=
  "\x7b\"result\":\x7b\"blockhash\":\"".toList ++ List.replicate 32 '1' ++
    "\",\"previousBlockhash\":\"".toList ++ List.replicate 32 '1' ++
    "\",\"parentSlot\":4,".toList ++ "\"transactions\":[1e999]\x7d\x7d".toList

def overflownClient : Wire :=
  ⟨Line.start "http://localhost:8899" false .null,
    [.answer Reply.success (Utf8.spelling overflownText)]⟩

def overflownResult : Json.Members :=
  [("blockhash", .text Digest.prunedText), ("previousBlockhash", .text Digest.prunedText),
    ("parentSlot", .int 4), ("transactions", .array [.float (.infinite false)])]

theorem holds_overflown :
    Reply.Holds (Utf8.spelling overflownText) [("result", .object overflownResult)] := by
  have letters : overflownText.all (fun character => !Text.isBlankLetter character) = true := by
    decide +kernel
  have solid : ∀ character ∈ overflownText, Text.isBlankLetter character = false := by
    intro character inside
    exact Bool.not_eq_true' _ |>.mp (List.all_eq_true.mp letters character inside)
  have read : Json.read overflownText =
      .ok (.object [("result", .object overflownResult)]) := by
    cbv
  refine ⟨overflownText, ?_, read⟩
  rw [Utf8.strip_spelling, Text.strip_of_solid solid]
  exact (Utf8.decode_eq_ok_iff _ _).mpr rfl

theorem overflownClient_isProper : overflownClient.next.1.IsProper := by
  intro status body members answered holds
  cases answered
  rw [holds.unique holds_overflown]
  have text (value : String) : (Json.text value).Throughout Json.IsEncodable :=
    Json.throughout_of_leaf (Text.isProper_proper value) rfl
  have int (number : Int) : (Json.int number).Throughout Json.IsEncodable :=
    Json.throughout_of_leaf trivial rfl
  have float (number : Double) : (Json.float number).Throughout Json.IsEncodable :=
    Json.throughout_of_leaf trivial rfl
  simp [overflownResult, Json.throughout_object_iff, Json.throughout_array_iff, Json.IsEncodable,
    text, int, float]

def overflownBlock (details : Details) : Block :=
  { blockhash := Digest.zeroHash
    previousBlockhash := Digest.zeroHash
    parentSlot := .int 4
    details := details }

theorem fetchBlock_overflown {options : Options} {config : Config}
    (accepted : options.config = .ok config) (details : Details)
    (read : Details.decode options.level overflownResult = .ok details) :
    (fetchBlock Wire.transport (.int 5) options overflownClient).result =
      .ok (overflownBlock details) := by
  refine (fetchBlock_overHttp_eq_ok_iff _ _ _ _).mpr
    ⟨config, .object overflownResult, accepted, ?_, ?_⟩
  · exact (Reply.receive_eq_ok_iff _ _ _ _).mpr ⟨_, _, rfl, holds_overflown, rfl, rfl⟩
  · rw [Block.decode_object_eq_ok_iff]
    refine ⟨?_, ?_, ⟨.int 4, 4, rfl, rfl, rfl⟩, read, rfl, rfl, rfl⟩
    · exact congrArg (fun spelling : String => some (Json.text spelling)) Digest.text_zeroHash.symm
    · exact congrArg (fun spelling : String => some (Json.text spelling)) Digest.text_zeroHash.symm

/-- Without its transactions the block is passed on. -/
theorem serve_finite_no_details :
    let request := Request.get "/blocks/5" "transaction_details=none"
    let options : Options := { transactionDetails := .text "none" }
    let block := overflownBlock .none
    (request.Asks 5 options ∧ overflownClient.next.1.IsProper ∧
      (fetchBlock Wire.transport (.int 5) options overflownClient).result = .ok block) ∧
      ∃ response, (serve (overHttp "http://localhost:8899" .null) request
        ⟨overflownClient, false⟩).result = .ok response ∧
        response.Carries 200 block.toJson.withoutReserved := by
  intro request options block
  have asked : request.Asks 5 options := by
    have parameters : request.target.parameters = [("transaction_details", "none")] := by
      decide +kernel
    refine ⟨method_get _ _, "5", rfl, by decide, by decide, ?_⟩
    unfold readRequest Target.parameter?
    rw [parameters]
    rfl
  have accepted : options.config = .ok ⟨.json, some (.text "none"), none, none, none⟩ := rfl
  have fetched := fetchBlock_overflown accepted .none rfl
  have finite : block.toJson.Throughout Json.IsFinite := by
    have text (value : String) : (Json.text value).Throughout Json.IsFinite :=
      Json.throughout_of_leaf trivial rfl
    have int (number : Int) : (Json.int number).Throughout Json.IsFinite :=
      Json.throughout_of_leaf trivial rfl
    have null : Json.null.Throughout Json.IsFinite :=
      Json.throughout_of_leaf trivial rfl
    simp [block, overflownBlock, Block.toJson, Block.members, Block.optionalMembers,
      Block.transactions, Block.signatures?, Options.ifSet, Json.isNull, Config.optional,
      Json.throughout_object_iff, Json.IsFinite, text, int, null]
  have depth : block.toJson.withoutReserved.depth ≤ Json.Nesting.writable := by
    decide +kernel
  have passes := And.intro (Json.isFinite_withoutReserved finite) depth
  obtain ⟨response, served, _, carried, _⟩ := serve_finite "http://localhost:8899" .null request 5
    options ⟨overflownClient, false⟩ overflownClient block asked rfl overflownClient_isProper
    fetched
  exact ⟨⟨asked, overflownClient_isProper, fetched⟩, response, served, carried passes⟩

/-- With them it is fetched as well, but is not passed on. -/
theorem serve_overflown :
    let request := Request.get "/blocks/5" ""
    request.Asks 5 {} ∧ overflownClient.next.1.IsProper ∧
      (fetchBlock Wire.transport (.int 5) {} overflownClient).result =
        .ok (overflownBlock (.full (.array [.float (.infinite false)]))) ∧
      ¬ ∃ response, (serve (overHttp "http://localhost:8899" .null) request
        ⟨overflownClient, false⟩).result = .ok response ∧ response.status = 200 := by
  intro request
  have asked : request.Asks 5 {} := ⟨method_get _ _, "5", rfl, by decide, by decide, rfl⟩
  have accepted : Options.config {} = .ok ⟨.json, none, none, none, none⟩ := rfl
  have fetched :=
    fetchBlock_overflown accepted (.full (.array [.float (.infinite false)])) rfl
  have served :=
    serve_ofBlock "http://localhost:8899" .null asked ⟨overflownClient, false⟩ rfl fetched
  have failed :
      (Response.ofBlock (overflownBlock (.full (.array [.float (.infinite false)])))).status =
        500 := by
    decide +kernel
  refine ⟨asked, overflownClient_isProper, fetched, ?_⟩
  rintro ⟨response, passed, status⟩
  rw [served] at passed
  cases passed
  rw [failed] at status
  cases status

end Api.Site

end BlockReader
