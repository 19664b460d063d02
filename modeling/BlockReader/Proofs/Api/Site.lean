import BlockReader.Api.Site
import BlockReader.Proofs.Api.Response
import BlockReader.Proofs.Block.Matching
import BlockReader.Proofs.Fetch
import BlockReader.Proofs.Json.Kept
import BlockReader.Proofs.Options
set_option autoImplicit false

namespace BlockReader.Api

variable {σ : Type}

namespace Route

def blockPath (spelling : String) : List Char :=
  "/blocks/".toList ++ spelling.toList

theorem splitOn_eq_self_iff (characters : List Char) :
    Text.splitOn '/' characters = [characters] ↔ '/' ∉ characters := by
  constructor
  · intro whole member
    obtain ⟨before, after, rfl⟩ := List.append_of_mem member
    have parts := congrArg List.length (List.splitOn_append_cons_self (a := '/') before after)
    rw [Text.splitOn, ← List.splitOn] at whole
    rw [whole, List.length_append] at parts
    have first := List.length_pos_of_ne_nil (List.splitOn_ne_nil '/' before)
    have second := List.length_pos_of_ne_nil (List.splitOn_ne_nil '/' after)
    rw [List.length_singleton] at parts
    omega
  · exact List.splitOn_eq_singleton

theorem splitOn_blockPath (spelling : String) :
    Text.splitOn '/' (blockPath spelling) =
      [] :: "blocks".toList :: Text.splitOn '/' spelling.toList := by
  have noneBefore : '/' ∉ ([] : List Char) := List.not_mem_nil
  have noneInside : '/' ∉ "blocks".toList := by decide
  have first := List.splitOn_append_cons_self_of_not_mem noneBefore
    ("blocks".toList ++ '/' :: spelling.toList)
  have second := List.splitOn_append_cons_self_of_not_mem noneInside spelling.toList
  exact first.trans (congrArg ([] :: ·) second)

theorem eq_blockPath_of_splitOn {path slot : List Char}
    (parts : Text.splitOn '/' path = [[], "blocks".toList, slot]) :
    path = blockPath (String.ofList slot) := by
  have whole : ['/'].intercalate (Text.splitOn '/' path) = path := List.intercalate_splitOn '/'
  rw [parts, List.intercalate_cons_cons, List.intercalate_cons_cons,
    List.intercalate_singleton] at whole
  have spelled : path = "/blocks/".toList ++ slot := by
    rw [← whole]
    rfl
  rw [spelled]
  exact congrArg ("/blocks/".toList ++ ·) (@String.toList_ofList slot).symm

theorem not_mem_of_splitOn {path slot : List Char}
    (parts : Text.splitOn '/' path = [[], "blocks".toList, slot]) : '/' ∉ slot := by
  rw [eq_blockPath_of_splitOn parts, splitOn_blockPath, @String.toList_ofList slot] at parts
  exact (splitOn_eq_self_iff slot).mp (List.tail_eq_of_cons_eq (List.tail_eq_of_cons_eq parts))

theorem not_isPage_home (spelling : String) : isPage ['/'] (blockPath spelling) = false := rfl

/-- The paths on which blocks are served. -/
theorem ofPath?_eq_block_iff (path : List Char) (spelling : String) :
    ofPath? path = some (.block spelling) ↔
      path = blockPath spelling ∧ spelling.toList ≠ [] ∧ '/' ∉ spelling.toList := by
  constructor
  · intro routed
    unfold ofPath? at routed
    split at routed
    · cases routed
    · split at routed
      · rename_i segment slot parts
        split at routed
        · rename_i good
          cases routed
          rw [Bool.and_eq_true, decide_eq_true_iff, Bool.not_eq_true', List.isEmpty_eq_false_iff]
            at good
          obtain ⟨rfl, nonempty⟩ := good
          rw [@String.toList_ofList slot]
          exact ⟨eq_blockPath_of_splitOn parts, nonempty, not_mem_of_splitOn parts⟩
        · cases routed
      · cases routed
  · rintro ⟨rfl, nonempty, whole⟩
    rw [ofPath?, not_isPage_home, splitOn_blockPath, (splitOn_eq_self_iff _).mpr whole]
    simp [nonempty]

end Route

/-- A request for the block at a slot: it is for reading, its path is that of a block, and the slot
and the options are what they should be. -/
structure Request.Asks (request : Request) (slot : Int) (options : Options) : Prop where
  method : request.method.toUpper = "GET"
  path : ∃ spelling : String, request.target.path = Route.blockPath spelling ∧
    spelling.toList ≠ [] ∧ '/' ∉ spelling.toList ∧
    readRequest spelling request.target.parameter? = .ok (slot, options)

/-- What a request asks for, if it asks for a block. -/
def Request.asked? (request : Request) : Option (Int × Options) :=
  match Route.ofPath? request.target.path with
  | some (.block spelling) =>
    if request.method.toUpper = "GET" then
      (readRequest spelling request.target.parameter?).toOption
    else none
  | _ => none

theorem Request.asks_iff (request : Request) (slot : Int) (options : Options) :
    request.Asks slot options ↔ request.asked? = some (slot, options) := by
  constructor
  · rintro ⟨method, spelling, path, nonempty, whole, read⟩
    have routed := (Route.ofPath?_eq_block_iff _ spelling).mpr ⟨path, nonempty, whole⟩
    rw [asked?, routed]
    dsimp only
    rw [if_pos method, read]
    rfl
  · intro asked
    unfold asked? at asked
    split at asked
    · rename_i spelling routed
      obtain ⟨path, nonempty, whole⟩ := (Route.ofPath?_eq_block_iff _ spelling).mp routed
      split at asked
      · rename_i method
        refine ⟨method, spelling, path, nonempty, whole, ?_⟩
        cases read : readRequest spelling request.target.parameter? with
        | ok parameters =>
          rw [read] at asked
          exact congrArg Except.ok (Option.some.inj asked)
        | error violations =>
          rw [read] at asked
          cases asked
      · cases asked
    · cases asked

/-- The parameters that are passed on as they are given. -/
theorem texts_of_readRequest {spelling : String} {parameter? : String → Option String}
    {slot : Int} {options : Options}
    (read : readRequest spelling parameter? = .ok (slot, options)) :
    options.encoding = ((parameter? "encoding").map fun text => Json.text text).getD .null ∧
      options.transactionDetails =
        ((parameter? "transaction_details").map fun text => Json.text text).getD .null := by
  unfold readRequest at read
  dsimp only at read
  split at read
  · cases read
    exact ⟨rfl, rfl⟩
  · cases read

theorem isShort_of_readPlain {characters : List Char} {number : Int}
    (read : readPlain characters = .ok number) : (Json.int number).IsShort := by
  unfold readPlain at read
  split at read
  split at read
  · cases read
  · rename_i good
    have few := Nat.le_of_not_lt (of_decide_eq_false (Bool.or_eq_false_iff.mp
      (Bool.eq_false_of_not_eq_true good)).2)
    rw [← Except.ok.inj read]
    exact Numeral.digitCount_ofDigits_le _ (Nat.le_trans (List.length_filter_le _ _) few)

/-- A request that is read asks for a slot that can be written. -/
theorem isShort_of_readRequest {spelling : String} {parameter? : String → Option String}
    {slot : Int} {options : Options}
    (read : readRequest spelling parameter? = .ok (slot, options)) :
    (Json.int slot).IsShort := by
  unfold readRequest at read
  dsimp only at read
  split at read
  · rename_i number _ _ readNumber _ _
    cases read
    unfold readSlot readInteger at readNumber
    rw [Result.mapError_eq_ok_iff] at readNumber
    split at readNumber
    · cases readNumber
    · split at readNumber
      · exact isShort_of_readPlain readNumber
      · cases readNumber
  · cases read

theorem Request.Asks.isShort {request : Request} {slot : Int} {options : Options}
    (asked : request.Asks slot options) : (Json.int slot).IsShort := by
  obtain ⟨_, spelling, _, _, _, read⟩ := asked
  exact isShort_of_readRequest read

/-- The events that tell that a call failed. -/
def failureRecords (slot : Int) : Except Failure Block → List Event
  | .ok _ => []
  | .error failure =>
    if failure.isTransport then
      match Site.callRecord slot failure with
      | .ok record => [.logged ⟨.error, .api, record⟩]
      | .error _ => []
    else []

/-- The calls that a request leads to: one, with the slot and the configuration for its options, if
it asks for a block with options that can be sent. -/
def Request.calls (request : Request) : List Event :=
  match request.asked? with
  | some (slot, options) =>
    match options.config with
    | .ok config => [.called blockMethod (config.params (.int slot))]
    | .error _ => []
  | none => []

theorem Request.Asks.calls_of_accepted {request : Request} {slot : Int} {options : Options}
    (asked : request.Asks slot options) {config : Config} (accepted : options.config = .ok config) :
    request.calls = [.called blockMethod (config.params (.int slot))] := by
  rw [calls, (request.asks_iff slot options).mp asked]
  dsimp only
  rw [accepted]

theorem Request.Asks.calls_of_rejected {request : Request} {slot : Int} {options : Options}
    (asked : request.Asks slot options) {failure : Failure}
    (rejected : options.config = .error failure) : request.calls = [] := by
  rw [calls, (request.asks_iff slot options).mp asked]
  dsimp only
  rw [rejected]

theorem unlogged_failureRecords (slot : Int) (fetched : Except Failure Block) :
    unlogged (failureRecords slot fetched) = [] := by
  cases fetched with
  | ok block => rfl
  | error failure =>
    rw [failureRecords]
    split
    · split <;> rfl
    · rfl

/-- Fetching a block for a request makes the calls of the request and takes their answers. -/
theorem Request.Asks.fetchBlock_calls {request : Request} {slot : Int} {options : Options}
    (asked : request.Asks slot options) (script : Script) :
    let fetched := fetchBlock (Script.transport true) (.int slot) options script
    fetched.node = script.after request.calls.length ∧
      unlogged fetched.events = request.calls := by
  intro fetched
  cases built : options.config with
  | ok config =>
    have outcome := fetchBlock_script true (.int slot) options config built script
    rw [asked.calls_of_accepted built, show fetched = _ from outcome]
    refine ⟨rfl, ?_⟩
    dsimp only
    rw [unlogged_append, unlogged_requestEvents]
    rfl
  | error failure =>
    have outcome := fetchBlock_of_rejected (Script.transport true) (.int slot) options failure built
      script
    rw [asked.calls_of_rejected built, show fetched = _ from outcome]
    exact ⟨rfl, rfl⟩

/-- The encoding of a request is a text if it is unknown. -/
theorem Request.Asks.exists_encoding {request : Request} {slot : Int} {options : Options}
    (asked : request.Asks slot options) (unknown : options.HasUnknownEncoding) :
    ∃ name : String, options.encoding = .text name := by
  obtain ⟨_, spelling, _, _, _, read⟩ := asked
  have counts := unknown.truthy
  rw [(texts_of_readRequest read).1] at counts ⊢
  cases given : request.target.parameter? "encoding" with
  | none =>
    rw [given] at counts
    cases counts
  | some name => exact ⟨name, rfl⟩

section Serving

variable [Json.Nesting]

namespace Site

/-- Without a record of a failed call there is no message to answer with either. -/
theorem ofFailure_of_no_record {slot : Int} (short : (Json.int slot).IsShort) {failure : Failure}
    (ofCall : failure.isTransport = true) {fault : NumberFault}
    (unwritten : callRecord slot failure = .error fault) :
    Response.ofFailure failure = .internalError := by
  obtain ⟨shown, written⟩ := (decimal_isOk_iff slot).mpr short
  simp only [Response.ofFailure, Response.statusOf?_of_isTransport ofCall]
  cases said : failure.message with
  | error fault => rfl
  | ok message =>
    rw [callRecord, written, said] at unwritten
    cases unwritten

/-- A client that is installed fetches the block once, in the state that its transport is in. -/
theorem serveBlock_of_installed (backend : Backend σ) {slot : Int}
    (short : (Json.int slot).IsShort) (options : Options) (node : σ) :
    let fetched := fetchBlock backend.transport (.int slot) options node
    serveBlock backend slot options ⟨node, true⟩ =
      ⟨.ok (.ofFetched fetched.result), ⟨fetched.node, true⟩,
        fetched.events ++ failureRecords slot fetched.result⟩ := by
  intro fetched
  unfold serveBlock
  rw [Task.bind_of_ok (ensureClient backend) _ ⟨node, true⟩ () rfl,
    Task.bind_of_ok _ _ _ fetched.result rfl]
  show Outcome.mk _ _ ([] ++ (fetched.events ++ _)) = _
  rw [List.nil_append]
  cases fetched.result with
  | ok block => rfl
  | error failure =>
    cases ofCall : failure.isTransport with
    | true =>
      simp only [failureRecords, ofCall, if_true]
      cases recorded : callRecord slot failure with
      | ok record => rfl
      | error fault =>
        rw [Response.ofFetched, ofFailure_of_no_record short ofCall recorded]
        rfl
    | false =>
      simp only [failureRecords, ofCall, Bool.false_eq_true, if_false]
      rfl

theorem serveRoute_block (backend : Backend σ) (target : Target) (spelling : String) :
    serveRoute backend target (.block spelling) =
      match readRequest spelling target.parameter? with
      | .ok (slot, options) => serveBlock backend slot options
      | .error violations => pure (.ofViolations violations) := rfl

theorem serve_of_asked (backend : Backend σ) {request : Request} {slot : Int} {options : Options}
    (asked : request.Asks slot options) (site : Site σ) :
    serve backend request site = serveBlock backend slot options site := by
  obtain ⟨method, spelling, path, nonempty, whole, read⟩ := asked
  have routed := (Route.ofPath?_eq_block_iff _ spelling).mpr ⟨path, nonempty, whole⟩
  unfold serve
  rw [routed, method]
  dsimp only
  rw [if_pos rfl, serveRoute_block, read, Task.bind_pure]
  dsimp only
  obtain ⟨result, node, events⟩ := serveBlock backend slot options site
  cases result <;> rfl

/-- Any other request is answered without the client. -/
theorem serve_of_not_asked (backend : Backend σ) {request : Request}
    (notAsked : request.asked? = none) (site : Site σ) :
    ∃ response, serve backend request site = ⟨.ok response, site, []⟩ := by
  unfold Request.asked? at notAsked
  unfold serve
  dsimp only
  cases routed : Route.ofPath? request.target.path with
  | none => cases redirection? request.target <;> exact ⟨_, rfl⟩
  | some route =>
    dsimp only
    rw [routed] at notAsked
    by_cases method : request.method.toUpper = "GET"
    · rw [if_pos method]
      cases route with
      | home => exact ⟨_, rfl⟩
      | block spelling =>
        dsimp only at notAsked
        rw [if_pos method] at notAsked
        rw [serveRoute_block]
        cases read : readRequest spelling request.target.parameter? with
        | ok parameters =>
          rw [read] at notAsked
          cases notAsked
        | error violations => exact ⟨_, rfl⟩
    · rw [if_neg method]
      exact ⟨_, rfl⟩

def serveEach (backend : Backend σ) : List Request → Task (Site σ) (List Response)
  | [] => pure []
  | request :: later => do
    let response ← serve backend request
    let responses ← serveEach backend later
    pure (response :: responses)

end Site

namespace Site

/-- One request: the transport makes the calls of the request, and no others. -/
theorem serve_script (script : Script) (request : Request) :
    ∃ response events, serve scripted request ⟨script, true⟩ =
        ⟨.ok response, ⟨script.after request.calls.length, true⟩, events⟩ ∧
      unlogged events = request.calls ∧
      ∀ slot options, request.Asks slot options → response =
        .ofFetched (fetchBlock (Script.transport true) (.int slot) options script).result := by
  cases asked : request.asked? with
  | none =>
    obtain ⟨response, served⟩ := serve_of_not_asked scripted asked ⟨script, true⟩
    have calls : request.calls = [] := by
      rw [Request.calls, asked]
    refine ⟨response, [], ?_, ?_, ?_⟩
    · rw [served, calls]
      rfl
    · rw [calls]
      rfl
    · intro slot options asks
      rw [(request.asks_iff slot options).mp asks] at asked
      cases asked
  | some parameters =>
    obtain ⟨slot, options⟩ := parameters
    have asks := (request.asks_iff slot options).mpr asked
    obtain ⟨left, made⟩ := asks.fetchBlock_calls script
    have served := (serve_of_asked scripted asks ⟨script, true⟩).trans
      (serveBlock_of_installed scripted asks.isShort options script)
    rw [show (fetchBlock scripted.transport (.int slot) options script).node = _ from left]
      at served
    refine ⟨_, _, served, ?_, ?_⟩
    · rw [unlogged_append, unlogged_failureRecords, List.append_nil]
      exact made
    · intro other others same
      rw [request.asks_iff, asked] at same
      cases same
      rfl

theorem serveEach_cons (backend : Backend σ) {request : Request} {site next : Site σ}
    {response : Response} {events : List Event}
    (served : serve backend request site = ⟨.ok response, next, events⟩) (later : List Request) :
    let after := serveEach backend later next
    serveEach backend (request :: later) site =
      ⟨after.result.map (response :: ·), after.node, events ++ after.events⟩ := by
  intro after
  rw [serveEach, Task.bind_of_ok _ _ site response (congrArg Outcome.result served), served,
    Task.bind_pure]

end Site

/-- What the answer to a request for a block is, when the transport is in the state of a script. -/
structure IsAnswered (script : Script) (request : Request) (slot : Int) (options : Options)
    (response : Response) : Prop where
  /-- It tells how fetching the block ended. -/
  reports : response.Reports (fetchBlock (Script.transport true) (.int slot) options script).result
  /-- An encoding that the node does not offer is refused without a call. -/
  refused : options.HasUnknownEncoding → request.calls = [] ∧
    ∃ message : String, (Failure.unsupportedEncoding options.encoding).message = .ok message ∧
      response.Carries 400 (Response.report message)
  /-- Any other request is one call. -/
  called : ¬ options.HasUnknownEncoding → ∃ config, options.config = .ok config ∧
    request.calls = [.called blockMethod (config.params (.int slot))]

theorem Request.Asks.isAnswered {request : Request} {slot : Int} {options : Options}
    (asked : request.Asks slot options) (script : Script) :
    IsAnswered script request slot options
      (.ofFetched (fetchBlock (Script.transport true) (.int slot) options script).result) where
  reports := Response.ofFetched_reports _
  refused := by
    intro unknown
    obtain ⟨name, named⟩ := asked.exists_encoding unknown
    have written := Failure.message_unsupportedEncoding_text name
    have rejected := Options.config_of_unknownEncoding unknown
      (by rw [named]; exact nofun) (by rw [named]; exact nofun)
    refine ⟨asked.calls_of_rejected rejected, _, by rw [named, written], ?_⟩
    rw [fetchBlock_of_rejected _ _ options _ rejected, named,
      Failure.raised_of_hasMessage ⟨_, written⟩]
    exact (Response.ofFailure_of_status rfl).told _ written
  called := by
    intro notUnknown
    obtain ⟨config, accepted⟩ := options.exists_config_iff.mpr notUnknown
    exact ⟨config, accepted, asked.calls_of_accepted accepted⟩

/-- Any number of requests to a service whose client is installed. Each has one response; one that
asks for a block is answered as fetching that block ends, once the answers to the calls of the
requests before it are used up. The calls are those of the requests, in their order. -/
theorem serveEach_reports (script : Script) (requests : List Request) :
    let ended := Site.serveEach scripted requests ⟨script, true⟩
    let calls := requests.flatMap Request.calls
    ended.node = ⟨script.after calls.length, true⟩ ∧
    unlogged ended.events = calls ∧
    ∃ responses, ended.result = .ok responses ∧ responses.length = requests.length ∧
      ∀ before request later slot options, requests = before ++ request :: later →
        request.Asks slot options →
        ∃ response, responses[before.length]? = some response ∧
          IsAnswered (script.after (before.flatMap Request.calls).length) request slot options
            response := by
  induction requests generalizing script with
  | nil =>
    refine ⟨rfl, rfl, [], rfl, rfl, ?_⟩
    intro before request later slot options impossible
    cases before <;> cases impossible
  | cons first rest ih =>
    obtain ⟨response, events, served, made, answered⟩ := Site.serve_script script first
    obtain ⟨left, madeLater, responses, ended, length, answeredLater⟩ :=
      ih (script.after first.calls.length)
    rw [Site.serveEach_cons scripted served rest]
    refine ⟨?_, ?_, response :: responses, ?_, congrArg Nat.succ length, ?_⟩
    · rw [List.flatMap_cons, List.length_append, ← Script.after_after]
      exact left
    · rw [List.flatMap_cons, unlogged_append, made, madeLater]
    · exact congrArg (Except.map (response :: ·)) ended
    · intro before request later slot options split asked
      cases before with
      | nil =>
        cases split
        refine ⟨response, rfl, ?_⟩
        rw [answered slot options asked]
        exact asked.isAnswered script
      | cons earlier before =>
        cases split
        obtain ⟨found, listed, described⟩ :=
          answeredLater before request later slot options rfl asked
        refine ⟨found, listed, ?_⟩
        rw [List.flatMap_cons, List.length_append, ← Script.after_after]
        exact described

end Serving

def Request.get (path query : String) : Request :=
  ⟨"GET", ⟨"http://localhost:8000".toList, path.toList, query.toList⟩⟩

theorem method_get (path query : String) : (Request.get path query).method.toUpper = "GET" := by
  show "GET".toUpper = "GET"
  decide +kernel

/-- A request with an unknown encoding leaves the only answer, null, to the request behind it. -/
theorem serveEach_reports_unconfirmed :
    let refused := Request.get "/blocks/7" "encoding=hex"
    let unconfirmed := Request.get "/blocks/8" ""
    (refused.Asks 7 { encoding := .text "hex" } ∧ unconfirmed.Asks 8 {}) ∧
      ∃ first second,
        (Site.serveEach scripted [refused, unconfirmed] ⟨⟨[.ok .null], 0⟩, true⟩).result =
          .ok [first, second] ∧
        first.Carries 400 (Response.report "provided encoding is not supported: hex") ∧
        second.Carries 404 (Response.report "block not confirmed: 8") := by
  intro refused unconfirmed
  have asksRefused : refused.Asks 7 { encoding := .text "hex" } := by
    have parameters : (Request.get "/blocks/7" "encoding=hex").target.parameters =
        [("encoding", "hex")] := by
      decide +kernel
    refine ⟨method_get _ _, "7", rfl, by decide, by decide, ?_⟩
    unfold readRequest Target.parameter?
    rw [parameters]
    rfl
  have asksUnconfirmed : unconfirmed.Asks 8 {} :=
    ⟨method_get _ _, "8", rfl, by decide, by decide, rfl⟩
  have unknown : Options.HasUnknownEncoding { encoding := .text "hex" } := by
    refine ⟨by decide, ?_⟩
    intro encoding same
    refine absurd (Text.proper.inj (Json.text.inj same)) ?_
    cases encoding <;> decide
  obtain ⟨_, _, responses, ended, length, answered⟩ :=
    serveEach_reports ⟨[.ok .null], 0⟩ [refused, unconfirmed]
  obtain ⟨first, firstListed, firstIs⟩ := answered [] refused _ 7 _ rfl asksRefused
  obtain ⟨second, secondListed, secondIs⟩ :=
    answered [refused] unconfirmed _ 8 _ rfl asksUnconfirmed
  obtain ⟨noCall, message, written, carries⟩ := firstIs.refused unknown
  cases written
  refine ⟨⟨asksRefused, asksUnconfirmed⟩, first, second, ?_, carries, ?_⟩
  · obtain ⟨_, _, rfl⟩ := List.length_eq_two.mp length
    cases firstListed
    cases secondListed
    exact ended
  · refine (secondIs.reports.notConfirmed (.int 8) ?_).told _ rfl
    rw [List.flatMap_cons, noCall]
    rfl

/-- Lone halves end a request in an internal error, be they in the message of the node's own error
or in a block whose numbers can all be written. -/
theorem serve_lone_half :
    let request := Request.get "/blocks/5" ""
    let serve (answer : Answer) := (Site.serve scripted request ⟨⟨[answer], 0⟩, true⟩).result
    let refusal : Failure := .rpc (.int 1) (.text (Text.ofHalf 0)) .null
    let raw : Json := .object
      [("blockhash", .text Digest.prunedText), ("previousBlockhash", .text Digest.prunedText),
        ("parentSlot", .int 4), ("transactions", .array [.text (Text.ofHalf 0)])]
    let block : Block :=
      { blockhash := Digest.zeroHash
        previousBlockhash := Digest.zeroHash
        parentSlot := .int 4
        details := .full (.array [.text (Text.ofHalf 0)]) }
    request.Asks 5 {} ∧
      (ErrorClass.Derives refusal.errorClass .transport ∧
        serve (.error refusal) = .ok .internalError) ∧
      Block.decode (.int 5) raw (.text "full") = .ok block ∧
        block.toJson.Throughout Json.IsShort ∧ block.toJson.Throughout Json.IsFinite ∧
        serve (.ok raw) = .ok .internalError := by
  intro request serve refusal raw block
  have asked : request.Asks 5 {} := ⟨method_get _ _, "5", rfl, by decide, by decide, rfl⟩
  have fetched (answer : Answer) : serve answer = .ok (.ofFetched
      (answer >>= fun raw => Block.decode (.int 5) raw (.text "full"))) := by
    have run := fetchBlock_script true (.int 5) {} _ rfl ⟨[answer], 0⟩
    show (Site.serve _ _ _).result = _
    rw [Site.serve_of_asked scripted asked,
      Site.serveBlock_of_installed scripted asked.isShort {} ⟨[answer], 0⟩]
    exact congrArg (fun ended => Except.ok (Response.ofFetched ended)) (congrArg Outcome.result run)
  have ofCall : ErrorClass.Derives refusal.errorClass .transport :=
    (ErrorClass.isA_iff _ _).mp rfl
  have decoded : Block.decode (.int 5) raw (.text "full") = .ok block := by
    rw [Block.decode_object_eq_ok_iff]
    exact ⟨congrArg (fun spelling : String => some (Json.text spelling)) Digest.text_zeroHash.symm,
      congrArg (fun spelling : String => some (Json.text spelling)) Digest.text_zeroHash.symm,
      ⟨.int 4, 4, rfl, rfl, rfl⟩, rfl, rfl, rfl, rfl⟩
  have writable (condition : Json → Prop) (null : condition .null) (four : condition (.int 4))
      (text : ∀ value, condition (.text value)) (array : ∀ items, condition (.array items))
      (object : ∀ members, condition (.object members)) : block.toJson.Throughout condition := by
    have nulls : Json.null.Throughout condition := Json.throughout_of_leaf null rfl
    have fours : (Json.int 4).Throughout condition := Json.throughout_of_leaf four rfl
    have texts (value : Text) : (Json.text value).Throughout condition :=
      Json.throughout_of_leaf (text value) rfl
    simp [block, Block.toJson, Block.members, Block.optionalMembers, Block.transactions,
      Block.signatures?, Options.ifSet, Json.isNull, Config.optional, Json.throughout_object_iff,
      Json.throughout_array_iff, object, array, nulls, fours, texts]
  have untold (message : String) : refusal.message ≠ .ok message := by
    intro written
    cases written
  refine ⟨asked, ⟨ofCall, ?_⟩, decoded, ?_, ?_, ?_⟩
  · rw [fetched]
    exact congrArg Except.ok
      (((Response.ofFetched_reports _).transport refusal rfl ofCall).untold untold)
  · have short : (Json.int 4).IsShort := Numeral.digitCount_of_small (by decide)
    exact writable _ trivial short (fun _ => trivial) (fun _ => trivial) fun _ => trivial
  · exact writable _ trivial trivial (fun _ => trivial) (fun _ => trivial) fun _ => trivial
  · have read : ((.ok raw : Answer) >>= fun raw => Block.decode (.int 5) raw (.text "full")) =
        .ok block := decoded
    rw [fetched, read]
    refine congrArg Except.ok ((Response.ofFetched_reports _).unwritten block rfl ?_)
    rw [← Json.isSome_compact?_iff]
    decide +kernel

end BlockReader.Api
