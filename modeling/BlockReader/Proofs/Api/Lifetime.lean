import BlockReader.Proofs.Transport.Numbering
import BlockReader.Proofs.Transport.Reply
import BlockReader.Proofs.Validation
set_option autoImplicit false

namespace BlockReader.Api

open Wire (numbered)

/-- What a request has the client do: fetch a block, if the request asks for one. -/
def Request.step? (request : Request) : Option Wire.Step :=
  request.asked?.map fun asked => .getBlock (.int asked.1) asked.2

theorem Request.Asks.step? {request : Request} {slot : Int} {options : Options}
    (asks : request.Asks slot options) : request.step? = some (.getBlock (.int slot) options) := by
  rw [Request.step?, (request.asks_iff slot options).mp asks]
  rfl

theorem postedIn_failureRecords (slot : Int) (fetched : Except Failure Block) :
    postedIn (failureRecords slot fetched) = [] := by
  cases fetched with
  | ok block => rfl
  | error failure =>
    rw [failureRecords]
    split
    · split <;> rfl
    · rfl

theorem filterMap_step?_eq_nil_iff (requests : List Request) :
    requests.filterMap Request.step? = [] ↔ ¬ ∃ request ∈ requests, request.asked?.isSome := by
  rw [List.filterMap_eq_nil_iff]
  constructor
  · rintro none ⟨request, listed, asked⟩
    rw [Option.map_eq_none_iff.mp (none request listed)] at asked
    cases asked
  · intro none request listed
    rw [Request.step?, Option.map_eq_none_iff, ← Option.not_isSome_iff_eq_none]
    exact fun asked => none ⟨request, listed, asked⟩

/-- Requests make a session for the first call, and post all others in it. -/
theorem sessions_lineAfter (requests : List Request) {line : Line} (fresh : line.sessions = []) :
    let after := Wire.lineAfter (requests.filterMap Request.step?) line
    after.sessions = [] ∨ after.sessions = [⟨.made, true⟩] := by
  induction requests using List.reverseRecOn with
  | nil => exact .inl fresh
  | append_singleton before request ih =>
    rw [List.filterMap_append]
    cases asks : request.step? with
    | none =>
      rw [List.filterMap_cons_none asks, List.filterMap_nil, List.append_nil]
      exact ih
    | some step =>
      rw [List.filterMap_cons_some asks, List.filterMap_nil, Wire.lineAfter_concat]
      obtain ⟨asked, _, rfl⟩ := Option.map_eq_some_iff.mp asks
      rw [Wire.Step.onLine]
      split
      · generalize Wire.lineAfter _ line = found at ih
        rcases ih with none | one
        · have notReady : found.isReady = false := by rw [Line.isReady, Line.session?, none]; rfl
          rw [Line.sent_of_not_ready notReady, none]
          exact .inr rfl
        · have ready : found.isReady = true := by rw [Line.isReady, Line.session?, one]; rfl
          rw [Line.sent_of_ready ready]
          exact .inr one
      · exact ih

/-- A line that has made one session at most closes all that it had. -/
theorem sessions_close_of_few {line : Line} (tidy : line.Tidy false)
    (few : line.sessions = [] ∨ line.sessions = [⟨.made, true⟩]) :
    line.close.sessions = line.sessions.map fun session => { session with isOpen := false } := by
  have owned : line.ownsSession = true := by
    rw [tidy.owns, Line.session?]
    rcases few with none | one
    · simp [none]
    · simp [one]
  rw [Line.close_of_owned owned, Line.closeSession_eq]
  rcases few with none | one
  · rw [none]
    rfl
  · rw [one]
    rfl

namespace Site

variable {σ : Type}

/-- The client for a request: the one that is installed, or a new one. -/
def clientFor (backend : Backend σ) (site : Site σ) : σ :=
  if site.installed then site.node else backend.renew site.node

theorem ensureClient_node (backend : Backend σ) (site : Site σ) :
    (ensureClient backend site).node = ⟨clientFor backend site, true⟩ := by
  obtain ⟨node, installed⟩ := site
  cases installed <;> rfl

section Lives

variable [Json.Nesting] (url : String) (timeout : Json)

theorem serve_of_step? {request : Request} {step : Wire.Step} (asks : request.step? = some step)
    (site : Site Wire) :
    let taken := step.task (clientFor (overHttp url timeout) site)
    ∃ response events, serve (overHttp url timeout) request site =
        ⟨.ok response, ⟨taken.node, true⟩, events⟩ ∧
      postedIn events = postedIn taken.events := by
  intro taken
  obtain ⟨⟨slot, options⟩, asked, rfl⟩ := Option.map_eq_some_iff.mp asks
  replace asked := (request.asks_iff slot options).mpr asked
  have served := serve_of_asked (overHttp url timeout) asked site
  rw [serveBlock_of_any (overHttp url timeout) asked.isShort, ensureClient_node] at served
  let fetched := fetchBlock Wire.transport (.int slot) options
    (clientFor (overHttp url timeout) site)
  have same : taken = ⟨.ok (), fetched.node, fetched.events⟩ :=
    Wire.Step.task_getBlock (.int slot) options _
  rw [same]
  refine ⟨.ofFetched fetched.result, fetched.events ++ failureRecords slot fetched.result, served,
    ?_⟩
  rw [postedIn_append, postedIn_failureRecords, List.append_nil]

theorem serve_of_no_step {request : Request} (asksNothing : request.step? = none)
    (site : Site Wire) :
    ∃ response, serve (overHttp url timeout) request site = ⟨.ok response, site, []⟩ :=
  serve_of_not_asked _ (Option.map_eq_none_iff.mp asksNothing) site

/-- Requests one after another are a run of one client: the one that is installed, or that the first
of them makes that asks for a block. -/
theorem serveEach_overHttp (requests : List Request) (site : Site Wire) :
    let steps := requests.filterMap Request.step?
    let run := Wire.run steps (clientFor (overHttp url timeout) site)
    let ended := serveEach (overHttp url timeout) requests site
    (∃ responses, ended.result = .ok responses ∧ responses.length = requests.length) ∧
      ended.node = (if steps = [] then site else ⟨run.node, true⟩) ∧
      postedIn ended.events = postedIn run.events := by
  induction requests generalizing site with
  | nil => exact ⟨⟨[], rfl, rfl⟩, rfl, rfl⟩
  | cons request later ih =>
    intro steps run ended
    cases asks : request.step? with
    | none =>
      obtain ⟨response, served⟩ := serve_of_no_step url timeout asks site
      have whole := serveEach_cons (overHttp url timeout) served later
      obtain ⟨⟨responses, returned, length⟩, node, posted⟩ := ih site
      have same : steps = later.filterMap Request.step? := List.filterMap_cons_none asks
      refine ⟨⟨response :: responses, ?_, congrArg Nat.succ length⟩, ?_, ?_⟩
      · rw [show ended = _ from whole, returned]
        rfl
      · have idle : run = Wire.run (later.filterMap Request.step?) _ := congrArg (Wire.run · _) same
        rw [show ended = _ from whole, same, idle]
        exact node
      · rw [show ended = _ from whole, show run = _ from congrArg (Wire.run · _) same]
        exact posted
    | some step =>
      obtain ⟨response, events, served, seen⟩ := serve_of_step? url timeout asks site
      have whole := serveEach_cons (overHttp url timeout) served later
      obtain ⟨⟨responses, returned, length⟩, node, posted⟩ :=
        ih ⟨(step.task (clientFor (overHttp url timeout) site)).node, true⟩
      have same : steps = step :: later.filterMap Request.step? := List.filterMap_cons_some asks
      have taken : run = _ := (congrArg (Wire.run · _) same).trans (Wire.run_cons step _ _)
      refine ⟨⟨response :: responses, ?_, congrArg Nat.succ length⟩, ?_, ?_⟩
      · rw [show ended = _ from whole, returned]
        rfl
      · rw [show ended = _ from whole, taken, same, if_neg (List.cons_ne_nil _ _)]
        dsimp only
        rw [node]
        split
        · rename_i nothing
          rw [nothing]
          rfl
        · rfl
      · rw [show ended = _ from whole, taken]
        dsimp only
        rw [postedIn_append, postedIn_append, seen, posted]
        rfl

/-- The client that requests leave behind is the one that they found or the first of them made that
asks for a block. -/
theorem node_serveEach (requests : List Request) (site : Site Wire) :
    (serveEach (overHttp url timeout) requests site).node =
      if requests.filterMap Request.step? = [] then site
      else ⟨(Wire.run (requests.filterMap Request.step?)
        (clientFor (overHttp url timeout) site)).node, true⟩ :=
  (serveEach_overHttp url timeout requests site).2.1

/-- The service serves requests, then it stops. -/
def live (backend : Backend σ) (requests : List Request) : Task (Site σ) (List Response) := do
  let responses ← serveEach backend requests
  shutDown backend
  pure responses

/-- The service is started again each time that it has stopped. -/
def lives (backend : Backend σ) : List (List Request) → Task (Site σ) (List (List Response))
  | [] => pure []
  | requests :: later => do
    let responses ← live backend requests
    let others ← lives backend later
    pure (responses :: others)

theorem shutDown_overHttp (site : Site Wire) :
    shutDown (overHttp url timeout) site =
      ⟨.ok (), if site.installed then ⟨{ site.node with line := site.node.line.close }, false⟩
        else site, []⟩ := by
  obtain ⟨node, installed⟩ := site
  cases installed <;> rfl

theorem live_overHttp (requests : List Request) (site : Site Wire) :
    let ended := serveEach (overHttp url timeout) requests site
    live (overHttp url timeout) requests site =
      ⟨ended.result, (shutDown (overHttp url timeout) ended.node).node, ended.events⟩ := by
  intro ended
  obtain ⟨⟨responses, returned, _⟩, _, _⟩ := serveEach_overHttp url timeout requests site
  rw [live, Task.bind_of_ok _ _ site responses returned,
    Task.bind_of_ok _ _ _ () (congrArg Outcome.result (shutDown_overHttp url timeout _)),
    shutDown_overHttp]
  dsimp only [Task.pure_apply]
  rw [List.append_nil, List.append_nil, ← returned]

theorem installed_live (requests : List Request) (site : Site Wire) :
    (live (overHttp url timeout) requests site).node.installed = false := by
  rw [live_overHttp, shutDown_overHttp]
  dsimp only
  split
  · rfl
  · rename_i absent
    exact Bool.not_eq_true _ ▸ absent

/-- A service that was stopped as often as it was started has no client. -/
theorem installed_lives (earlier : List (List Request)) {site : Site Wire}
    (absent : site.installed = false) :
    (lives (overHttp url timeout) earlier site).node.installed = false := by
  induction earlier generalizing site with
  | nil => exact absent
  | cons requests later ih =>
    obtain ⟨⟨responses, returned, _⟩, _, _⟩ := serveEach_overHttp url timeout requests site
    have ended : (live (overHttp url timeout) requests site).result = .ok responses := by
      rw [live_overHttp]
      exact returned
    rw [lives, Task.bind_of_ok _ _ site responses ended, Task.bind_pure]
    exact ih (installed_live url timeout requests site)

/-- What has become of a service that was started without a client, once it has served requests. -/
structure IsKept (started : Site Wire) (before : List Request) (found : Site Wire) : Prop where
  /-- There is a client as soon as a request has asked for a block. -/
  installed : found.installed = true ↔ ∃ request ∈ before, request.asked?.isSome
  absent : found.installed = false → found = started
  /-- The client is a new one that took the steps of all the requests since. -/
  client : found.installed = true → found.node =
    (Wire.run (before.filterMap Request.step?) ((overHttp url timeout).renew started.node)).node
  /-- It has made one session at most, and keeps it open. -/
  sessions : found.installed = true →
    found.node.line.sessions = [] ∨ found.node.line.sessions = [⟨.made, true⟩]

/-- What a request does to a service: nothing unless it asks for a block. One that asks has its
client ready, and then posts its call under the next number of the client's line, unless its
encoding is refused. How the call ends is no matter to the client. -/
structure IsTurn (found : Site Wire) (request : Request) : Prop where
  passed : request.asked? = none → ∃ response,
    serve (overHttp url timeout) request found = ⟨.ok response, found, []⟩
  refused : ∀ slot options, request.Asks slot options → options.HasUnknownEncoding →
    ∃ response, serve (overHttp url timeout) request found =
        ⟨.ok response, ⟨clientFor (overHttp url timeout) found, true⟩, []⟩ ∧
      ∃ message : String, (Failure.unsupportedEncoding options.encoding).message = .ok message ∧
        response.Carries 400 (Response.report message)
  sent : ∀ slot options, request.Asks slot options → ¬ options.HasUnknownEncoding →
    let ready := clientFor (overHttp url timeout) found
    ∃ config response events, options.config = .ok config ∧
      serve (overHttp url timeout) request found =
        ⟨.ok response, ⟨⟨ready.line.sent, ready.replies.tail⟩, true⟩, events⟩ ∧
      response.status ≠ 400 ∧
      postedIn events =
        [numbered ready.line.nextId (blockMethod, config.params (.int slot))].take
          ready.replies.length

/-- One life of the service, from a start without a client to the end. -/
structure IsLife (started : Site Wire) (requests : List Request) : Prop where
  kept : ∀ before later, requests = before ++ later →
    IsKept url timeout started before (serveEach (overHttp url timeout) before started).node
  turns : ∀ before request later, requests = before ++ request :: later →
    IsTurn url timeout (serveEach (overHttp url timeout) before started).node request
  answered : ∃ responses,
    (live (overHttp url timeout) requests started).result = .ok responses ∧
      responses.length = requests.length
  /-- The payloads are numbered from one on, as long as the node is to be reached. -/
  posted : postedIn (live (overHttp url timeout) requests started).events =
    (((requests.filterMap Request.step?).filterMap Wire.Step.request?).mapIdx
      fun index call => numbered (index + 1) call).take started.node.replies.length
  /-- In the end there is no client. -/
  stopped : (live (overHttp url timeout) requests started).node.installed = false
  /-- The sessions of the client, if there was one, are those that it had, all closed. -/
  closed :
    let found := (serveEach (overHttp url timeout) requests started).node
    let left := (live (overHttp url timeout) requests started).node
    found.installed = true →
      left.node.line.sessions = found.node.line.sessions.map fun session =>
        { session with isOpen := false }

theorem isKept_serveEach {started : Site Wire} (absent : started.installed = false)
    (before : List Request) :
    IsKept url timeout started before (serveEach (overHttp url timeout) before started).node := by
  have new : clientFor (overHttp url timeout) started =
      (overHttp url timeout).renew started.node := by
    rw [clientFor, absent]
    rfl
  have left := node_serveEach url timeout before started
  rw [new] at left
  rw [left]
  by_cases idle : before.filterMap Request.step? = []
  · have nobody := (filterMap_step?_eq_nil_iff before).mp idle
    rw [if_pos idle]
    constructor
    · simp only [absent, nobody, Bool.false_eq_true]
    · exact fun _ => rfl
    · intro present
      rw [absent] at present
      cases present
    · intro present
      rw [absent] at present
      cases present
  · have somebody := not_not.mp (mt (filterMap_step?_eq_nil_iff before).mpr idle)
    rw [if_neg idle]
    constructor
    · simp only [somebody]
    · exact nofun
    · exact fun _ => rfl
    · intro _
      dsimp only
      rw [Wire.line_run]
      exact sessions_lineAfter before rfl

theorem isTurn (found : Site Wire) (request : Request) : IsTurn url timeout found request := by
  constructor
  · intro notAsked
    exact serve_of_not_asked _ notAsked found
  · intro slot options asks unknown
    obtain ⟨name, named⟩ := asks.exists_encoding unknown
    have hashable : options.encoding.IsHashable := by
      rw [named]
      exact ⟨nofun, nofun⟩
    obtain ⟨response, served, carries⟩ :=
      (Options.isRefused unknown hashable).served (overHttp url timeout) request slot found asks
    rw [ensureClient_node] at served
    exact ⟨response, served, carries⟩
  · intro slot options asks notUnknown ready
    obtain ⟨config, accepted⟩ := options.exists_config_iff.mpr notUnknown
    obtain ⟨response, events, served, _, status⟩ :=
      (Options.isSentOnce accepted).served (overHttp url timeout) request slot found asks
    obtain ⟨_, _, servedAsStep, posted⟩ := serve_of_step? url timeout asks.step? found
    have call : (Wire.Step.getBlock (.int slot) options).request? =
        some (blockMethod, config.params (.int slot)) := by
      rw [Wire.Step.request?, accepted]
      rfl
    have rest : ready.next.2 = ready.replies.tail := by
      rw [Wire.next]
      cases ready.replies <;> rfl
    rw [ensureClient_node] at served status
    obtain ⟨_, _, sameEvents⟩ := Outcome.mk.inj (served.symm.trans servedAsStep)
    refine ⟨config, response, events, accepted, ?_, ?_, ?_⟩
    · rw [served, ← rest]
      rfl
    · rw [Ne, status]
      rintro ⟨encoding, _, received, _⟩
      exact Reply.receive_ne_unsupportedEncoding _ _ _ _ received
    · rw [sameEvents, posted, Wire.Step.postedIn_task_wire, call]
      rfl

/-- The service's own client, whatever the node replies. It is made by the first request that asks
for a block, and serves all the others; only their calls take numbers, from one on in their order,
whether or not they succeed. It makes one session at most, and closes it when the service stops;
then it is gone, and a service that is started again begins anew. -/
theorem client_lifetime (wire : Wire) (earlier : List (List Request)) (requests : List Request) :
    let started := (lives (overHttp url timeout) earlier ⟨wire, false⟩).node
    started.installed = false ∧ IsLife url timeout started requests := by
  intro started
  have absent : started.installed = false := installed_lives url timeout earlier rfl
  refine ⟨absent, ?_, ?_, ?_, ?_, ?_, ?_⟩
  · intro before later _
    exact isKept_serveEach url timeout absent before
  · intro before request later _
    exact isTurn url timeout _ request
  · obtain ⟨answered, _, _⟩ := serveEach_overHttp url timeout requests started
    rw [live_overHttp]
    exact answered
  · obtain ⟨_, _, posted⟩ := serveEach_overHttp url timeout requests started
    have new : clientFor (overHttp url timeout) started =
        (overHttp url timeout).renew started.node := by
      rw [clientFor, absent]
      rfl
    rw [live_overHttp]
    refine posted.trans ?_
    rw [new, Wire.postedIn_run]
    simp only [Nat.add_comm ((overHttp url timeout).renew started.node).line.nextId]
    rfl
  · exact installed_live url timeout requests started
  · intro found left present
    have kept := isKept_serveEach url timeout absent requests
    have line : found.node.line =
        Wire.lineAfter (requests.filterMap Request.step?) (Line.start url false timeout) := by
      rw [kept.client present, Wire.line_run]
      rfl
    have tidy : found.node.line.Tidy false :=
      line ▸ (Line.start_tidy url false timeout).lineAfter (requests.filterMap Request.step?)
    have after : left.node.line = found.node.line.close := by
      rw [show left = _ from congrArg Outcome.node (live_overHttp url timeout requests started),
        shutDown_overHttp]
      dsimp only
      rw [if_pos present]
    rw [after]
    exact sessions_close_of_few tidy (kept.sessions present)

end Lives

/-- A service whose calls all break off is started anew. Its second life begins with a page and with
an encoding that is refused; the two calls behind them have the numbers one and two. -/
theorem client_lifetime_restarted :
    let refused := Request.get "/blocks/7" "encoding=hex"
    let eighth := Request.get "/blocks/8" ""
    let ninth := Request.get "/blocks/9" ""
    let home := Request.get "/" ""
    let broken : Reply := .broken (.outside .runtime [])
    let wire : Wire := ⟨Line.start "http://node" true .null, [broken, broken, broken]⟩
    let backend := overHttp "http://node" .null
    let started := (lives backend [[eighth]] ⟨wire, false⟩).node
    let life := live backend [home, refused, eighth, ninth] started
    (refused.Asks 7 { encoding := .text "hex" } ∧ eighth.Asks 8 {} ∧ ninth.Asks 9 {}) ∧
      postedIn life.events =
        [numbered 1 (blockMethod, .array [.int 8, .object [("encoding", .text "json")]]),
          numbered 2 (blockMethod, .array [.int 9, .object [("encoding", .text "json")]])] ∧
      life.node.installed = false := by
  intro refused eighth ninth home broken wire backend started life
  have asksRefused : refused.Asks 7 { encoding := .text "hex" } := by
    have parameters : refused.target.parameters = [("encoding", "hex")] := by
      decide +kernel
    refine ⟨method_get _ _, "7", rfl, by decide, by decide, ?_⟩
    unfold readRequest Target.parameter?
    rw [parameters]
    rfl
  have asksEighth : eighth.Asks 8 {} := ⟨method_get _ _, "8", rfl, by decide, by decide, rfl⟩
  have asksNinth : ninth.Asks 9 {} := ⟨method_get _ _, "9", rfl, by decide, by decide, rfl⟩
  obtain ⟨_, lived⟩ := client_lifetime "http://node" .null wire [[eighth]]
    [home, refused, eighth, ninth]
  have left : started.node.replies.length = 2 := by
    decide +kernel
  have passed : home.step? = none := rfl
  have steps : [home, refused, eighth, ninth].filterMap Request.step? =
      [.getBlock (.int 7) { encoding := .text "hex" }, .getBlock (.int 8) {},
        .getBlock (.int 9) {}] := by
    simp only [List.filterMap_cons, List.filterMap_nil, passed, asksRefused.step?, asksEighth.step?,
      asksNinth.step?]
  refine ⟨⟨asksRefused, asksEighth, asksNinth⟩, ?_, lived.stopped⟩
  have posted := lived.posted
  rw [steps, left] at posted
  exact posted

end Site

end BlockReader.Api
