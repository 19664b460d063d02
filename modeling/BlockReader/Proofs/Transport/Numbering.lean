import BlockReader.Proofs.Transport.Session
set_option autoImplicit false

namespace BlockReader

def Event.posted? : Event → Option Json
  | .posted payload => some payload
  | _ => none

def postedIn (events : List Event) : List Json :=
  events.filterMap Event.posted?

theorem postedIn_append (first second : List Event) :
    postedIn (first ++ second) = postedIn first ++ postedIn second :=
  List.filterMap_append

theorem postedIn_requestEvents (slot : Json) (options : Options) (config : Config) :
    postedIn (requestEvents slot options config) = [] := by
  refine List.filterMap_eq_nil_iff.mpr fun event listed => ?_
  have logged := isLogged_of_mem_requestEvents listed
  cases event with
  | posted payload => cases logged
  | _ => rfl

namespace Line

theorem nextId_sent (line : Line) : line.sent.nextId = line.nextId + 1 := by
  cases ready : line.isReady with
  | true => rw [sent_of_ready ready]
  | false => rw [sent_of_not_ready ready]

theorem nextId_closeSession (line : Line) : line.closeSession.nextId = line.nextId := by
  rw [closeSession_eq]

theorem nextId_close (line : Line) : line.close.nextId = line.nextId := by
  rw [close]
  split
  · exact nextId_closeSession line
  · rfl

end Line

namespace Wire

/-- The call that a step posts, if it posts one: its method and its parameters. -/
def Step.request? : Step → Option (String × Json)
  | call method params => some (method, params)
  | getBlock slot options =>
    options.config.toOption.map fun config => (blockMethod, config.params slot)
  | _ => none

/-- A call as it is posted under a number. -/
def numbered (id : Nat) (request : String × Json) : Json :=
  Line.payload id request.1 request.2

/-- What is seen of a step, and the line behind it. -/
structure Moment where
  events : List Event
  line : Line

namespace Step

theorem posts_eq_isSome_request? (step : Step) : step.posts = step.request?.isSome := by
  cases step with
  | getBlock slot options =>
    rw [posts, request?]
    cases options.config <;> rfl
  | _ => rfl

/-- A step uses up a number exactly when it posts a call. -/
theorem nextId_onLine (step : Step) (line : Line) :
    (step.onLine line).nextId = line.nextId + step.request?.toList.length := by
  cases step with
  | call method params => exact line.nextId_sent
  | getBlock slot options =>
    rw [onLine, request?]
    cases options.config with
    | ok config => exact line.nextId_sent
    | error failure => rfl
  | close | closeClient | leave _ => exact line.nextId_close
  | closeSession => exact line.nextId_closeSession

end Step

section Histories

variable [Json.Nesting]

/-- Takes steps one after another. Every step has a reply of its own, by the place of the step; a
step that posts nothing does not use it. -/
def history : List Step → (Nat → Reply) → Line → List Moment
  | [], _, _ => []
  | step :: later, replies, line =>
    let taken := step.task ⟨line, [replies 0]⟩
    ⟨taken.events, taken.node.line⟩ ::
      history later (fun place => replies (place + 1)) taken.node.line

namespace Step

theorem task_getBlock_of_accepted (slot : Json) (options : Options) (config : Config)
    (accepted : options.config = .ok config) (wire : Wire) :
    (getBlock slot options).task wire =
      let call := Wire.call blockMethod (config.params slot) wire
      ⟨.ok (), call.node, requestEvents slot options config ++ call.events⟩ := by
  show (do let _ ← (fetchBlock transport slot options).attempt; pure ()) _ = _
  rw [Task.bind_pure, Task.attempt_apply, fetchBlock_of_accepted _ slot options config accepted]
  rfl

theorem task_call (method : String) (params : Json) (wire : Wire) :
    (call method params).task wire =
      let made := Wire.call method params wire
      ⟨.ok (), made.node, made.events⟩ := by
  show (do let _ ← (Wire.call method params).attempt; pure ()) _ = _
  rw [Task.bind_pure]
  rfl

theorem task_getBlock (slot : Json) (options : Options) (wire : Wire) :
    (getBlock slot options).task wire =
      let fetched := fetchBlock transport slot options wire
      ⟨.ok (), fetched.node, fetched.events⟩ := by
  show (do let _ ← (fetchBlock transport slot options).attempt; pure ()) _ = _
  rw [Task.bind_pure]
  rfl

/-- Of the replies of a wire, a step takes one exactly when it calls. -/
theorem replies_task (step : Step) (wire : Wire) :
    (step.task wire).node.replies = wire.replies.drop step.request?.toList.length := by
  have taken (wire : Wire) : wire.next.2 = wire.replies.drop 1 := by
    obtain ⟨line, replies⟩ := wire
    cases replies <;> rfl
  cases step with
  | call method params => exact taken wire
  | getBlock slot options =>
    cases built : options.config with
    | ok config =>
      rw [task_getBlock_of_accepted slot options config built, request?, built]
      exact taken wire
    | error failure =>
      rw [task_getBlock_of_rejected slot options failure built, request?, built]
      rfl
  | leave ended => cases ended <;> rfl
  | _ => rfl

theorem postedIn_task_wire (step : Step) (wire : Wire) :
    postedIn (step.task wire).events =
      (step.request?.map (numbered wire.line.nextId)).toList.take wire.replies.length := by
  have posts (method : String) (params : Json) : postedIn (Wire.call method params wire).events =
      [numbered wire.line.nextId (method, params)].take wire.replies.length := by
    obtain ⟨line, replies⟩ := wire
    cases replies with
    | nil => rfl
    | cons reply later => rw [List.length_cons, List.take_succ_cons, List.take_nil]; rfl
  have silent : [] = ([] : List Json).take wire.replies.length := List.take_nil.symm
  cases step with
  | call method params =>
    rw [task_call]
    exact posts method params
  | getBlock slot options =>
    cases built : options.config with
    | ok config =>
      rw [task_getBlock_of_accepted slot options config built, request?, built]
      dsimp only
      rw [postedIn_append, postedIn_requestEvents, List.nil_append]
      exact posts blockMethod (config.params slot)
    | error failure =>
      rw [task_getBlock_of_rejected slot options failure built, request?, built]
      exact silent
  | leave ended => cases ended <;> exact silent
  | _ => exact silent

/-- A step posts its call under the next number of the line, and nothing else. -/
theorem postedIn_task (step : Step) (line : Line) (reply : Reply) :
    postedIn (step.task ⟨line, [reply]⟩).events =
      (step.request?.map (numbered line.nextId)).toList := by
  have few : ((step.request?.map (numbered line.nextId)).toList).length ≤ 1 := by
    cases step.request? <;> simp
  rw [postedIn_task_wire]
  exact List.take_of_length_le few

end Step

theorem history_cons (step : Step) (later : List Step) (replies : Nat → Reply) (line : Line) :
    history (step :: later) replies line =
      ⟨(step.task ⟨line, [replies 0]⟩).events, step.onLine line⟩ ::
        history later (fun place => replies (place + 1)) (step.onLine line) := by
  rw [history, Step.line_task]

/-- A run posts the calls of its steps in order, each under the number behind that of the one before
it. -/
theorem postedIn_history (steps : List Step) (replies : Nat → Reply) (line : Line) :
    ((history steps replies line).flatMap fun moment => postedIn moment.events) =
      (steps.filterMap Step.request?).mapIdx fun index request =>
        numbered (line.nextId + index) request := by
  -- The next number is read off the line, which every step moves.
  induction steps generalizing replies line with
  | nil => rfl
  | cons step later ih =>
    rw [history_cons, List.flatMap_cons, ih, Step.postedIn_task, step.nextId_onLine]
    cases asked : step.request? with
    | none =>
      rw [List.filterMap_cons_none asked]
      rfl
    | some request =>
      rw [List.filterMap_cons_some asked, List.mapIdx_cons]
      simp only [Option.map_some, Option.toList_some, List.length_singleton, Nat.add_zero,
        List.singleton_append, Nat.add_assoc, Nat.add_comm 1]

/-- A run over a wire posts its calls in order, numbered like that, as long as there are replies. -/
theorem postedIn_run (steps : List Step) (wire : Wire) :
    postedIn (run steps wire).events =
      ((steps.filterMap Step.request?).mapIdx fun index request =>
        numbered (wire.line.nextId + index) request).take wire.replies.length := by
  induction steps generalizing wire with
  | nil => exact List.take_nil.symm
  | cons step later ih =>
    rw [run_cons, postedIn_append, ih, Step.postedIn_task_wire, Step.line_task, Step.nextId_onLine,
      Step.replies_task, List.length_drop]
    cases asked : step.request? with
    | none =>
      rw [List.filterMap_cons_none asked]
      simp
    | some request =>
      rw [List.filterMap_cons_some asked, List.mapIdx_cons]
      cases wire.replies <;> simp [Nat.add_assoc, Nat.add_comm 1]

/-- The line behind each step of a run, and what each step posts, are those of any other run of the
same steps. -/
theorem history_congr (steps : List Step) (replies others : Nat → Reply) (line : Line) :
    (history steps replies line).map (fun moment => (postedIn moment.events, moment.line)) =
      (history steps others line).map fun moment => (postedIn moment.events, moment.line) := by
  induction steps generalizing replies others line with
  | nil => rfl
  | cons step later ih =>
    rw [history_cons, history_cons, List.map_cons, List.map_cons, Step.postedIn_task,
      Step.postedIn_task, ih]

/-- The lines of a run: the first one, and the one behind each step. -/
def linesOf (line : Line) (moments : List Moment) : List Line :=
  line :: moments.map Moment.line

theorem getElem?_linesOf_history (before later : List Step) (replies : Nat → Reply)
    (line : Line) :
    (linesOf line (history (before ++ later) replies line))[before.length]? =
      some (lineAfter before line) := by
  induction before generalizing replies line with
  | nil => rfl
  | cons step before ih =>
    rw [List.cons_append, history_cons]
    exact ih _ (step.onLine line)

theorem getElem?_history (before later : List Step) (step : Step) (replies : Nat → Reply)
    (line : Line) :
    ((history (before ++ step :: later) replies line)[before.length]?).map Moment.events =
      some (step.task ⟨lineAfter before line, [replies before.length]⟩).events := by
  induction before generalizing replies line with
  | nil =>
    rw [List.nil_append, history_cons]
    rfl
  | cons first before ih =>
    rw [List.cons_append, history_cons]
    exact ih _ (first.onLine line)

/-- Nothing is seen of a block that is asked for with options that cannot be sent, and the line is
behind the step as it was in front of it. -/
theorem history_of_rejected (before later : List Step) (slot : Json) (options : Options)
    (failure : Failure) (rejected : options.config = .error failure) (replies : Nat → Reply)
    (line : Line) :
    let moments := history (before ++ .getBlock slot options :: later) replies line
    (moments[before.length]?).map Moment.events = some [] ∧
      (linesOf line moments)[before.length + 1]? = (linesOf line moments)[before.length]? := by
  intro moments
  constructor
  · rw [getElem?_history, Step.task_getBlock_of_rejected slot options failure rejected]
  · have behind := getElem?_linesOf_history (before ++ [.getBlock slot options]) later replies line
    rw [List.append_assoc, List.singleton_append, List.length_append, lineAfter_concat] at behind
    have unchanged : (Step.getBlock slot options).onLine (lineAfter before line) =
        lineAfter before line := by
      rw [Step.onLine, rejected]
      rfl
    rw [getElem?_linesOf_history]
    exact behind.trans (congrArg some unchanged)

/-- The payloads of a line that is started, over every run of steps and whatever is replied to each.
They are the calls of the steps in order, numbered from one on without a gap; a step that does not
call, a block that is asked for with options that cannot be sent among them, takes no number. What
is posted in each step, and the line behind it, with its sessions, do not depend on the replies. -/
theorem history_payloads (url : String) (withSession : Bool) (timeout : Json) (steps : List Step)
    (replies : Nat → Reply) :
    let start := Line.start url withSession timeout
    let moments := history steps replies start
    let posted := moments.flatMap fun moment => postedIn moment.events
    (posted = (steps.filterMap Step.request?).mapIdx fun index request =>
      numbered (index + 1) request) ∧
    (∀ (place : Nat) (payload : Json), posted[place]? = some payload →
      payload.member "id" = .ok (.int (place + 1))) ∧
    (∀ before slot options later failure, steps = before ++ .getBlock slot options :: later →
      options.config = .error failure →
      (moments[before.length]?).map Moment.events = some [] ∧
        (linesOf start moments)[before.length + 1]? = (linesOf start moments)[before.length]?) ∧
    ∀ others : Nat → Reply,
      (history steps others start).map (fun moment => (postedIn moment.events, moment.line)) =
        moments.map fun moment => (postedIn moment.events, moment.line) := by
  intro start moments posted
  have numbers : posted = (steps.filterMap Step.request?).mapIdx fun index request =>
      numbered (index + 1) request := by
    refine (postedIn_history steps replies start).trans ?_
    simp only [Nat.add_comm start.nextId]
    rfl
  refine ⟨numbers, ?_, ?_, ?_⟩
  · intro place payload found
    rw [numbers, List.getElem?_mapIdx] at found
    obtain ⟨request, _, rfl⟩ := Option.map_eq_some_iff.mp found
    rfl
  · rintro before slot options later failure rfl rejected
    exact history_of_rejected before later slot options failure rejected replies start
  · intro others
    exact history_congr steps others replies start

end Histories

/-- An exchange that broke off, options that are refused, a session that is closed and replaced: the
third call has the number three, as it would have after replies that succeed. -/
theorem history_payloads_broken_exchanges :
    let unsendable : Options := { encoding := .text "xml" }
    let steps : List Step := [.call "getSlot" (.array []), .getBlock (.int 7) unsendable,
      .closeSession, .getBlock (.int 7) {}, .close, .call "getHealth" (.array [])]
    let start := Line.start "http://node" true .null
    let broken : Nat → Reply := fun _ => .broken (.outside .runtime [])
    let blank : Nat → Reply := fun _ => .answer 200 []
    let moments := history steps broken start
    let posted := moments.flatMap fun moment => postedIn moment.events
    unsendable.config = .error (.unsupportedEncoding (.text "xml")) ∧
      posted = [numbered 1 ("getSlot", .array []),
        numbered 2 (blockMethod, .array [.int 7, .object [("encoding", .text "json")]]),
        numbered 3 ("getHealth", .array [])] ∧
      (linesOf start moments)[2]? = (linesOf start moments)[1]? ∧
      (history steps blank start).map Moment.line = moments.map Moment.line := by
  intro unsendable steps start broken blank moments posted
  have rejected : unsendable.config = .error (.unsupportedEncoding (.text "xml")) := rfl
  obtain ⟨numbers, _, unseen, same⟩ := history_payloads "http://node" true .null steps broken
  obtain ⟨_, unchanged⟩ := unseen [.call "getSlot" (.array [])] (.int 7) unsendable _ _ rfl rejected
  refine ⟨rejected, numbers, unchanged, ?_⟩
  have lines := congrArg (List.map Prod.snd) (same blank)
  rw [List.map_map, List.map_map] at lines
  exact lines

end Wire

end BlockReader
