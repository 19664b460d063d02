import BlockReader.Proofs.Transport.Numbering
import Mathlib.Logic.Function.Basic
set_option autoImplicit false

namespace BlockReader

open Wire (numbered)

namespace Line

theorem url_sent (line : Line) : line.sent.url = line.url := by
  cases ready : line.isReady with
  | true => rw [sent_of_ready ready]
  | false => rw [sent_of_not_ready ready]

theorem url_closeSession (line : Line) : line.closeSession.url = line.url := by
  rw [closeSession_eq]

theorem url_close (line : Line) : line.close.url = line.url := by
  rw [close]
  split
  · exact url_closeSession line
  · rfl

theorem url_onLine (step : Wire.Step) (line : Line) : (step.onLine line).url = line.url := by
  rcases step.onLine_cases line with ⟨_, same⟩ | ⟨_, same⟩ | ⟨_, same⟩ | ⟨_, same⟩
  · rw [same, url_sent]
  · rw [same, url_close]
  · rw [same, url_closeSession]
  · rw [same]

end Line

structure Order where
  slot : Json
  options : Options

/-- What a call in flight keeps until its reply comes: the payload that it has posted, and where,
and what the result is to be read as. -/
structure Pending where
  url : String
  payload : Json
  slot : Json
  level : Json

/-- How far a call has got. -/
inductive Stage where
  | waiting
  | inFlight (pending : Pending)
  | ended (result : Except Failure Block)

/-- How a call has ended, if it has. -/
def Stage.result? : Stage → Option (Except Failure Block)
  | .ended result => some result
  | _ => none

theorem Stage.eq_ended_of_result? {stage : Stage} {result : Except Failure Block}
    (has : stage.result? = some result) : stage = .ended result := by
  cases stage with
  | ended other => exact congrArg Stage.ended (Option.some.inj has)
  | _ => cases has

/-- A line, the calls that share it, and what has been seen. -/
structure Shared where
  line : Line
  stages : Nat → Stage
  events : List Event

/-- What can happen while calls share a line. -/
inductive Move where
  /-- A call is built, takes a number and is posted. -/
  | send (caller : Nat)
  /-- The reply to a call comes. -/
  | receive (caller : Nat) (reply : Reply)
  /-- Something is done with the line that posts nothing: it is closed, or its session is. -/
  | beside (step : Wire.Step)

namespace Shared

def start (line : Line) : Shared :=
  ⟨line, fun _ => .waiting, []⟩

def advance (shared : Shared) (caller : Nat) (stage : Stage) : Shared :=
  { shared with stages := Function.update shared.stages caller stage }

def send (shared : Shared) (caller : Nat) (order : Order) : Shared :=
  match order.options.config with
  | .error failure => shared.advance caller (.ended (.error failure))
  | .ok config =>
    let (payload, line) := shared.line.send blockMethod (config.params order.slot)
    { shared.advance caller
        (.inFlight ⟨shared.line.url, payload, order.slot, order.options.level⟩) with
      line := line
      events := shared.events ++
        (requestEvents order.slot order.options config ++ [.posted payload]) }

theorem send_of_rejected {order : Order} {failure : Failure}
    (rejected : order.options.config = .error failure) (shared : Shared) (caller : Nat) :
    shared.send caller order = shared.advance caller (.ended (.error failure)) := by
  rw [send, rejected]

theorem send_of_accepted {order : Order} {config : Config}
    (accepted : order.options.config = .ok config) (shared : Shared) (caller : Nat) :
    let payload := numbered shared.line.nextId (blockMethod, config.params order.slot)
    shared.send caller order =
      ⟨shared.line.sent,
        Function.update shared.stages caller
          (.inFlight ⟨shared.line.url, payload, order.slot, order.options.level⟩),
        shared.events ++
          (requestEvents order.slot order.options config ++ [.posted payload])⟩ := by
  intro payload
  rw [send, accepted]
  rfl

end Shared

/-- The call that an order posts, unless its options cannot be sent. -/
def Order.request? (order : Order) : Option (String × Json) :=
  (Wire.Step.getBlock order.slot order.options).request?

namespace Order

theorem request?_of_accepted {order : Order} {config : Config}
    (accepted : order.options.config = .ok config) :
    order.request? = some (blockMethod, config.params order.slot) := by
  rw [request?, Wire.Step.request?, accepted]
  rfl

theorem request?_of_rejected {order : Order} {failure : Failure}
    (rejected : order.options.config = .error failure) : order.request? = none := by
  rw [request?, Wire.Step.request?, rejected]
  rfl

end Order

/-- The call that a move posts, and whose it is. -/
def Move.sent? (orders : Nat → Order) : Move → Option (Nat × String × Json)
  | .send caller => (orders caller).request?.map fun request => (caller, request)
  | _ => none

def sentIn (orders : Nat → Order) (moves : List Move) : List (Nat × String × Json) :=
  moves.filterMap (Move.sent? orders)

theorem sentIn_concat (orders : Nat → Order) (moves : List Move) (move : Move) :
    sentIn orders (moves ++ [move]) = sentIn orders moves ++ (move.sent? orders).toList := by
  rw [sentIn, List.filterMap_append, List.filterMap_cons]
  cases move.sent? orders <;> rfl

theorem getElem?_sentIn_concat {orders : Nat → Order} {moves : List Move} {index : Nat}
    {sent : Nat × String × Json} (posted : (sentIn orders moves)[index]? = some sent)
    (last : Move) : (sentIn orders (moves ++ [last]))[index]? = some sent := by
  rw [sentIn_concat, List.getElem?_append_left (List.getElem?_eq_some_iff.mp posted).1, posted]

section Sharing

variable [Json.Nesting]

/-- How the call for a block ends over a transport of its own that has just been made. -/
def Order.alone (line : Line) (order : Order) (reply : Reply) : Except Failure Block :=
  (fetchBlock Wire.transport order.slot order.options ⟨line, [reply]⟩).result

/-- How the call ends when its reply comes. -/
def Pending.receive (pending : Pending) (reply : Reply) : Except Failure Block := do
  let raw ← reply.receive blockMethod pending.url
  Block.decode pending.slot raw pending.level

namespace Shared

/-- Makes a move, if it can be made: a call is sent once, and gets one reply. -/
def move (orders : Nat → Order) (shared : Shared) : Move → Option Shared
  | .send caller =>
    match shared.stages caller with
    | .waiting => some (shared.send caller (orders caller))
    | _ => none
  | .receive caller reply =>
    match shared.stages caller with
    | .inFlight pending => some (shared.advance caller (.ended (pending.receive reply)))
    | _ => none
  | .beside step =>
    if step.posts then none else some { shared with line := step.onLine shared.line }

def run (orders : Nat → Order) (moves : List Move) (shared : Shared) : Option Shared :=
  moves.foldlM (move orders) shared

end Shared

/-- How far a call has got behind moves, told by its own moves among them. -/
inductive IsStage (orders : Nat → Order) (line : Line) (moves : List Move) (caller : Nat) :
    Stage → Prop
  | waiting (unsent : .send caller ∉ moves) (unanswered : ∀ reply, .receive caller reply ∉ moves) :
    IsStage orders line moves caller .waiting
  | refused (failure : Failure) (sent : .send caller ∈ moves)
    (rejected : (orders caller).options.config = .error failure)
    (unanswered : ∀ reply, .receive caller reply ∉ moves) :
    IsStage orders line moves caller (.ended (.error failure))
  | inFlight (index : Nat) (config : Config) (sent : .send caller ∈ moves)
    (accepted : (orders caller).options.config = .ok config)
    (unanswered : ∀ reply, .receive caller reply ∉ moves)
    (posted : (sentIn orders moves)[index]? =
      some (caller, blockMethod, config.params (orders caller).slot)) :
    IsStage orders line moves caller (.inFlight
      ⟨line.url,
        numbered (line.nextId + index) (blockMethod, config.params (orders caller).slot),
        (orders caller).slot, (orders caller).options.level⟩)
  | answered (reply : Reply) (config : Config) (sent : .send caller ∈ moves)
    (accepted : (orders caller).options.config = .ok config)
    (answered : .receive caller reply ∈ moves)
    (once : ∀ other, .receive caller other ∈ moves → other = reply) :
    IsStage orders line moves caller (.ended ((orders caller).alone line reply))

/-- What holds behind moves from a line on. -/
structure Shared.IsAfter (orders : Nat → Order) (line : Line) (moves : List Move)
    (shared : Shared) : Prop where
  url : shared.line.url = line.url
  nextId : shared.line.nextId = line.nextId + (sentIn orders moves).length
  posted : postedIn shared.events =
    (sentIn orders moves).mapIdx fun index sent => numbered (line.nextId + index) sent.2
  stage : ∀ caller, IsStage orders line moves caller (shared.stages caller)

namespace Wire

/-- Over HTTP, fetching a block is one payload under the next number, and what the reply to it
says. -/
theorem fetchBlock_replied (slot : Json) (options : Options) (config : Config)
    (accepted : options.config = .ok config) (line : Line) (reply : Reply)
    (later : List Reply) :
    fetchBlock transport slot options ⟨line, reply :: later⟩ =
      ⟨Pending.receive ⟨line.url, numbered line.nextId (blockMethod, config.params slot), slot,
          options.level⟩ reply,
        ⟨line.sent, later⟩,
        requestEvents slot options config ++
          [.posted (numbered line.nextId (blockMethod, config.params slot))]⟩ := by
  rw [fetchBlock_of_accepted _ slot options config accepted]
  rfl

end Wire

namespace Order

theorem alone_of_accepted {order : Order} {config : Config}
    (accepted : order.options.config = .ok config) (line : Line) (payload : Json) (reply : Reply) :
    order.alone line reply =
      Pending.receive ⟨line.url, payload, order.slot, order.options.level⟩ reply := by
  rw [alone, Wire.fetchBlock_replied order.slot order.options config accepted]
  rfl

theorem alone_of_rejected {order : Order} {failure : Failure}
    (rejected : order.options.config = .error failure) (line : Line) (reply : Reply) :
    order.alone line reply = .error failure := by
  rw [alone, fetchBlock_of_rejected _ order.slot order.options failure rejected]

end Order

namespace Shared

variable {orders : Nat → Order} {shared next : Shared}

/-- All that a move can do. -/
theorem move_cases {move : Move} (made : shared.move orders move = some next) :
    (∃ caller, move = .send caller ∧ shared.stages caller = .waiting ∧
      next = shared.send caller (orders caller)) ∨
    (∃ caller reply pending, move = .receive caller reply ∧
      shared.stages caller = .inFlight pending ∧
      next = shared.advance caller (.ended (pending.receive reply))) ∨
    (∃ step, move = .beside step ∧ step.posts = false ∧
      next = { shared with line := step.onLine shared.line }) := by
  cases move with
  | send caller =>
    simp only [Shared.move] at made
    split at made
    · rename_i waits
      exact .inl ⟨caller, rfl, waits, (Option.some.inj made).symm⟩
    · cases made
  | receive caller reply =>
    simp only [Shared.move] at made
    split at made
    · rename_i pending flies
      exact .inr (.inl ⟨caller, reply, pending, rfl, flies, (Option.some.inj made).symm⟩)
    · cases made
  | beside step =>
    simp only [Shared.move] at made
    split at made
    · cases made
    · rename_i quiet
      exact .inr (.inr ⟨step, rfl, Bool.eq_false_of_not_eq_true quiet,
        (Option.some.inj made).symm⟩)

theorem run_concat (orders : Nat → Order) (moves : List Move) (last : Move) (shared : Shared) :
    run orders (moves ++ [last]) shared =
      (run orders moves shared).bind fun before => before.move orders last := by
  simp only [run, List.foldlM_append, List.foldlM_cons, List.foldlM_nil, bind_pure]
  rfl

end Shared

namespace IsStage

variable {orders : Nat → Order} {line : Line} {moves : List Move} {caller : Nat} {stage : Stage}

/-- A move of another call, or of none, leaves a call where it is. -/
theorem other (reached : IsStage orders line moves caller stage) {last : Move}
    (notSent : last ≠ .send caller) (notAnswered : ∀ reply, last ≠ .receive caller reply) :
    IsStage orders line (moves ++ [last]) caller stage := by
  have kept (move : Move) (own : last ≠ move) : move ∈ moves ++ [last] ↔ move ∈ moves := by
    simp [Ne.symm own]
  cases reached with
  | waiting unsent unanswered =>
    refine .waiting ?_ fun reply => ?_
    · rwa [kept _ notSent]
    · rw [kept _ (notAnswered reply)]
      exact unanswered reply
  | refused failure sent rejected unanswered =>
    refine .refused failure (List.mem_append_left _ sent) rejected fun reply => ?_
    rw [kept _ (notAnswered reply)]
    exact unanswered reply
  | inFlight index config sent accepted unanswered posted =>
    refine .inFlight index config (List.mem_append_left _ sent) accepted (fun reply => ?_)
      (getElem?_sentIn_concat posted last)
    rw [kept _ (notAnswered reply)]
    exact unanswered reply
  | answered reply config sent accepted received once =>
    refine .answered reply config (List.mem_append_left _ sent) accepted
      (List.mem_append_left _ received) fun other answered => ?_
    rw [kept _ (notAnswered other)] at answered
    exact once other answered

/-- How a call has ended is told by what it got: nothing, because it could not be sent, or a
reply. -/
theorem result?_eq_some_iff (reached : IsStage orders line moves caller stage)
    (result : Except Failure Block) :
    stage.result? = some result ↔
      (∃ failure, .send caller ∈ moves ∧ (orders caller).options.config = .error failure ∧
        result = .error failure) ∨
      ∃ reply, .receive caller reply ∈ moves ∧ result = (orders caller).alone line reply := by
  cases reached with
  | waiting unsent unanswered => simp [Stage.result?, unsent, unanswered]
  | refused failure sent rejected unanswered =>
    simp [Stage.result?, sent, rejected, unanswered, eq_comm]
  | inFlight index config sent accepted unanswered posted =>
    simp [Stage.result?, accepted, unanswered]
  | answered reply config sent accepted received once =>
    constructor
    · intro same
      exact .inr ⟨reply, received, (Option.some.inj same).symm⟩
    · rintro (⟨failure, _, rejected, _⟩ | ⟨other, again, rfl⟩)
      · rw [accepted] at rejected
        cases rejected
      · rw [once other again]
        rfl

theorem eq_ended_of_received (reached : IsStage orders line moves caller stage) {reply : Reply}
    (received : .receive caller reply ∈ moves) :
    stage = .ended ((orders caller).alone line reply) :=
  Stage.eq_ended_of_result? ((reached.result?_eq_some_iff _).mpr (.inr ⟨reply, received, rfl⟩))

theorem eq_ended_of_rejected (reached : IsStage orders line moves caller stage)
    (sent : .send caller ∈ moves) {failure : Failure}
    (rejected : (orders caller).options.config = .error failure) :
    stage = .ended (.error failure) :=
  Stage.eq_ended_of_result?
    ((reached.result?_eq_some_iff _).mpr (.inl ⟨failure, sent, rejected, rfl⟩))

theorem eq_waiting_of_unsent (reached : IsStage orders line moves caller stage)
    (unsent : .send caller ∉ moves) : stage = .waiting := by
  cases reached with
  | waiting => rfl
  | _ => contradiction

/-- A call that was sent, and has no reply yet, is in flight. -/
theorem exists_inFlight (reached : IsStage orders line moves caller stage)
    (sent : .send caller ∈ moves) {config : Config}
    (accepted : (orders caller).options.config = .ok config)
    (unanswered : ∀ reply, .receive caller reply ∉ moves) :
    ∃ pending, stage = .inFlight pending := by
  cases reached with
  | waiting unsent _ => contradiction
  | refused failure _ rejected _ =>
    rw [accepted] at rejected
    cases rejected
  | inFlight => exact ⟨_, rfl⟩
  | answered reply _ _ _ received _ => exact absurd received (unanswered reply)

end IsStage

namespace Shared.IsAfter

variable {orders : Nat → Order} {line : Line} {moves : List Move} {shared next : Shared}

theorem start (orders : Nat → Order) (line : Line) : IsAfter orders line [] (.start line) where
  url := rfl
  nextId := rfl
  posted := rfl
  stage := fun _ => .waiting List.not_mem_nil fun _ => List.not_mem_nil

variable (after : shared.IsAfter orders line moves)

include after

theorem send {caller : Nat} (waits : shared.stages caller = .waiting) :
    (shared.send caller (orders caller)).IsAfter orders line (moves ++ [.send caller]) := by
  have others (other : Nat) (notOwn : other ≠ caller) :
      IsStage orders line (moves ++ [.send caller]) other (shared.stages other) :=
    (after.stage other).other (fun same => notOwn (Move.send.inj same).symm) nofun
  have sent : Move.send caller ∈ moves ++ [.send caller] := List.mem_append_right _ (by simp)
  have unanswered (reply : Reply) : Move.receive caller reply ∉ moves ++ [.send caller] := by
    have own := after.stage caller
    rw [waits] at own
    cases own with
    | waiting _ unanswered => simp [unanswered reply]
  cases built : (orders caller).options.config with
  | error failure =>
    have silent : sentIn orders (moves ++ [.send caller]) = sentIn orders moves := by
      rw [sentIn_concat, Move.sent?, Order.request?_of_rejected built]
      exact List.append_nil _
    rw [send_of_rejected built]
    refine ⟨after.url, silent ▸ after.nextId, silent ▸ after.posted, fun other => ?_⟩
    by_cases own : other = caller
    · subst own
      simp only [advance, Function.update_self]
      exact .refused failure sent built unanswered
    · simp only [advance, Function.update_of_ne own]
      exact others other own
  | ok config =>
    have posts : sentIn orders (moves ++ [.send caller]) =
        sentIn orders moves ++ [(caller, blockMethod, config.params (orders caller).slot)] := by
      rw [sentIn_concat, Move.sent?, Order.request?_of_accepted built]
      rfl
    rw [send_of_accepted built]
    refine ⟨?_, ?_, ?_, fun other => ?_⟩
    · rw [Line.url_sent, after.url]
    · rw [posts, Line.nextId_sent, after.nextId, List.length_append, List.length_singleton,
        Nat.add_assoc]
    · rw [posts, List.mapIdx_concat, ← after.posted, postedIn_append, postedIn_append,
        postedIn_requestEvents, after.nextId]
      rfl
    · by_cases own : other = caller
      · subst own
        simp only [Function.update_self, after.url, after.nextId]
        refine .inFlight _ config sent built unanswered ?_
        rw [posts]
        simp
      · simp only [Function.update_of_ne own]
        exact others other own

theorem receive {caller : Nat} {pending : Pending}
    (flies : shared.stages caller = .inFlight pending) (reply : Reply) :
    (shared.advance caller (.ended (pending.receive reply))).IsAfter orders line
      (moves ++ [.receive caller reply]) := by
  have silent : sentIn orders (moves ++ [.receive caller reply]) = sentIn orders moves := by
    rw [sentIn_concat]
    exact List.append_nil _
  refine ⟨after.url, silent ▸ after.nextId, silent ▸ after.posted, fun other => ?_⟩
  by_cases own : other = caller
  · subst own
    simp only [advance, Function.update_self]
    have reached := after.stage other
    rw [flies] at reached
    cases reached with
    | inFlight index config sent accepted unanswered posted =>
      rw [← Order.alone_of_accepted accepted line]
      refine .answered reply config (List.mem_append_left _ sent) accepted ?_ fun second again => ?_
      · exact List.mem_append_right _ (List.mem_singleton_self _)
      · simpa [unanswered second] using again
  · simp only [advance, Function.update_of_ne own]
    exact (after.stage other).other nofun fun _ same => own (Move.receive.inj same).1.symm

theorem beside {step : Wire.Step} (quiet : step.posts = false) :
    { shared with line := step.onLine shared.line : Shared }.IsAfter orders line
      (moves ++ [.beside step]) := by
  have silent : sentIn orders (moves ++ [.beside step]) = sentIn orders moves := by
    rw [sentIn_concat]
    exact List.append_nil _
  rw [step.posts_eq_isSome_request?, Option.isSome_eq_false_iff, Option.isNone_iff_eq_none] at quiet
  refine ⟨?_, ?_, silent ▸ after.posted, fun caller => (after.stage caller).other nofun nofun⟩
  · exact (Line.url_onLine step shared.line).trans after.url
  · rw [silent, ← after.nextId, Wire.Step.nextId_onLine, quiet]
    rfl

theorem move {last : Move} (made : shared.move orders last = some next) :
    next.IsAfter orders line (moves ++ [last]) := by
  rcases move_cases made with ⟨caller, rfl, waits, rfl⟩ |
    ⟨caller, reply, pending, rfl, flies, rfl⟩ | ⟨step, rfl, quiet, rfl⟩
  · exact after.send waits
  · exact after.receive flies reply
  · exact after.beside quiet

end Shared.IsAfter

namespace Shared

variable {orders : Nat → Order} {line : Line} {moves : List Move} {shared next : Shared}

/-- Behind any run every call is as far as its own moves have brought it, and the payloads are
numbered as they were sent. -/
theorem isAfter_of_run (reached : run orders moves (start line) = some shared) :
    shared.IsAfter orders line moves := by
  induction moves using List.reverseRecOn generalizing shared with
  | nil =>
    cases reached
    exact .start orders line
  | append_singleton before last ih =>
    rw [run_concat] at reached
    obtain ⟨middle, reachedMiddle, made⟩ := Option.bind_eq_some_iff.mp reached
    exact (ih reachedMiddle).move made

theorem tidy_move {withSession : Bool} (tidy : shared.line.Tidy withSession) {last : Move}
    (made : shared.move orders last = some next) : next.line.Tidy withSession := by
  rcases move_cases made with ⟨caller, _, _, rfl⟩ | ⟨_, _, _, _, _, rfl⟩ | ⟨step, _, _, rfl⟩
  · cases built : (orders caller).options.config with
    | error failure =>
      rw [send_of_rejected built]
      exact tidy
    | ok config =>
      rw [send_of_accepted built]
      exact tidy.sent
  · exact tidy
  · exact tidy.onLine step

theorem tidy_run {withSession : Bool} (tidy : line.Tidy withSession)
    (reached : run orders moves (start line) = some shared) : shared.line.Tidy withSession := by
  induction moves using List.reverseRecOn generalizing shared with
  | nil =>
    cases reached
    exact tidy
  | append_singleton before last ih =>
    rw [run_concat] at reached
    obtain ⟨middle, reachedMiddle, made⟩ := Option.bind_eq_some_iff.mp reached
    exact tidy_move (ih reachedMiddle) made

/-- The two moves of a call, one right behind the other, are fetching the block. -/
theorem send_receive {caller : Nat} {config : Config} (waits : shared.stages caller = .waiting)
    (accepted : (orders caller).options.config = .ok config) (reply : Reply) :
    let outcome := fetchBlock Wire.transport (orders caller).slot (orders caller).options
      ⟨shared.line, [reply]⟩
    ∃ ended, run orders [.send caller, .receive caller reply] shared = some ended ∧
      ended.line = outcome.node.line ∧ ended.stages caller = .ended outcome.result ∧
      ended.events = shared.events ++ outcome.events := by
  intro outcome
  have whole : outcome = _ :=
    Wire.fetchBlock_replied (orders caller).slot (orders caller).options config accepted shared.line
      reply []
  have sent : run orders [.send caller, .receive caller reply] shared =
      (shared.send caller (orders caller)).move orders (.receive caller reply) := by
    simp only [run, List.foldlM_cons, List.foldlM_nil, move, waits, bind_pure]
    rfl
  rw [sent, send_of_accepted accepted, whole]
  simp only [move, Function.update_self]
  exact ⟨_, rfl, rfl, Function.update_self .., rfl⟩

/-- The calls that share a line, behind moves from a new line on. -/
structure KeepsApart (orders : Nat → Order) (line : Line) (moves : List Move) (shared : Shared) :
    Prop where
  /-- A call that got its reply has ended as it would have alone with that reply. -/
  answered : ∀ caller reply, .receive caller reply ∈ moves →
    shared.stages caller = .ended ((orders caller).alone line reply)
  /-- So has a call that could not be sent, with any reply or none. -/
  refused : ∀ caller failure, .send caller ∈ moves →
    (orders caller).options.config = .error failure →
    shared.stages caller = .ended (.error failure) ∧
      ∀ reply, (orders caller).alone line reply = .error failure
  /-- Any other call that was sent is in flight, and will end like that whatever its reply. -/
  inFlight : ∀ caller config, .send caller ∈ moves →
    (orders caller).options.config = .ok config → (∀ reply, .receive caller reply ∉ moves) →
    ∀ reply, ∃ next, shared.move orders (.receive caller reply) = some next ∧
      next.stages caller = .ended ((orders caller).alone line reply)
  /-- A call that was not sent can be. -/
  waiting : ∀ caller, .send caller ∉ moves →
    shared.move orders (.send caller) = some (shared.send caller (orders caller))
  /-- With its reply right behind, it does what fetching its block does. -/
  sequential : ∀ caller config reply, .send caller ∉ moves →
    (orders caller).options.config = .ok config →
    let outcome := fetchBlock Wire.transport (orders caller).slot (orders caller).options
      ⟨shared.line, [reply]⟩
    ∃ ended, run orders [.send caller, .receive caller reply] shared = some ended ∧
      ended.line = outcome.node.line ∧ ended.stages caller = .ended outcome.result ∧
      ended.events = shared.events ++ outcome.events
  /-- The payloads are numbered from one on as they were sent. -/
  posted : postedIn shared.events =
    (sentIn orders moves).mapIdx fun index sent => numbered (index + 1) sent.2
  numbers : ∀ (place : Nat) (payload : Json), (postedIn shared.events)[place]? = some payload →
    payload.member "id" = .ok (.int (place + 1))
  /-- A payload in flight has been posted, with the slot of its call. -/
  pending : ∀ caller pending, shared.stages caller = .inFlight pending →
    pending.payload ∈ postedIn shared.events ∧ pending.slot = (orders caller).slot
  /-- Two payloads in flight have different numbers. -/
  distinct : ∀ first second pending others, shared.stages first = .inFlight pending →
    shared.stages second = .inFlight others → first ≠ second →
    pending.payload.member "id" ≠ others.payload.member "id"
  /-- A session that is open is the current one. -/
  sessions : ∀ (place : Nat) (session : Session), shared.line.sessions[place]? = some session →
    session.isOpen = true → place = 0

/-- The payload of a call in flight is the one that was posted for it. -/
theorem IsAfter.exists_posted (after : shared.IsAfter orders line moves) {caller : Nat}
    {pending : Pending} (flies : shared.stages caller = .inFlight pending) :
    ∃ index request, (sentIn orders moves)[index]? = some (caller, request) ∧
      pending.payload = numbered (line.nextId + index) request ∧
      pending.slot = (orders caller).slot := by
  have reached := after.stage caller
  rw [flies] at reached
  cases reached with
  | inFlight index config sent accepted unanswered posted => exact ⟨index, _, posted, rfl, rfl⟩

theorem IsAfter.ne_number (after : shared.IsAfter orders line moves) {first second : Nat}
    {pending others : Pending} (flies : shared.stages first = .inFlight pending)
    (fliesToo : shared.stages second = .inFlight others) (apart : first ≠ second) :
    pending.payload.member "id" ≠ others.payload.member "id" := by
  obtain ⟨index, request, sent, payload, _⟩ := after.exists_posted flies
  obtain ⟨place, requestToo, sentToo, payloadToo, _⟩ := after.exists_posted fliesToo
  intro same
  have number : (line.nextId + index : Int) = line.nextId + place := by
    rw [payload, payloadToo] at same
    exact Json.int.inj (Except.ok.inj same)
  have together : index = place := by omega
  rw [together, sentToo] at sent
  cases sent
  exact apart rfl

theorem IsAfter.receive_unanswered (after : shared.IsAfter orders line moves) {caller : Nat}
    (sent : .send caller ∈ moves) {config : Config}
    (accepted : (orders caller).options.config = .ok config)
    (unanswered : ∀ reply, .receive caller reply ∉ moves) (reply : Reply) :
    ∃ next, shared.move orders (.receive caller reply) = some next ∧
      next.stages caller = .ended ((orders caller).alone line reply) := by
  obtain ⟨pending, flies⟩ := (after.stage caller).exists_inFlight sent accepted unanswered
  have made : shared.move orders (.receive caller reply) =
      some (shared.advance caller (.ended (pending.receive reply))) := by
    simp only [Shared.move, flies]
  have ended := (after.move made).stage caller
  exact ⟨_, made, ended.eq_ended_of_received (by simp)⟩

theorem keepsApart_of_isAfter {withSession : Bool} (after : shared.IsAfter orders line moves)
    (tidy : shared.line.Tidy withSession) (unused : line.nextId = 1) :
    shared.KeepsApart orders line moves := by
  have posted := after.posted
  simp only [unused, Nat.add_comm 1] at posted
  refine ⟨?_, ?_, ?_, ?_, ?_, posted, ?_, ?_, fun _ _ _ _ => after.ne_number,
    fun _ _ => tidy.place_of_open⟩
  · intro caller reply received
    exact (after.stage caller).eq_ended_of_received received
  · intro caller failure sent rejected
    exact ⟨(after.stage caller).eq_ended_of_rejected sent rejected,
      Order.alone_of_rejected rejected line⟩
  · intro caller config sent accepted unanswered reply
    exact after.receive_unanswered sent accepted unanswered reply
  · intro caller unsent
    have waits := (after.stage caller).eq_waiting_of_unsent unsent
    simp only [move, waits]
  · intro caller config reply unsent accepted
    exact send_receive ((after.stage caller).eq_waiting_of_unsent unsent) accepted reply
  · intro place payload found
    rw [posted, List.getElem?_mapIdx] at found
    obtain ⟨sent, _, rfl⟩ := Option.map_eq_some_iff.mp found
    rfl
  · intro caller pending flies
    obtain ⟨index, request, sent, same, slot⟩ := after.exists_posted flies
    refine ⟨List.mem_of_getElem? (i := index) ?_, slot⟩
    rw [after.posted, List.getElem?_mapIdx, sent, same]
    rfl

/-- Calls that share a client, on a transport with or without a session of its own, in whatever
order they are sent and get their replies, and whatever is closed in between. Each of them ends as
it would alone, the payloads are numbered as they were sent, and no session but the current one is
open. Two runs in which the same calls are sent, and each gets the same reply, end every call alike,
however the moves are ordered and whatever is closed in the one and not in the other. -/
theorem run_independent (url : String) (withSession : Bool) (timeout : Json)
    (orders : Nat → Order) (moves : List Move) (shared : Shared)
    (reached : run orders moves (start (Line.start url withSession timeout)) = some shared) :
    let line := Line.start url withSession timeout
    shared.KeepsApart orders line moves ∧
      ∀ (others : List Move) (reordered : Shared),
        run orders others (start line) = some reordered →
        (∀ caller, .send caller ∈ others ↔ .send caller ∈ moves) →
        (∀ caller reply, .receive caller reply ∈ others ↔ .receive caller reply ∈ moves) →
        ∀ caller, (reordered.stages caller).result? = (shared.stages caller).result? := by
  intro line
  have after : shared.IsAfter orders line moves := isAfter_of_run reached
  have tidy := tidy_run (Line.start_tidy url withSession timeout) reached
  refine ⟨keepsApart_of_isAfter after tidy rfl, ?_⟩
  intro others reordered reachedToo sameCalls sameReplies caller
  have afterToo := isAfter_of_run reachedToo
  ext result
  rw [(after.stage caller).result?_eq_some_iff, (afterToo.stage caller).result?_eq_some_iff]
  simp only [sameCalls, sameReplies]

end Shared

end Sharing

/-- Three calls, the second with options that cannot be sent. The transport is closed while the
other two are in flight, and the one that was sent last gets its reply first. -/
theorem Shared.run_independent_crossed :
    let unsendable : Options := { encoding := .text "xml" }
    let orders : Nat → Order := fun caller =>
      ⟨.int caller, if caller = 1 then unsendable else {}⟩
    let line := Line.start "http://node" false .null
    let lost := Reply.broken (.outside .runtime [])
    let refused := Reply.answer 500 []
    let moves : List Move := [.send 0, .send 2, .beside .closeClient, .receive 2 refused, .send 1,
      .receive 0 lost]
    ∃ shared, run orders moves (start line) = some shared ∧
      shared.stages 0 = .ended ((orders 0).alone line lost) ∧
      shared.stages 1 = .ended (.error (.unsupportedEncoding (.text "xml"))) ∧
      shared.stages 2 = .ended ((orders 2).alone line refused) ∧
      postedIn shared.events = [
        numbered 1 (blockMethod, .array [.int 0, .object [("encoding", .text "json")]]),
        numbered 2 (blockMethod, .array [.int 2, .object [("encoding", .text "json")]])] := by
  intro unsendable orders line lost refused moves
  have reached : ∃ shared, run orders moves (start line) = some shared := ⟨_, rfl⟩
  obtain ⟨shared, reached⟩ := reached
  obtain ⟨apart, _⟩ := run_independent "http://node" false .null orders moves shared reached
  have rejected : (orders 1).options.config = .error (.unsupportedEncoding (.text "xml")) := rfl
  refine ⟨shared, reached, apart.answered 0 lost ?_, ?_, apart.answered 2 refused ?_, apart.posted⟩
  · simp [moves]
  · exact (apart.refused 1 _ (by simp [moves]) rejected).1
  · simp [moves]

end BlockReader
