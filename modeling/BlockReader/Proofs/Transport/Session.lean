import BlockReader.Proofs.Fetch
import BlockReader.Transport.Http
set_option autoImplicit false

namespace BlockReader

namespace Line

def given? (line : Line) : Option Session :=
  line.sessions.find? fun session => session.origin == .given

/-- What holds of a line at all times. -/
structure Tidy (withSession : Bool) (line : Line) : Prop where
  /-- The session that was given is the oldest one, and the only one of its kind. -/
  origins : line.sessions.map Session.origin =
    List.replicate line.made .made ++ if withSession then [.given] else []
  /-- A session is current until it is closed. -/
  earlierClosed : ∀ session ∈ line.sessions.tail, session.isOpen = false
  /-- The line answers for the current session unless that is the given one. -/
  owns : line.ownsSession = true ↔ ∀ current, line.session? = some current →
    current.origin ≠ .given

theorem start_tidy (url : String) (withSession : Bool) (timeout : Json) :
    (start url withSession timeout).Tidy withSession := by
  cases withSession with
  | true =>
    refine ⟨rfl, nofun, ?_⟩
    constructor
    · intro impossible
      cases impossible
    · intro other
      exact absurd rfl (other _ rfl)
  | false => exact ⟨rfl, nofun, ⟨fun _ => nofun, fun _ => rfl⟩⟩

/-- The line once it has posted a call. -/
def sent (line : Line) : Line :=
  { line with nextId := line.nextId + 1 }.prepare

theorem sent_of_ready {line : Line} (ready : line.isReady = true) :
    line.sent = { line with nextId := line.nextId + 1 } :=
  if_pos ready

theorem sent_of_not_ready {line : Line} (notReady : line.isReady = false) :
    line.sent = { line with
      nextId := line.nextId + 1
      sessions := ⟨.made, true⟩ :: line.sessions
      ownsSession := true } :=
  if_neg (Bool.not_eq_true _ ▸ notReady)

theorem closeSession_eq (line : Line) :
    line.closeSession = { line with
      sessions := line.sessions.modifyHead fun current => ⟨current.origin, false⟩ } := by
  obtain ⟨url, timeout, sessions, ownsSession, nextId⟩ := line
  cases sessions <;> rfl

theorem ownsSession_closeSession (line : Line) :
    line.closeSession.ownsSession = line.ownsSession := by
  rw [closeSession_eq]

theorem session?_closeSession (line : Line) :
    line.closeSession.session? = line.session?.map fun current => ⟨current.origin, false⟩ := by
  rw [closeSession_eq]
  exact List.head?_modifyHead

theorem tail_closeSession (line : Line) :
    line.closeSession.sessions.tail = line.sessions.tail := by
  rw [closeSession_eq, List.tail_modifyHead]

theorem origins_closeSession (line : Line) :
    line.closeSession.sessions.map Session.origin = line.sessions.map Session.origin := by
  rw [closeSession_eq]
  cases line.sessions <;> rfl

theorem closeSession_closeSession (line : Line) :
    line.closeSession.closeSession = line.closeSession := by
  rw [closeSession_eq, closeSession_eq, List.modifyHead_modifyHead]
  rfl

theorem close_of_owned {line : Line} (owned : line.ownsSession = true) :
    line.close = line.closeSession :=
  if_pos owned

theorem close_of_not_owned {line : Line} (notOwned : line.ownsSession = false) :
    line.close = line :=
  if_neg (Bool.not_eq_true _ ▸ notOwned)

theorem close_close (line : Line) : line.close.close = line.close := by
  cases owned : line.ownsSession with
  | true =>
    have stillOwned : line.closeSession.ownsSession = true :=
      (ownsSession_closeSession line).trans owned
    rw [close_of_owned owned, close_of_owned stillOwned, closeSession_closeSession]
  | false => rw [close_of_not_owned owned, close_of_not_owned owned]

theorem origins_close (line : Line) :
    line.close.sessions.map Session.origin = line.sessions.map Session.origin := by
  rw [close]
  split
  · exact origins_closeSession line
  · rfl

theorem made_eq_count (line : Line) :
    line.made = (line.sessions.map Session.origin).countP (· == .made) := by
  rw [made, List.countP_map]
  rfl

theorem made_closeSession (line : Line) : line.closeSession.made = line.made := by
  rw [made_eq_count, made_eq_count, origins_closeSession]

theorem given?_sent (line : Line) : line.sent.given? = line.given? := by
  cases ready : line.isReady with
  | true =>
    rw [sent_of_ready ready]
    rfl
  | false =>
    rw [sent_of_not_ready ready]
    rfl

/-- Closing the current session from outside closes the given one only if that is the current
one. -/
theorem given?_closeSession (line : Line) :
    line.closeSession.given? = line.given? ∨
      ∃ current, line.session? = some current ∧ current.origin = .given ∧
        line.given? = some current := by
  obtain ⟨url, timeout, sessions, ownsSession, nextId⟩ := line
  cases sessions with
  | nil => exact .inl rfl
  | cons current earlier =>
    obtain ⟨origin, isOpen⟩ := current
    cases origin with
    | given => exact .inr ⟨⟨.given, isOpen⟩, rfl, rfl, rfl⟩
    | made => exact .inl rfl

namespace Tidy

variable {line : Line} {withSession : Bool} (tidy : line.Tidy withSession)

include tidy

theorem closed_of_current
    (closed : ∀ current, line.session? = some current → current.isOpen = false) :
    ∀ session ∈ line.sessions, session.isOpen = false := by
  have earlier := tidy.earlierClosed
  rw [session?] at closed
  cases listed : line.sessions with
  | nil => exact nofun
  | cons current rest =>
    rw [listed] at closed earlier
    exact List.forall_mem_cons.mpr ⟨closed current rfl, earlier⟩

/-- A session that is open is the current one. -/
theorem place_of_open {place : Nat} {session : Session}
    (found : line.sessions[place]? = some session) (isOpen : session.isOpen = true) :
    place = 0 := by
  cases place with
  | zero => rfl
  | succ place =>
    have earlier : session ∈ line.sessions.tail := by
      rw [← List.getElem?_tail] at found
      exact List.mem_of_getElem? found
    rw [tidy.earlierClosed session earlier] at isOpen
    cases isOpen

theorem sent : line.sent.Tidy withSession := by
  cases ready : line.isReady with
  | true =>
    rw [sent_of_ready ready]
    exact ⟨tidy.origins, tidy.earlierClosed, tidy.owns⟩
  | false =>
    have current : ∀ session, line.session? = some session → session.isOpen = false := by
      intro session same
      rw [isReady, same] at ready
      exact ready
    rw [sent_of_not_ready ready]
    refine ⟨?_, tidy.closed_of_current current, ?_⟩
    · rw [made, List.countP_cons_of_pos rfl, List.replicate_succ, List.map_cons, tidy.origins]
      rfl
    · constructor
      · rintro _ _ ⟨⟩
        exact nofun
      · intro _
        rfl

theorem closeSession : line.closeSession.Tidy withSession := by
  constructor
  · rw [origins_closeSession, made_closeSession]
    exact tidy.origins
  · rw [tail_closeSession]
    exact tidy.earlierClosed
  · rw [ownsSession_closeSession, session?_closeSession, tidy.owns]
    cases line.session? <;> simp

theorem close : line.close.Tidy withSession := by
  rw [Line.close]
  split
  · exact tidy.closeSession
  · exact tidy

/-- The line does not close the given session. -/
theorem given?_close : line.close.given? = line.given? := by
  cases owned : line.ownsSession with
  | true =>
    rw [close_of_owned owned]
    refine (given?_closeSession line).resolve_right ?_
    rintro ⟨current, same, given, _⟩
    exact tidy.owns.mp owned current same given
  | false => rw [close_of_not_owned owned]

/-- After a closing no session is open that the line has made. -/
theorem closed_of_made {session : Session} (member : session ∈ line.close.sessions)
    (made : session.origin = .made) : session.isOpen = false := by
  cases owned : line.ownsSession with
  | true =>
    rw [close_of_owned owned] at member
    refine tidy.closeSession.closed_of_current ?_ session member
    intro current same
    rw [session?_closeSession] at same
    obtain ⟨before, _, rfl⟩ := Option.map_eq_some_iff.mp same
    rfl
  | false =>
    rw [close_of_not_owned owned] at member
    -- The current session is the given one, so this is an earlier one.
    have given : ∃ current, line.session? = some current ∧ current.origin = .given := by
      have notOwned : ¬ line.ownsSession = true := Bool.not_eq_true _ ▸ owned
      rw [tidy.owns] at notOwned
      push Not at notOwned
      exact notOwned
    obtain ⟨current, same, given⟩ := given
    rcases List.mem_cons.mp ((List.cons_head?_tail same).symm ▸ member) with rfl | earlier
    · rw [given] at made
      cases made
    · exact tidy.earlierClosed session earlier

end Tidy

end Line

namespace Wire

/-- A step of a run: what is done with a transport, through its client or beside it. -/
inductive Step where
  /-- A call through the transport. -/
  | call (method : String) (params : Json)
  /-- A block is fetched through the client. -/
  | getBlock (slot : Json) (options : Options)
  /-- The transport is closed. -/
  | close
  /-- The client is closed. -/
  | closeClient
  /-- What was done inside the client's block ends, and the block is left. -/
  | leave (ended : Except Failure Unit)
  /-- The current session is closed by somebody else. -/
  | closeSession

namespace Step

def posts : Step → Bool
  | call _ _ => true
  | getBlock _ options => options.config.toBool
  | _ => false

/-- Whether a step closes the transport. -/
def closes : Step → Bool
  | close => true
  | closeClient => true
  | leave _ => true
  | _ => false

/-- What a step does to the line. -/
def onLine : Step → Line → Line
  | call _ _, line => line.sent
  | getBlock _ options, line => if options.config.toBool then line.sent else line
  | close, line => line.close
  | closeClient, line => line.close
  | leave _, line => line.close
  | closeSession, line => line.closeSession

/-- A step posts its call, or closes, or is a closing from outside, or leaves the line alone. -/
theorem onLine_cases (step : Step) (line : Line) :
    (step.posts = true ∧ step.onLine line = line.sent) ∨
    (step.closes = true ∧ step.onLine line = line.close) ∨
    (step = closeSession ∧ step.onLine line = line.closeSession) ∨
    (step.posts = false ∧ step.onLine line = line) := by
  cases step with
  | call method params => exact .inl ⟨rfl, rfl⟩
  | getBlock slot options =>
    cases accepted : options.config.toBool with
    | true => exact .inl ⟨accepted, if_pos accepted⟩
    | false => exact .inr (.inr (.inr ⟨accepted, if_neg (Bool.not_eq_true _ ▸ accepted)⟩))
  | close => exact .inr (.inl ⟨rfl, rfl⟩)
  | closeClient => exact .inr (.inl ⟨rfl, rfl⟩)
  | leave ended => exact .inr (.inl ⟨rfl, rfl⟩)
  | closeSession => exact .inr (.inr (.inl ⟨rfl, rfl⟩))

end Step

/-- The line after steps. -/
def lineAfter (steps : List Step) (line : Line) : Line :=
  steps.foldl (fun line step => step.onLine line) line

theorem lineAfter_concat (before : List Step) (step : Step) (line : Line) :
    lineAfter (before ++ [step]) line = step.onLine (lineAfter before line) := by
  rw [lineAfter, List.foldl_append]
  rfl

section Runs

variable [Json.Nesting]

namespace Step

/-- Takes a step. A failure of the step is its own; the run goes on. -/
def task : Step → Task Wire Unit
  | call method params => do
    let _ ← (Wire.call method params).attempt
    pure ()
  | getBlock slot options => do
    let _ ← (fetchBlock transport slot options).attempt
    pure ()
  | close => Wire.close
  | closeClient => transport.close
  | leave ended => do
    let _ ← (Task.closing (Task.ofExcept ended) transport.close).attempt
    pure ()
  | closeSession => fun wire => ⟨.ok (), { wire with line := wire.line.closeSession }, []⟩

theorem task_getBlock_of_rejected (slot : Json) (options : Options) (failure : Failure)
    (rejected : options.config = .error failure) (wire : Wire) :
    (getBlock slot options).task wire = ⟨.ok (), wire, []⟩ := by
  show (do let _ ← (fetchBlock transport slot options).attempt; pure ()) _ = _
  rw [Task.bind_pure, Task.attempt_apply, fetchBlock_of_rejected _ slot options failure rejected]
  rfl

theorem task_of_closes (step : Step) (closes : step.closes = true) (wire : Wire) :
    step.task wire = ⟨.ok (), { wire with line := wire.line.close }, []⟩ := by
  cases step with
  | leave ended => cases ended <;> rfl
  | close => rfl
  | closeClient => rfl
  | _ => cases closes

theorem result_task (step : Step) (wire : Wire) : (step.task wire).result = .ok () := by
  cases step with
  | leave ended => cases ended <;> rfl
  | _ => rfl

/-- What becomes of the line in a step does not depend on the replies. -/
theorem line_task (step : Step) (wire : Wire) :
    (step.task wire).node.line = step.onLine wire.line := by
  cases step with
  | getBlock slot options =>
    cases built : options.config with
    | ok config =>
      have posts : options.config.toBool = true := congrArg Except.toBool built
      rw [onLine, if_pos posts]
      show ((do let _ ← (fetchBlock transport slot options).attempt; pure ()) wire :
        Outcome Wire Unit).node.line = _
      rw [Task.bind_pure, Task.attempt_apply, fetchBlock_of_accepted _ slot options config built]
      rfl
    | error failure =>
      have posts : ¬ options.config.toBool = true := by
        rw [built]
        exact Bool.false_ne_true
      rw [onLine, if_neg posts, task_getBlock_of_rejected slot options failure built wire]
  | leave ended => cases ended <;> rfl
  | _ => rfl

end Step

def run : List Step → Task Wire Unit
  | [] => pure ()
  | step :: later => do
    step.task
    run later

theorem run_cons (step : Step) (later : List Step) (wire : Wire) :
    run (step :: later) wire =
      ⟨(run later (step.task wire).node).result, (run later (step.task wire).node).node,
        (step.task wire).events ++ (run later (step.task wire).node).events⟩ :=
  Task.bind_of_ok _ _ wire () (step.result_task wire)

/-- What becomes of the line in a run does not depend on the replies. -/
theorem line_run (steps : List Step) (wire : Wire) :
    (run steps wire).node.line = lineAfter steps wire.line := by
  induction steps generalizing wire with
  | nil => rfl
  | cons step later ih =>
    rw [run_cons, ih, step.line_task]
    rfl

end Runs

end Wire

namespace Line.Tidy

open Wire

variable {line : Line} {withSession : Bool} (tidy : line.Tidy withSession)

include tidy

theorem onLine (step : Step) : (step.onLine line).Tidy withSession := by
  rcases step.onLine_cases line with ⟨_, same⟩ | ⟨_, same⟩ | ⟨_, same⟩ | ⟨_, same⟩
  · exact same ▸ tidy.sent
  · exact same ▸ tidy.close
  · exact same ▸ tidy.closeSession
  · rw [same]
    exact tidy

theorem lineAfter (steps : List Step) : (lineAfter steps line).Tidy withSession := by
  induction steps using List.reverseRecOn with
  | nil => exact tidy
  | append_singleton before step ih =>
    rw [lineAfter_concat]
    exact ih.onLine step

/-- Only a closing from outside changes the session that was given. -/
theorem given?_onLine {step : Step} (own : step ≠ .closeSession) :
    (step.onLine line).given? = line.given? := by
  rcases step.onLine_cases line with ⟨_, same⟩ | ⟨_, same⟩ | ⟨outside, _⟩ | ⟨_, same⟩
  · rw [same, given?_sent]
  · rw [same, tidy.given?_close]
  · exact absurd outside own
  · rw [same]

/-- If the session that was given is closed after a run, it was closed from outside, in a step of
the run that found it open and current. -/
theorem closedOutside_of_given? (notClosed : line.given? ≠ some ⟨.given, false⟩)
    (steps : List Step) (closed : (Wire.lineAfter steps line).given? = some ⟨.given, false⟩) :
    ∃ before later, steps = before ++ .closeSession :: later ∧
      (Wire.lineAfter before line).session? = some ⟨.given, true⟩ := by
  induction steps using List.reverseRecOn with
  | nil => exact absurd closed notClosed
  | append_singleton before step ih =>
    by_cases already : (Wire.lineAfter before line).given? = some ⟨.given, false⟩
    · obtain ⟨earlier, later, rfl, found⟩ := ih already
      refine ⟨earlier, later ++ [step], ?_, found⟩
      rw [List.append_assoc, List.cons_append]
    · rw [lineAfter_concat] at closed
      by_cases outside : step = .closeSession
      · subst outside
        refine ⟨before, [], rfl, ?_⟩
        rcases given?_closeSession (Wire.lineAfter before line) with
          same | ⟨⟨origin, isOpen⟩, found, given, givenFound⟩
        · exact absurd (same.symm.trans closed) already
        · cases given
          cases isOpen with
          | true => exact found
          | false => exact absurd givenFound already
      · rw [(tidy.lineAfter before).given?_onLine outside] at closed
        exact absurd closed already

end Line.Tidy

namespace Wire

/-- A step adds no session, or it posts a call while no session is open, and makes one. -/
theorem Step.origins_onLine (step : Step) (line : Line) :
    ((step.onLine line).sessions.map Session.origin = line.sessions.map Session.origin) ∨
    (step.posts = true ∧ line.isReady = false ∧
      (step.onLine line).sessions = ⟨.made, true⟩ :: line.sessions) := by
  rcases step.onLine_cases line with ⟨posts, same⟩ | ⟨_, same⟩ | ⟨_, same⟩ | ⟨_, same⟩
  · cases ready : line.isReady with
    | true =>
      rw [same, Line.sent_of_ready ready]
      exact .inl rfl
    | false =>
      rw [same, Line.sent_of_not_ready ready]
      exact .inr ⟨posts, rfl, rfl⟩
  · exact .inl (same ▸ line.origins_close)
  · exact .inl (same ▸ line.origins_closeSession)
  · exact .inl (by rw [same])

/-- The sessions of a line after any run, and in any step after it. A session that is open is the
current one; the line answers for it unless it was given; the one that was given is closed only by
somebody else. A closing leaves no session open that the line has made, and another one changes
nothing. A session is made only to post a call in, when none is open. A session that was closed
before it was given is a run that begins with a closing from outside. -/
theorem run_sessions [Json.Nesting] (url : String) (withSession : Bool) (timeout : Json)
    (replies : List Reply) (steps : List Step) :
    let start : Wire := ⟨.start url withSession timeout, replies⟩
    let wire := (run steps start).node
    wire.line.sessions.map Session.origin =
      List.replicate wire.line.made .made ++ (if withSession then [.given] else []) ∧
    (∀ (place : Nat) (session : Session), wire.line.sessions[place]? = some session →
      session.isOpen = true → place = 0) ∧
    (wire.line.ownsSession = true ↔ ∀ current, wire.line.session? = some current →
      current.origin ≠ .given) ∧
    (wire.line.given? = some ⟨.given, false⟩ →
      ∃ before later, steps = before ++ .closeSession :: later ∧
        (run before start).node.line.session? = some ⟨.given, true⟩) ∧
    ∀ step : Step,
      let next := (step.task wire).node
      (step ≠ .closeSession → next.line.given? = wire.line.given?) ∧
      (step.closes = true →
        (∀ session ∈ next.line.sessions, session.origin = .made → session.isOpen = false) ∧
        ∀ closing : Step, closing.closes = true → (closing.task next).node = next) ∧
      (next.line.sessions.map Session.origin = wire.line.sessions.map Session.origin ∨
        step.posts = true ∧
        (∀ current, wire.line.session? = some current → current.isOpen = false) ∧
        next.line.sessions = ⟨.made, true⟩ :: wire.line.sessions) := by
  intro start wire
  have started : start.line.Tidy withSession := Line.start_tidy url withSession timeout
  have tidy : wire.line.Tidy withSession := by
    rw [line_run]
    exact started.lineAfter steps
  refine ⟨tidy.origins, fun _ _ => tidy.place_of_open, tidy.owns, ?_, ?_⟩
  · intro closed
    have notClosed : start.line.given? ≠ some ⟨.given, false⟩ := by
      cases withSession <;> exact nofun
    rw [line_run] at closed
    obtain ⟨before, later, split, found⟩ := started.closedOutside_of_given? notClosed steps closed
    exact ⟨before, later, split, (line_run before start).symm ▸ found⟩
  · intro step next
    have moved : next.line = step.onLine wire.line := step.line_task wire
    refine ⟨?_, ?_, ?_⟩
    · intro own
      rw [moved, tidy.given?_onLine own]
    · intro closes
      have closed : next = { wire with line := wire.line.close } :=
        congrArg Outcome.node (step.task_of_closes closes wire)
      rw [closed]
      refine ⟨fun _ => tidy.closed_of_made, ?_⟩
      intro closing closesAgain
      rw [closing.task_of_closes closesAgain, Line.close_close]
    · rw [moved]
      rcases step.origins_onLine wire.line with kept | ⟨posts, notReady, made⟩
      · exact .inl kept
      · refine .inr ⟨posts, ?_, made⟩
        intro current same
        rw [Line.isReady, same] at notReady
        exact notReady

/-- A session that was given is closed by somebody else; the next call makes another, which the
transport closes with its client. -/
theorem run_sessions_replaced :
    let steps : List Step := [.call "getSlot" (.array []), .closeSession,
      .getBlock (.int 7) {}, .closeClient]
    let start : Wire := ⟨.start "http://node" true .null, []⟩
    (run (steps.take 3) start).node.line.sessions = [⟨.made, true⟩, ⟨.given, false⟩] ∧
      (run steps start).node.line.sessions = [⟨.made, false⟩, ⟨.given, false⟩] ∧
      ∃ before later, steps = before ++ .closeSession :: later ∧
        (run before start).node.line.session? = some ⟨.given, true⟩ := by
  intro steps start
  refine ⟨rfl, rfl, ?_⟩
  exact (run_sessions "http://node" true .null [] steps).2.2.2.1 rfl

end Wire

end BlockReader
