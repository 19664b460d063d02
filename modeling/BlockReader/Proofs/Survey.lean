import BlockReader.Proofs.Scan.Traffic
import BlockReader.Survey
import BlockReader.Transport.Http
set_option autoImplicit false

namespace BlockReader

variable {σ : Type}

def Event.isTraffic : Event → Bool
  | .called _ _ | .posted _ | .slept _ => true
  | _ => false

def trafficIn (events : List Event) : List Event :=
  events.filter Event.isTraffic

theorem trafficIn_append (first second : List Event) :
    trafficIn (first ++ second) = trafficIn first ++ trafficIn second :=
  List.filter_append first second

/-- A transport that leaves its calls behind and nothing else, and that can always be closed. -/
structure Transport.IsPlain (transport : Transport σ) : Prop where
  calls : ∀ method params node, ∀ event ∈ (transport.call method params node).events,
    event.isTraffic = true
  closes : ∀ node, ∃ left, transport.close node = ⟨.ok (), left, []⟩

theorem Script.transport_isPlain (closable : Bool) : (transport closable).IsPlain where
  calls method params script event listed := by
    cases List.mem_singleton.mp listed
    rfl
  closes script := by
    cases closable <;> exact ⟨_, rfl⟩

theorem Wire.transport_isPlain : transport.IsPlain where
  calls method params wire event listed := by
    obtain ⟨line, replies⟩ := wire
    cases replies with
    | nil => cases listed
    | cons reply later =>
      cases List.mem_singleton.mp listed
      rfl
  closes wire := ⟨_, rfl⟩

namespace Survey

/-- How far a survey is: no client is open, the chain is asked through a client that is open, or
blocks are fetched. -/
inductive Stage where
  | ready
  | asking
  | scanning
  deriving DecidableEq

/-- The stage after an event, if the event belongs into the stage. -/
def Stage.after : Stage → Event → Option Stage
  | .ready, .opened _ => some .asking
  | .asking, .askedSlot _ => some .asking
  | .asking, .askedBlocks _ _ => some .asking
  | .asking, .closed => some .ready
  | .ready, .connected _ => some .scanning
  | .scanning, .called _ _ => some .scanning
  | .scanning, .posted _ => some .scanning
  | .scanning, .slept _ => some .scanning
  | .ready, .logged _ => some .ready
  | .scanning, .logged _ => some .scanning
  | _, _ => none

/-- The stage after events, if each of them belongs where it happens. -/
def Stage.afterAll : Stage → List Event → Option Stage
  | stage, [] => some stage
  | stage, event :: later => do
    let next ← stage.after event
    next.afterAll later

theorem Stage.afterAll_append (stage : Stage) (first second : List Event) :
    stage.afterAll (first ++ second) =
      stage.afterAll first >>= fun next => next.afterAll second := by
  induction first generalizing stage with
  | nil => rfl
  | cons event first ih =>
    rw [List.cons_append, afterAll, afterAll]
    cases stage.after event with
    | none => rfl
    | some next => exact ih next

def config : Config where
  encoding := .json
  transactionDetails := some (.text "signatures")
  rewards := some (.bool false)
  commitment := some (.text "confirmed")
  maxSupportedTransactionVersion := some (.int 0)

theorem options_config : options.config = .ok config :=
  rfl

section Ends

variable (settings : Settings) (chain : Chain) (transport : Transport σ) (start : Json)
  (count : Int) (node : σ)

/-- The slot to start at: the one that is given, or the one before the newest slots. -/
def firstSlot : Except Failure Json :=
  if start.isNull then chain.newestSlot >>= fun newest => newest.minus (.int count) else .ok start

/-- The last of the slots from a first one on. -/
def lastSlot (first : Json) : Except Failure Json :=
  first.plus (.int count) >>= fun beyond => beyond.minus (.int 1)

/-- The stretch of the chain that is surveyed: its first slot and its last. -/
def stretch : Except Failure (Json × Json) :=
  match firstSlot chain start count with
  | .ok first => (lastSlot count first).map (first, ·)
  | .error failure => .error failure

/-- What is seen of asking for the newest slot, which is done unless a start is given. -/
def search : List Event :=
  if start.isNull then [.opened settings.rpcUrl, .askedSlot "confirmed", .closed] else []

def listing (first last : Json) : List Event :=
  [.opened settings.rpcUrl, .askedBlocks first last, .closed]

/-- The records of summaries, up to the first one that cannot be described. -/
def records : List Summary → List Event
  | [] => []
  | summary :: later =>
    match describe summary with
    | .ok record => .logged ⟨.info, .scanner, record⟩ :: records later
    | .error _ => []

/-- The records of a scan that returned. -/
def reports : Except Failure (List Summary) → List Event
  | .ok summaries => records summaries
  | .error _ => []

/-- The summaries again, if each of them can be described. -/
def reported (summaries : List Summary) : Except Failure (List Summary) :=
  ((summaries.mapM describe).mapError .number).map fun _ => summaries

theorem eq_of_reported {scanned summaries : List Summary}
    (returned : reported scanned = .ok summaries) : scanned = summaries := by
  rw [reported] at returned
  cases told : scanned.mapM describe with
  | ok texts =>
    rw [told] at returned
    exact Except.ok.inj returned
  | error fault =>
    rw [told] at returned
    cases returned

/-- The ways in which a survey can end, and what is seen of it in each. -/
inductive Ends : Outcome σ (List Summary) → Prop
  /-- There is no slot to start at. -/
  | noStart {failure : Failure} : firstSlot chain start count = .error failure →
    Ends ⟨.error failure, node, search settings start⟩
  /-- The slot to start at is none to count from. -/
  | noStretch {failure : Failure} {first : Json} : firstSlot chain start count = .ok first →
    lastSlot count first = .error failure →
    Ends ⟨.error failure, node, search settings start ++ [.opened settings.rpcUrl, .closed]⟩
  /-- The chain lists no slots. -/
  | noSlots {failure : Failure} {first last : Json} : firstSlot chain start count = .ok first →
    lastSlot count first = .ok last → chain.confirmedSlots = .error failure →
    Ends ⟨.error failure, node, search settings start ++ listing settings first last⟩
  /-- What the chain lists cannot be announced. -/
  | notAnnounced {failure : Failure} {first last slots : Json} :
    firstSlot chain start count = .ok first → lastSlot count first = .ok last →
    chain.confirmedSlots = .ok slots → announcement slots = .error failure →
    Ends ⟨.error failure, node, search settings start ++ listing settings first last⟩
  /-- The blocks are scanned. -/
  | scanned {first last slots : Json} {announced : Text} {outcome : Outcome σ (List Summary)} :
    firstSlot chain start count = .ok first → lastSlot count first = .ok last →
    chain.confirmedSlots = .ok slots → announcement slots = .ok announced →
    scanListed transport options (patience settings) slots node = outcome →
    Ends ⟨outcome.result >>= reported, (transport.close outcome.node).node,
      search settings start ++ listing settings first last ++
        .logged ⟨.info, .scanner, announced⟩ :: .connected settings.rpcUrl ::
          (outcome.events ++ reports outcome.result)⟩

theorem bracket_apply {α : Type} (url : String) (ask : Task σ α) :
    Chain.bracket url ask node =
      ⟨(ask node).result, (ask node).node, .opened url :: (ask node).events ++ [.closed]⟩ :=
  rfl

theorem slotBefore_apply (url : String) :
    chain.slotBefore url (.int count) node =
      ⟨chain.newestSlot >>= fun newest => newest.minus (.int count), node,
        [.opened url, .askedSlot "confirmed", .closed]⟩ := by
  rw [Chain.slotBefore, bracket_apply]
  cases chain.newestSlot <;> rfl

theorem listSlots_apply (url : String) (first : Json) :
    chain.listSlots url first (.int count) node =
      match lastSlot count first with
      | .ok last => ⟨chain.confirmedSlots, node, [.opened url, .askedBlocks first last, .closed]⟩
      | .error failure => ⟨.error failure, node, [.opened url, .closed]⟩ := by
  rw [Chain.listSlots, bracket_apply, lastSlot]
  cases first.plus (.int count) with
  | error failure => rfl
  | ok beyond =>
    simp only [Task.ofExcept_bind]
    show _ = match beyond.minus (.int 1) with | .ok last => _ | .error failure => _
    cases beyond.minus (.int 1) <;> rfl

theorem report_apply (summaries : List Summary) :
    (report summaries : Task σ Unit) node =
      ⟨((summaries.mapM describe).mapError .number).map fun _ => (), node, records summaries⟩ := by
  induction summaries with
  | nil => rfl
  | cons summary later ih =>
    rw [report, Task.ofExcept_bind, List.mapM_cons, records]
    cases describe summary with
    | error fault => rfl
    | ok record =>
      dsimp only [Except.mapError]
      rw [Task.bind_of_ok _ _ node () rfl]
      dsimp only [Task.log, Task.emit_apply]
      rw [ih]
      cases later.mapM describe <;> rfl

/-- Scans the blocks at the slots that are listed, and reports their summaries. -/
def scanAndReport (slots : Json) : Task σ (List Summary) := do
  let summaries ← Task.closing
    (scanListed transport options (patience settings) slots)
    transport.close
  report summaries
  pure summaries

/-- A survey from a first slot on. -/
def runFrom (first : Json) : Task σ (List Summary) := do
  let slots ← chain.listSlots settings.rpcUrl first (.int count)
  let announced ← Task.ofExcept (announcement slots)
  Task.log .info .scanner announced
  Task.emit (.connected settings.rpcUrl)
  scanAndReport settings transport slots

theorem run_eq : run settings chain transport start (.int count) node =
    match firstSlot chain start count with
    | .ok first =>
      let rest := runFrom settings chain transport count first node
      ⟨rest.result, rest.node, search settings start ++ rest.events⟩
    | .error failure => ⟨.error failure, node, search settings start⟩ := by
  rw [run, firstSlot, search]
  split
  · have asked := slotBefore_apply chain count node settings.rpcUrl
    cases found : chain.newestSlot >>= fun newest => newest.minus (.int count) with
    | ok first =>
      rw [found] at asked
      rw [Task.bind_of_ok _ _ node first (congrArg Outcome.result asked), asked]
      rfl
    | error failure =>
      rw [found] at asked
      rw [Task.bind_of_error _ _ node failure (congrArg Outcome.result asked), asked]
  · rfl

variable {transport} (plain : transport.IsPlain)

include plain

theorem closing_apply {α : Type} (task : Task σ α) :
    Task.closing task transport.close node =
      ⟨(task node).result, (transport.close (task node).node).node, (task node).events⟩ := by
  obtain ⟨left, closed⟩ := plain.closes (task node).node
  rw [Task.closing, Task.bind_of_ok _ _ node _ rfl]
  dsimp only [Task.attempt_apply]
  rw [Task.bind_of_ok _ _ _ () (congrArg Outcome.result closed), closed]
  dsimp only [Task.ofExcept_apply]
  rw [List.append_nil, List.append_nil]

theorem scanAndReport_apply (slots : Json) :
    let scanned := scanListed transport options (patience settings) slots node
    scanAndReport settings transport slots node =
      ⟨scanned.result >>= reported, (transport.close scanned.node).node,
        scanned.events ++ reports scanned.result⟩ := by
  intro scanned
  rw [scanAndReport]
  have closed := closing_apply node plain (scanListed transport options (patience settings) slots)
  cases ended : scanned.result with
  | error failure =>
    rw [Task.bind_of_error _ _ node failure (by rw [closed]; exact ended), closed, reports,
      List.append_nil]
    rfl
  | ok summaries =>
    rw [Task.bind_of_ok _ _ node summaries (by rw [closed]; exact ended), closed, Task.bind_pure,
      report_apply]
    show _ = Outcome.mk (reported summaries) _ _
    rw [reported]
    cases summaries.mapM describe <;> rfl

theorem run_ends :
    Ends settings chain transport start count node
      (run settings chain transport start (.int count) node) := by
  rw [run_eq]
  cases found : firstSlot chain start count with
  | error failure => exact .noStart found
  | ok first =>
    have asked := listSlots_apply chain count node settings.rpcUrl first
    dsimp only
    unfold runFrom
    cases reached : lastSlot count first with
    | error failure =>
      rw [reached] at asked
      rw [Task.bind_of_error _ _ node failure (congrArg Outcome.result asked), asked]
      exact .noStretch found reached
    | ok last =>
      rw [reached] at asked
      dsimp only at asked
      cases listed : chain.confirmedSlots with
      | error failure =>
        rw [listed] at asked
        rw [Task.bind_of_error _ _ node failure (congrArg Outcome.result asked), asked]
        exact .noSlots found reached listed
      | ok slots =>
        rw [listed] at asked
        rw [Task.bind_of_ok _ _ node slots (congrArg Outcome.result asked), asked]
        dsimp only
        rw [Task.ofExcept_bind]
        cases said : announcement slots with
        | error failure =>
          dsimp only
          rw [List.append_nil]
          exact .notAnnounced found reached listed said
        | ok announced =>
          dsimp only
          have whole : Ends settings chain transport start count node _ :=
            .scanned found reached listed said rfl
          rw [List.append_assoc] at whole
          rw [Task.bind_of_ok _ _ node () rfl, Task.bind_of_ok _ _ _ () rfl,
            show (Task.emit _ (Task.log _ _ _ node).node).node = node from rfl,
            scanAndReport_apply settings node plain slots]
          exact whole

end Ends

/-- The commitment at which the newest slot is asked for. -/
def commitment? : Event → Option String
  | .askedSlot commitment => some commitment
  | _ => none

/-- The slots between which the confirmed ones are asked for. -/
def window? : Event → Option (Json × Json)
  | .askedBlocks first last => some (first, last)
  | _ => none

theorem of_isLogged_or_isTraffic {event : Event}
    (kind : event.isLogged = true ∨ event.isTraffic = true) :
    Stage.scanning.after event = some .scanning ∧ commitment? event = none ∧
      window? event = none ∧ event.isTraffic = !event.isLogged := by
  cases event with
  | called | posted | slept | logged => exact ⟨rfl, rfl, rfl, rfl⟩
  | _ =>
    rcases kind with logged | traffic
    · cases logged
    · cases traffic

theorem isLogged_of_mem_reports {result : Except Failure (List Summary)} {event : Event}
    (listed : event ∈ reports result) : event.isLogged = true := by
  cases result with
  | error failure => cases listed
  | ok summaries =>
    rw [reports] at listed
    induction summaries with
    | nil => cases listed
    | cons summary later ih =>
      rw [records] at listed
      cases told : describe summary with
      | error fault =>
        rw [told] at listed
        cases listed
      | ok record =>
        rw [told] at listed
        rcases List.mem_cons.mp listed with rfl | behind
        · exact Event.isLogged_logged _
        · exact ih behind

def AreOfScan (events : List Event) : Prop :=
  ∀ event ∈ events, event.isLogged = true ∨ event.isTraffic = true

namespace AreOfScan

theorem append {first second : List Event} (before : AreOfScan first)
    (after : AreOfScan second) : AreOfScan (first ++ second) := by
  intro event listed
  rcases List.mem_append.mp listed with early | late
  · exact before event early
  · exact after event late

theorem reports (result : Except Failure (List Summary)) : AreOfScan (reports result) :=
  fun _ listed => .inl (isLogged_of_mem_reports listed)

variable {events : List Event} (quiet : AreOfScan events)

include quiet

theorem afterAll : Stage.scanning.afterAll events = some .scanning := by
  induction events with
  | nil => rfl
  | cons event later ih =>
    obtain ⟨stays, _⟩ := of_isLogged_or_isTraffic (quiet event List.mem_cons_self)
    rw [Stage.afterAll, stays]
    exact ih fun other listed => quiet other (List.mem_cons_of_mem _ listed)

theorem filterMap_commitment? : events.filterMap commitment? = [] :=
  List.filterMap_eq_nil_iff.mpr fun event listed =>
    (of_isLogged_or_isTraffic (quiet event listed)).2.1

theorem filterMap_window? : events.filterMap window? = [] :=
  List.filterMap_eq_nil_iff.mpr fun event listed =>
    (of_isLogged_or_isTraffic (quiet event listed)).2.2.1

theorem trafficIn_eq : trafficIn events = unlogged events :=
  List.filter_congr fun event listed => (of_isLogged_or_isTraffic (quiet event listed)).2.2.2

end AreOfScan

section Scan

variable {transport : Transport σ} (plain : transport.IsPlain)

include plain

theorem trace_isTraffic (params : Json) (delays : List Delay) (node : σ) :
    ∀ event ∈ transport.trace params delays node, event.isTraffic = true := by
  have called (node : σ) :
      ∀ event ∈ unlogged (transport.call blockMethod params node).events, event.isTraffic = true :=
    fun event listed => plain.calls _ _ _ event (List.mem_of_mem_filter listed)
  induction delays generalizing node with
  | nil => exact called node
  | cons delay delays ih =>
    intro event listed
    rw [Transport.trace, List.mem_append, List.mem_cons] at listed
    rcases listed with early | rfl | late
    · exact called node event early
    · rfl
    · exact ih _ event late

theorem roundsTrace_isTraffic (config : Config) (rounds : List Round) (node : σ) :
    ∀ event ∈ transport.roundsTrace config rounds node, event.isTraffic = true := by
  induction rounds generalizing node with
  | nil => exact nofun
  | cons round rounds ih =>
    intro event listed
    rw [Transport.roundsTrace, List.mem_append] at listed
    rcases listed with early | late
    · exact trace_isTraffic plain _ _ _ event early
    · exact ih _ event late

/-- What is seen of scanning the slots that the chain has listed. -/
theorem scanListed_rounds (settings : Settings) (slots : Json) (node : σ) :
    let scanned := scanListed transport options (patience settings) slots node
    AreOfScan scanned.events ∧ ∃ rounds : List Round,
      rounds.map Round.slot <+: slots.items.toOption.getD [] ∧
      trafficIn scanned.events = transport.roundsTrace config rounds node ∧
      ∀ summaries, scanned.result = .ok summaries →
        rounds.map Round.slot = slots.items.toOption.getD [] := by
  intro scanned
  have limited : (patience settings).limit = .ok settings.retries.toNat :=
    Patience.limit_int settings.retries (.float settings.backoff)
  cases given : slots.items with
  | error failure =>
    have none : scanned = ⟨.error failure, node, []⟩ := by
      show (Task.ofExcept slots.items >>= _) node = _
      rw [Task.ofExcept_bind, given]
    rw [none]
    exact ⟨nofun, [], List.prefix_rfl, rfl, nofun⟩
  | ok items =>
    have whole : scanned = scan transport options (patience settings) items node := by
      show (Task.ofExcept slots.items >>= _) node = _
      rw [Task.ofExcept_bind, given]
    obtain ⟨rounds, made⟩ := scan_rounds transport options_config limited items node
    rw [← whole] at made
    have quiet : AreOfScan scanned.events := by
      intro event listed
      cases kind : event.isLogged with
      | true => exact .inl rfl
      | false =>
        have seen : event ∈ unlogged scanned.events := by
          rw [unlogged, List.mem_filter, kind]
          exact ⟨listed, rfl⟩
        rw [made.traffic] at seen
        exact .inr (roundsTrace_isTraffic plain config rounds node event seen)
    refine ⟨quiet, rounds, made.front, ?_, made.complete⟩
    rw [quiet.trafficIn_eq]
    exact made.traffic

/-- Nothing else is seen of a scan, even when its summaries are reported. -/
theorem areOfScan {settings : Settings} {slots : Json} {node : σ}
    {scanned : Outcome σ (List Summary)}
    (made : scanListed transport options (patience settings) slots node = scanned) :
    AreOfScan (scanned.events ++ reports scanned.result) := by
  obtain ⟨quiet, _⟩ := scanListed_rounds plain settings slots node
  rw [made] at quiet
  exact quiet.append (.reports scanned.result)

end Scan

section Search

variable (settings : Settings) (start : Json)

theorem afterAll_search : Stage.ready.afterAll (search settings start) = some .ready := by
  rw [search]
  split <;> rfl

theorem commitments_search : (search settings start).filterMap commitment? =
    if start.isNull then ["confirmed"] else [] := by
  rw [search]
  split <;> rfl

theorem windows_search : (search settings start).filterMap window? = [] := by
  rw [search]
  split <;> rfl

theorem trafficIn_search : trafficIn (search settings start) = [] := by
  rw [search]
  split <;> rfl

theorem trafficIn_reports (result : Except Failure (List Summary)) :
    trafficIn (reports result) = [] := by
  rw [(AreOfScan.reports result).trafficIn_eq, unlogged, List.filter_eq_nil_iff]
  intro event listed
  rw [isLogged_of_mem_reports listed]
  exact Bool.false_ne_true

theorem connected_not_mem_search (url : String) : .connected url ∉ search settings start := by
  rw [search]
  split <;> simp

end Search

namespace Ends

variable {settings : Settings} {chain : Chain} {transport : Transport σ} {start : Json}
  {count : Int} {node : σ} {outcome : Outcome σ (List Summary)}
  (plain : transport.IsPlain)
  (ends : Ends settings chain transport start count node outcome)

include ends

theorem returned (summaries : List Summary) (success : outcome.result = .ok summaries) :
    ∃ slots, chain.confirmedSlots = .ok slots ∧
      (scanListed transport options (patience settings) slots node).result = .ok summaries := by
  cases ends with
  | scanned _ _ listed _ made =>
    obtain ⟨scanned, ended, told⟩ := (Result.bind_eq_ok_iff _ _ _).mp success
    rw [eq_of_reported told, ← made] at ended
    exact ⟨_, listed, ended⟩
  | _ => cases success

/-- A client for blocks is made when slots are listed and announced. -/
theorem connects (url : String) (made : .connected url ∈ outcome.events) :
    ∃ slots announced, chain.confirmedSlots = .ok slots ∧ announcement slots = .ok announced := by
  have notBefore := connected_not_mem_search settings start url
  cases ends with
  | noStart => exact absurd made notBefore
  | scanned _ _ listed said => exact ⟨_, _, listed, said⟩
  | _ =>
    refine absurd made ?_
    simp [notBefore, listing]

include plain

theorem inTurn : ∃ stage, Stage.ready.afterAll outcome.events = some stage ∧ stage ≠ .asking := by
  cases ends with
  | noStart => exact ⟨.ready, afterAll_search settings start, nofun⟩
  | scanned _ _ _ _ made =>
    refine ⟨.scanning, ?_, nofun⟩
    dsimp only
    rw [List.append_assoc, Stage.afterAll_append, afterAll_search]
    exact (areOfScan plain made).afterAll
  | _ =>
    refine ⟨.ready, ?_, nofun⟩
    dsimp only
    rw [Stage.afterAll_append, afterAll_search]
    rfl

theorem commitments : outcome.events.filterMap commitment? =
    if start.isNull then ["confirmed"] else [] := by
  cases ends with
  | noStart => exact commitments_search settings start
  | scanned _ _ _ _ made =>
    dsimp only
    rw [List.append_assoc, List.filterMap_append, commitments_search]
    have rest := (areOfScan plain made).filterMap_commitment?
    simp only [listing, List.cons_append, List.nil_append, List.filterMap_cons, commitment?, rest,
      List.append_nil]
  | _ =>
    dsimp only
    rw [List.filterMap_append, commitments_search]
    exact List.append_nil _

/-- The confirmed slots are asked for once, if there is a stretch to ask for. -/
theorem windows :
    outcome.events.filterMap window? = (stretch chain start count).toOption.toList := by
  rw [stretch]
  cases ends with
  | noStart missing =>
    rw [missing]
    exact windows_search settings start
  | noStretch found missing =>
    rw [found]
    dsimp only
    rw [List.filterMap_append, windows_search, missing]
    rfl
  | noSlots found reached | notAnnounced found reached =>
    rw [found]
    dsimp only
    rw [List.filterMap_append, windows_search, reached]
    rfl
  | scanned found reached _ _ made =>
    have rest := (areOfScan plain made).filterMap_window?
    rw [found]
    dsimp only
    rw [List.append_assoc, List.filterMap_append, windows_search, reached]
    simp only [listing, List.cons_append, List.nil_append, List.filterMap_cons, window?, rest]
    rfl

theorem fetched : ∃ rounds : List Round,
    rounds.map Round.slot <+: (chain.confirmedSlots >>= Json.items).toOption.getD [] ∧
    trafficIn outcome.events = transport.roundsTrace config rounds node ∧
    ∀ summaries, outcome.result = .ok summaries →
      rounds.map Round.slot = (chain.confirmedSlots >>= Json.items).toOption.getD [] := by
  cases ends with
  | noStart => exact ⟨[], List.nil_prefix, trafficIn_search settings start, nofun⟩
  | @scanned _ _ slots _ ended _ _ listed _ made =>
    obtain ⟨quiet, rounds, front, traffic, complete⟩ := scanListed_rounds plain settings slots node
    rw [made] at traffic complete
    rw [listed]
    refine ⟨rounds, front, ?_, fun summaries success => ?_⟩
    · dsimp only
      rw [List.append_assoc, trafficIn_append, trafficIn_search]
      show trafficIn (ended.events ++ reports ended.result) = _
      rw [trafficIn_append, trafficIn_reports, List.append_nil]
      exact traffic
    · obtain ⟨scanned, returned, _⟩ := (Result.bind_eq_ok_iff _ _ _).mp success
      exact complete scanned returned
  | _ =>
    refine ⟨[], List.nil_prefix, ?_, nofun⟩
    dsimp only
    rw [trafficIn_append, trafficIn_search]
    rfl

end Ends

/-- What holds of a survey in every case. -/
structure IsSurveyed (settings : Settings) (chain : Chain) (transport : Transport σ) (start : Json)
    (count : Int) (node : σ) (outcome : Outcome σ (List Summary)) : Prop where
  /-- It ends in one of its ways: where a step fails, over that failure and with nothing seen of
  the steps behind it. -/
  ends : Ends settings chain transport start count node outcome
  /-- A client for the chain is closed, once, before anything else happens than that it is asked;
  blocks are fetched after that. -/
  inTurn : ∃ stage, Stage.ready.afterAll outcome.events = some stage ∧ stage ≠ .asking
  /-- The newest slot is asked for exactly when no start is given. -/
  commitments : outcome.events.filterMap commitment? = if start.isNull then ["confirmed"] else []
  given : ∀ first, start = .int first →
    outcome.events.filterMap window? = [(.int first, .int (first + count - 1))]
  newest : start = .null → ∀ slot, chain.newestSlot = .ok (.int slot) →
    outcome.events.filterMap window? = [(.int (slot - count), .int (slot - 1))]
  connects : ∀ url, .connected url ∈ outcome.events → ∃ slots announced,
    chain.confirmedSlots = .ok slots ∧ announcement slots = .ok announced
  /-- Blocks are fetched at the slots that the chain has listed, one after another. -/
  fetched : ∃ rounds : List Round,
    rounds.map Round.slot <+: (chain.confirmedSlots >>= Json.items).toOption.getD [] ∧
    trafficIn outcome.events = transport.roundsTrace config rounds node ∧
    ∀ summaries, outcome.result = .ok summaries →
      rounds.map Round.slot = (chain.confirmedSlots >>= Json.items).toOption.getD []
  /-- A survey returns what the scan returns. -/
  returned : ∀ summaries, outcome.result = .ok summaries → ∃ slots,
    chain.confirmedSlots = .ok slots ∧
      (scanListed transport options (patience settings) slots node).result = .ok summaries

/-- A survey over a plain transport, whatever the chain and the node answer. Clients are opened and
closed in turn on every way out of it. The chain is asked for its newest slot only if no start is
given, and then for the confirmed slots of one stretch. The blocks are fetched last, at the slots
that were listed, and what the scan of them returns is what the survey returns. -/
theorem run_bracketed (settings : Settings) (chain : Chain) (transport : Transport σ)
    (plain : transport.IsPlain) (start : Json) (count : Int) (node : σ) :
    IsSurveyed settings chain transport start count node
      (run settings chain transport start (.int count) node) := by
  have ends := run_ends settings chain start count node plain
  have windows := ends.windows plain
  refine ⟨ends, ends.inTurn plain, ends.commitments plain, ?_, ?_, ends.connects,
    ends.fetched plain, ends.returned⟩
  · rintro first rfl
    exact windows
  · rintro rfl slot newest
    rw [windows, stretch, firstSlot, newest]
    show [(Json.int (slot - count), Json.int (slot - count + count - 1))] = _
    rw [Int.sub_add_cancel]

/-- A survey of the newest two slots. The first is left out, the call for the second fails: the
client for blocks is closed all the same. -/
theorem run_bracketed_broken_off :
    let settings : Settings :=
      { rpcUrl := "http://node", rpcTimeout := .zero false, retries := 0, backoff := .zero false,
        logLevel := "INFO", host := "localhost", port := 8000 }
    let chain : Chain := ⟨.ok (.int 12), .ok (.array [.int 10, .int 11])⟩
    let script : Script := ⟨[.error (.rpc .null .null .null), .error (.transport [])], 0⟩
    let transport := Script.transport true
    let outcome := run settings chain transport .null (.int 2) script
    transport.IsPlain ∧ outcome.result = .error (.transport []) ∧ outcome.node.closes = 1 ∧
      outcome.events.filterMap commitment? = ["confirmed"] ∧
      outcome.events.filterMap window? = [(.int 10, .int 11)] ∧
      ∃ rounds : List Round, rounds.map Round.slot <+: [.int 10, .int 11] ∧
        trafficIn outcome.events = transport.roundsTrace config rounds script := by
  intro settings chain script transport outcome
  have plain : transport.IsPlain := Script.transport_isPlain true
  have surveyed := run_bracketed settings chain transport plain .null 2 script
  obtain ⟨rounds, listed, traffic, _⟩ := surveyed.fetched
  exact ⟨plain, rfl, rfl, surveyed.commitments, surveyed.newest rfl 12 rfl, rounds, listed, traffic⟩

end Survey

end BlockReader
