import BlockReader.Proofs.Result
import BlockReader.Proofs.Retry
set_option autoImplicit false

namespace BlockReader

open Result

variable {σ : Type}

def Event.isCalled : Event → Bool
  | .called _ _ => true
  | _ => false

def Event.delay? : Event → Option Delay
  | .slept delay => some delay
  | _ => none

def callsIn (events : List Event) : List Event :=
  events.filter Event.isCalled

def delaysIn (events : List Event) : List Delay :=
  events.filterMap Event.delay?

theorem callsIn_unlogged (events : List Event) : callsIn (unlogged events) = callsIn events := by
  rw [callsIn, callsIn, unlogged, List.filter_filter]
  congr 1
  funext event
  cases event <;> rfl

theorem delaysIn_unlogged (events : List Event) :
    delaysIn (unlogged events) = delaysIn events := by
  rw [delaysIn, delaysIn, unlogged, List.filterMap_filter]
  congr 1
  funext event
  cases event <;> rfl

section Calls

/-- The node after a number of calls with the same parameters. -/
def Transport.after (transport : Transport σ) (params : Json) : (calls : Nat) → σ → σ
  | 0, node => node
  | calls + 1, node =>
    transport.after params calls (transport.call blockMethod params node).node

/-- The call with the given number, when all before it have the same parameters. -/
def Transport.nthCall (transport : Transport σ) (params : Json) (number : Nat) (node : σ) :
    Outcome σ Json :=
  transport.call blockMethod params (transport.after params number node)

/-- What is seen of calls with the same parameters, when they are told by the delays between
them. -/
def Transport.trace (transport : Transport σ) (params : Json) : List Delay → σ → List Event
  | [], node => unlogged (transport.call blockMethod params node).events
  | delay :: delays, node =>
    unlogged (transport.call blockMethod params node).events ++
      .slept delay :: transport.trace params delays (transport.call blockMethod params node).node

theorem Script.transport_trace (closable : Bool) (params : Json) (delays : List Delay)
    (script : Script) :
    (Script.transport closable).trace params delays script =
      attemptsTrace (.called blockMethod params) delays := by
  induction delays generalizing script with
  | nil =>
    rfl
  | cons delay delays ih =>
    rw [Transport.trace, ih]
    rfl

end Calls

/-- The attempts at a slot, told by the delays between them. -/
structure Round where
  slot : Json
  delays : List Delay

namespace Round

def attempts (round : Round) : Nat :=
  round.delays.length + 1

def call (config : Config) (round : Round) : Event :=
  .called blockMethod (config.params round.slot)

/-- What is seen of the attempts over a script of answers, records apart. -/
def traffic (config : Config) (round : Round) : List Event :=
  attemptsTrace (round.call config) round.delays

/-- The delays are those of the patience, in order and from the first on. -/
def IsPaced (patience : Patience) (round : Round) : Prop :=
  ∀ index delay, round.delays[index]? = some delay → patience.delay index = .ok delay

theorem callsIn_traffic (config : Config) (round : Round) :
    callsIn (round.traffic config) = List.replicate round.attempts (round.call config) := by
  obtain ⟨slot, delays⟩ := round
  induction delays with
  | nil => rfl
  | cons delay delays ih => exact congrArg (_ :: ·) ih

theorem delaysIn_traffic (config : Config) (round : Round) :
    delaysIn (round.traffic config) = round.delays := by
  obtain ⟨slot, delays⟩ := round
  induction delays with
  | nil => rfl
  | cons delay delays ih => exact congrArg (delay :: ·) ih

/-- Delays that start with a whole number of seconds are whole. -/
theorem IsPaced.delays_int {retries : Json} {backoff : Int} {round : Round}
    (paced : round.IsPaced ⟨retries, .int backoff⟩) :
    round.delays = (List.range round.delays.length).map fun index =>
      .whole (backoff * 2 ^ index) := by
  apply List.ext_getElem?
  intro index
  rw [List.getElem?_map]
  by_cases inside : index < round.delays.length
  · have found := List.getElem?_eq_getElem inside
    have same := paced index _ found
    rw [Patience.delay_int] at same
    rw [found, List.getElem?_range inside, ← Except.ok.inj same]
    rfl
  · have outside : round.delays.length ≤ index := by omega
    rw [List.getElem?_eq_none outside, List.getElem?_eq_none (by simpa using outside)]
    rfl

end Round

section Attempts

/-- What the attempts from one number on come to, when they start at a node and are told by the
delays between them. -/
structure IsRound (transport : Transport σ) (slot : Json) (options : Options) (config : Config)
    (patience : Patience) (number : Nat) (start : σ) (delays : List Delay)
    (outcome : Outcome σ Block) : Prop where
  traffic : unlogged outcome.events = transport.trace (config.params slot) delays start
  /-- Every attempt is one call. -/
  node : outcome.node = transport.after (config.params slot) (delays.length + 1) start
  paced : ∀ index delay, delays[index]? = some delay → patience.delay (number + index) = .ok delay
  /-- Only after an unconfirmed block there is another attempt. -/
  unconfirmed : ∀ index < delays.length,
    IsUnconfirmed (nthFetch transport slot options index start).result
  /-- The last attempt decides, unless the wait after it fails. -/
  result : outcome.result = (nthFetch transport slot options delays.length start).result ∨
    IsUnconfirmed (nthFetch transport slot options delays.length start).result ∧
      ∃ failure, failure.isBlockFailure = false ∧ outcome.result = .error failure

variable {transport : Transport σ} {slot : Json} {options : Options} {config : Config}
  {patience : Patience} {number : Nat} {start : σ}

theorem IsRound.isPaced {delays : List Delay} {outcome : Outcome σ Block}
    (round : IsRound transport slot options config patience 0 start delays outcome) :
    Round.IsPaced patience ⟨slot, delays⟩ := by
  intro index delay listed
  have paced := round.paced index delay listed
  rw [Nat.zero_add] at paced
  exact paced

variable (accepted : options.config = .ok config)

include accepted

theorem node_fetchBlock : (fetchBlock transport slot options start).node =
    (transport.call blockMethod (config.params slot) start).node := by
  rw [fetchBlock_of_accepted transport slot options config accepted]

theorem unlogged_fetchBlock : unlogged (fetchBlock transport slot options start).events =
    unlogged (transport.call blockMethod (config.params slot) start).events := by
  rw [fetchBlock_of_accepted transport slot options config accepted, unlogged_append,
    unlogged_requestEvents, List.nil_append]

theorem nthFetch_of_accepted (index : Nat) : nthFetch transport slot options index start =
    fetchBlock transport slot options (transport.after (config.params slot) index start) := by
  induction index generalizing start with
  | zero => rfl
  | succ index ih => rw [nthFetch, ih, node_fetchBlock accepted, Transport.after]

theorem IsRound.single (limit : Nat) :
    let first := fetchBlock transport slot options start
    IsRound transport slot options config patience number start []
      ⟨attemptResult slot patience limit number first.result, first.node, first.events⟩ where
  traffic := unlogged_fetchBlock accepted
  node := node_fetchBlock accepted
  paced := nofun
  unconfirmed := nofun
  result := attemptResult_cases

theorem IsRound.cons {delays : List Delay} {outcome : Outcome σ Block}
    (unconfirmed : IsUnconfirmed (fetchBlock transport slot options start).result)
    {delay : Delay} {record : Text}
    (planned : plannedWait slot patience number = .ok (delay, record))
    (later : IsRound transport slot options config patience (number + 1)
      (fetchBlock transport slot options start).node delays outcome) :
    let first := fetchBlock transport slot options start
    IsRound transport slot options config patience number start (delay :: delays)
      ⟨outcome.result, outcome.node,
        first.events ++ waitEvents slot patience number ++ outcome.events⟩ where
  traffic := by
    dsimp only
    rw [unlogged_append, unlogged_append, unlogged_fetchBlock accepted, unlogged_waitEvents planned,
      later.traffic, node_fetchBlock accepted, List.append_assoc]
    rfl
  node := by
    rw [later.node, node_fetchBlock accepted]
    rfl
  paced := by
    intro index found listed
    cases index with
    | zero =>
      cases listed
      exact delay_of_plannedWait planned
    | succ index =>
      rw [Nat.add_comm index, ← Nat.add_assoc]
      exact later.paced index found listed
  unconfirmed := by
    intro index inside
    cases index with
    | zero => exact unconfirmed
    | succ index => exact later.unconfirmed index (Nat.lt_of_succ_lt_succ inside)
  result := later.result

/-- The attempts are a round of no more than the retries allow. -/
theorem fetchFrom_round (left : Nat) (number : Nat) (start : σ) :
    ∃ delays : List Delay, delays.length ≤ left ∧
      IsRound transport slot options config patience number start delays
        (fetchFrom transport slot options patience number left start) := by
  induction left generalizing number start with
  | zero =>
    refine ⟨[], Nat.le_refl 0, ?_⟩
    rw [fetchFrom_of_settled transport slot options patience number 0 start (.inl rfl)]
    exact .single accepted _
  | succ left ih =>
    by_cases waits : IsUnconfirmed (attemptResult slot patience (number + (left + 1)) number
        (fetchBlock transport slot options start).result)
    · obtain ⟨unconfirmed, due⟩ := isUnconfirmed_attemptResult_iff.mp waits
      obtain ⟨⟨delay, record⟩, planned⟩ := due (Nat.lt_add_of_pos_right (Nat.succ_pos left))
      obtain ⟨delays, enough, later⟩ :=
        ih (number + 1) (fetchBlock transport slot options start).node
      refine ⟨delay :: delays, Nat.succ_le_succ enough, ?_⟩
      rw [fetchFrom_of_unconfirmed transport slot options patience number left start waits]
      exact later.cons accepted unconfirmed planned
    · refine ⟨[], Nat.zero_le _, ?_⟩
      rw [fetchFrom_of_settled transport slot options patience number (left + 1) start
        (.inr waits)]
      exact .single accepted _

theorem fetchWithRetry_round {limit : Nat} (limited : patience.limit = .ok limit) :
    ∃ delays : List Delay, delays.length ≤ limit ∧
      IsRound transport slot options config patience 0 start delays
        (fetchWithRetry transport slot options patience start) := by
  rw [fetchWithRetry_of_limit transport slot options patience limit limited]
  exact fetchFrom_round accepted limit 0 start

end Attempts

end BlockReader
