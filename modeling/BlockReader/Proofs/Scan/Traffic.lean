import BlockReader.Proofs.Round
import BlockReader.Proofs.Scan.Append
import Mathlib.Algebra.Order.BigOperators.Group.List
set_option autoImplicit false

namespace BlockReader

variable {σ : Type}

namespace Transport

def afterRounds (transport : Transport σ) (config : Config) : List Round → σ → σ
  | [], node => node
  | round :: rounds, node =>
    transport.afterRounds config rounds
      (transport.after (config.params round.slot) round.attempts node)

/-- What is seen of rounds, records apart. -/
def roundsTrace (transport : Transport σ) (config : Config) : List Round → σ → List Event
  | [], _ => []
  | round :: rounds, node =>
    transport.trace (config.params round.slot) round.delays node ++
      transport.roundsTrace config rounds
        (transport.after (config.params round.slot) round.attempts node)

end Transport

theorem Script.transport_roundsTrace (closable : Bool) (config : Config) (rounds : List Round)
    (script : Script) : (Script.transport closable).roundsTrace config rounds script =
      rounds.flatMap (Round.traffic config) := by
  induction rounds generalizing script with
  | nil => rfl
  | cons round rounds ih =>
    rw [Transport.roundsTrace, Script.transport_trace, ih]
    rfl

/-- What a scan that starts at a node comes to, told by its rounds. -/
structure IsRounds (transport : Transport σ) (options : Options) (config : Config)
    (patience : Patience) (limit : Nat) (start : σ) (slots : List Json) (rounds : List Round)
    (outcome : Outcome σ (List Summary)) : Prop where
  /-- The rounds are those of the first slots, in order. -/
  front : rounds.map Round.slot <+: slots
  paced : ∀ round ∈ rounds, round.delays.length ≤ limit ∧ round.IsPaced patience
  traffic : unlogged outcome.events = transport.roundsTrace config rounds start
  node : outcome.node = transport.afterRounds config rounds start
  /-- A scan that returns has been to every slot. -/
  complete : ∀ summaries, outcome.result = .ok summaries → rounds.map Round.slot = slots
  /-- A failure to fetch is that of the last attempt. -/
  raised : ∀ failure, outcome.result = .error failure → failure.isBlockFailure = true →
    ∃ before round, rounds = before ++ [round] ∧
      (nthFetch transport round.slot options round.delays.length
        (transport.afterRounds config before start)).result = .error failure

/-- A visit leaves no more behind than its fetch, records apart. -/
theorem Visit.unlogged_trace (patience : Patience) (visit : Visit σ) :
    unlogged (visit.trace patience) = unlogged visit.fetched.events := by
  rw [trace, unlogged_append]
  cases visit.fetched.result with
  | ok block => exact List.append_nil _
  | error failure =>
    dsimp only
    split <;> exact List.append_nil _

section Run

variable {transport : Transport σ} {options : Options} {config : Config} {patience : Patience}
  {limit : Nat} {start : σ} {slot : Json} {rest : List Json} {delays : List Delay}

theorem isRounds_nil : IsRounds transport options config patience limit start [] []
    ⟨.ok [], start, []⟩ where
  front := List.prefix_rfl
  paced := nofun
  traffic := rfl
  node := rfl
  complete := fun _ _ => rfl
  raised := nofun

variable (enough : delays.length ≤ limit)
  (round : IsRound transport slot options config patience 0 start delays
    (visitTo transport options patience slot start).fetched)

include enough round

theorem IsRounds.cons {rounds : List Round} {others : Outcome σ (List Summary)}
    (later : IsRounds transport options config patience limit
      (visitTo transport options patience slot start).fetched.node rest rounds others)
    (kept : List Summary) :
    let visit := visitTo transport options patience slot start
    IsRounds transport options config patience limit start (slot :: rest) (⟨slot, delays⟩ :: rounds)
      ⟨others.result.map (kept ++ ·), others.node, visit.trace patience ++ others.events⟩ where
  front := (List.prefix_cons_inj slot).mpr later.front
  paced := List.forall_mem_cons.mpr ⟨⟨enough, round.isPaced⟩, later.paced⟩
  traffic := by
    dsimp only
    rw [unlogged_append, Visit.unlogged_trace, round.traffic, later.traffic, round.node]
    rfl
  node := by
    rw [later.node, round.node]
    rfl
  complete := by
    intro summaries returned
    dsimp only at returned
    cases ended : others.result with
    | ok last => rw [List.map_cons, later.complete last ended]
    | error failure =>
      rw [ended] at returned
      cases returned
  raised := by
    intro failure failed kind
    dsimp only at failed
    cases ended : others.result with
    | ok last =>
      rw [ended] at failed
      cases failed
    | error other =>
      rw [ended] at failed
      cases failed
      obtain ⟨before, final, rfl, same⟩ := later.raised failure ended kind
      rw [round.node] at same
      exact ⟨⟨slot, delays⟩ :: before, final, rfl, same⟩

theorem IsRounds.stop {failure : Failure} :
    let visit := visitTo transport options patience slot start
    visit.EndsWith patience failure →
    IsRounds transport options config patience limit start (slot :: rest) [⟨slot, delays⟩]
      ⟨.error failure, visit.fetched.node, visit.trace patience⟩ := by
  intro visit ends
  refine ⟨?_, ?_, ?_, round.node, nofun, ?_⟩
  · exact (List.prefix_cons_inj slot).mpr List.nil_prefix
  · exact List.forall_mem_singleton.mpr ⟨enough, round.isPaced⟩
  · dsimp only
    rw [Visit.unlogged_trace, round.traffic]
    exact (List.append_nil _).symm
  · intro other same kind
    cases same
    refine ⟨[], ⟨slot, delays⟩, rfl, ?_⟩
    cases ends with
    | fails fails =>
      cases fails with
      | fetch _ failed final =>
        rcases round.result with last | ⟨_, stuck, notOfFetch, same⟩
        · exact last.symm.trans failed
        -- A wait that fails ends the scan too, but not over the block.
        · cases same.symm.trans failed
          rw [notOfFetch] at kind
          cases kind
      | rewards block returned lengthless => cases kind
    | untold leftOut long => cases kind

end Run

theorem scan_rounds (transport : Transport σ) {options : Options} {config : Config}
    {patience : Patience} {limit : Nat} (accepted : options.config = .ok config)
    (limited : patience.limit = .ok limit) (slots : List Json) (start : σ) :
    ∃ rounds, IsRounds transport options config patience limit start slots rounds
      (scan transport options patience slots start) := by
  -- Each round leaves the node elsewhere, so the induction is for every start.
  induction slots generalizing start with
  | nil => exact ⟨[], isRounds_nil⟩
  | cons slot rest ih =>
    obtain ⟨delays, enough, round⟩ : ∃ delays : List Delay, delays.length ≤ limit ∧
        IsRound transport slot options config patience 0 start delays
          (visitTo transport options patience slot start).fetched :=
      fetchWithRetry_round accepted limited
    rcases scan_cons_cases transport options patience slot start with
      ⟨kept, goesOn⟩ | ⟨failure, ends, stops⟩
    · obtain ⟨rounds, later⟩ := ih (visitTo transport options patience slot start).fetched.node
      rw [goesOn]
      exact ⟨⟨slot, delays⟩ :: rounds, later.cons enough round kept⟩
    · exact ⟨_, stops rest ▸ IsRounds.stop enough round ends⟩

/-- The seconds slept in a round, when its delays double from a whole number on. -/
def Round.seconds (backoff : Int) (round : Round) : List Int :=
  (List.range round.delays.length).map fun index => backoff * 2 ^ index

theorem Round.sum_seconds (backoff : Int) (round : Round) :
    (round.seconds backoff).sum = backoff * (2 ^ round.delays.length - 1) := by
  rw [seconds]
  induction round.delays.length with
  | zero => simp
  | succ number ih =>
    rw [List.range_succ, List.map_append, List.sum_append, ih, List.map_singleton,
      List.sum_singleton, pow_succ]
    ring

/-- A round sleeps no longer than one that goes on to the last retry. -/
theorem Round.sum_seconds_le {backoff : Int} (positive : 0 ≤ backoff) {round : Round} {limit : Nat}
    (enough : round.delays.length ≤ limit) :
    (round.seconds backoff).sum ≤ backoff * (2 ^ limit - 1) := by
  have powers : (2 : Int) ^ round.delays.length ≤ 2 ^ limit := pow_le_pow_right₀ (by decide) enough
  rw [sum_seconds]
  exact mul_le_mul_of_nonneg_left (by omega) positive

/-- The time slept in rounds that go no further than the last retry. -/
theorem sum_seconds_le_card {backoff : Int} (positive : 0 ≤ backoff) {limit : Nat}
    {rounds : List Round} (enough : ∀ round ∈ rounds, round.delays.length ≤ limit) :
    (rounds.flatMap (Round.seconds backoff)).sum ≤ rounds.length * (backoff * (2 ^ limit - 1)) := by
  rw [List.flatMap, List.sum_flatten, List.map_map, ← nsmul_eq_mul,
    ← List.length_map (List.sum ∘ Round.seconds backoff)]
  apply List.sum_le_card_nsmul
  intro slept member
  obtain ⟨round, listed, rfl⟩ := List.mem_map.mp member
  exact Round.sum_seconds_le positive (enough round listed)

theorem sum_attempts (rounds : List Round) :
    (rounds.map Round.attempts).sum = (rounds.flatMap Round.delays).length + rounds.length := by
  induction rounds with
  | nil => rfl
  | cons round rounds ih =>
    rw [List.map_cons, List.sum_cons, List.flatMap_cons, List.length_append, List.length_cons, ih,
      Round.attempts]
    omega

namespace IsRounds

theorem length_rounds_le {transport : Transport σ} {options : Options} {config : Config}
    {patience : Patience} {limit : Nat} {start : σ} {slots : List Json} {rounds : List Round}
    {outcome : Outcome σ (List Summary)}
    (scanned : IsRounds transport options config patience limit start slots rounds outcome) :
    rounds.length ≤ slots.length := by
  have short := scanned.front.length_le
  rw [List.length_map] at short
  exact short

section Script

variable {closable : Bool} {options : Options} {config : Config} {patience : Patience}
  {limit : Nat} {script : Script} {slots : List Json} {rounds : List Round}
  {outcome : Outcome Script (List Summary)}
  (scanned : IsRounds (Script.transport closable) options config patience limit script slots rounds
    outcome)

include scanned

theorem traffic_script : unlogged outcome.events = rounds.flatMap (Round.traffic config) := by
  rw [scanned.traffic, Script.transport_roundsTrace]

theorem callsIn_events : callsIn outcome.events =
    rounds.flatMap fun round => List.replicate round.attempts (round.call config) := by
  rw [← callsIn_unlogged, scanned.traffic_script, callsIn, List.filter_flatMap]
  congr 1
  funext round
  exact round.callsIn_traffic config

theorem delaysIn_events : delaysIn outcome.events = rounds.flatMap Round.delays := by
  rw [← delaysIn_unlogged, scanned.traffic_script, delaysIn, List.filterMap_flatMap]
  congr 1
  funext round
  exact round.delaysIn_traffic config

theorem length_callsIn : (callsIn outcome.events).length = (rounds.map Round.attempts).sum := by
  rw [scanned.callsIn_events, List.length_flatMap]
  simp only [List.length_replicate]

theorem length_callsIn_le :
    (callsIn outcome.events).length ≤ rounds.length * (limit + 1) := by
  rw [scanned.length_callsIn, ← List.length_map Round.attempts, ← smul_eq_mul]
  apply List.sum_le_card_nsmul
  intro attempts member
  obtain ⟨round, listed, rfl⟩ := List.mem_map.mp member
  exact Nat.succ_le_succ (scanned.paced round listed).1

end Script

end IsRounds

/-- With whole numbers of retries and seconds a scan, however it ends, is made of one round for each
slot of a front part of the list, all of it if the scan returns. A round is one call more than it
has sleeps, no more sleeps than there are retries, and the sleeps of every round start from the
first delay again. So as many calls are made as there are sleeps and rounds together, at most one
more than the retries for each slot, and a slot adds at most the sum of all its delays to the time
slept. -/
theorem scan_traffic (closable : Bool) (options : Options) (config : Config)
    (retries backoff : Int) (slots : List Json) (script : Script)
    (accepted : options.config = .ok config) :
    let outcome := scan (Script.transport closable) options ⟨.int retries, .int backoff⟩ slots
      script
    ∃ rounds : List Round,
      rounds.map Round.slot <+: slots ∧
      (∀ summaries, outcome.result = .ok summaries → rounds.map Round.slot = slots) ∧
      (∀ round ∈ rounds, round.delays.length ≤ retries.toNat ∧
        round.delays = (List.range round.delays.length).map fun index =>
          .whole (backoff * 2 ^ index)) ∧
      unlogged outcome.events = rounds.flatMap (Round.traffic config) ∧
      (callsIn outcome.events = rounds.flatMap fun round =>
        List.replicate round.attempts (round.call config)) ∧
      delaysIn outcome.events = rounds.flatMap Round.delays ∧
      (delaysIn outcome.events).length + rounds.length = (callsIn outcome.events).length ∧
      (callsIn outcome.events).length ≤ slots.length * (retries.toNat + 1) ∧
      (0 ≤ backoff → ∃ seconds : List Int, delaysIn outcome.events = seconds.map .whole ∧
        seconds.sum ≤ slots.length * (backoff * (2 ^ retries.toNat - 1))) := by
  intro outcome
  obtain ⟨rounds, scanned⟩ := scan_rounds (Script.transport closable) accepted
    (Patience.limit_int retries (.int backoff)) slots script
  have enough : ∀ round ∈ rounds, round.delays.length ≤ retries.toNat :=
    fun round member => (scanned.paced round member).1
  have doubled : ∀ round ∈ rounds, round.delays = (round.seconds backoff).map .whole := by
    intro round member
    rw [Round.seconds, List.map_map]
    exact (scanned.paced round member).2.delays_int
  have visited := scanned.length_rounds_le
  refine ⟨rounds, scanned.front, scanned.complete, ?_, scanned.traffic_script,
    scanned.callsIn_events, scanned.delaysIn_events, ?_, ?_, ?_⟩
  · intro round member
    exact ⟨enough round member, (scanned.paced round member).2.delays_int⟩
  · rw [scanned.length_callsIn, scanned.delaysIn_events, sum_attempts]
  · exact scanned.length_callsIn_le.trans (Nat.mul_le_mul_right _ visited)
  · intro positive
    refine ⟨rounds.flatMap (Round.seconds backoff), ?_, ?_⟩
    · rw [scanned.delaysIn_events, List.map_flatMap]
      exact List.flatMap_congr doubled
    · have once : 0 ≤ backoff * (2 ^ retries.toNat - 1) := by
        have power : (1 : Int) ≤ 2 ^ retries.toNat := one_le_pow₀ (by decide)
        exact mul_nonneg positive (by omega)
      calc (rounds.flatMap (Round.seconds backoff)).sum
          ≤ rounds.length * (backoff * (2 ^ retries.toNat - 1)) :=
            sum_seconds_le_card positive enough
        _ ≤ slots.length * (backoff * (2 ^ retries.toNat - 1)) :=
            mul_le_mul_of_nonneg_right (Nat.cast_le.mpr visited) once

/-- One wait, a slot that is left out, and a call that fails: there is no round for the last
slot. -/
theorem scan_traffic_broken_off :
    let config : Config := ⟨.json, none, none, none, none⟩
    let script : Script := ⟨[.ok .null, .error (.rpc .null .null .null), .error (.transport [])], 0⟩
    let outcome := scan (Script.transport false) {} ⟨.int 2, .int 3⟩ [.int 1, .int 2, .int 3] script
    Options.config {} = .ok config ∧ outcome.result = .error (.transport []) ∧
      delaysIn outcome.events = [.whole 3] ∧
      ∃ rounds : List Round, rounds.map Round.slot = [.int 1, .int 2] ∧
        unlogged outcome.events = rounds.flatMap (Round.traffic config) := by
  intro config script outcome
  have failed : outcome.result = .error (.transport []) := rfl
  have slept : delaysIn outcome.events = [.whole 3] := rfl
  have called : (callsIn outcome.events).length = 3 := rfl
  obtain ⟨rounds, front, _, _, traffic, _, _, count, _, _⟩ :=
    scan_traffic false {} config 2 3 [.int 1, .int 2, .int 3] script rfl
  have two : rounds.length = 2 := by
    change (delaysIn outcome.events).length + rounds.length = (callsIn outcome.events).length
      at count
    rw [slept, called, List.length_singleton] at count
    omega
  have visited : rounds.map Round.slot =
      [.int 1, .int 2, .int 3].take (rounds.map Round.slot).length :=
    List.prefix_iff_eq_take.mp front
  rw [List.length_map, two] at visited
  exact ⟨rfl, failed, slept, rounds, visited, traffic⟩

end BlockReader
