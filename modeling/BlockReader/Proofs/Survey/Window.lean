import Mathlib.Data.Finset.Card
import BlockReader.Command
import BlockReader.Proofs.Survey
set_option autoImplicit false

namespace BlockReader

variable {σ : Type}

namespace Survey

/-- The slots from a first one to a last are on a chain with this newest slot: there is at least
one, they are counted from zero, and they come before the newest. -/
structure IsOnChain (newest first last : Int) : Prop where
  fromZero : 0 ≤ first
  ordered : first ≤ last
  belowNewest : last < newest

/-- How many of the slots from a first one to a last lie below zero, where no chain has any. -/
def countBelowZero (first last : Int) : Nat :=
  ((Finset.range (last - first + 1).toNat).filter fun index : Nat => first + index < 0).card

theorem countBelowZero_eq {first last : Int} (reaches : -1 ≤ last) :
    countBelowZero first last = (-first).toNat := by
  have same :
      ((Finset.range (last - first + 1).toNat).filter fun index : Nat => first + index < 0) =
        Finset.range (-first).toNat := by
    ext index
    simp only [Finset.mem_filter, Finset.mem_range]
    omega
  rw [countBelowZero, same, Finset.card_range]

/-- Nothing holds the first slot at zero: the newest slot has to be as large as the count. -/
theorem isOnChain_newest_iff (slot count : Int) :
    IsOnChain slot (slot - count) (slot - 1) ↔ 1 ≤ count ∧ count ≤ slot := by
  constructor
  · intro onChain
    have start := onChain.fromZero
    have length := onChain.ordered
    omega
  · rintro ⟨wanted, reached⟩
    exact ⟨by omega, by omega, by omega⟩

section

variable {chain : Chain} {slot : Int} (newest : chain.newestSlot = .ok (.int slot)) (count : Int)

include newest

theorem stretch_newest :
    stretch chain .null count = .ok (.int (slot - count), .int (slot - 1)) := by
  rw [stretch, firstSlot, newest]
  -- The last slot is counted from the first one, which takes the count back.
  show Except.ok (Json.int (slot - count), Json.int (slot - count + count - 1)) = _
  rw [Int.sub_add_cancel]

theorem windows_newest (settings : Settings) {transport : Transport σ} (plain : transport.IsPlain)
    (node : σ) :
    (run settings chain transport .null (.int count) node).events.filterMap window? =
      [(.int (slot - count), .int (slot - 1))] := by
  have ends := run_ends settings chain .null count node plain
  rw [ends.windows plain, stretch_newest newest]
  rfl

end

/-- When no start is given, the chain is asked once, for as many slots as are wanted, and the last
of them comes right before the newest slot. All of them are on the chain exactly when its newest
slot is as large as the count. On a younger chain the first slots asked for lie below zero, one for
each slot that the chain lacks. -/
theorem newest_window_isOnChain_iff (settings : Settings) (chain : Chain) (transport : Transport σ)
    (plain : transport.IsPlain) (slot count : Int) (newest : chain.newestSlot = .ok (.int slot))
    (node : σ) :
    ∃ first last : Int,
      (run settings chain transport .null (.int count) node).events.filterMap window? =
        [(.int first, .int last)] ∧
      last = slot - 1 ∧ last - first + 1 = count ∧
      (IsOnChain slot first last ↔ 1 ≤ count ∧ count ≤ slot) ∧
      (0 ≤ slot → countBelowZero first last = (count - slot).toNat) := by
  refine ⟨slot - count, slot - 1, windows_newest newest count settings plain node, rfl, ?_,
    isOnChain_newest_iff slot count, fun counted => ?_⟩
  · omega
  · have reaches : -1 ≤ slot - 1 := by omega
    rw [countBelowZero_eq reaches, Int.neg_sub]

/-- A chain that is just old enough is surveyed from its first slot on. -/
theorem newest_window_whole_chain :
    let settings : Settings :=
      { rpcUrl := "http://node", rpcTimeout := .zero false, retries := 0, backoff := .zero false,
        logLevel := "INFO", host := "localhost", port := 8000 }
    let chain : Chain := ⟨.ok (.int 10), .ok (.array [])⟩
    let transport := Script.transport true
    let outcome := run settings chain transport .null (.int 10) ⟨[], 0⟩
    transport.IsPlain ∧ chain.newestSlot = .ok (.int 10) ∧
      ∃ first last : Int, outcome.events.filterMap window? = [(.int first, .int last)] ∧
        first = 0 ∧ last = 9 ∧ IsOnChain 10 first last ∧ countBelowZero first last = 0 := by
  intro settings chain transport outcome
  have plain : transport.IsPlain := Script.transport_isPlain true
  obtain ⟨first, last, asked, ends, wanted, onChain, below⟩ :=
    newest_window_isOnChain_iff settings chain transport plain 10 10 rfl ⟨[], 0⟩
  refine ⟨plain, rfl, first, last, asked, by omega, by omega, onChain.mpr ?_, below ?_⟩
  · decide
  · decide

/-- A chain that has reached its fifth slot is asked for the ten slots before it. -/
theorem newest_window_below_zero :
    let settings : Settings :=
      { rpcUrl := "http://node", rpcTimeout := .zero false, retries := 0, backoff := .zero false,
        logLevel := "INFO", host := "localhost", port := 8000 }
    let chain : Chain := ⟨.ok (.int 5), .ok (.array [])⟩
    let outcome := run settings chain (Script.transport true) .null (.int 10) ⟨[], 0⟩
    outcome.events.filterMap window? = [(.int (-5), .int 4)] ∧ ¬ IsOnChain 5 (-5) 4 := by
  intro settings chain outcome
  refine ⟨rfl, fun onChain => ?_⟩
  have impossible : (0 : Int) ≤ -5 := onChain.fromZero
  omega

end Survey

namespace Command

/-- The command line leaves behind what the survey does that its arguments ask for. -/
theorem events_survey {settings : Settings} {level : Level}
    (leveled : logLevel settings = .ok level) {arguments : List String} {start : Option Int}
    {count : Int} (given : readArguments arguments = .ok (start, count)) (chain : Chain)
    (transport : Transport σ) (node : σ) :
    (survey settings chain transport arguments node).events =
      (Survey.run settings chain transport (startingSlot start) (.int count) node).events := by
  rw [survey, Task.ofExcept_bind, leveled]
  dsimp only
  rw [Task.ofExcept_bind, given]
  dsimp only
  rw [Task.bind_pure]

/-- Without arguments, the chain has all the slots that it is asked for exactly when its newest
slot is as large as the standard count. -/
theorem survey_standard_window_iff (settings : Settings) {level : Level}
    (leveled : logLevel settings = .ok level) {chain : Chain} {slot : Int}
    (newest : chain.newestSlot = .ok (.int slot)) {transport : Transport σ}
    (plain : transport.IsPlain) (node : σ) :
    ∃ first last : Int,
      (survey settings chain transport [] node).events.filterMap Survey.window? =
        [(.int first, .int last)] ∧
      (Survey.IsOnChain slot first last ↔ standardCount ≤ slot) := by
  refine ⟨slot - standardCount, slot - 1, ?_, ?_⟩
  · rw [events_survey leveled rfl chain transport node]
    exact Survey.windows_newest newest standardCount settings plain node
  · rw [Survey.isOnChain_newest_iff]
    exact and_iff_right (by decide)

end Command

end BlockReader
