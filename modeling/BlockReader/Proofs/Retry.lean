import BlockReader.Proofs.Fetch
import BlockReader.Proofs.Json.Kept
import BlockReader.Proofs.Numeral.Double
import BlockReader.Retry
import Mathlib.Data.ENat.Lattice
set_option autoImplicit false

namespace BlockReader

open Result

variable {σ : Type}

def IsUnconfirmed (result : Except Failure Block) : Prop :=
  ∃ slot, result = .error (.notConfirmed slot)

/-- The attempt with the given number, each starting where the one before it has left the node. -/
def nthFetch (transport : Transport σ) (slot : Json) (options : Options) :
    (number : Nat) → σ → Outcome σ Block
  | 0, node => fetchBlock transport slot options node
  | number + 1, node =>
    nthFetch transport slot options number (fetchBlock transport slot options node).node

namespace Delay

theorem ofJson_failsOnly (value : Json) :
    FailsOnly (fun failure => failure.isBlockFailure = false) (ofJson value) := by
  cases value with
  | int _ | bool _ | float _ => exact failsOnly_ok _
  | null | text _ | array _ | object _ => exact failsOnly_error rfl

theorem after_failsOnly (first : Delay) (number : Nat) :
    FailsOnly (· = .number .tooLargeForDouble) (first.after number) := by
  cases first with
  | whole seconds => exact failsOnly_ok _
  | real seconds =>
    rw [after]
    split
    · exact failsOnly_ok _
    · exact failsOnly_error rfl

theorem text_failsOnly (delay : Delay) : FailsOnly (· = .number .tooLargeForDouble) delay.text := by
  cases delay with
  | real seconds => exact failsOnly_ok _
  | whole seconds =>
    rw [text]
    cases near : Numeral.toDouble seconds with
    | ok value => exact failsOnly_ok _
    | error fault => exact failsOnly_error (congrArg _ (Double.eq_of_toDouble_eq_error near))

end Delay

section Wait

variable (slot : Json) (patience : Patience) (number : Nat)

/-- The slot and the number of retries can be written, as the record of a wait shows them. -/
structure CanTell : Prop where
  slot : slot.Throughout Json.IsShort
  retries : ∃ limit, patience.shownLimit = .ok limit

/-- What is seen of the wait after the attempt with the given number. -/
def waitEvents : List Event :=
  match plannedWait slot patience number with
  | .ok (delay, record) => [.logged ⟨.warning, .scanner, record⟩, .slept delay]
  | .error _ => []

theorem unlogged_waitEvents {slot : Json} {patience : Patience} {number : Nat} {delay : Delay}
    {record : Text} (planned : plannedWait slot patience number = .ok (delay, record)) :
    unlogged (waitEvents slot patience number) = [.slept delay] := by
  rw [waitEvents, planned]
  rfl

theorem waitAfter_apply (node : σ) : waitAfter slot patience number node =
    ⟨(plannedWait slot patience number).map fun _ => (), node,
      waitEvents slot patience number⟩ := by
  unfold waitAfter waitEvents
  cases plannedWait slot patience number <;> rfl

end Wait

section Attempts

variable {slot : Json} {patience : Patience} {limit number : Nat} {fetched : Except Failure Block}

theorem waitRecord_failsOnly (slot : Json) (patience : Patience) (number : Nat) (delay : Delay) :
    FailsOnly (fun failure => ∃ fault, failure = .number fault)
      (waitRecord slot patience number delay) := by
  refine failsOnly_bind (failsOnly_mapError _ fun fault => ⟨fault, rfl⟩) fun _ => ?_
  refine failsOnly_bind (fun failure failed => ⟨_, delay.text_failsOnly failure failed⟩) fun _ => ?_
  refine failsOnly_bind (failsOnly_mapError _ fun fault => ⟨fault, rfl⟩) fun _ => ?_
  exact failsOnly_bind (failsOnly_mapError _ fun fault => ⟨fault, rfl⟩) fun _ => failsOnly_ok _

theorem plannedWait_failsOnly (slot : Json) (patience : Patience) (number : Nat) :
    FailsOnly (fun failure => failure.isBlockFailure = false)
      (plannedWait slot patience number) := by
  refine failsOnly_bind (Delay.ofJson_failsOnly _) fun first => ?_
  refine failsOnly_bind ?_ fun delay => failsOnly_bind ?_ fun _ => failsOnly_ok _
  · intro failure failed
    rw [first.after_failsOnly number failure failed]
    rfl
  · intro failure failed
    obtain ⟨fault, rfl⟩ := waitRecord_failsOnly slot patience number delay failure failed
    cases fault <;> rfl

/-- How an attempt ends: as its call does, unless a wait is due after it that cannot be planned. -/
def attemptResult (slot : Json) (patience : Patience) (limit number : Nat)
    (fetched : Except Failure Block) : Except Failure Block :=
  match fetched with
  | .error (.notConfirmed _) =>
    if number < limit then plannedWait slot patience number >>= fun _ => fetched else fetched
  | _ => fetched

theorem attemptResult_of_unconfirmed (unconfirmed : IsUnconfirmed fetched) :
    attemptResult slot patience limit number fetched =
      if number < limit then plannedWait slot patience number >>= fun _ => fetched
      else fetched := by
  obtain ⟨other, rfl⟩ := unconfirmed
  rfl

theorem attemptResult_of_settled (settled : ¬ IsUnconfirmed fetched) :
    attemptResult slot patience limit number fetched = fetched := by
  unfold attemptResult
  split
  · exact absurd ⟨_, rfl⟩ settled
  · rfl

/-- Where every wait that is due can be planned, an attempt ends as its call does. -/
theorem attemptResult_eq
    (planned : number < limit → ∃ wait, plannedWait slot patience number = .ok wait) :
    attemptResult slot patience limit number fetched = fetched := by
  by_cases unconfirmed : IsUnconfirmed fetched
  · rw [attemptResult_of_unconfirmed unconfirmed]
    split
    · rename_i due
      obtain ⟨wait, planned⟩ := planned due
      rw [planned]
      rfl
    · rfl
  · exact attemptResult_of_settled unconfirmed

theorem attemptResult_of_unplanned {failure : Failure} (unconfirmed : IsUnconfirmed fetched)
    (due : number < limit) (unplanned : plannedWait slot patience number = .error failure) :
    attemptResult slot patience limit number fetched = .error failure := by
  rw [attemptResult_of_unconfirmed unconfirmed, if_pos due, unplanned]
  rfl

theorem isUnconfirmed_attemptResult_iff :
    IsUnconfirmed (attemptResult slot patience limit number fetched) ↔
      IsUnconfirmed fetched ∧
        (number < limit → ∃ wait, plannedWait slot patience number = .ok wait) := by
  constructor
  · intro waits
    by_cases unconfirmed : IsUnconfirmed fetched
    · refine ⟨unconfirmed, fun due => ?_⟩
      cases planned : plannedWait slot patience number with
      | ok wait => exact ⟨wait, rfl⟩
      | error failure =>
        rw [attemptResult_of_unplanned unconfirmed due planned] at waits
        obtain ⟨other, same⟩ := waits
        cases same
        cases plannedWait_failsOnly slot patience number _ planned
    · rw [attemptResult_of_settled unconfirmed] at waits
      exact absurd waits unconfirmed
  · rintro ⟨unconfirmed, planned⟩
    rw [attemptResult_eq planned]
    exact unconfirmed

/-- An attempt ends as its call does, or else over its wait. -/
theorem attemptResult_cases :
    attemptResult slot patience limit number fetched = fetched ∨
      IsUnconfirmed fetched ∧ ∃ failure, failure.isBlockFailure = false ∧
        attemptResult slot patience limit number fetched = .error failure := by
  by_cases unconfirmed : IsUnconfirmed fetched
  · by_cases due : number < limit
    · cases planned : plannedWait slot patience number with
      | ok wait => exact .inl (attemptResult_eq fun _ => ⟨wait, planned⟩)
      | error failure =>
        exact .inr ⟨unconfirmed, failure, plannedWait_failsOnly slot patience number _ planned,
          attemptResult_of_unplanned unconfirmed due planned⟩
    · exact .inl (attemptResult_eq fun before => absurd before due)
  · exact .inl (attemptResult_of_settled unconfirmed)

end Attempts

section Loop

variable (transport : Transport σ) (slot : Json) (options : Options) (patience : Patience)

/-- An attempt that does not end over an unconfirmed block is the last one. -/
theorem fetchFrom_of_settled (number left : Nat) (node : σ) :
    let first := fetchBlock transport slot options node
    let result := attemptResult slot patience (number + left) number first.result
    left = 0 ∨ ¬ IsUnconfirmed result →
      fetchFrom transport slot options patience number left node =
        ⟨result, first.node, first.events⟩ := by
  intro first result settled
  cases left with
  | zero =>
    have same : result = first.result := attemptResult_eq fun due => absurd due (Nat.lt_irrefl _)
    rw [same]
    rfl
  | succ left =>
    have due : number < number + (left + 1) := Nat.lt_add_of_pos_right (Nat.succ_pos left)
    replace settled := settled.resolve_left (Nat.succ_ne_zero left)
    rw [fetchFrom, Task.bind_of_ok _ _ node _ rfl]
    dsimp only [Task.attempt_apply]
    by_cases unconfirmed : IsUnconfirmed first.result
    · cases planned : plannedWait slot patience number with
      | ok wait =>
        exact absurd (isUnconfirmed_attemptResult_iff.mpr
          ⟨unconfirmed, fun _ => ⟨wait, planned⟩⟩) settled
      | error failure =>
        have ended : result = .error failure := attemptResult_of_unplanned unconfirmed due planned
        obtain ⟨other, failed⟩ := unconfirmed
        rw [show (fetchBlock transport slot options node).result = _ from failed, ended]
        dsimp only
        rw [Task.bind_of_error _ _ _ failure (by rw [waitAfter_apply, planned]; rfl),
          waitAfter_apply, waitEvents, planned, List.append_nil]
    · have same : result = first.result := attemptResult_of_settled unconfirmed
      rw [same]
      change ¬ IsUnconfirmed (fetchBlock transport slot options node).result at unconfirmed
      show _ = fetchBlock transport slot options node
      generalize fetchBlock transport slot options node = ended at unconfirmed ⊢
      obtain ⟨result, after, events⟩ := ended
      cases result with
      | ok block => simp only [Task.pure_apply, List.append_nil]
      | error failure =>
        cases failure with
        | notConfirmed other => exact absurd ⟨other, rfl⟩ unconfirmed
        | _ => simp only [Task.fail, Task.ofExcept_apply, List.append_nil]

/-- After an attempt that ends over an unconfirmed block, the wait and then the other attempts. -/
theorem fetchFrom_of_unconfirmed (number left : Nat) (node : σ) :
    let first := fetchBlock transport slot options node
    let others := fetchFrom transport slot options patience (number + 1) left first.node
    IsUnconfirmed (attemptResult slot patience (number + (left + 1)) number first.result) →
      fetchFrom transport slot options patience number (left + 1) node =
        ⟨others.result, others.node,
          first.events ++ waitEvents slot patience number ++ others.events⟩ := by
  intro first others waits
  obtain ⟨⟨other, failed⟩, due⟩ := isUnconfirmed_attemptResult_iff.mp waits
  obtain ⟨wait, planned⟩ := due (Nat.lt_add_of_pos_right (Nat.succ_pos left))
  have waited := waitAfter_apply slot patience number first.node
  rw [planned] at waited
  rw [fetchFrom, Task.bind_of_ok _ _ node _ rfl]
  dsimp only [Task.attempt_apply]
  rw [show (fetchBlock transport slot options node).result = _ from failed]
  dsimp only
  rw [Task.bind_of_ok _ _ _ () (by rw [waited]; rfl), waited, List.append_assoc]

/-- What is seen of a number of attempts with waits after them, and of one more. -/
def attemptEvents (node : σ) (number made : Nat) : List Event :=
  let seen (index : Nat) := (nthFetch transport slot options index node).events
  (List.range made).flatMap (fun index =>
    seen index ++ waitEvents slot patience (number + index)) ++ seen made

/-- The attempts go on exactly as long as they end over an unconfirmed block and retries are left;
what is seen of them is what is seen of each attempt, with the waits between. -/
theorem fetchFrom_run (made : Nat) : ∀ (number left : Nat) (node : σ),
    let attempt (index : Nat) := attemptResult slot patience (number + left) (number + index)
      (nthFetch transport slot options index node).result
    made ≤ left → (∀ index < made, IsUnconfirmed (attempt index)) →
      (made = left ∨ ¬ IsUnconfirmed (attempt made)) →
      fetchFrom transport slot options patience number left node =
        ⟨attempt made, (nthFetch transport slot options made node).node,
          attemptEvents transport slot options patience node number made⟩ := by
  induction made with
  | zero =>
    intro number left node attempt _ _ last
    exact fetchFrom_of_settled transport slot options patience number left node
      (last.imp Eq.symm id)
  | succ made ih =>
    intro number left node attempt enough unconfirmed last
    obtain ⟨left, rfl⟩ := Nat.exists_eq_succ_of_ne_zero (Nat.ne_zero_of_lt enough)
    have first := unconfirmed 0 (Nat.succ_pos made)
    have shift (index : Nat) : number + (index + 1) = number + 1 + index := by omega
    have later := ih (number + 1) left (fetchBlock transport slot options node).node
    simp only [← shift] at later
    rw [fetchFrom_of_unconfirmed transport slot options patience number left node first,
      later (Nat.le_of_succ_le_succ enough)
        (fun index below => unconfirmed (index + 1) (Nat.succ_lt_succ below))
        (last.imp Nat.succ.inj id)]
    simp only [attemptEvents, List.range_succ_eq_map, List.flatMap_cons, List.flatMap_map,
      List.append_assoc, ← shift]
    rfl

end Loop

theorem fetchWithRetry_of_limit (transport : Transport σ) (slot : Json) (options : Options)
    (patience : Patience) (limit : Nat) (limited : patience.limit = .ok limit) (node : σ) :
    fetchWithRetry transport slot options patience node =
      fetchFrom transport slot options patience 0 limit node := by
  unfold fetchWithRetry
  rw [Task.bind_of_ok _ _ node limit limited]
  rfl

/-- What goes on goes on up to a limit, or stops before it. -/
theorem exists_stop (GoesOn : Nat → Prop) (limit : Nat) :
    ∃ last ≤ limit, (∀ index < last, GoesOn index) ∧ (last = limit ∨ ¬ GoesOn last) := by
  induction limit with
  | zero => exact ⟨0, Nat.le_refl 0, nofun, .inl rfl⟩
  | succ limit ih =>
    obtain ⟨last, within, before, stopped⟩ := ih
    by_cases further : last = limit ∧ GoesOn limit
    · obtain ⟨rfl, goesOn⟩ := further
      refine ⟨last + 1, Nat.le_refl _, fun index below => ?_, .inl rfl⟩
      rcases Nat.lt_succ_iff_lt_or_eq.mp below with earlier | rfl
      · exact before index earlier
      · exact goesOn
    · refine ⟨last, Nat.le_succ_of_le within, before, .inr fun goesOn => ?_⟩
      rcases stopped with rfl | stops
      · exact further ⟨rfl, goesOn⟩
      · exact stops goesOn

/-- The attempts up to the first that does not end over an unconfirmed block, or all that the
retries allow. The last of them decides. -/
theorem fetchWithRetry_attempts (transport : Transport σ) (slot : Json) (options : Options)
    (patience : Patience) (limit : Nat) (limited : patience.limit = .ok limit) (node : σ) :
    let attempt (index : Nat) := attemptResult slot patience limit index
      (nthFetch transport slot options index node).result
    ∃ made ≤ limit, (∀ index < made, IsUnconfirmed (attempt index)) ∧
      (made = limit ∨ ¬ IsUnconfirmed (attempt made)) ∧
      fetchWithRetry transport slot options patience node =
        ⟨attempt made, (nthFetch transport slot options made node).node,
          attemptEvents transport slot options patience node 0 made⟩ := by
  intro attempt
  obtain ⟨made, enough, before, last⟩ :=
    exists_stop (fun index => IsUnconfirmed (attempt index)) limit
  have run := fetchFrom_run transport slot options patience made 0 limit node
  simp only [Nat.zero_add] at run
  refine ⟨made, enough, before, last, ?_⟩
  rw [fetchWithRetry_of_limit transport slot options patience limit limited node,
    run enough before last]

theorem after_whole (seconds : Int) (attempt : Nat) :
    (Delay.whole seconds).after attempt = .ok (.whole (seconds * 2 ^ attempt)) := by
  rw [Delay.after, Int.shiftLeft_eq]

namespace Delay

/-- The delay doubled a number of times. -/
def doubled : Delay → Nat → Delay
  | .whole seconds, times => .whole (seconds * 2 ^ times)
  | .real seconds, times => .real (seconds.scale times)

/-- The delay can be doubled a number of times and then be shown. -/
def Fits : Delay → Nat → Prop
  | .whole seconds, times => seconds.natAbs * 2 ^ times < Double.wholeLimit
  | .real _, times => times < doublingLimit

variable {backoff : Delay} {number : Nat}

theorem natAbs_doubled (seconds : Int) (times : Nat) :
    (seconds * 2 ^ times).natAbs = seconds.natAbs * 2 ^ times := by
  rw [Int.natAbs_mul, Int.natAbs_pow]
  rfl

theorem Fits.after (fits : backoff.Fits number) :
    backoff.after number = .ok (backoff.doubled number) := by
  cases backoff with
  | whole seconds => exact after_whole seconds number
  | real seconds => exact if_pos fits

/-- A delay that fits can be doubled and shown, and no other can. -/
theorem fits_iff : backoff.Fits number ↔
    ∃ delay, backoff.after number = .ok delay ∧ ∃ shown, delay.text = .ok shown := by
  constructor
  · intro fits
    refine ⟨_, fits.after, ?_⟩
    cases backoff with
    | whole seconds =>
      rw [Fits, ← natAbs_doubled] at fits
      obtain ⟨value, near⟩ := (Double.toDouble_eq_ok_iff _).mpr fits
      exact ⟨_, by rw [doubled, text, near]⟩
    | real seconds => exact ⟨_, rfl⟩
  · rintro ⟨delay, doubled, shown, written⟩
    cases backoff with
    | whole seconds =>
      rw [after_whole] at doubled
      cases doubled
      rw [Fits, ← natAbs_doubled]
      cases near : Numeral.toDouble (seconds * 2 ^ number) with
      | ok value => exact (Double.toDouble_eq_ok_iff _).mp ⟨value, near⟩
      | error fault =>
        rw [text, near] at written
        cases written
    | real seconds =>
      by_contra outgrown
      rw [show (Delay.real seconds).after number = _ from if_neg outgrown] at doubled
      cases doubled

end Delay

section Planned

variable {slot : Json} {limit number : Nat}

theorem waitRecord_isOk_iff (slot : Json) (patience : Patience) (number : Nat) (delay : Delay) :
    (∃ record, waitRecord slot patience number delay = .ok record) ↔
      slot.Throughout Json.IsShort ∧ (∃ shown, delay.text = .ok shown) ∧
        Numeral.digitCount (number + 1) ≤ Numeral.digitLimit ∧
          ∃ limit, patience.shownLimit = .ok limit := by
  rw [waitRecord, isOk_bind_iff ((isOk_mapError_iff _ _).trans (Json.plain_isOk_iff slot)) fun _ =>
    isOk_bind_iff Iff.rfl fun _ =>
      isOk_bind_iff ((isOk_mapError_iff _ _).trans (decimal_isOk_iff _)) fun _ =>
        isOk_bind_iff (isOk_mapError_iff _ _) fun _ => isOk_pure_iff _, and_true]

/-- An attempt has no more digits than the number of retries. -/
theorem digitCount_attempt_le {patience : Patience} (limited : patience.limit = .ok limit)
    (told : ∃ shown, patience.shownLimit = .ok shown) (due : number < limit) :
    Numeral.digitCount (number + 1) ≤ Numeral.digitLimit := by
  obtain ⟨retries, backoff⟩ := patience
  cases retries with
  | int retries =>
    cases limited
    have short := (Json.plain_isOk_iff (.int retries.toNat)).mp told _ (.itself _)
    exact Numeral.digitCount_le_limit_of_le (by omega) short
  | bool retries =>
    obtain rfl : number = 0 := by
      cases retries <;> cases limited
      · cases due
      · exact Nat.lt_one_iff.mp due
    exact Numeral.digitCount_of_small (by decide)
  | float retries =>
    rw [Patience.limit] at limited
    dsimp only at limited
    split at limited <;> cases limited
    cases due
  | _ => cases limited

theorem shownLimit_failsOnly (patience : Patience) :
    FailsOnly (· = .tooLongToWrite) patience.shownLimit := by
  unfold Patience.shownLimit
  split <;> exact Json.plain_failsOnly _

/-- Why a wait cannot be planned: its delay outgrows the floating-point values, or its record
cannot be written. -/
inductive WaitFault (slot : Json) (patience : Patience) (backoff : Delay) (number : Nat) :
    NumberFault → Prop
  | outgrown (far : ¬ backoff.Fits number) :
    WaitFault slot patience backoff number .tooLargeForDouble
  | untold (long : ¬ CanTell slot patience) : WaitFault slot patience backoff number .tooLongToWrite

/-- The delay after the attempt with the given number. -/
def Patience.delay (patience : Patience) (number : Nat) : Except Failure Delay := do
  let first ← Delay.ofJson patience.backoff
  first.after number

theorem Patience.delay_int (retries : Json) (backoff : Int) (number : Nat) :
    delay ⟨retries, .int backoff⟩ number = .ok (.whole (backoff * 2 ^ number)) :=
  after_whole backoff number

theorem delay_of_plannedWait {patience : Patience} {delay : Delay} {record : Text}
    (planned : plannedWait slot patience number = .ok (delay, record)) :
    patience.delay number = .ok delay := by
  obtain ⟨first, read, planned⟩ := (bind_eq_ok_iff _ _ _).mp planned
  obtain ⟨other, doubled, planned⟩ := (bind_eq_ok_iff _ _ _).mp planned
  obtain ⟨_, _, same⟩ := (bind_eq_ok_iff _ _ _).mp planned
  cases same
  exact (bind_eq_ok_iff _ _ _).mpr ⟨first, read, doubled⟩

theorem plannedWait_eq (slot retries : Json) (backoff : Delay) (number : Nat) :
    plannedWait slot ⟨retries, backoff.toJson⟩ number = (do
      let delay ← backoff.after number
      let record ← waitRecord slot ⟨retries, backoff.toJson⟩ number delay
      pure (delay, record)) := by
  rw [plannedWait, Delay.ofJson_toJson]
  rfl

variable (slot retries : Json) (backoff : Delay)
  (limited : Patience.limit ⟨retries, backoff.toJson⟩ = .ok limit) (due : number < limit)

include limited due

/-- A wait that is due can be planned if its delay fits and its record can be written. -/
theorem plannedWait_isOk_iff :
    (∃ wait, plannedWait slot ⟨retries, backoff.toJson⟩ number = .ok wait) ↔
      backoff.Fits number ∧ CanTell slot ⟨retries, backoff.toJson⟩ := by
  rw [plannedWait_eq]
  constructor
  · rintro ⟨wait, planned⟩
    obtain ⟨delay, doubled, planned⟩ := (bind_eq_ok_iff _ _ _).mp planned
    obtain ⟨record, recorded, -⟩ := (bind_eq_ok_iff _ _ _).mp planned
    obtain ⟨short, shown, -, told⟩ := (waitRecord_isOk_iff _ _ _ _).mp ⟨record, recorded⟩
    exact ⟨Delay.fits_iff.mpr ⟨delay, doubled, shown⟩, short, told⟩
  · rintro ⟨fits, told⟩
    obtain ⟨delay, doubled, shown⟩ := Delay.fits_iff.mp fits
    obtain ⟨record, recorded⟩ := (waitRecord_isOk_iff slot _ number delay).mpr
      ⟨told.slot, shown, digitCount_attempt_le limited told.retries due, told.retries⟩
    refine ⟨(delay, record), (bind_eq_ok_iff _ _ _).mpr ⟨delay, doubled, ?_⟩⟩
    exact (bind_eq_ok_iff _ _ _).mpr ⟨record, recorded, rfl⟩

theorem waitFault_of_waitRecord {delay : Delay} (doubled : backoff.after number = .ok delay) :
    FailsOnly (fun failure => ∃ fault, failure = .number fault ∧
        WaitFault slot ⟨retries, backoff.toJson⟩ backoff number fault)
      (waitRecord slot ⟨retries, backoff.toJson⟩ number delay) := by
  -- The parts of the record are made in the order in which it shows them.
  refine failsOnly_bind ?_ fun _ => failsOnly_bind ?_ fun _ => failsOnly_bind ?_ fun _ =>
    failsOnly_bind ?_ fun _ => failsOnly_ok _
  · refine (Json.plain_failsOnly slot).and_notOk.mapError ?_
    rintro _ ⟨rfl, long⟩
    exact ⟨_, rfl, .untold fun told => long ((Json.plain_isOk_iff slot).mpr told.slot)⟩
  · intro failure failed
    obtain ⟨same, far⟩ := delay.text_failsOnly.and_notOk failure failed
    refine ⟨_, same, .outgrown fun fits => far ?_⟩
    obtain ⟨other, again, shown⟩ := Delay.fits_iff.mp fits
    cases doubled.symm.trans again
    exact shown
  · refine (decimal_failsOnly _).and_notOk.mapError ?_
    rintro _ ⟨rfl, long⟩
    refine ⟨_, rfl, .untold fun told => long ((decimal_isOk_iff _).mpr ?_)⟩
    exact digitCount_attempt_le limited told.retries due
  · refine (shownLimit_failsOnly _).and_notOk.mapError ?_
    rintro _ ⟨rfl, long⟩
    exact ⟨_, rfl, .untold fun told => long told.retries⟩

theorem waitFault_of_plannedWait :
    FailsOnly (fun failure => ∃ fault, failure = .number fault ∧
        WaitFault slot ⟨retries, backoff.toJson⟩ backoff number fault)
      (plannedWait slot ⟨retries, backoff.toJson⟩ number) := by
  rw [plannedWait_eq]
  intro failure failed
  rcases (bind_eq_error_iff _ _ _).mp failed with far | ⟨delay, doubled, failed⟩
  · refine ⟨_, Delay.after_failsOnly _ _ _ far, .outgrown fun fits => ?_⟩
    rw [fits.after] at far
    cases far
  · rcases (bind_eq_error_iff _ _ _).mp failed with unwritten | ⟨_, _, impossible⟩
    · exact waitFault_of_waitRecord slot retries backoff limited due doubled failure unwritten
    · cases impossible

end Planned

/-- Calls with a sleep between any two of them. -/
def attemptsTrace (call : Event) (delays : List Delay) : List Event :=
  delays.flatMap (fun delay => [call, .slept delay]) ++ [call]

section Settled

variable {results : Nat → Except Failure Block}

end Settled

section Script

variable (closable : Bool) (slot : Json) (options : Options) (config : Config)
  (accepted : options.config = .ok config)

include accepted

theorem nthFetch_script (number : Nat) (script : Script) :
    nthFetch (Script.transport closable) slot options number script =
      fetchBlock (Script.transport closable) slot options (script.after number) := by
  induction number generalizing script with
  | zero => rfl
  | succ number ih =>
    rw [nthFetch, ih, fetchBlock_script closable slot options config accepted script,
      Script.after_after, Nat.add_comm 1]

end Script

end BlockReader
