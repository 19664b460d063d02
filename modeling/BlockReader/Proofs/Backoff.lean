import BlockReader.Proofs.Retry
set_option autoImplicit false

namespace BlockReader

variable {σ : Type}

/-- While the attempts find the block unconfirmed and retries are left, the delays fit and the waits
can be told. -/
def Delay.StaysInRange (backoff : Delay) (slot : Json) (patience : Patience)
    (results : Nat → Except Failure Block) (limit : Nat) : Prop :=
  ∀ index < limit, (∀ earlier ≤ index, IsUnconfirmed (results earlier)) →
    backoff.Fits index ∧ CanTell slot patience

/-- Every failure to fetch a block with whole retries is that of an attempt exactly when the delays
fit, and the waits can be told, as long as there are retries for them. Then the last attempt
decides, and it is one that did not find the block unconfirmed, or the last that the retries allow.
Otherwise the fault of a wait takes the place of the attempts that are left. -/
theorem fetchWithRetry_inRange_iff (transport : Transport σ) (slot : Json) (options : Options)
    (retries : Int) (backoff : Delay) (node : σ) :
    let patience : Patience := ⟨.int retries, backoff.toJson⟩
    let attempt (index : Nat) := nthFetch transport slot options index node
    let outcome := fetchWithRetry transport slot options patience node
    let inRange :=
      backoff.StaysInRange slot patience (fun index => (attempt index).result) retries.toNat
    ∃ last ≤ retries.toNat,
      (∀ index < last, IsUnconfirmed (attempt index).result) ∧
      outcome.node = (attempt last).node ∧
      outcome.events = attemptEvents transport slot options patience node 0 last ∧
      ((∀ failure, outcome.result = .error failure →
        ∃ index ≤ last, (attempt index).result = .error failure) ↔ inRange) ∧
      (inRange → outcome.result = (attempt last).result ∧
        (last = retries.toNat ∨ ¬ IsUnconfirmed (attempt last).result)) ∧
      (¬ inRange → ∃ fault, outcome.result = .error (.number fault) ∧
        last < retries.toNat ∧ IsUnconfirmed (attempt last).result ∧
        WaitFault slot patience backoff last fault) := by
  intro patience attempt outcome inRange
  have limited : patience.limit = .ok retries.toNat := rfl
  obtain ⟨last, within, before, stopped, run⟩ :=
    fetchWithRetry_attempts transport slot options patience retries.toNat limited node
  have unconfirmed (index : Nat) (below : index < last) : IsUnconfirmed (attempt index).result :=
    (isUnconfirmed_attemptResult_iff.mp (before index below)).1
  have tellable (index : Nat) (due : index < retries.toNat) :
      (∃ wait, plannedWait slot patience index = .ok wait) ↔
        backoff.Fits index ∧ CanTell slot patience :=
    plannedWait_isOk_iff slot (.int retries) backoff limited due
  change outcome = _ at run
  have final : outcome.result = _ := congrArg Outcome.result run
  refine ⟨last, within, unconfirmed, by rw [run], by rw [run], ?_⟩
  -- Either an attempt ends the waiting there, or the wait after it does.
  by_cases waiting : last < retries.toNat ∧ IsUnconfirmed (attempt last).result
  · obtain ⟨due, still⟩ := waiting
    have unplanned : ¬ ∃ wait, plannedWait slot patience last = .ok wait := fun planned =>
      stopped.resolve_left due.ne (isUnconfirmed_attemptResult_iff.mpr ⟨still, fun _ => planned⟩)
    have all (index : Nat) (upTo : index ≤ last) : IsUnconfirmed (attempt index).result := by
      rcases Nat.lt_or_eq_of_le upTo with below | rfl
      · exact unconfirmed index below
      · exact still
    have out : ¬ inRange := fun stays => unplanned ((tellable last due).mpr (stays last due all))
    obtain ⟨fault, failed, why⟩ : ∃ fault, outcome.result = .error (.number fault) ∧
        WaitFault slot patience backoff last fault := by
      cases planned : plannedWait slot patience last with
      | ok wait => exact absurd ⟨wait, planned⟩ unplanned
      | error failure =>
        obtain ⟨fault, rfl, why⟩ :=
          waitFault_of_plannedWait slot (.int retries) backoff limited due failure planned
        refine ⟨fault, ?_, why⟩
        exact final.trans (attemptResult_of_unplanned still due planned)
    refine ⟨⟨fun own => ?_, fun ranges => absurd ranges out⟩, fun ranges => absurd ranges out,
      fun _ => ⟨fault, failed, due, still, why⟩⟩
    obtain ⟨index, upTo, same⟩ := own _ failed
    obtain ⟨other, found⟩ := all index upTo
    cases found.symm.trans same
  · have ended : outcome.result = (attempt last).result := by
      refine final.trans ?_
      by_cases due : last < retries.toNat
      · exact attemptResult_of_settled fun still => waiting ⟨due, still⟩
      · exact attemptResult_eq fun before => absurd before due
    have ranges : inRange := by
      intro index due all
      by_cases below : index < last
      · obtain ⟨-, planned⟩ := isUnconfirmed_attemptResult_iff.mp (before index below)
        exact (tellable index due).mp (planned due)
      · exact absurd ⟨by omega, all last (not_lt.mp below)⟩ waiting
    refine ⟨⟨fun _ => ranges, fun _ failure failed => ?_⟩, fun _ => ⟨ended, ?_⟩,
      fun out => absurd ranges out⟩
    · exact ⟨last, Nat.le_refl last, ended.symm.trans failed⟩
    · by_cases due : last < retries.toNat
      · exact .inr fun still => waiting ⟨due, still⟩
      · exact .inl (by omega)

/-- Without any delay, the power of two alone outgrows the floating-point values. -/
theorem fetchWithRetry_outgrown :
    let script : Script := ⟨[], 0⟩
    let outcome := fetchWithRetry (Script.transport true) (.int 5) {}
      ⟨.int 1025, .float (Double.zero false)⟩ script
    outcome.result = .error (.number .tooLargeForDouble) ∧
      ∀ index, (nthFetch (Script.transport true) (.int 5) {} index script).result =
        .error (.notConfirmed (.int 5)) := by
  intro script outcome
  let backoff : Delay := .real (Double.zero false)
  let patience : Patience := ⟨.int 1025, backoff.toJson⟩
  have five : (Json.int 5).Throughout Json.IsShort := Json.isShort_int (by decide)
  have many : (Json.int 1025).Throughout Json.IsShort := Json.isShort_int (by decide)
  have told : CanTell (.int 5) patience := ⟨five, (Json.plain_isOk_iff (.int 1025)).mpr many⟩
  have same (index : Nat) : (nthFetch (Script.transport true) (.int 5) {} index script).result =
      .error (.notConfirmed (.int 5)) := by
    have spent : script.after index = script := by
      rw [Script.after, List.drop_nil]
    rw [nthFetch_script true (.int 5) {} _ rfl index script, spent,
      fetchBlock_script true (.int 5) {} _ rfl]
    exact congrArg _ (Failure.raised_of_hasMessage
      ((Failure.hasMessage_notConfirmed_iff (.int 5)).mpr five))
  have waits (index : Nat) (below : index < 1024) : IsUnconfirmed (attemptResult (.int 5) patience
      1025 index (nthFetch (Script.transport true) (.int 5) {} index script).result) := by
    refine isUnconfirmed_attemptResult_iff.mpr ⟨⟨_, same index⟩, fun due => ?_⟩
    exact (plannedWait_isOk_iff (.int 5) (.int 1025) backoff rfl due).mpr ⟨below, told⟩
  have stuck : plannedWait (.int 5) patience 1024 = .error (.number .tooLargeForDouble) := by
    have far : backoff.after 1024 = .error (.number .tooLargeForDouble) := rfl
    rw [plannedWait_eq, far]
    rfl
  have ended := attemptResult_of_unplanned ⟨_, same 1024⟩ (show 1024 < 1025 by decide) stuck
  have run := fetchFrom_run (Script.transport true) (.int 5) {} patience 1024 0 1025 script
  simp only [Nat.zero_add] at run
  have limited := fetchWithRetry_of_limit (Script.transport true) (.int 5) {} patience 1025 rfl
    script
  refine ⟨?_, same⟩
  rw [show outcome = _ from limited, run (by decide) waits (.inr ?_), ended]
  rw [ended]
  rintro ⟨slot, impossible⟩
  cases impossible

end BlockReader
