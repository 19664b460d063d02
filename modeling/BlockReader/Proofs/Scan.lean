import BlockReader.Proofs.Block.Summary
import BlockReader.Proofs.Retry
import BlockReader.Scan
set_option autoImplicit false

namespace BlockReader

open Result

variable {σ : Type}

section Proper

variable (transport : Transport σ) (slot : Json) (options : Options) (patience : Patience)

theorem fetchBlock_proper (node : σ) (block : Block)
    (returned : (fetchBlock transport slot options node).result = .ok block) : block.Proper := by
  cases accepted : options.config with
  | error failure =>
    rw [fetchBlock_of_rejected transport slot options failure accepted] at returned
    cases returned
  | ok config =>
    rw [fetchBlock_of_accepted transport slot options config accepted] at returned
    obtain ⟨raw, _, decoded⟩ := (bind_eq_ok_iff _ _ _).mp returned
    exact Block.proper_of_decode decoded

theorem fetchFrom_proper (left : Nat) : ∀ (number : Nat) (node : σ) (block : Block),
    (fetchFrom transport slot options patience number left node).result = .ok block →
      block.Proper := by
  induction left with
  | zero =>
    intro number node block returned
    exact fetchBlock_proper transport slot options node block returned
  | succ left ih =>
    intro number node block returned
    rw [fetchFrom, Task.bind_result_eq_ok_iff] at returned
    obtain ⟨ended, same, returned⟩ := returned
    cases same
    cases first : (fetchBlock transport slot options node).result with
    | ok other =>
      rw [first] at returned
      cases returned
      exact fetchBlock_proper transport slot options node block first
    | error failure =>
      rw [first] at returned
      cases failure with
      | notConfirmed other =>
        obtain ⟨_, _, later⟩ := (Task.bind_result_eq_ok_iff _ _ _ _).mp returned
        exact ih _ _ block later
      | _ => cases returned

theorem fetchWithRetry_proper (node : σ) (block : Block)
    (returned : (fetchWithRetry transport slot options patience node).result = .ok block) :
    block.Proper := by
  obtain ⟨limit, _, returned⟩ := (Task.bind_result_eq_ok_iff _ _ _ _).mp returned
  exact fetchFrom_proper transport slot options patience limit 0 _ block returned

end Proper

/-- A slot, and how the fetch of its block ended. -/
structure Visit (σ : Type) where
  slot : Json
  fetched : Outcome σ Block

/-- The visit to a slot. -/
def visitTo (transport : Transport σ) (options : Options) (patience : Patience) (slot : Json)
    (node : σ) : Visit σ :=
  ⟨slot, fetchWithRetry transport slot options patience node⟩

namespace Visit

/-- The node has no block at the slot yet, or refuses to give one. -/
inductive IsLeftOut (visit : Visit σ) : Prop
  | notConfirmed (slot : Json) (failed : visit.fetched.result = .error (.notConfirmed slot))
  | refused (code message data : Json)
    (failed : visit.fetched.result = .error (.rpc code message data))

/-- The visit fails: in its fetch, unless it only leaves the slot out, or over rewards that cannot
be counted. -/
inductive FailsWith (visit : Visit σ) : Failure → Prop
  | fetch (failure : Failure) (failed : visit.fetched.result = .error failure)
    (final : ¬ visit.IsLeftOut) : FailsWith visit failure
  | rewards (block : Block) (returned : visit.fetched.result = .ok block)
    (lengthless : block.rewards.IsLengthless) :
    FailsWith visit (.shape (.noLength block.rewards.kind))

/-- The warning that the slot is left out can be written. -/
structure IsTold (patience : Patience) (visit : Visit σ) : Prop where
  slot : visit.slot.Throughout Json.IsShort
  retries : ∀ slot, visit.fetched.result = .error (.notConfirmed slot) →
    patience.retries.Throughout Json.IsShort
  message : ∀ code message data, visit.fetched.result = .error (.rpc code message data) →
    (Failure.rpc code message data).HasMessage

/-- The visit ends a scan: it fails, or it leaves the slot out and no warning of that can be
written. -/
inductive EndsWith (patience : Patience) (visit : Visit σ) : Failure → Prop
  | fails {failure : Failure} (fails : visit.FailsWith failure) : EndsWith patience visit failure
  | untold (leftOut : visit.IsLeftOut) (long : ¬ visit.IsTold patience) :
    EndsWith patience visit (.number .tooLongToWrite)

/-- A summary of the visit's block. -/
def Describes (visit : Visit σ) (summary : Summary) : Prop :=
  ∃ block, visit.fetched.result = .ok block ∧ summary.Describes visit.slot block

def Ends (patience : Patience) (visit : Visit σ) : Prop :=
  ∃ failure, visit.EndsWith patience failure

/-- What is seen of a visit in a scan: the fetch, and a warning if the slot is left out. -/
def trace (patience : Patience) (visit : Visit σ) : List Event :=
  visit.fetched.events ++
    match visit.fetched.result with
    | .ok _ => []
    | .error failure =>
      match leaveOut? visit.slot patience failure with
      | some (.ok message) => [.logged ⟨.warning, .scanner, message⟩]
      | _ => []

theorem leaveOut?_eq_none {visit : Visit σ} {failure : Failure}
    (failed : visit.fetched.result = .error failure) (final : ¬ visit.IsLeftOut)
    (patience : Patience) : leaveOut? visit.slot patience failure = none := by
  cases failure with
  | notConfirmed slot => exact absurd (.notConfirmed slot failed) final
  | rpc code message data => exact absurd (.refused code message data failed) final
  | _ => rfl

/-- A slot that is left out has a warning, which is there exactly when it can be written. -/
theorem IsLeftOut.exists_warning {visit : Visit σ} (leftOut : visit.IsLeftOut)
    (patience : Patience) : ∃ failure warning, visit.fetched.result = .error failure ∧
      leaveOut? visit.slot patience failure = some warning ∧
      ((∃ message, warning = .ok message) ↔ visit.IsTold patience) ∧
      FailsOnly (· = .tooLongToWrite) warning := by
  cases leftOut with
  | notConfirmed slot failed =>
    refine ⟨_, _, failed, rfl, ?_, ?_⟩
    · rw [isOk_bind_iff (Json.plain_isOk_iff _) fun _ =>
        isOk_bind_iff (Json.plain_isOk_iff _) fun _ => isOk_pure_iff _, and_true]
      constructor
      · rintro ⟨short, few⟩
        refine ⟨short, fun _ _ => few, ?_⟩
        intro _ _ _ refused
        cases failed.symm.trans refused
      · intro told
        exact ⟨told.slot, told.retries slot failed⟩
    · exact failsOnly_bind (Json.plain_failsOnly _) fun _ =>
        failsOnly_bind (Json.plain_failsOnly _) fun _ => failsOnly_ok _
  | refused code message data failed =>
    refine ⟨_, _, failed, rfl, ?_, ?_⟩
    · rw [isOk_bind_iff (Json.plain_isOk_iff _) fun _ =>
        isOk_bind_iff Iff.rfl fun _ => isOk_pure_iff _, and_true]
      constructor
      · rintro ⟨short, written⟩
        refine ⟨short, ?_, ?_⟩
        · intro _ waiting
          cases failed.symm.trans waiting
        · intro _ _ _ again
          cases failed.symm.trans again
          exact written
      · intro told
        exact ⟨told.slot, told.message code message data failed⟩
    · exact failsOnly_bind (Json.plain_failsOnly _) fun _ =>
        failsOnly_bind (Failure.message_failsOnly _) fun _ => failsOnly_ok _

/-- A visit whose block is proper gives a summary, leaves its slot out with a warning or ends the
scan. -/
theorem settled (visit : Visit σ) (patience : Patience)
    (proper : ∀ block, visit.fetched.result = .ok block → block.Proper) :
    (∃ summary, visit.Describes summary) ∨ visit.IsLeftOut ∧ visit.IsTold patience ∨
      visit.Ends patience := by
  cases ended : visit.fetched.result with
  | ok block =>
    cases made : Summary.ofBlock visit.slot block with
    | ok summary =>
      have describes := (Summary.ofBlock_eq_ok_iff visit.slot (proper block ended) summary).mp made
      exact Or.inl ⟨summary, block, ended, describes⟩
    | error failure =>
      have cause := (Summary.ofBlock_eq_error_iff visit.slot (proper block ended) failure).mp made
      exact Or.inr (Or.inr ⟨_, .fails (.rewards block ended cause.1)⟩)
  | error failure =>
    by_cases leftOut : visit.IsLeftOut
    · by_cases told : visit.IsTold patience
      · exact Or.inr (Or.inl ⟨leftOut, told⟩)
      · exact Or.inr (Or.inr ⟨_, .untold leftOut told⟩)
    · exact Or.inr (Or.inr ⟨failure, .fails (.fetch failure ended leftOut)⟩)

end Visit

section Step

variable (transport : Transport σ) (options : Options) (patience : Patience)
  (slot : Json) (rest : List Json) (node : σ)

theorem visitTo_settled :
    (∃ summary, (visitTo transport options patience slot node).Describes summary) ∨
      (visitTo transport options patience slot node).IsLeftOut ∧
        (visitTo transport options patience slot node).IsTold patience ∨
      (visitTo transport options patience slot node).Ends patience :=
  (visitTo transport options patience slot node).settled patience
    (fetchWithRetry_proper transport slot options patience node)

theorem scan_of_describes (summary : Summary)
    (describes : (visitTo transport options patience slot node).Describes summary) :
    scan transport options patience (slot :: rest) node =
      let first := visitTo transport options patience slot node
      let others := scan transport options patience rest first.fetched.node
      ⟨others.result.map (summary :: ·), others.node,
        first.trace patience ++ others.events⟩ := by
  obtain ⟨block, returned, described⟩ := describes
  change (fetchWithRetry transport slot options patience node).result = .ok block at returned
  have proper := fetchWithRetry_proper transport slot options patience node block returned
  have summarised := (Summary.ofBlock_eq_ok_iff slot proper summary).mpr described
  rw [scan, Task.bind_of_ok _ _ node _ rfl]
  dsimp only [Task.attempt_apply, visitTo, Visit.trace]
  rw [returned]
  dsimp only
  rw [Task.bind_of_ok _ _ _ summary summarised, Task.bind_pure]
  simp only [Task.ofExcept_apply, List.nil_append, List.append_nil]

theorem scan_of_leftOut (leftOut : (visitTo transport options patience slot node).IsLeftOut)
    (told : (visitTo transport options patience slot node).IsTold patience) :
    scan transport options patience (slot :: rest) node =
      let first := visitTo transport options patience slot node
      let others := scan transport options patience rest first.fetched.node
      ⟨others.result, others.node, first.trace patience ++ others.events⟩ := by
  obtain ⟨failure, warning, failed, left, written, _⟩ := leftOut.exists_warning patience
  obtain ⟨message, rfl⟩ := written.mpr told
  change (fetchWithRetry transport slot options patience node).result = .error failure at failed
  change leaveOut? slot patience failure = some (.ok message) at left
  rw [scan, Task.bind_of_ok _ _ node _ rfl]
  dsimp only [Task.attempt_apply, visitTo, Visit.trace]
  rw [failed]
  dsimp only
  rw [left]
  dsimp only
  rw [Task.bind_of_ok _ _ _ () rfl]
  simp [Task.log, List.append_assoc]

theorem scan_of_endsWith (failure : Failure)
    (ends : (visitTo transport options patience slot node).EndsWith patience failure) :
    scan transport options patience (slot :: rest) node =
      let first := visitTo transport options patience slot node
      ⟨.error failure, first.fetched.node, first.trace patience⟩ := by
  rw [scan, Task.bind_of_ok _ _ node _ rfl]
  dsimp only [Task.attempt_apply, Visit.trace]
  cases ends with
  | untold leftOut long =>
    obtain ⟨failure, warning, failed, left, written, only⟩ := leftOut.exists_warning patience
    cases warning with
    | ok message => exact absurd (written.mp ⟨message, rfl⟩) long
    | error fault =>
      obtain rfl := only fault rfl
      change (fetchWithRetry transport slot options patience node).result = .error failure at failed
      change leaveOut? slot patience failure = some (.error .tooLongToWrite) at left
      dsimp only [visitTo]
      rw [failed]
      dsimp only
      rw [left]
      rfl
  | fails fails =>
  cases fails with
  | fetch _ failed final =>
    have kept := Visit.leaveOut?_eq_none failed final patience
    change (fetchWithRetry transport slot options patience node).result = .error failure at failed
    change leaveOut? slot patience failure = none at kept
    dsimp only [visitTo]
    rw [failed]
    dsimp only
    rw [kept]
    rfl
  | rewards block returned lengthless =>
    change (fetchWithRetry transport slot options patience node).result = .ok block at returned
    have proper := fetchWithRetry_proper transport slot options patience node block returned
    have failed := (Summary.ofBlock_eq_error_iff slot proper _).mpr ⟨lengthless, rfl⟩
    dsimp only [visitTo]
    rw [returned]
    dsimp only
    rw [Task.bind_of_error _ _ _ _ failed]
    rfl

end Step

section Run

variable (transport : Transport σ) (options : Options) (patience : Patience)

end Run

theorem visitTo_without_retries (closable : Bool) (slot : Json) (options : Options)
    (config : Config) (accepted : options.config = .ok config) (backoff : Json)
    (script : Script) :
    visitTo (Script.transport closable) options ⟨.int 0, backoff⟩ slot script =
      ⟨slot, script.answer 0 >>= fun raw => Block.decode slot raw options.level, script.after 1,
        requestEvents slot options config ++ [.called blockMethod (config.params slot)]⟩ := by
  rw [visitTo, fetchWithRetry_of_limit _ slot options _ 0 rfl,
    ← fetchBlock_script closable slot options config accepted]
  rfl

end BlockReader
