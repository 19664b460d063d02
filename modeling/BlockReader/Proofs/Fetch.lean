import BlockReader.Fetch
import BlockReader.Proofs.Block.Decode
set_option autoImplicit false

namespace BlockReader

variable {σ : Type}

theorem Task.ofExcept_bind {α β : Type} (result : Except Failure α) (next : α → Task σ β)
    (node : σ) : (Task.ofExcept result >>= next) node =
      match result with
      | .ok value => next value node
      | .error failure => ⟨.error failure, node, []⟩ := by
  cases result <;> rfl

/-- A last step that neither talks to the node nor leaves anything behind. -/
theorem Task.bind_ofExcept {α β : Type} (first : Task σ α) (next : α → Except Failure β)
    (node : σ) :
    (first >>= fun value => Task.ofExcept (next value)) node =
      ⟨(first node).result >>= next, (first node).node, (first node).events⟩ := by
  cases ended : (first node).result with
  | ok value =>
    rw [Task.bind_of_ok first _ node value ended]
    simp only [Task.ofExcept_apply, List.append_nil]
    rfl
  | error failure =>
    rw [Task.bind_of_error first _ node failure ended]
    rfl

theorem Task.bind_result_eq_ok_iff {α β : Type} (first : Task σ α) (next : α → Task σ β)
    (node : σ) (value : β) : ((first >>= next) node).result = .ok value ↔
      ∃ middle, (first node).result = .ok middle ∧
        (next middle (first node).node).result = .ok value := by
  cases ended : (first node).result with
  | ok middle =>
    rw [Task.bind_of_ok first next node middle ended]
    constructor
    · intro success
      exact ⟨middle, rfl, success⟩
    · rintro ⟨_, same, success⟩
      cases same
      exact success
  | error failure =>
    rw [Task.bind_of_error first next node failure ended]
    constructor
    · intro impossible
      cases impossible
    · rintro ⟨_, impossible, _⟩
      cases impossible

/-- A last step that only converts the value. -/
theorem Task.bind_pure {α β : Type} (first : Task σ α) (convert : α → β) (node : σ) :
    (first >>= fun value => pure (convert value)) node =
      ⟨(first node).result.map convert, (first node).node, (first node).events⟩ := by
  refine (Task.bind_ofExcept first (fun value => .ok (convert value)) node).trans ?_
  cases (first node).result <;> rfl

/-- A log record; all other events are seen from outside. -/
def Event.isLogged : Event → Bool
  | .logged _ => true
  | _ => false

@[simp] theorem Event.isLogged_logged (record : Record) : (logged record).isLogged = true := rfl

/-- The events that are no records. -/
def unlogged (events : List Event) : List Event :=
  events.filter fun event => !event.isLogged

theorem unlogged_append (first second : List Event) :
    unlogged (first ++ second) = unlogged first ++ unlogged second :=
  List.filter_append first second

/-- What a request leaves in the log. -/
def requestEvents (slot : Json) (options : Options) (config : Config) : List Event :=
  match config.displayParams slot options.commitmentIsNamed with
  | .ok shown => [.logged ⟨.debug, .client, blockMethod ++ " " ++ shown⟩]
  | .error _ => []

theorem isLogged_of_mem_requestEvents {slot : Json} {options : Options} {config : Config}
    {event : Event} (listed : event ∈ requestEvents slot options config) :
    event.isLogged = true := by
  unfold requestEvents at listed
  split at listed
  · rw [List.mem_singleton.mp listed, Event.isLogged_logged]
  · cases listed

theorem unlogged_requestEvents (slot : Json) (options : Options) (config : Config) :
    unlogged (requestEvents slot options config) = [] := by
  refine List.filter_eq_nil_iff.mpr fun event listed => ?_
  rw [isLogged_of_mem_requestEvents listed]
  exact Bool.false_ne_true

theorem logRequest_apply (slot : Json) (options : Options) (config : Config) (node : σ) :
    logRequest slot options.commitmentIsNamed config node =
      ⟨.ok (), node, requestEvents slot options config⟩ := by
  unfold logRequest requestEvents
  cases config.displayParams slot options.commitmentIsNamed <;> rfl

theorem fetchBlock_of_accepted (transport : Transport σ) (slot : Json) (options : Options)
    (config : Config) (accepted : options.config = .ok config) (node : σ) :
    fetchBlock transport slot options node =
      ⟨(transport.call blockMethod (config.params slot) node).result >>= fun raw =>
          Block.decode slot raw options.level,
        (transport.call blockMethod (config.params slot) node).node,
        requestEvents slot options config ++
          (transport.call blockMethod (config.params slot) node).events⟩ := by
  have requested := logRequest_apply slot options config node
  unfold fetchBlock
  rw [Task.bind_of_ok _ _ node config accepted]
  dsimp only [Task.ofExcept_apply]
  rw [Task.bind_of_ok _ _ node () (by rw [requested]), requested, Task.bind_ofExcept]
  rfl

theorem fetchBlock_of_rejected (transport : Transport σ) (slot : Json) (options : Options)
    (failure : Failure) (rejected : options.config = .error failure) (node : σ) :
    fetchBlock transport slot options node = ⟨.error failure, node, []⟩ := by
  unfold fetchBlock
  rw [Task.bind_of_error _ _ node failure rejected]
  rfl

namespace Script

/-- The answer to the call with the given number; past the last one it is null. -/
def answer (script : Script) (number : Nat) : Answer :=
  script.answers[number]?.getD (.ok .null)

/-- What is left after a number of calls. -/
def after (script : Script) (calls : Nat) : Script :=
  { script with answers := script.answers.drop calls }

theorem after_after (script : Script) (first second : Nat) :
    (script.after first).after second = script.after (first + second) := by
  simp only [after, List.drop_drop]

theorem next_eq (script : Script) : script.next = (script.answer 0, script.after 1) := by
  obtain ⟨answers, closes⟩ := script
  cases answers <;> rfl

theorem call_apply (method : String) (params : Json) (script : Script) :
    Script.call method params script =
      ⟨script.answer 0, script.after 1, [.called method params]⟩ := by
  rw [Script.call, next_eq]

end Script

/-- Over a script, fetching a block is one call, answered by the next answer. -/
theorem fetchBlock_script (closable : Bool) (slot : Json) (options : Options) (config : Config)
    (accepted : options.config = .ok config) (script : Script) :
    fetchBlock (Script.transport closable) slot options script =
      ⟨script.answer 0 >>= fun raw => Block.decode slot raw options.level, script.after 1,
        requestEvents slot options config ++ [.called blockMethod (config.params slot)]⟩ := by
  rw [fetchBlock_of_accepted _ slot options config accepted]
  show Outcome.mk ((Script.call _ _ script).result >>= _) (Script.call _ _ script).node
    (_ ++ (Script.call _ _ script).events) = _
  rw [Script.call_apply]

end BlockReader
