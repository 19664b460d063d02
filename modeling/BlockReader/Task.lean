import BlockReader.Delay
import BlockReader.Log
set_option autoImplicit false

namespace BlockReader

/-- What can be seen of a task from outside, in the order in which it happens. -/
inductive Event where
  /-- A call through a transport. -/
  | called (method : String) (params : Json)
  /-- A payload posted to a node. -/
  | posted (payload : Json)
  | slept (delay : Delay)
  | logged (record : Record)
  /-- A client for the chain itself is opened. -/
  | opened (url : String)
  /-- The chain's newest slot is asked for, at a commitment. -/
  | askedSlot (commitment : String)
  /-- The confirmed slots between two slots are asked for. -/
  | askedBlocks (first last : Json)
  /-- The client for the chain is closed. -/
  | closed
  /-- A client for blocks is made. -/
  | connected (url : String)

structure Outcome (σ α : Type) where
  result : Except Failure α
  node : σ
  events : List Event

/-- A computation that depends on the state of a node. A failure keeps the state and the events up
to it, and the events of two tasks in a row are those of the first followed by those of the
second. -/
def Task (σ α : Type) : Type := σ → Outcome σ α

namespace Task

variable {σ α β : Type}

def ofExcept (result : Except Failure α) : Task σ α :=
  fun node => ⟨result, node, []⟩

/-- Runs one task and, unless it fails, a second that depends on its result. -/
def andThen (first : Task σ α) (next : α → Task σ β) : Task σ β := fun node =>
  let before := first node
  match before.result with
  | .error failure => ⟨.error failure, before.node, before.events⟩
  | .ok value =>
    let after := next value before.node
    ⟨after.result, after.node, before.events ++ after.events⟩

instance : Monad (Task σ) where
  pure value := ofExcept (.ok value)
  bind := andThen

def fail (failure : Failure) : Task σ α :=
  ofExcept (.error failure)

def emit (event : Event) : Task σ Unit :=
  fun node => ⟨.ok (), node, [event]⟩

def log (level : Level) (source : Source) (message : Text) : Task σ Unit :=
  emit (.logged ⟨level, source, message⟩)

def sleep (delay : Delay) : Task σ Unit :=
  emit (.slept delay)

/-- Runs a task and hands over how it ended, also when it failed. -/
def attempt (task : Task σ α) : Task σ (Except Failure α) := fun node =>
  let outcome := task node
  ⟨.ok outcome.result, outcome.node, outcome.events⟩

/-- Runs a task and, however it ended, a second one; then ends as the first did. -/
def closing (task : Task σ α) (cleanup : Task σ Unit) : Task σ α := do
  let result ← attempt task
  cleanup
  ofExcept result

@[simp] theorem ofExcept_apply (result : Except Failure α) (node : σ) :
    ofExcept result node = ⟨result, node, []⟩ := rfl

@[simp] theorem pure_apply (value : α) (node : σ) :
    (pure value : Task σ α) node = ⟨.ok value, node, []⟩ := rfl

@[simp] theorem attempt_apply (task : Task σ α) (node : σ) :
    attempt task node = ⟨.ok (task node).result, (task node).node, (task node).events⟩ := rfl

@[simp] theorem emit_apply (event : Event) (node : σ) :
    (emit event : Task σ Unit) node = ⟨.ok (), node, [event]⟩ := rfl

theorem bind_of_ok (first : Task σ α) (next : α → Task σ β) (node : σ) (value : α)
    (success : (first node).result = .ok value) :
    (first >>= next) node =
      ⟨(next value (first node).node).result, (next value (first node).node).node,
        (first node).events ++ (next value (first node).node).events⟩ := by
  show andThen first next node = _
  simp only [andThen, success]

theorem bind_of_error (first : Task σ α) (next : α → Task σ β) (node : σ) (failure : Failure)
    (failed : (first node).result = .error failure) :
    (first >>= next) node = ⟨.error failure, (first node).node, (first node).events⟩ := by
  show andThen first next node = _
  simp only [andThen, failed]

end Task

end BlockReader
