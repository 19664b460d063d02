import BlockReader.Fetch
set_option autoImplicit false

namespace BlockReader

variable {σ : Type}

/-- How long to wait for a block: the number of attempts after the first, and the first delay. -/
structure Patience where
  retries : Json
  backoff : Json

namespace Patience

/-- The number of retries. A negative number counts as none, even if it has a fraction; any other
must be whole. -/
def limit (patience : Patience) : Except Failure Nat :=
  match patience.retries with
  | .int retries => .ok retries.toNat
  | .bool retries => .ok (if retries then 1 else 0)
  | .float retries =>
    if retries.isNegative then .ok 0 else .error (.shape (.notWhole (Json.float retries).kind))
  | other => .error (.shape (.noOrder ">" (Json.int 0).kind other.kind))

def shownLimit (patience : Patience) : Except NumberFault Text :=
  match patience.retries with
  | .int retries => (Json.int retries.toNat).plain
  | other => other.plain

@[simp] theorem limit_int (retries : Int) (backoff : Json) :
    limit ⟨.int retries, backoff⟩ = .ok retries.toNat := rfl

end Patience

def waitRecord (slot : Json) (patience : Patience) (attempt : Nat) (delay : Delay) :
    Except Failure Text := do
  let slot ← slot.plain.mapError .number
  let seconds ← delay.text
  let number ← (decimal (attempt + 1)).mapError .number
  let limit ← patience.shownLimit.mapError .number
  pure ("Block " ++ slot ++ " not confirmed yet, retrying in " ++ seconds ++ "s (" ++ number ++
    "/" ++ limit ++ ")")

/-- The delay after the attempt with the given number, and the record of the wait. -/
def plannedWait (slot : Json) (patience : Patience) (attempt : Nat) :
    Except Failure (Delay × Text) := do
  let first ← Delay.ofJson patience.backoff
  let delay ← first.after attempt
  let record ← waitRecord slot patience attempt delay
  pure (delay, record)

def waitAfter (slot : Json) (patience : Patience) (attempt : Nat) : Task σ Unit := do
  let (delay, record) ← Task.ofExcept (plannedWait slot patience attempt)
  Task.log .warning .scanner record
  Task.sleep delay

/-- Makes the attempt with the given number, and up to `left` more. -/
def fetchFrom (transport : Transport σ) (slot : Json) (options : Options) (patience : Patience)
    (attempt : Nat) : (left : Nat) → Task σ Block
  | 0 => fetchBlock transport slot options
  | left + 1 => do
    match ← (fetchBlock transport slot options).attempt with
    | .ok block => pure block
    | .error (.notConfirmed _) =>
      waitAfter slot patience attempt
      fetchFrom transport slot options patience (attempt + 1) left
    | .error failure => Task.fail failure

/-- Fetches a block, again while it is not confirmed and retries are left. Any other failure is
final at once. -/
def fetchWithRetry (transport : Transport σ) (slot : Json) (options : Options)
    (patience : Patience) : Task σ Block := do
  let limit ← Task.ofExcept patience.limit
  fetchFrom transport slot options patience 0 limit

end BlockReader
