import BlockReader.Block.Summary
import BlockReader.Retry
set_option autoImplicit false

namespace BlockReader

variable {σ : Type}

/-- The record of a slot that is left out of a scan, if a failure does no more than that. -/
def leaveOut? (slot : Json) (patience : Patience) : Failure → Option (Except NumberFault Text)
  | .notConfirmed _ => some do
    let slot ← slot.plain
    let retries ← patience.retries.plain
    pure ("Giving up on block " ++ slot ++ ": not confirmed after " ++ retries ++ " retries")
  | .rpc code text data => some do
    let slot ← slot.plain
    let message ← (Failure.rpc code text data).message
    pure ("Skipping block " ++ slot ++ ": " ++ message)
  | _ => none

/-- Summarises the blocks at the slots. A slot that the node refuses, or whose block is still not
confirmed after the retries, is left out with a warning; any other failure ends the scan, and so
does a warning that cannot be written. -/
def scan (transport : Transport σ) (options : Options) (patience : Patience) :
    List Json → Task σ (List Summary)
  | [] => pure []
  | slot :: rest => do
    match ← (fetchWithRetry transport slot options patience).attempt with
    | .ok block =>
      let summary ← Task.ofExcept (Summary.ofBlock slot block)
      let summaries ← scan transport options patience rest
      pure (summary :: summaries)
    | .error failure =>
      match leaveOut? slot patience failure with
      | some (.ok record) =>
        Task.log .warning .scanner record
        scan transport options patience rest
      | some (.error fault) => Task.fail (.number fault)
      | none => Task.fail failure

/-- Summarises the blocks at the slots in a list; other values that have items will do. -/
def scanListed (transport : Transport σ) (options : Options) (patience : Patience) (slots : Json) :
    Task σ (List Summary) := do
  let items ← Task.ofExcept slots.items
  scan transport options patience items

end BlockReader
