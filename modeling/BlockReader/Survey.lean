import BlockReader.Scan
import BlockReader.Settings
set_option autoImplicit false

namespace BlockReader

variable {σ : Type}

/-- What the chain answers: its newest slot, and the confirmed slots of a stretch. -/
structure Chain where
  newestSlot : Answer
  confirmedSlots : Answer

namespace Chain

/-- Opens a client for the chain, asks, and closes the client whatever came of it. -/
def bracket {α : Type} (url : String) (ask : Task σ α) : Task σ α := do
  Task.emit (.opened url)
  Task.closing ask (Task.emit .closed)

/-- The confirmed slots among `count` slots from `start` on; the last slot asked for is included. -/
def listSlots (chain : Chain) (url : String) (start count : Json) : Task σ Json :=
  bracket url do
    let beyond ← Task.ofExcept (start.plus count)
    let last ← Task.ofExcept (beyond.minus (.int 1))
    Task.emit (.askedBlocks start last)
    Task.ofExcept chain.confirmedSlots

/-- The slot that lies `count` slots before the newest confirmed one. -/
def slotBefore (chain : Chain) (url : String) (count : Json) : Task σ Json :=
  bracket url do
    Task.emit (.askedSlot "confirmed")
    let newest ← Task.ofExcept chain.newestSlot
    Task.ofExcept (newest.minus count)

end Chain

namespace Survey

/-- A survey wants signatures only, no rewards, confirmed blocks and plain transactions. -/
def options : Options :=
  { transactionDetails := .text "signatures"
    rewards := .bool false
    commitment := .text "confirmed"
    maxSupportedTransactionVersion := .int 0
    commitmentIsNamed := true }

def patience (settings : Settings) : Patience :=
  ⟨.int settings.retries, .float settings.backoff⟩

/-- The first and the last item of a list or a text; an object has no numbered members. -/
def ends : Json → Except Failure (Json × Json)
  | .array (first :: rest) => .ok (first, rest.getLastD first)
  | .object _ => .error (.missing (.int 0))
  | other => do
    let items ← other.items
    pure (items.headD .null, items.getLastD .null)

def announcement (slots : Json) : Except Failure Text := do
  let count ← slots.count
  if 1 < count then
    let (first, last) ← ends slots
    let first ← first.plain.mapError .number
    let last ← last.plain.mapError .number
    pure ("Processing blocks " ++ first ++ " - " ++ last ++ s!" ({count} blocks)")
  else
    let shown ← slots.plain.mapError .number
    pure ("Processing blocks " ++ shown)

def describe (summary : Summary) : Except NumberFault Text := do
  let slot ← summary.slot.plain
  let parent ← summary.parentSlot.plain
  let height ← summary.blockHeight.plain
  let time ← summary.blockTime.plain
  let pruned := if summary.parentPruned then " (pruned)" else ""
  pure ("Block " ++ slot ++ s!" {summary.blockhash} parent=" ++ parent ++ s!"{pruned} height=" ++
    height ++ " time=" ++ time ++ s!" txs={summary.transactionCount}")

def report : List Summary → Task σ Unit
  | [] => pure ()
  | summary :: rest => do
    let record ← Task.ofExcept ((describe summary).mapError .number)
    Task.log .info .scanner record
    report rest

/-- Surveys `count` slots from `start` on, or the newest ones when the start is null. The client
for the blocks is made after the slots are listed, and closed after the scan. -/
def run (settings : Settings) (chain : Chain) (transport : Transport σ) (start count : Json) :
    Task σ (List Summary) := do
  let first ← if start.isNull then chain.slotBefore settings.rpcUrl count else pure start
  let slots ← chain.listSlots settings.rpcUrl first count
  let announced ← Task.ofExcept (announcement slots)
  Task.log .info .scanner announced
  Task.emit (.connected settings.rpcUrl)
  let summaries ← Task.closing
    (scanListed transport options (patience settings) slots)
    transport.close
  report summaries
  pure summaries

end Survey

end BlockReader
