set_option autoImplicit false

namespace BlockReader

inductive ErrorClass where
  | base
  | cancelled
  | exception
  | block
  | unsupportedEncoding
  | notConfirmed
  | transport
  | badStatus
  | rpc
  | client
  | connection
  | serverConnection
  | serverTimeout
  | payload
  | system
  | timeout
  | value
  | unicode
  | undecodable
  | notEncodable
  | unreadable
  | arithmetic
  | overflow
  | runtime
  | recursion
  | shape
  | lookup
  | key
  | hash
  deriving DecidableEq

namespace ErrorClass

def name : ErrorClass → String
  | .base => "BaseException"
  | .cancelled => "CancelledError"
  | .exception => "Exception"
  | .block => "BlockRpcError"
  | .unsupportedEncoding => "UnsupportedEncodingError"
  | .notConfirmed => "BlockNotConfirmedError"
  | .transport => "TransportError"
  | .badStatus => "HTTPStatusError"
  | .rpc => "RPCError"
  | .client => "ClientError"
  | .connection => "ClientConnectionError"
  | .serverConnection => "ServerConnectionError"
  | .serverTimeout => "ServerTimeoutError"
  | .payload => "ClientPayloadError"
  | .system => "OSError"
  | .timeout => "TimeoutError"
  | .value => "ValueError"
  | .unicode => "UnicodeError"
  | .undecodable => "UnicodeDecodeError"
  | .notEncodable => "UnicodeEncodeError"
  | .unreadable => "JSONDecodeError"
  | .arithmetic => "ArithmeticError"
  | .overflow => "OverflowError"
  | .runtime => "RuntimeError"
  | .recursion => "RecursionError"
  | .shape => "TypeError"
  | .lookup => "LookupError"
  | .key => "KeyError"
  | .hash => "ParseHashError"

def bases : ErrorClass → List ErrorClass
  | .base => []
  | .cancelled | .exception => [.base]
  | .block | .client | .system | .value | .arithmetic | .runtime | .shape | .lookup | .hash =>
    [.exception]
  | .unsupportedEncoding => [.block, .value]
  | .notConfirmed | .transport => [.block]
  | .badStatus | .rpc => [.transport]
  | .connection | .payload => [.client]
  | .serverConnection => [.connection]
  | .serverTimeout => [.serverConnection, .timeout]
  | .timeout => [.system]
  | .unicode | .unreadable => [.value]
  | .undecodable | .notEncodable => [.unicode]
  | .overflow => [.arithmetic]
  | .recursion => [.runtime]
  | .key => [.lookup]

/-- A class, its bases, their bases and so on, `height` steps up. -/
def lineage : (height : Nat) → ErrorClass → List ErrorClass
  | 0, bottom => [bottom]
  | height + 1, bottom => bottom :: bottom.bases.flatMap (lineage height)

def isA (bottom top : ErrorClass) : Bool :=
  (lineage 5 bottom).contains top

/-- One class derives from another in any number of steps, none included. -/
inductive Derives : ErrorClass → ErrorClass → Prop where
  | refl (bottom : ErrorClass) : Derives bottom bottom
  | step {bottom above top : ErrorClass} (base : above ∈ bottom.bases) (rest : Derives above top) :
    Derives bottom top

theorem derives_of_mem_lineage {top : ErrorClass} (height : Nat) (bottom : ErrorClass)
    (found : top ∈ lineage height bottom) : Derives bottom top := by
  induction height generalizing bottom with
  | zero =>
    rw [lineage, List.mem_singleton] at found
    exact found ▸ .refl top
  | succ height ih =>
    rw [lineage, List.mem_cons, List.mem_flatMap] at found
    rcases found with same | ⟨above, base, found⟩
    · exact same ▸ .refl top
    · exact .step base (ih above found)

/-- Five steps lead to the top from anywhere. -/
theorem lineage_closed (bottom : ErrorClass) : ∀ above ∈ bottom.bases,
    ∀ top ∈ lineage 5 above, top ∈ lineage 5 bottom := by
  cases bottom <;> decide

theorem isA_iff (bottom top : ErrorClass) : bottom.isA top = true ↔ Derives bottom top := by
  rw [isA, List.contains_iff_mem]
  refine ⟨derives_of_mem_lineage 5 bottom, fun derives => ?_⟩
  induction derives with
  | refl bottom => exact List.mem_cons_self
  | step base rest ih => exact lineage_closed _ _ base _ ih

end ErrorClass

end BlockReader
