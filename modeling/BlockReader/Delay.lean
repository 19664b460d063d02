import BlockReader.Failure.Basic
set_option autoImplicit false

namespace BlockReader

inductive Delay where
  | whole (seconds : Int)
  | real (seconds : Double)
  deriving DecidableEq

namespace Delay

/-- The power of two from which on a floating-point value cannot hold it. -/
def doublingLimit : Nat := 1024

/-- The delay after the attempt with the given number: the first delay doubled that many times. -/
def after (first : Delay) (attempt : Nat) : Except Failure Delay :=
  match first with
  | .whole seconds => .ok (.whole (seconds <<< attempt))
  | .real seconds =>
    if attempt < doublingLimit then .ok (.real (seconds.scale attempt))
    else .error (.number .tooLargeForDouble)

def text : Delay → Except Failure String
  | .real seconds => .ok (String.ofList seconds.fixedTwo)
  | .whole seconds =>
    match Numeral.toDouble seconds with
    | .ok value => .ok (String.ofList value.fixedTwo)
    | .error fault => .error (.number fault)

def toJson : Delay → Json
  | .whole seconds => .int seconds
  | .real seconds => .float seconds

/-- A JSON value as a delay. A text or a list could be multiplied, but never be shown with decimal
places. -/
def ofJson : Json → Except Failure Delay
  | .int seconds => .ok (.whole seconds)
  | .bool seconds => .ok (.whole (if seconds then 1 else 0))
  | .float seconds => .ok (.real seconds)
  | .text _ => .error (.unknownFormat "f")
  | .array items => .error (.shape (.noPlaces (Json.array items).kind))
  | other => .error (.shape (.noOperation "*" other.kind (Json.int 0).kind))

@[simp] theorem ofJson_toJson (delay : Delay) : ofJson delay.toJson = .ok delay := by
  cases delay <;> rfl

end Delay

end BlockReader
