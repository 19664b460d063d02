import BlockReader.Survey
set_option autoImplicit false

namespace BlockReader.Command

variable {σ : Type}

def logLevel (settings : Settings) : Except Failure Level :=
  match Level.ofName? settings.logLevel with
  | some level => .ok level
  | none => .error (.unknownLevel settings.logLevel)

def standardCount : Int := 10

def readArgument (argument : String) : Except Failure Int :=
  (Numeral.readInt argument).mapError .number

/-- The start and the count that the arguments give; further arguments do not matter. -/
def readArguments : List String → Except Failure (Option Int × Int)
  | [] => .ok (none, standardCount)
  | [start] => do
    let start ← readArgument start
    pure (some start, standardCount)
  | start :: count :: _ => do
    let start ← readArgument start
    let count ← readArgument count
    pure (some start, count)

def startingSlot (start : Option Int) : Json :=
  (start.map Json.int).getD .null

/-- A survey as the command line asks for it. The log level is checked before the arguments. -/
def survey (settings : Settings) (chain : Chain) (transport : Transport σ)
    (arguments : List String) : Task σ Unit := do
  let _ ← Task.ofExcept (logLevel settings)
  let (start, count) ← Task.ofExcept (readArguments arguments)
  let _ ← Survey.run settings chain transport (startingSlot start) (.int count)
  pure ()

structure Service where
  host : String
  port : Int
  level : Level

def service (settings : Settings) : Except Failure Service := do
  let level ← logLevel settings
  pure ⟨settings.host, settings.port, level⟩

/-- The records among the events that pass a threshold. -/
def records (threshold : Level) (events : List Event) : List Record :=
  events.filterMap fun event =>
    match event with
    | .logged record => if threshold.passes record.level then some record else none
    | _ => none

end BlockReader.Command
