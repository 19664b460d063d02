import BlockReader.Replay
set_option autoImplicit false

namespace BlockReader.Main

def readEnvironment : IO Environment := do
  let values ← Settings.names.mapM fun name => do
    let value ← IO.getEnv name
    pure (value.map fun value => (name, value))
  pure (values.filterMap id)

def trimLine (line : String) : String :=
  String.ofList (line.toList.filter (· != '\n'))

partial def readLines (input : IO.FS.Stream) : IO (List String) := do
  let line ← input.getLine
  if line.isEmpty then pure []
  else
    let rest ← readLines input
    pure (trimLine line :: rest)

def sourceName : Source → String
  | .client => "client"
  | .scanner => "scanner"
  | .api => "api"

def printPayloads (events : List Event) : IO Unit :=
  events.forM fun event =>
    match event with
    | .posted payload => IO.println (payload.compact?.getD "")
    | _ => pure ()

def printRecords (threshold : Level) (events : List Event) : IO Unit :=
  (Command.records threshold events).forM fun record =>
    IO.eprintln s!"{record.level.name} {sourceName record.source}: {record.message.printed}"

def printFailure (failure : Failure) : IO Unit :=
  match failure.message with
  | .ok message => IO.eprintln message.printed
  | .error fault => IO.eprintln fault.message

/-- Prints a failure; the program then ends without success. -/
def complain (failure : Failure) : IO UInt32 := do
  printFailure failure
  pure 1

def survey (settings : Settings) (arguments : List String) : IO UInt32 := do
  let bodies ← readLines (← IO.getStdin)
  let outcome := Replay.survey settings arguments bodies
  printPayloads outcome.events
  printRecords ((Level.ofName? settings.logLevel).getD .all) outcome.events
  match outcome.result with
  | .ok _ => pure 0
  | .error failure => complain failure

def printResponse (response : Api.Response) : IO Unit :=
  IO.println s!"{response.status} {response.location.getD response.body}"

/-- Serves line after line until the input ends, and then shuts the service down. -/
partial def serveLines (settings : Settings) (threshold : Level) (input : IO.FS.Stream)
    (site : Api.Site Wire) : IO Unit := do
  let line ← input.getLine
  if line.isEmpty then
    let ended := Api.Site.shutDown (Replay.backend settings) site
    printRecords threshold ended.events
  else
    let outcome := Replay.serveLine settings (trimLine line) site
    printPayloads outcome.events
    printRecords threshold outcome.events
    match outcome.result with
    | .ok .recorded => pure ()
    | .ok (.refused fault) => IO.eprintln fault.message
    | .ok (.answered response) => printResponse response
    | .error failure => printFailure failure
    serveLines settings threshold input outcome.node

def serve (settings : Settings) : IO UInt32 :=
  match Command.service settings with
  | .error failure => complain failure
  | .ok service => do
    IO.eprintln s!"Serving on {service.host}:{service.port}"
    serveLines settings service.level (← IO.getStdin) (Replay.site settings)
    pure 0

/-- The commands read what the node replies from standard input, a JSON body a line; `serve` also
reads requests there, a method and a URL a line. Payloads and responses are printed, and log records
go to the standard error. -/
def run (arguments : List String) : IO UInt32 := do
  match Settings.load (← readEnvironment) with
  | .error failure => complain failure
  | .ok settings =>
    match arguments with
    | "survey" :: rest => survey settings rest
    | ["serve"] => serve settings
    | _ =>
      IO.eprintln "usage: blockreader survey [START [COUNT]] | blockreader serve"
      pure 2

end BlockReader.Main

def main (arguments : List String) : IO UInt32 :=
  BlockReader.Main.run arguments
