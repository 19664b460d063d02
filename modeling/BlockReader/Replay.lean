import BlockReader.Command
import BlockReader.Url.Target
set_option autoImplicit false

namespace BlockReader.Replay

variable [Json.Nesting]

def reply (body : String) : Reply :=
  .answer Reply.success (Utf8.encode body)

def wire (settings : Settings) (bodies : List String) : Wire :=
  ⟨Line.start settings.rpcUrl false (.float settings.rpcTimeout), bodies.map reply⟩

def takeAnswer (method : String) (wire : Wire) : Answer × Wire :=
  let (reply, rest) := wire.next
  (reply.receive method wire.line.url, { wire with replies := rest })

/-- The chain as a recording shows it. Its newest slot comes first, unless the survey is told
where to start; its confirmed slots come next. -/
def takeChain (withNewest : Bool) (wire : Wire) : Chain × Wire :=
  let (newest, wire) := if withNewest then takeAnswer "getSlot" wire else (.ok .null, wire)
  let (slots, wire) := takeAnswer "getBlocks" wire
  (⟨newest, slots⟩, wire)

def survey (settings : Settings) (arguments bodies : List String) : Outcome Wire Unit :=
  let (chain, wire) := takeChain arguments.isEmpty (wire settings bodies)
  Command.survey settings chain Wire.transport arguments wire

def site (settings : Settings) : Api.Site Wire :=
  ⟨wire settings [], false⟩

/-- Puts a recorded body behind the replies that are still to come. -/
def record (body : String) (site : Api.Site Wire) : Api.Site Wire :=
  { site with node := { site.node with replies := site.node.replies ++ [reply body] } }

def request (line : String) : Except UrlFault Url.Asked :=
  let characters := line.toList
  Url.ask (String.ofList (characters.takeWhile (· != ' ')))
    (String.ofList ((characters.dropWhile (· != ' ')).drop 1))

/-- The backend of a replayed service: a new client keeps the replies that are still to come. -/
def backend (settings : Settings) : Api.Backend Wire :=
  Api.overHttp settings.rpcUrl (.float settings.rpcTimeout)

inductive Served where
  /-- The line is a body, for a call to come. -/
  | recorded
  /-- The line asks for nothing that has a URL. -/
  | refused (fault : UrlFault)
  | answered (response : Api.Response)

/-- A line of a replayed service is a body when it begins with a brace; any other line is a
request, and is answered. -/
def serveLine (settings : Settings) (line : String) : Task (Api.Site Wire) Served :=
  match line.toList with
  | '\x7b' :: _ => fun site => ⟨.ok .recorded, record line site, []⟩
  | _ =>
    match request line with
    | .error fault => pure (.refused fault)
    | .ok asked => do
      let response ← Api.Site.serve (backend settings) asked.request
      pure (.answered response)

end BlockReader.Replay
