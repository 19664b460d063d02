import BlockReader.Text.Blank
import BlockReader.Transport.Basic
import BlockReader.Transport.Session
set_option autoImplicit false

namespace BlockReader

variable [Json.Nesting]

/-- What comes back for a payload: a status and a body, or the failure that broke the exchange
off. -/
inductive Reply where
  | broken (failure : Failure)
  | answer (status : Int) (body : List UInt8)

namespace Reply

def success : Int := 200

def bodyText (body : List UInt8) : Except Failure (List Char) :=
  match Utf8.decode body with
  | .ok characters => .ok characters
  | .error fault => .error (.undecodable body fault)

def bodyValue (body : List UInt8) : Except Failure Json :=
  let stripped := Text.strip Text.isBlankByte body
  if stripped.isEmpty then .ok .null
  else match bodyText stripped with
    | .error failure => .error failure
    | .ok characters => (Json.read characters).mapError .unreadable

def value : Reply → Except Failure Json
  | .broken failure => .error failure
  | .answer status body =>
    if status = success then bodyValue body
    else match bodyText body with
      | .error failure => .error failure
      | .ok characters =>
        .error (Failure.badStatus (.int status) (.text (String.ofList characters))).raised

end Reply

/-- A failure of an exchange as the call reports it. -/
def Failure.inCall (failure : Failure) (method url : String) : Failure :=
  if failure.breaksOff then (Failure.exchangeFailed method url failure).raised else failure

/-- The failure that an error object states; any other error is stated by its text. -/
def Failure.ofErrorMember : Json → Failure
  | .object members =>
    (Failure.rpc ((Json.Members.get? "code" members).getD (.int 0))
      ((Json.Members.get? "message" members).getD (.text ""))
      (Json.Members.getOrNull "data" members)).raised
  | other =>
    match other.plain with
    | .ok text => (Failure.rpc (.int 0) (.text text) .null).raised
    | .error fault => .number fault

/-- The result in the value that answers a call. An error counts even beside a result, and a
missing result is null. -/
def Reply.result (method url : String) : Json → Except Failure Json
  | .object members =>
    match Json.Members.get? "error" members with
    | some error => .error (.ofErrorMember error)
    | none => .ok (Json.Members.getOrNull "result" members)
  | other => .error (Failure.notAnObject method url other).raised

def Reply.receive (method url : String) (reply : Reply) : Except Failure Json :=
  match reply.value with
  | .error failure => .error (failure.inCall method url)
  | .ok value => Reply.result method url value

structure Wire where
  line : Line
  replies : List Reply

namespace Wire

/-- Takes the next reply; after the last one the node is not to be reached. -/
def next (wire : Wire) : Reply × List Reply :=
  match wire.replies with
  | [] =>
    (.broken (.connection .connection [.text ("Connection refused: POST " ++ wire.line.url)]), [])
  | reply :: rest => (reply, rest)

/-- Sends a call and receives its result. To a node that is not to be reached nothing is posted,
but the number of the payload is used up. -/
def call (method : String) (params : Json) : Task Wire Json := fun wire =>
  let (payload, line) := wire.line.send method params
  let (reply, rest) := wire.next
  ⟨reply.receive method wire.line.url, ⟨line, rest⟩,
    if wire.replies.isEmpty then [] else [.posted payload]⟩

def close : Task Wire Unit := fun wire =>
  ⟨.ok (), { wire with line := wire.line.close }, []⟩

def transport : Transport Wire where
  call := call
  close? := some close

end Wire

end BlockReader
