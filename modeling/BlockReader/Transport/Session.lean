import BlockReader.Json.Basic
set_option autoImplicit false

namespace BlockReader

/-- A session is given from outside or made by its line. -/
inductive Origin where
  | given
  | made
  deriving DecidableEq

structure Session where
  origin : Origin
  isOpen : Bool
  deriving DecidableEq

/-- A line to a node: where it is, the sessions it has had, the current one first, whether it
answers for the current one, and the number of the next payload. -/
structure Line where
  url : String
  /-- The most time that an exchange may take; null when there is no limit. -/
  timeout : Json
  sessions : List Session
  ownsSession : Bool
  nextId : Nat

namespace Line

/-- A line that has sent nothing yet. A limit that counts as false is none. -/
def start (url : String) (withSession : Bool) (timeout : Json) : Line :=
  { url := url
    timeout := if timeout.truthy then timeout else .null
    sessions := if withSession then [⟨.given, true⟩] else []
    ownsSession := !withSession
    nextId := 1 }

def session? (line : Line) : Option Session :=
  line.sessions.head?

def made (line : Line) : Nat :=
  line.sessions.countP (fun session => session.origin == .made)

def isReady (line : Line) : Bool :=
  line.session?.any Session.isOpen

def prepare (line : Line) : Line :=
  if line.isReady then line
  else { line with sessions := ⟨.made, true⟩ :: line.sessions, ownsSession := true }

def payload (id : Nat) (method : String) (params : Json) : Json :=
  .object [("jsonrpc", .text "2.0"), ("id", .int id), ("method", .text method),
    ("params", params)]

/-- Posts a call: the payload takes the next number, then a session is made ready. -/
def send (method : String) (params : Json) (line : Line) : Json × Line :=
  (payload line.nextId method params, { line with nextId := line.nextId + 1 }.prepare)

def closeSession (line : Line) : Line :=
  match line.sessions with
  | [] => line
  | current :: earlier =>
    { line with sessions := { current with isOpen := false } :: earlier }

/-- Closes the current session if the line answers for it. -/
def close (line : Line) : Line :=
  if line.ownsSession then line.closeSession else line

end Line

end BlockReader
