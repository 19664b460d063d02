import BlockReader.Api.Parameter
import BlockReader.Block.Basic
set_option autoImplicit false

namespace BlockReader

mutual

/-- A value without the members whose names are reserved, at any depth. -/
def Json.withoutReserved : Json → Json
  | .array items => .array (Json.itemsWithoutReserved items)
  | .object members => .object (Json.membersWithoutReserved members)
  | other => other

def Json.itemsWithoutReserved : List Json → List Json
  | [] => []
  | item :: rest => item.withoutReserved :: Json.itemsWithoutReserved rest

def Json.membersWithoutReserved : List (Text × Json) → List (Text × Json)
  | [] => []
  | (name, value) :: rest =>
    if name.front.startsWith "_sa" then Json.membersWithoutReserved rest
    else (name, value.withoutReserved) :: Json.membersWithoutReserved rest

end

namespace Api

variable [Json.Nesting]

structure Response where
  status : Nat
  contentType : Option String := none
  location : Option String := none
  allow : Option String := none
  body : String := ""

namespace Response

def internalError : Response :=
  { status := 500
    contentType := some "text/plain; charset=utf-8"
    body := "Internal Server Error" }

/-- A value as the body; one that cannot be written is an internal error. -/
def ofJson (status : Nat) (value : Json) : Response :=
  match value.compact? with
  | some body => { status := status, contentType := some "application/json", body := body }
  | none => internalError

def ofDetail (status : Nat) (detail : Json) : Response :=
  ofJson status (.object [("detail", detail)])

def redirect (location : String) : Response :=
  { status := 307, location := some location }

def notFound : Response :=
  ofDetail 404 (.text "Not Found")

def notAllowed : Response :=
  { ofDetail 405 (.text "Method Not Allowed") with allow := some "GET" }

def ofViolations (violations : List Violation) : Response :=
  ofDetail 422 (.array (violations.map Violation.toJson))

def ofBlock (block : Block) : Response :=
  ofJson 200 block.toJson.withoutReserved

def statusOf? : Failure → Option Nat
  | .unsupportedEncoding _ => some 400
  | .notConfirmed _ => some 404
  | failure => if failure.isTransport then some 502 else none

/-- What is left of a request that was cancelled: the status of an internal error and no more. -/
def cancelled : Response :=
  { status := 500 }

def ofFailure (failure : Failure) : Response :=
  match statusOf? failure, failure with
  | some status, _ =>
    match failure.message with
    | .ok message => ofDetail status (.text message)
    | .error _ => internalError
  | none, .outside .cancelled _ => cancelled
  | none, _ => internalError

end Response

end Api

end BlockReader
