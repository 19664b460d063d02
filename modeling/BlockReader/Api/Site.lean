import BlockReader.Api.Response
import BlockReader.Api.Target
import BlockReader.Fetch
import BlockReader.Transport.Http
set_option autoImplicit false

namespace BlockReader.Api

open Text (splitOn)

variable [Json.Nesting] {σ : Type}

/-- The service's client: the state of its transport, and whether it is installed. -/
structure Site (σ : Type) where
  node : σ
  installed : Bool

/-- How the service reaches the node: the transport of its client, and the state in which a newly
made client finds it. -/
structure Backend (σ : Type) where
  transport : Transport σ
  renew : σ → σ

structure Request where
  method : String
  target : Target

inductive Route where
  | home
  | block (slot : String)

/-- Whether a path is that of a page; a line feed may follow it. -/
def isPage (page path : List Char) : Bool :=
  path == page || path == page ++ ['\n']

/-- The route of a path. The block's route has one more segment, which is not empty. -/
def Route.ofPath? (path : List Char) : Option Route :=
  if isPage ['/'] path then some .home
  else match splitOn '/' path with
    | [[], segment, slot] =>
      if segment = "blocks".toList && !slot.isEmpty then some (.block (String.ofList slot))
      else none
    | _ => none

/-- The pages that describe the service. They are not served here. -/
def descriptionPages : List String :=
  ["/docs", "/docs/oauth2-redirect", "/openapi.json", "/redoc"]

def leadsSomewhere (path : List Char) : Bool :=
  (Route.ofPath? path).isSome || descriptionPages.any (fun page => isPage page.toList path)

def withoutTrailing (path : List Char) : List Char :=
  (path.reverse.dropWhile (· == '/')).reverse

/-- Where a path without a route is sent: to the path without the slashes at its end, if that leads
somewhere. -/
def redirection? (target : Target) : Option String :=
  let shorter := withoutTrailing target.path
  if target.path.getLast? = some '/' && target.path != ['/'] && leadsSomewhere shorter then
    some (target.location shorter)
  else none

namespace Site

def inside {α : Type} (task : Task σ α) : Task (Site σ) α := fun site =>
  let outcome := task site.node
  ⟨outcome.result, { site with node := outcome.node }, outcome.events⟩

def ensureClient (backend : Backend σ) : Task (Site σ) Unit := fun site =>
  ⟨.ok (), if site.installed then site else ⟨backend.renew site.node, true⟩, []⟩

def forget : Task (Site σ) Unit := fun site =>
  ⟨.ok (), { site with installed := false }, []⟩

def shutDown (backend : Backend σ) : Task (Site σ) Unit := fun site =>
  if site.installed then
    (do
      inside backend.transport.close
      forget : Task (Site σ) Unit) site
  else ⟨.ok (), site, []⟩

def callRecord (slot : Int) (failure : Failure) : Except NumberFault Text := do
  let slot ← decimal slot
  let message ← failure.message
  pure (blockMethod ++ " " ++ slot ++ " failed: " ++ message)

/-- Serves the block at a slot. A failed call is logged; without a record there is no answer to it
either. -/
def serveBlock (backend : Backend σ) (slot : Int) (options : Options) :
    Task (Site σ) Response := do
  ensureClient backend
  match ← (inside (fetchBlock backend.transport (.int slot) options)).attempt with
  | .ok block => pure (.ofBlock block)
  | .error failure =>
    if failure.isTransport then
      match callRecord slot failure with
      | .ok record => do
        Task.log .error .api record
        pure (.ofFailure failure)
      | .error _ => pure .internalError
    else pure (.ofFailure failure)

def serveRoute (backend : Backend σ) (target : Target) : Route → Task (Site σ) Response
  | .home => pure (.redirect "/docs")
  | .block slot =>
    match readRequest slot target.parameter? with
    | .ok (slot, options) => serveBlock backend slot options
    | .error violations => pure (.ofViolations violations)

def serve (backend : Backend σ) (request : Request) : Task (Site σ) Response := do
  let method := request.method.toUpper
  let response ←
    match Route.ofPath? request.target.path with
    | some route =>
      if method = "GET" then serveRoute backend request.target route else pure .notAllowed
    | none =>
      match redirection? request.target with
      | some location => pure (.redirect location)
      | none => pure .notFound
  pure (if method = "HEAD" then { response with body := "" } else response)

end Site

def scripted : Backend Script :=
  ⟨Script.transport true, id⟩

/-- A service that makes its own client over HTTP. -/
def overHttp (url : String) (timeout : Json) : Backend Wire :=
  ⟨Wire.transport, fun wire => { wire with line := Line.start url false timeout }⟩

end BlockReader.Api
