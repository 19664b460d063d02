import BlockReader.Task
import BlockReader.Json.Access
set_option autoImplicit false

namespace BlockReader

/-- How calls reach a node in a state of type `σ`. Not every transport can be closed. -/
structure Transport (σ : Type) where
  call : (method : String) → (params : Json) → Task σ Json
  close? : Option (Task σ Unit)

def Transport.close {σ : Type} (transport : Transport σ) : Task σ Unit :=
  match transport.close? with
  | some close => close
  | none => pure ()

/-- What a node answers to a call: a value or a failure. -/
abbrev Answer := Except Failure Json

structure Script where
  answers : List Answer
  closes : Nat := 0

namespace Script

/-- Takes the next answer; after the last one every answer is null. -/
def next (script : Script) : Answer × Script :=
  match script.answers with
  | [] => (.ok .null, script)
  | answer :: rest => (answer, { script with answers := rest })

def call (method : String) (params : Json) : Task Script Json := fun script =>
  let (answer, rest) := script.next
  ⟨answer, rest, [.called method params]⟩

def close : Task Script Unit := fun script =>
  ⟨.ok (), { script with closes := script.closes + 1 }, []⟩

def transport (closable : Bool) : Transport Script where
  call := call
  close? := if closable then some close else none

end Script

end BlockReader
