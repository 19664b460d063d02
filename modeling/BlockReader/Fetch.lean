import BlockReader.Block.Decode
import BlockReader.Transport.Basic
set_option autoImplicit false

namespace BlockReader

variable {σ : Type}

def blockMethod : String := "getBlock"

/-- The record of a request. Its text is put together only as it is written, and a record without
one is dropped. -/
def logRequest (slot : Json) (named : Bool) (config : Config) : Task σ Unit :=
  match config.displayParams slot named with
  | .ok shown => Task.log .debug .client (blockMethod ++ " " ++ shown)
  | .error _ => pure ()

/-- Asks for the block at a slot. Options that cannot be sent fail before any call is made. -/
def fetchBlock (transport : Transport σ) (slot : Json) (options : Options) : Task σ Block := do
  let config ← Task.ofExcept options.config
  logRequest slot options.commitmentIsNamed config
  let raw ← transport.call blockMethod (config.params slot)
  Task.ofExcept (Block.decode slot raw options.level)

end BlockReader
