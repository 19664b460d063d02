import BlockReader.Block.Basic
set_option autoImplicit false

namespace BlockReader

def Details.decodeSignatures (value : Json) : Except Failure Details := do
  let spellings ← value.items
  let signatures ← spellings.mapM (Json.toDigest .signature)
  pure (.signatures signatures)

def Details.decodeTransactions (value : Json) : Except Failure Details := do
  let transactions ← value.items
  pure (.full (.array transactions))

/-- The details of a result at a level. The node does not repeat the level, so the one that was
asked for decides; at a level that is not known, whatever the node returned is kept. -/
def Details.decode (level : Json) (members : Json.Members) : Except Failure Details :=
  let transactions := members.getOrNull "transactions"
  let signatures := members.getOrNull "signatures"
  match level with
  | .text "full" => decodeTransactions transactions.orEmpty
  | .text "signatures" => decodeSignatures signatures.orEmpty
  | .text "none" => .ok .none
  | _ =>
    if !transactions.isNull then decodeTransactions transactions
    else if !signatures.isNull then decodeSignatures signatures
    else .ok .none

namespace Block

/-- Reads a result. Null means that the block is not confirmed; otherwise the hashes, the parent
slot and the details are read in this order. -/
def decode (slot raw level : Json) : Except Failure Block :=
  if raw.isNull then .error (Failure.notConfirmed slot).raised
  else do
    let blockhash ← (← raw.member "blockhash").toDigest .hash
    let previousBlockhash ← (← raw.member "previousBlockhash").toDigest .hash
    let parentSlot ← (← raw.member "parentSlot").toInt
    let details ← Details.decode level raw.members
    pure
      { blockhash := blockhash
        previousBlockhash := previousBlockhash
        parentSlot := .int parentSlot
        details := details
        rewards := Json.Members.getOrNull "rewards" raw.members
        blockTime := Json.Members.getOrNull "blockTime" raw.members
        blockHeight := Json.Members.getOrNull "blockHeight" raw.members }

end Block

end BlockReader
