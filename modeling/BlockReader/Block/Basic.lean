import BlockReader.Options
set_option autoImplicit false

namespace BlockReader

/-- What a block says about its transactions. In a block that a node gave, the transactions are a
list. -/
inductive Details where
  | full (transactions : Json)
  | signatures (signatures : List (Digest .signature))
  | none

/-- A confirmed block. Rewards, time and height are kept as the node gave them, null when it gave
none; the parent slot of a block that a node gave is a whole number. -/
structure Block where
  blockhash : Digest .hash
  previousBlockhash : Digest .hash
  parentSlot : Json
  details : Details := .none
  rewards : Json := .null
  blockTime : Json := .null
  blockHeight : Json := .null

namespace Block

def transactions (block : Block) : Json :=
  match block.details with
  | .full transactions => transactions
  | _ => .null

/-- The signatures, in the order of the transactions, if only they were asked for. -/
def signatures? (block : Block) : Option (List (Digest .signature)) :=
  match block.details with
  | .signatures signatures => some signatures
  | _ => none

/-- The parent was removed by the node: its hash is all zeros. -/
def parentPruned (block : Block) : Bool :=
  decide (block.previousBlockhash = Digest.zeroHash)

def optionalMembers (block : Block) : Json.Members :=
  Config.optional "transactions" (Options.ifSet block.transactions) ++
    Config.optional "signatures"
      (block.signatures?.map fun signatures =>
        .array (signatures.map fun signature => .text signature.text)) ++
    Config.optional "rewards" (Options.ifSet block.rewards)

def members (block : Block) : Json.Members :=
  ("blockhash", .text block.blockhash.text) ::
    ("previousBlockhash", .text block.previousBlockhash.text) ::
    ("parentSlot", block.parentSlot) ::
    ("blockTime", block.blockTime) ::
    ("blockHeight", block.blockHeight) :: block.optionalMembers

def toJson (block : Block) : Json :=
  .object block.members

end Block

end BlockReader
