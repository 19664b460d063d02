import BlockReader.Block.Basic
set_option autoImplicit false

namespace BlockReader

structure Summary where
  slot : Json
  blockhash : String
  parentSlot : Json
  parentPruned : Bool
  blockTime : Json
  blockHeight : Json
  transactionCount : Nat
  rewardCount : Nat

namespace Summary

/-- The length of the one list that the details carry. Transactions that count as false count as
none. -/
def countDetails : Details → Except Failure Nat
  | .full transactions => transactions.orEmpty.count
  | .signatures signatures => .ok signatures.length
  | .none => .ok 0

/-- The summary of the block at a slot. Rewards that count as false count as none. The transactions
are counted first. -/
def ofBlock (slot : Json) (block : Block) : Except Failure Summary := do
  let transactionCount ← countDetails block.details
  let rewardCount ← block.rewards.orEmpty.count
  pure
    { slot := slot
      blockhash := block.blockhash.text
      parentSlot := block.parentSlot
      parentPruned := block.parentPruned
      blockTime := block.blockTime
      blockHeight := block.blockHeight
      transactionCount := transactionCount
      rewardCount := rewardCount }

end Summary

end BlockReader
