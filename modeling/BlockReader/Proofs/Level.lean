import BlockReader.Proofs.Fetch
import BlockReader.Proofs.Options
set_option autoImplicit false

namespace BlockReader

/-- The detail level that a node understands from what it is sent. -/
def Config.levelSent (sent : Json.Members) : Json :=
  (sent.get? "transactionDetails").getD Options.defaultLevel

/-- The answer is read at the level that was sent, also when a value that counts as false stands
for it and nothing is sent. -/
theorem Options.level_of_sent {options : Options} {config : Config}
    (built : options.config = .ok config) : Config.levelSent config.members = options.level := by
  rw [Config.levelSent, config.members_shown.transactionDetails, eq_of_config built, ifTruthy,
    level]
  split <;> rfl

namespace Details

/-- The details that a result holds by itself: transactions before signatures. -/
def levelHeld (raw : Json.Members) : Text :=
  if !(raw.getOrNull "transactions").isNull then "full"
  else if !(raw.getOrNull "signatures").isNull then "signatures"
  else "none"

theorem level_of_decodeTransactions {value : Json} {details : Details}
    (read : decodeTransactions value = .ok details) : details.level = "full" := by
  obtain ⟨items, _, rfl⟩ := (decodeTransactions_eq_ok_iff _ _).mp read
  rfl

theorem level_of_decodeSignatures {value : Json} {details : Details}
    (read : decodeSignatures value = .ok details) : details.level = "signatures" := by
  obtain ⟨signatures, _, rfl⟩ := (decodeSignatures_eq_ok_iff _ _).mp read
  rfl

/-- A level that is known decides alone, whatever the result holds. -/
theorem level_of_decode_known {name : Text} (known : name ∈ knownLevels) {raw : Json.Members}
    {details : Details} (read : decode (.text name) raw = .ok details) : details.level = name := by
  simp only [knownLevels, List.mem_cons, List.not_mem_nil, or_false] at known
  rcases known with rfl | rfl | rfl
  · exact level_of_decodeTransactions read
  · exact level_of_decodeSignatures read
  · cases read
    rfl

/-- At any other level the result decides. -/
theorem level_of_decode_unknown {level : Json}
    (unknown : ∀ name ∈ knownLevels, level ≠ .text name) {raw : Json.Members} {details : Details}
    (read : decode level raw = .ok details) : details.level = levelHeld raw := by
  rw [decode_unknown level raw unknown] at read
  rw [levelHeld]
  split at read
  · rename_i present
    rw [if_pos present]
    exact level_of_decodeTransactions read
  · rename_i absent
    rw [if_neg absent]
    split at read
    · rename_i present
      rw [if_pos present]
      exact level_of_decodeSignatures read
    · rename_i absent
      rw [if_neg absent]
      cases read
      rfl

end Details

theorem Block.transactions_or_signatures (block : Block) :
    block.transactions = .null ∨ block.signatures? = none := by
  obtain ⟨_, _, _, details, _, _, _⟩ := block
  cases details with
  | full transactions => exact .inr rfl
  | signatures signatures => exact .inl rfl
  | none => exact .inr rfl

/-- A block is fetched with one call, over any transport, and its details are of the level that was
sent with it, full when none was: what the answer holds has a say only at a level that is not
known. -/
theorem fetchBlock_level {σ : Type} (transport : Transport σ) (slot : Json) (options : Options)
    (node : σ) (block : Block)
    (fetched : (fetchBlock transport slot options node).result = .ok block) :
    ∃ (sent raw : Json.Members) (records : List Event),
      let called := transport.call blockMethod (.array [slot, .object sent]) node
      called.result = .ok (.object raw) ∧
      fetchBlock transport slot options node =
        ⟨.ok block, called.node, records ++ called.events⟩ ∧
      (∀ event ∈ records, event.isLogged = true) ∧
      block.IsReadFrom raw (Config.levelSent sent) ∧
      (∀ name ∈ Details.knownLevels, Config.levelSent sent = .text name →
        block.details.level = name) ∧
      ((∀ name ∈ Details.knownLevels, Config.levelSent sent ≠ .text name) →
        block.details.level = Details.levelHeld raw) ∧
      (block.transactions = .null ∨ block.signatures? = none) := by
  cases built : options.config with
  | error failure =>
    rw [fetchBlock_of_rejected transport slot options failure built] at fetched
    cases fetched
  | ok config =>
    have outcome := fetchBlock_of_accepted transport slot options config built node
    have ended : ((transport.call blockMethod (config.params slot) node).result >>= fun raw =>
        Block.decode slot raw options.level) = .ok block := by
      rw [outcome] at fetched
      exact fetched
    obtain ⟨answer, received, decoded⟩ := (Result.bind_eq_ok_iff _ _ _).mp ended
    obtain ⟨raw, rfl⟩ := Block.exists_members_of_decode decoded
    rw [← Options.level_of_sent built] at decoded
    have read := (Block.decode_object_eq_ok_iff slot _ raw block).mp decoded
    refine ⟨config.members, raw, requestEvents slot options config, received, ?_,
      fun _ => isLogged_of_mem_requestEvents, read, ?_, ?_, block.transactions_or_signatures⟩
    · rw [outcome, ended]
      rfl
    · intro name known same
      exact Details.level_of_decode_known known (same ▸ read.details)
    · intro unknown
      exact Details.level_of_decode_unknown unknown read.details

/-- A level that counts as false is not sent, and the transactions of the answer are read, although
it holds signatures too. -/
theorem fetchBlock_level_falsy :
    let options : Options := { transactionDetails := .int 0 }
    let raw : Json.Members :=
      [("blockhash", .text Digest.zeroHash.text), ("previousBlockhash", .text Digest.zeroHash.text),
        ("parentSlot", .int 41), ("signatures", .array []), ("transactions", .array [.int 1])]
    let ended := fetchBlock (Script.transport true) (.int 42) options ⟨[.ok (.object raw)], 0⟩
    let block : Block :=
      { blockhash := Digest.zeroHash
        previousBlockhash := Digest.zeroHash
        parentSlot := .int 41
        details := .full (.array [.int 1]) }
    ended.result = .ok block ∧ ∃ (sent : Json.Members) (records : List Event),
      ended.events = records ++ [.called blockMethod (.array [.int 42, .object sent])] ∧
        (∀ event ∈ records, event.isLogged = true) ∧
        block.IsReadFrom raw (Config.levelSent sent) := by
  intro options raw ended block
  have read : block.IsReadFrom raw options.level :=
    ⟨rfl, rfl, ⟨_, 41, rfl, rfl, rfl⟩, rfl, rfl, rfl, rfl⟩
  have fetched : ended.result = .ok block := by
    have built : options.config = .ok ⟨.json, none, none, none, none⟩ := rfl
    have outcome := fetchBlock_of_accepted (Script.transport true) (.int 42) options _ built
      ⟨[.ok (.object raw)], 0⟩
    rw [show ended = _ from outcome]
    exact (Block.decode_object_eq_ok_iff (.int 42) options.level raw block).mpr read
  refine ⟨fetched, ?_⟩
  obtain ⟨sent, answered, records, received, outcome, logged, readSent, _⟩ :=
    fetchBlock_level (Script.transport true) (.int 42) options ⟨[.ok (.object raw)], 0⟩ block
      fetched
  cases received
  exact ⟨sent, records, congrArg Outcome.events outcome, logged, readSent⟩

end BlockReader
