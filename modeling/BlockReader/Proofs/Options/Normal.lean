import BlockReader.Proofs.Block.Rendering
import BlockReader.Proofs.Level
import BlockReader.Proofs.Round
import BlockReader.Scan
set_option autoImplicit false

namespace BlockReader

variable {σ α β : Type}

/-- Two ways to end that are alike but for the records. -/
structure Outcome.Alike (first second : Outcome σ α) : Prop where
  result : first.result = second.result
  node : first.node = second.node
  events : unlogged first.events = unlogged second.events

namespace Task

/-- Two tasks that end alike whatever the state of the node is. -/
def Alike (first second : Task σ α) : Prop :=
  ∀ node, (first node).Alike (second node)

theorem Alike.refl (task : Task σ α) : task.Alike task :=
  fun _ => ⟨rfl, rfl, rfl⟩

theorem Alike.bind {first second : Task σ α} {next other : α → Task σ β}
    (before : first.Alike second) (after : ∀ value, (next value).Alike (other value)) :
    (first >>= next).Alike (second >>= other) := by
  intro node
  obtain ⟨result, left, events⟩ := before node
  cases ended : (second node).result with
  | error failure =>
    rw [bind_of_error first next node failure (result.trans ended),
      bind_of_error second other node failure ended]
    exact ⟨rfl, left, events⟩
  | ok value =>
    rw [bind_of_ok first next node value (result.trans ended),
      bind_of_ok second other node value ended, left]
    obtain ⟨last, lastLeft, lastEvents⟩ := after value (second node).node
    refine ⟨last, lastLeft, ?_⟩
    rw [unlogged_append, unlogged_append, events, lastEvents]

theorem Alike.attempt {first second : Task σ α} (alike : first.Alike second) :
    first.attempt.Alike second.attempt := by
  intro node
  obtain ⟨result, left, events⟩ := alike node
  exact ⟨congrArg Except.ok result, left, events⟩

end Task

namespace Options

/-- Options in which no value stands for another one: an encoding that counts as false is the
default one, and details or a commitment that count as false are unset. -/
def normalised (options : Options) : Options :=
  { encoding := (ifTruthy options.encoding).getD (.text Encoding.json.name)
    transactionDetails := (ifTruthy options.transactionDetails).getD .null
    rewards := options.rewards
    commitment := (ifTruthy options.commitment).getD .null
    maxSupportedTransactionVersion := options.maxSupportedTransactionVersion }

theorem ifTruthy_normalised (value : Json) :
    ifTruthy ((ifTruthy value).getD .null) = ifTruthy value := by
  cases counts : value.truthy with
  | true => rw [ifTruthy_of_true counts, Option.getD_some, ifTruthy_of_true counts]
  | false =>
    rw [ifTruthy_of_false counts]
    rfl

theorem level_eq_getD (options : Options) :
    options.level = (ifTruthy options.transactionDetails).getD defaultLevel := by
  rw [level, ifTruthy]
  split <;> rfl

theorem level_normalised (options : Options) : options.normalised.level = options.level := by
  rw [level_eq_getD, level_eq_getD, normalised, ifTruthy_normalised]

theorem config_normalised (options : Options) : options.normalised.config = options.config := by
  rw [config, config, normalised]
  simp only [ifTruthy_normalised]
  cases counts : options.encoding.truthy with
  | true => simp only [ifTruthy_of_true counts, Option.getD_some, counts, if_true]
  | false =>
    simp only [ifTruthy_of_false counts, Option.getD_none, Bool.false_eq_true, if_false]
    rfl

theorem encoding_of_config {options : Options} {config : Config}
    (built : options.config = .ok config) :
    options.normalised.encoding = .text config.encoding.name := by
  rw [Options.config] at built
  rw [normalised]
  cases counts : options.encoding.truthy with
  | true =>
    rw [ifTruthy_of_true counts, Option.getD_some]
    rw [if_pos counts] at built
    split at built
    · rename_i encoding read
      cases built
      exact (Encoding.ofJson_eq_ok_iff _ encoding).mp read
    · cases built
  | false =>
    rw [ifTruthy_of_false counts, Option.getD_none]
    rw [if_neg (by rw [counts]; exact Bool.false_ne_true)] at built
    cases built
    rfl

theorem getD_ifSet (value : Json) : (ifSet value).getD .null = value := by
  cases value <;> rfl

/-- Normalised options can be told from the configuration that is sent for them. -/
theorem normalised_of_config {options : Options} {config : Config}
    (built : options.config = .ok config) :
    options.normalised =
      { encoding := .text config.encoding.name
        transactionDetails := config.transactionDetails.getD .null
        rewards := config.rewards.getD .null
        commitment := config.commitment.getD .null
        maxSupportedTransactionVersion := config.maxSupportedTransactionVersion.getD .null } := by
  rw [← encoding_of_config built, eq_of_config built, getD_ifSet, getD_ifSet]
  rfl

end Options

theorem Encoding.name_injective {first second : Encoding} (same : first.name = second.name) :
    first = second := by
  have named := Encoding.ofName?_name first
  rw [same, Encoding.ofName?_name] at named
  exact (Option.some.inj named).symm

namespace Config

theorem ShownIn.unique {members : Json.Members} {first second : Config}
    (one : first.ShownIn members) (other : second.ShownIn members) : first = second := by
  have sameText := one.encoding.symm.trans other.encoding
  have sameName := Text.proper.inj (Json.text.inj (Option.some.inj sameText))
  have sameEncoding := Encoding.name_injective sameName
  cases first
  cases second
  rw [mk.injEq]
  exact ⟨sameEncoding, one.transactionDetails.symm.trans other.transactionDetails,
    one.rewards.symm.trans other.rewards, one.commitment.symm.trans other.commitment,
    one.maxSupportedTransactionVersion.symm.trans other.maxSupportedTransactionVersion⟩

theorem params_eq_iff (slot otherSlot : Json) (config other : Config) :
    config.params slot = other.params otherSlot ↔ slot = otherSlot ∧ config = other := by
  constructor
  · intro same
    rw [params, params, Json.array.injEq, List.cons.injEq, List.cons.injEq,
      Json.object.injEq] at same
    obtain ⟨sameSlot, sameMembers, _⟩ := same
    have shown := other.members_shown
    rw [← sameMembers] at shown
    exact ⟨sameSlot, config.members_shown.unique shown⟩
  · rintro ⟨rfl, rfl⟩
    rfl

/-- The names that can be sent. -/
def sentNames : List Text :=
  ["encoding", "transactionDetails", "rewards", "commitment", "maxSupportedTransactionVersion"]

theorem names_sublist (config : Config) :
    List.Sublist (config.members.map Prod.fst) sentNames := by
  have details := Json.Members.map_fst_optional "transactionDetails" config.transactionDetails
  have rewards := Json.Members.map_fst_optional "rewards" config.rewards
  have commitment := Json.Members.map_fst_optional "commitment" config.commitment
  have version := Json.Members.map_fst_optional "maxSupportedTransactionVersion"
    config.maxSupportedTransactionVersion
  simp only [members, List.map_cons, List.map_append, List.cons_append, sentNames,
    List.cons_sublist_cons]
  exact ((details.append rewards).append commitment).append version

end Config

namespace Options

theorem normalised_eq_iff {first second : Options} {config other : Config}
    (built : first.config = .ok config) (builtOther : second.config = .ok other) :
    first.normalised = second.normalised ↔ config = other := by
  constructor
  · intro same
    rw [← config_normalised, same, config_normalised, builtOther] at built
    exact (Except.ok.inj built).symm
  · rintro rfl
    rw [normalised_of_config built, normalised_of_config builtOther]

/-- What is sent says what was set: an encoding that a node offers, every option that is set, with
its own value, and nothing else. Details and a commitment are set when they count as true; rewards
and a version are set when they are not null. -/
structure IsSaidBy (sent : Json.Members) (options : Options) : Prop where
  encoding : ∃ encoding : Encoding, options.normalised.encoding = .text encoding.name ∧
    sent.get? "encoding" = some (.text encoding.name)
  transactionDetails : ∀ value, sent.get? "transactionDetails" = some value ↔
    value = options.transactionDetails ∧ value.truthy = true
  rewards : ∀ value, sent.get? "rewards" = some value ↔ value = options.rewards ∧ value ≠ .null
  commitment : ∀ value, sent.get? "commitment" = some value ↔
    value = options.commitment ∧ value.truthy = true
  maxSupportedTransactionVersion : ∀ value,
    sent.get? "maxSupportedTransactionVersion" = some value ↔
      value = options.maxSupportedTransactionVersion ∧ value ≠ .null
  neverNull : ∀ member ∈ sent, member.2 ≠ .null
  names : ∀ member ∈ sent, member.1 ∈ Config.sentNames
  distinct : (sent.map Prod.fst).Nodup

theorem ne_null_of_ifTruthy {value set : Json} (is : ifTruthy value = some set) :
    set ≠ .null := by
  rintro rfl
  cases ((ifTruthy_eq_some_iff _ _).mp is).2

theorem ne_null_of_ifSet {value set : Json} (is : ifSet value = some set) : set ≠ .null :=
  ((ifSet_eq_some_iff _ _).mp is).2

theorem ne_null_of_mem_members {options : Options} {config : Config}
    (built : options.config = .ok config) {member : Text × Json}
    (sent : member ∈ config.members) : member.2 ≠ .null := by
  rw [eq_of_config built] at sent
  simp only [Config.members, List.mem_cons, List.mem_append] at sent
  rcases sent with (((rfl | details) | rewards) | commitment) | version
  · intro null
    cases null
  · exact ne_null_of_ifTruthy (Json.Members.eq_of_mem_optional details)
  · exact ne_null_of_ifSet (Json.Members.eq_of_mem_optional rewards)
  · exact ne_null_of_ifTruthy (Json.Members.eq_of_mem_optional commitment)
  · exact ne_null_of_ifSet (Json.Members.eq_of_mem_optional version)

theorem isSaidBy_members {options : Options} {config : Config}
    (built : options.config = .ok config) : options.IsSaidBy config.members := by
  have shown := config.members_shown
  have fields := eq_of_config built
  exact {
    encoding := ⟨config.encoding, encoding_of_config built, shown.encoding⟩
    transactionDetails := by
      rw [shown.transactionDetails, fields]
      exact ifTruthy_eq_some_iff _
    rewards := by
      rw [shown.rewards, fields]
      exact ifSet_eq_some_iff _
    commitment := by
      rw [shown.commitment, fields]
      exact ifTruthy_eq_some_iff _
    maxSupportedTransactionVersion := by
      rw [shown.maxSupportedTransactionVersion, fields]
      exact ifSet_eq_some_iff _
    neverNull := fun member => ne_null_of_mem_members built
    names := fun member sent =>
      config.names_sublist.subset (List.mem_map_of_mem sent)
    distinct := config.names_sublist.nodup (by decide) }

end Options

section Runs

variable (transport : Transport σ) {first second : Options}
  (same : first.normalised = second.normalised)

include same

theorem fetchBlock_alike (slot : Json) :
    (fetchBlock transport slot first).Alike (fetchBlock transport slot second) := by
  have configs : first.config = second.config := by
    rw [← first.config_normalised, same, second.config_normalised]
  have levels : first.level = second.level := by
    rw [← first.level_normalised, same, second.level_normalised]
  intro node
  cases built : second.config with
  | error failure =>
    rw [fetchBlock_of_rejected transport slot first failure (configs.trans built),
      fetchBlock_of_rejected transport slot second failure built]
    exact ⟨rfl, rfl, rfl⟩
  | ok config =>
    have accepted := configs.trans built
    refine ⟨?_, ?_, ?_⟩
    · rw [fetchBlock_of_accepted transport slot first config accepted,
        fetchBlock_of_accepted transport slot second config built, levels]
    · rw [node_fetchBlock accepted, node_fetchBlock built]
    · rw [unlogged_fetchBlock accepted, unlogged_fetchBlock built]

theorem fetchFrom_alike (slot : Json) (patience : Patience) (attempt left : Nat) :
    (fetchFrom transport slot first patience attempt left).Alike
      (fetchFrom transport slot second patience attempt left) := by
  induction left generalizing attempt with
  | zero => exact fetchBlock_alike transport same slot
  | succ left ih =>
    apply (fetchBlock_alike transport same slot).attempt.bind
    intro ended
    cases ended with
    | ok block => exact .refl _
    | error failure =>
      cases failure with
      | notConfirmed other => exact (Task.Alike.refl _).bind fun _ => ih (attempt + 1)
      | _ => exact .refl _

theorem fetchWithRetry_alike (slot : Json) (patience : Patience) :
    (fetchWithRetry transport slot first patience).Alike
      (fetchWithRetry transport slot second patience) :=
  (Task.Alike.refl _).bind fun limit => fetchFrom_alike transport same slot patience 0 limit

theorem scan_alike (patience : Patience) (slots : List Json) :
    (scan transport first patience slots).Alike (scan transport second patience slots) := by
  induction slots with
  | nil => exact .refl _
  | cons slot rest ih =>
    apply (fetchWithRetry_alike transport same slot patience).attempt.bind
    intro ended
    cases ended with
    | ok block => exact (Task.Alike.refl _).bind fun summary => ih.bind fun _ => .refl _
    | error failure =>
      dsimp only
      split
      · exact (Task.Alike.refl _).bind fun _ => ih
      · exact .refl _
      · exact .refl _

end Runs

/-- Two requests are the same exactly when they are for one slot and their normalised options are
the same, what is sent says what was set, and options that are the same when they are normalised
lead to the same calls, waits and endings. -/
theorem Options.sent_as_set (first second : Options) :
    (∀ config other, first.config = .ok config → second.config = .ok other →
      ∀ slot otherSlot, config.params slot = other.params otherSlot ↔
        slot = otherSlot ∧ first.normalised = second.normalised) ∧
    (∀ config, first.config = .ok config → first.IsSaidBy config.members) ∧
    (first.normalised = second.normalised →
      ∀ {σ : Type} (transport : Transport σ) (patience : Patience),
        (∀ slot, (fetchBlock transport slot first).Alike (fetchBlock transport slot second)) ∧
        (∀ slot, (fetchWithRetry transport slot first patience).Alike
          (fetchWithRetry transport slot second patience)) ∧
        ∀ slots, (scan transport first patience slots).Alike
          (scan transport second patience slots)) := by
  refine ⟨?_, fun config => isSaidBy_members, ?_⟩
  · intro config other accepted acceptedOther slot otherSlot
    rw [Config.params_eq_iff, normalised_eq_iff accepted acceptedOther]
  · intro same σ transport patience
    exact ⟨fetchBlock_alike transport same,
      fun slot => fetchWithRetry_alike transport same slot patience,
      scan_alike transport same patience⟩

/-- Values that count as false stand for the default encoding and for no details and no commitment,
but rewards that are false and the version zero are sent. -/
theorem Options.sent_as_set_falsy :
    let first : Options :=
      { encoding := .text "", transactionDetails := .int 0, rewards := .bool false,
        maxSupportedTransactionVersion := .int 0 }
    let second : Options :=
      { encoding := .text "json", rewards := .bool false, commitment := .array [],
        maxSupportedTransactionVersion := .int 0, commitmentIsNamed := true }
    let sent : Config := ⟨.json, none, some (.bool false), none, some (.int 0)⟩
    (first.config = .ok sent ∧ second.config = .ok sent) ∧
      first.normalised = second.normalised ∧ first.IsSaidBy sent.members ∧
      ∀ transport : Transport Script, (scan transport first ⟨.int 2, .int 1⟩ [.int 5, .int 6]).Alike
        (scan transport second ⟨.int 2, .int 1⟩ [.int 5, .int 6]) := by
  intro first second sent
  have accepted : first.config = .ok sent := rfl
  have acceptedOther : second.config = .ok sent := rfl
  obtain ⟨alike, said, runs⟩ := sent_as_set first second
  have same := ((alike sent sent accepted acceptedOther (.int 5) (.int 5)).mp rfl).2
  exact ⟨⟨accepted, acceptedOther⟩, same, said sent accepted,
    fun transport => (runs same transport _).2.2 _⟩

end BlockReader
