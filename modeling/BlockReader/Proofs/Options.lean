import BlockReader.Proofs.Json.Access
set_option autoImplicit false

namespace BlockReader

namespace Encoding

theorem ofName?_eq_some_iff (name : Text) (encoding : Encoding) :
    ofName? name = some encoding ↔ name = encoding.name := by
  constructor
  · intro known
    unfold ofName? at known
    split at known <;> cases known <;> rfl
  · rintro rfl
    exact ofName?_name encoding

theorem ofJson_eq_ok_iff (value : Json) (encoding : Encoding) :
    ofJson value = .ok encoding ↔ value = .text encoding.name := by
  cases value with
  | text name =>
    rw [ofJson, Json.text.injEq, ← ofName?_eq_some_iff]
    cases ofName? name <;> simp
  | _ => simp [ofJson]

/-- A value that names no encoding is reported, unless it cannot even be looked up. -/
theorem ofJson_of_unknown {value : Json}
    (unknown : ∀ encoding : Encoding, value ≠ .text encoding.name)
    (notArray : ∀ items, value ≠ .array items) (notObject : ∀ members, value ≠ .object members) :
    ofJson value = .error (Failure.unsupportedEncoding value).raised := by
  cases value with
  | text name =>
    cases named : ofName? name with
    | none => rw [ofJson, named]
    | some encoding =>
      rw [(ofName?_eq_some_iff name encoding).mp named] at unknown
      exact absurd rfl (unknown encoding)
  | array items => exact absurd rfl (notArray items)
  | object members => exact absurd rfl (notObject members)
  | _ => rfl

end Encoding

namespace Options

/-- The encoding that is asked for is none of those that a node offers. One that counts as false
is not asked for. -/
structure HasUnknownEncoding (options : Options) : Prop where
  truthy : options.encoding.truthy = true
  unknown : ∀ encoding : Encoding, options.encoding ≠ .text encoding.name

/-- The options that can be sent. -/
theorem exists_config_iff (options : Options) :
    (∃ config, options.config = .ok config) ↔ ¬ options.HasUnknownEncoding := by
  constructor
  · rintro ⟨config, built⟩ unknown
    cases read : Encoding.ofJson options.encoding with
    | ok encoding => exact unknown.unknown encoding ((Encoding.ofJson_eq_ok_iff _ _).mp read)
    | error failure =>
      rw [Options.config, if_pos unknown.truthy, read] at built
      cases built
  · intro notUnknown
    unfold config
    split
    · rename_i truthy
      cases read : Encoding.ofJson options.encoding with
      | ok encoding => exact ⟨_, rfl⟩
      | error failure =>
        refine absurd ⟨truthy, fun encoding same => ?_⟩ notUnknown
        rw [(Encoding.ofJson_eq_ok_iff _ encoding).mpr same] at read
        cases read
    · exact ⟨_, rfl⟩

theorem config_of_unknownEncoding {options : Options} (unknown : options.HasUnknownEncoding)
    (notArray : ∀ items, options.encoding ≠ .array items)
    (notObject : ∀ members, options.encoding ≠ .object members) :
    options.config = .error (Failure.unsupportedEncoding options.encoding).raised := by
  rw [config, if_pos unknown.truthy, Encoding.ofJson_of_unknown unknown.unknown notArray notObject]

theorem ifTruthy_of_true {value : Json} (counts : value.truthy = true) :
    ifTruthy value = some value :=
  if_pos counts

theorem ifTruthy_of_false {value : Json} (untrue : value.truthy = false) :
    ifTruthy value = none :=
  if_neg (by rw [untrue]; exact Bool.false_ne_true)

theorem ifTruthy_eq_some_iff (value set : Json) :
    ifTruthy value = some set ↔ set = value ∧ set.truthy = true := by
  cases counts : value.truthy with
  | true =>
    rw [ifTruthy_of_true counts, Option.some.injEq]
    constructor
    · rintro rfl
      exact ⟨rfl, counts⟩
    · exact fun both => both.1.symm
  | false =>
    rw [ifTruthy_of_false counts]
    constructor
    · exact nofun
    · rintro ⟨rfl, impossible⟩
      rw [counts] at impossible
      cases impossible

theorem ifSet_eq_some_iff (value set : Json) :
    ifSet value = some set ↔ set = value ∧ set ≠ .null := by
  cases value with
  | null =>
    refine ⟨nofun, ?_⟩
    rintro ⟨rfl, impossible⟩
    exact absurd rfl impossible
  | _ =>
    constructor
    · intro same
      cases same
      exact ⟨rfl, nofun⟩
    · rintro ⟨rfl, _⟩
      rfl

/-- What is sent beside the encoding. -/
theorem eq_of_config {options : Options} {config : Config}
    (built : options.config = .ok config) :
    config = ⟨config.encoding, ifTruthy options.transactionDetails, ifSet options.rewards,
      ifTruthy options.commitment, ifSet options.maxSupportedTransactionVersion⟩ := by
  unfold Options.config at built
  split at built
  · split at built
    · cases built
      rfl
    · cases built
  · cases built
    rfl

end Options

namespace Config

/-- What a list of members has under the names of a configuration. -/
structure ShownIn (members : Json.Members) (config : Config) : Prop where
  encoding : members.get? "encoding" = some (.text config.encoding.name)
  transactionDetails : members.get? "transactionDetails" = config.transactionDetails
  rewards : members.get? "rewards" = config.rewards
  commitment : members.get? "commitment" = config.commitment
  maxSupportedTransactionVersion :
    members.get? "maxSupportedTransactionVersion" = config.maxSupportedTransactionVersion

theorem members_shown (config : Config) : config.ShownIn config.members := by
  constructor <;>
    simp [members, Json.Members.get?_cons, Json.Members.get?_append, Json.Members.get?_optional]

end Config

end BlockReader
