import BlockReader.Proofs.Json.Access
set_option autoImplicit false

namespace BlockReader.Json

open Result

/-- A value can be gone through, and the items are met. -/
inductive Lists : Json → List Json → Prop
  | array (items : List Json) : Lists (.array items) items
  | text (value : Text) : Lists (.text value) (characters value)
  | object (members : Members) :
    Lists (.object members) (members.map fun member => .text member.1)

/-- A value can be gone through. -/
def Iterable (value : Json) : Prop :=
  ∃ items, value.Lists items

theorem items_eq_ok_iff (value : Json) (listed : List Json) :
    value.items = .ok listed ↔ value.Lists listed := by
  constructor
  · intro success
    cases value with
    | array items =>
      cases success
      exact .array _
    | text value =>
      cases success
      exact .text _
    | object members =>
      cases success
      exact .object _
    | _ => cases success
  · intro lists
    cases lists <;> rfl

theorem items_eq_error_iff (value : Json) (failure : Failure) :
    value.items = .error failure ↔
      ¬ value.Iterable ∧ failure = .shape (.notIterable value.kind) := by
  have listed (items : List Json) (success : value.items = .ok items) : value.Iterable :=
    ⟨items, (items_eq_ok_iff value items).mp success⟩
  constructor
  · intro failed
    cases value with
    | array _ | text _ | object _ => cases failed
    | _ =>
      cases failed
      refine ⟨?_, rfl⟩
      rintro ⟨items, lists⟩
      cases lists
  · rintro ⟨unlisted, rfl⟩
    cases value with
    | array _ | text _ | object _ => exact absurd (listed _ rfl) unlisted
    | _ => rfl

/-- A value is a whole number or can be converted to one: a finite number loses its fraction, and a
text must be read as a number. -/
inductive IsWhole : Json → Prop
  | int (number : Int) : IsWhole (.int number)
  | bool (value : Bool) : IsWhole (.bool value)
  | finite (negative : Bool) (rank : Fin (2047 <<< 52)) :
    IsWhole (.float (.finite negative rank))
  | text (text : Text) (number : Int) (read : Numeral.readInt text = .ok number) :
    IsWhole (.text text)

/-- How a value fails to be converted to a whole number. -/
inductive NotWhole : Json → Failure → Prop
  | nan : NotWhole (.float .nan) (.number .nanToInteger)
  | infinite (negative : Bool) :
    NotWhole (.float (.infinite negative)) (.number .infinityToInteger)
  | text (text : Text) (fault : NumberFault) (unread : Numeral.readInt text = .error fault) :
    NotWhole (.text text) (.number fault)
  | null : NotWhole .null (.shape (.notNumeric Json.null.kind))
  | array (items : List Json) :
    NotWhole (.array items) (.shape (.notNumeric (Json.array items).kind))
  | object (members : Members) :
    NotWhole (.object members) (.shape (.notNumeric (Json.object members).kind))

theorem toInt_isOk_iff (value : Json) : (∃ number, value.toInt = .ok number) ↔ value.IsWhole := by
  constructor
  · rintro ⟨number, success⟩
    cases value with
    | int number => exact .int number
    | bool value => exact .bool value
    | float value =>
      cases value with
      | finite negative rank => exact .finite negative rank
      | _ => cases success
    | text text =>
      rw [toInt] at success
      cases read : Numeral.readInt text with
      | ok number => exact .text text number read
      | error fault =>
        rw [read] at success
        cases success
    | _ => cases success
  · intro whole
    cases whole with
    | text text number read =>
      refine ⟨number, ?_⟩
      rw [toInt, read]
      rfl
    | _ => exact ⟨_, rfl⟩

theorem toInt_eq_error_iff (value : Json) (failure : Failure) :
    value.toInt = .error failure ↔ value.NotWhole failure := by
  constructor
  · intro failed
    cases value with
    | float value =>
      cases value with
      | finite negative rank => cases failed
      | infinite negative =>
        cases failed
        exact .infinite negative
      | nan =>
        cases failed
        exact .nan
    | text text =>
      rw [toInt] at failed
      cases read : Numeral.readInt text with
      | ok number =>
        rw [read] at failed
        cases failed
      | error fault =>
        rw [read] at failed
        cases failed
        exact .text text fault read
    | null =>
      cases failed
      exact .null
    | array items =>
      cases failed
      exact .array _
    | object members =>
      cases failed
      exact .object _
    | _ => cases failed
  · intro broken
    cases broken with
    | text text fault unread =>
      rw [toInt, unread]
      rfl
    | _ => rfl

/-- How a value fails to be read as a digest. -/
inductive NotDigest (kind : DigestKind) : Json → Failure → Prop
  | misspelled (spelling : Text) (fault : DigestFault)
    (found : Digest.Misspelled kind spelling fault) :
    NotDigest kind (.text spelling) (.digest fault)
  | notText (value : Json) (other : ∀ spelling, value ≠ .text spelling) :
    NotDigest kind value (.shape (.notText value.kind))

theorem toDigest_eq_error_iff (kind : DigestKind) (value : Json) (failure : Failure) :
    value.toDigest kind = .error failure ↔ NotDigest kind value failure := by
  constructor
  · intro failed
    cases value with
    | text spelling =>
      rw [toDigest] at failed
      cases parsed : Digest.parse kind spelling with
      | ok digest =>
        rw [parsed] at failed
        cases failed
      | error fault =>
        rw [parsed] at failed
        cases failed
        exact .misspelled spelling fault ((Digest.parse_eq_error_iff kind spelling fault).mp parsed)
    | _ =>
      cases failed
      refine .notText _ ?_
      intro spelling same
      cases same
  · intro broken
    cases broken with
    | misspelled spelling fault found =>
      rw [toDigest, (Digest.parse_eq_error_iff kind spelling fault).mpr found]
      rfl
    | notText _ other =>
      cases value with
      | text spelling => exact absurd rfl (other spelling)
      | _ => rfl

/-- A value lists the texts of some signatures, and nothing else. -/
def ListsSignatures (value : Json) : Prop :=
  ∃ signatures : List (Digest .signature),
    value.Lists (signatures.map fun signature => .text signature.text)

/-- How a value fails to list signatures: it lists nothing, or the first of its items that is no
signature fails. -/
inductive NotSignatures (value : Json) : Failure → Prop
  | notIterable (unlisted : ¬ value.Iterable) :
    NotSignatures value (.shape (.notIterable value.kind))
  | item (signatures : List (Digest .signature)) (item : Json) (behind : List Json)
    (listed : value.Lists
      ((signatures.map fun signature => .text signature.text) ++ item :: behind))
    (failure : Failure) (broken : NotDigest .signature item failure) :
    NotSignatures value failure

namespace Members

/-- A member is there and is the text of a digest. -/
def HasDigest (kind : DigestKind) (name : Text) (members : Members) : Prop :=
  ∃ digest : Digest kind, members.get? name = some (.text digest.text)

/-- A member is there and is a whole number or converted to one. -/
def HasWhole (name : Text) (members : Members) : Prop :=
  ∃ value, members.get? name = some value ∧ value.IsWhole

/-- How a member that is needed fails: it is not there, or its value fails. -/
inductive Lacks (Broken : Json → Failure → Prop) (name : Text) (members : Members) :
    Failure → Prop
  | missing (absent : members.get? name = none) :
    Lacks Broken name members (.missing (.text name))
  | broken (value : Json) (found : members.get? name = some value) (failure : Failure)
    (fault : Broken value failure) : Lacks Broken name members failure

end Members

section Required

variable {α : Type} (read : Json → Except Failure α) (name : Text) (members : Members)

theorem member_bind_eq_ok_iff (result : α) :
    (member name (.object members) >>= read) = .ok result ↔
      ∃ value, members.get? name = some value ∧ read value = .ok result := by
  rw [bind_eq_ok_iff, member]
  cases members.get? name with
  | none => simp only [reduceCtorEq, false_and, exists_false]
  | some value => simp only [Except.ok.injEq, Option.some.injEq]

theorem member_bind_eq_error_iff {Broken : Json → Failure → Prop}
    (each : ∀ value failure, read value = .error failure ↔ Broken value failure)
    (failure : Failure) : (member name (.object members) >>= read) = .error failure ↔
      members.Lacks Broken name failure := by
  constructor
  · intro failed
    cases found : members.get? name with
    | none =>
      rw [member, found] at failed
      cases failed
      exact .missing found
    | some value =>
      rw [member, found] at failed
      exact .broken value found failure ((each value failure).mp failed)
  · intro lacks
    cases lacks with
    | missing absent =>
      rw [member, absent]
      rfl
    | broken value found _ fault =>
      rw [member, found]
      exact (each value failure).mpr fault

end Required

namespace Members

theorem hasDigest_iff (kind : DigestKind) (name : Text) (members : Members) :
    members.HasDigest kind name ↔
      ∃ digest, (member name (.object members) >>= toDigest kind) = .ok digest := by
  refine exists_congr fun digest => ?_
  rw [member_bind_eq_ok_iff]
  simp only [toDigest_eq_ok_iff, exists_eq_right]

theorem hasWhole_iff (name : Text) (members : Members) :
    members.HasWhole name ↔ ∃ number, (member name (.object members) >>= toInt) = .ok number := by
  simp only [HasWhole, member_bind_eq_ok_iff, ← toInt_isOk_iff]
  constructor
  · rintro ⟨value, found, number, whole⟩
    exact ⟨number, value, found, whole⟩
  · rintro ⟨number, value, found, whole⟩
    exact ⟨value, found, number, whole⟩

end Members

end BlockReader.Json
