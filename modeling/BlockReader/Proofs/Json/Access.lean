import BlockReader.Options
import BlockReader.Proofs.Digest
import BlockReader.Proofs.Result
set_option autoImplicit false

namespace BlockReader

namespace Json.Members

theorem get?_cons (name other : Text) (value : Json) (rest : Members) :
    get? name ((other, value) :: rest) = if other = name then some value else get? name rest := rfl

theorem get?_append (name : Text) (first second : Members) :
    get? name (first ++ second) = (get? name first).or (get? name second) := by
  induction first with
  | nil => rfl
  | cons member rest ih =>
    obtain ⟨other, value⟩ := member
    rw [List.cons_append, get?_cons, get?_cons]
    split
    · rfl
    · exact ih

theorem get?_optional (name other : Text) (value : Option Json) :
    get? name (Config.optional other value) = if other = name then value else none := by
  cases value with
  | none => exact (ite_self none).symm
  | some value => rfl

theorem eq_of_mem_optional {name : Text} {value : Option Json} {member : Text × Json}
    (listed : member ∈ Config.optional name value) : value = some member.2 := by
  cases value with
  | none => cases listed
  | some value => rw [List.mem_singleton.mp listed]

theorem mem_of_get? {name : Text} {members : Members} {value : Json}
    (found : get? name members = some value) : (name, value) ∈ members := by
  induction members with
  | nil => cases found
  | cons member rest ih =>
    obtain ⟨other, first⟩ := member
    rw [get?_cons] at found
    split at found
    · rename_i same
      rw [same, Option.some.inj found]
      exact List.mem_cons_self
    · exact List.mem_cons_of_mem _ (ih found)

theorem getOrNull_of_some {name : Text} {members : Members} {value : Json}
    (found : get? name members = some value) : getOrNull name members = value := by
  rw [getOrNull, found, Option.getD_some]

theorem mem_put {name : Text} {value : Json} {members : Members} {member : Text × Json}
    (listed : member ∈ put name value members) : member ∈ members ∨ member.2 = value := by
  induction members with
  | nil =>
    rw [List.mem_singleton.mp listed]
    exact .inr rfl
  | cons first rest ih =>
    obtain ⟨other, old⟩ := first
    rw [put] at listed
    split at listed
    · rcases List.mem_cons.mp listed with rfl | later
      · exact .inr rfl
      · exact .inl (List.mem_cons_of_mem _ later)
    · rcases List.mem_cons.mp listed with rfl | later
      · exact .inl List.mem_cons_self
      · rcases ih later with before | new
        · exact .inl (List.mem_cons_of_mem _ before)
        · exact .inr new

end Json.Members

/-- The failures to read a value: it is of the wrong kind, a member is absent, or a number or a
digest is not spelled right. -/
def Failure.isMalformed : Failure → Bool
  | .shape _ | .missing _ | .number _ | .digest _ => true
  | _ => false

namespace Json

/-- A value is read as a digest exactly when it is the text of that digest. -/
theorem toDigest_eq_ok_iff {kind : DigestKind} (value : Json) (digest : Digest kind) :
    toDigest kind value = .ok digest ↔ value = .text digest.text := by
  cases value with
  | text spelling =>
    rw [toDigest, Result.mapError_eq_ok_iff, Digest.parse_eq_ok_iff, Json.text.injEq]
  | _ => simp [toDigest]

theorem mapM_toDigest_eq_ok_iff {kind : DigestKind} (items : List Json)
    (digests : List (Digest kind)) :
    items.mapM (toDigest kind) = .ok digests ↔
      items = digests.map fun digest => .text digest.text := by
  induction items generalizing digests with
  | nil =>
    rw [List.mapM_nil, Result.pure_eq_ok_iff]
    cases digests <;> simp
  | cons item rest ih =>
    rw [List.mapM_cons, Result.bind_eq_ok_iff]
    constructor
    · rintro ⟨digest, first, read⟩
      obtain ⟨others, readRest, same⟩ := (Result.bind_eq_ok_iff _ _ _).mp read
      cases same
      rw [List.map_cons, (toDigest_eq_ok_iff item digest).mp first, (ih others).mp readRest]
    · intro spelled
      cases digests with
      | nil => cases spelled
      | cons digest others =>
        rw [List.map_cons, List.cons.injEq] at spelled
        refine ⟨digest, (toDigest_eq_ok_iff item digest).mpr spelled.1, ?_⟩
        rw [(ih others).mpr spelled.2]
        rfl

/-- What a value lists are its items, or texts. -/
theorem eq_array_or_texts_of_items {value : Json} {items : List Json}
    (listed : value.items = .ok items) :
    value = .array items ∨ ∀ item ∈ items, ∃ spelling, item = .text spelling := by
  cases value with
  | array given =>
    cases listed
    exact .inl rfl
  | text spelling =>
    cases listed
    refine .inr fun item spelled => ?_
    obtain ⟨letter, _, rfl⟩ := List.mem_map.mp spelled
    exact ⟨_, rfl⟩
  | object members =>
    cases listed
    refine .inr fun item named => ?_
    obtain ⟨member, _, rfl⟩ := List.mem_map.mp named
    exact ⟨_, rfl⟩
  | _ => cases listed

open Result

theorem member_failsOnly (name : Text) (value : Json) :
    FailsOnly (fun failure => failure.isMalformed) (value.member name) := by
  cases value with
  | object members =>
    rw [member]
    split
    · exact failsOnly_ok _
    · exact failsOnly_error rfl
  | _ => exact failsOnly_error rfl

theorem items_failsOnly (value : Json) :
    FailsOnly (fun failure => failure.isMalformed) value.items := by
  cases value with
  | array items => exact failsOnly_ok items
  | text value => exact failsOnly_ok (characters value)
  | object members => exact failsOnly_ok _
  | _ => exact failsOnly_error rfl

theorem toInt_failsOnly (value : Json) :
    FailsOnly (fun failure => failure.isMalformed) value.toInt := by
  cases value with
  | int value => exact failsOnly_ok value
  | bool value => exact failsOnly_ok _
  | float value => exact failsOnly_mapError _ (fun _ => rfl)
  | text value => exact failsOnly_mapError _ (fun _ => rfl)
  | _ => exact failsOnly_error rfl

theorem toDigest_failsOnly (kind : DigestKind) (value : Json) :
    FailsOnly (fun failure => failure.isMalformed) (value.toDigest kind) := by
  cases value with
  | text value => exact failsOnly_mapError _ (fun _ => rfl)
  | _ => exact failsOnly_error rfl

end Json

end BlockReader
