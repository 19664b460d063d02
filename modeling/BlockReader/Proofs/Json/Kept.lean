import BlockReader.Json.Reader
import BlockReader.Proofs.Json.Compact
import BlockReader.Proofs.Numeral.Length
import BlockReader.Proofs.Transport.Reply
set_option autoImplicit false

namespace BlockReader

namespace Json

/-- A condition that each step of the reader keeps; it may depend on how many containers may stand
inside each other. -/
structure Kept (condition : Nat → Json → Prop) : Prop where
  null : ∀ levels, condition levels .null
  bool : ∀ levels value, condition levels (.bool value)
  int : ∀ levels number, Numeral.digitCount number ≤ Numeral.digitLimit →
    condition levels (.int number)
  float : ∀ levels value, condition levels (.float value)
  text : ∀ levels value, condition levels (.text value)
  array : ∀ levels items, (∀ item ∈ items, condition levels item) →
    condition (levels + 1) (.array items)
  empty : ∀ levels, condition (levels + 1) (.object [])
  put : ∀ levels name value members, condition (levels + 1) (.object members) →
    condition levels value → condition (levels + 1) (.object (Members.put name value members))

namespace Kept

variable {condition : Nat → Json → Prop} (kept : Kept condition)

include kept

theorem of_readNumber (levels : Nat) {negative : Bool} {start characters : List Char}
    {value : Json} {rest : List Char}
    (was : readNumber negative start characters = .ok (value, rest)) : condition levels value := by
  unfold readNumber at was
  dsimp only at was
  split at was
  · cases was
  · split at was
    · cases was
      exact kept.float _ _
    · split at was
      · cases was
        exact kept.float _ _
      · split at was
        · cases was
        · rename_i few
          cases was
          apply kept.int
          apply Numeral.digitCount_ofDigits_le
          exact Nat.le_trans (List.length_filter_le _ _) (Nat.le_of_not_lt few)

mutual

theorem of_readValue (fuel levels : Nat) {characters : List Char} {value : Json}
    {rest : List Char} (was : readValue fuel levels characters = .ok (value, rest)) :
    condition levels value := by
  cases fuel with
  | zero => cases was
  | succ fuel =>
    unfold readValue at was
    split at was
    · split at was
      · cases was
        exact kept.text _ _
      · cases was
    · split at was
      · cases was
      · rename_i deep
        obtain ⟨levels, rfl⟩ := Nat.exists_eq_succ_of_ne_zero deep
        split at was
        · cases was
          exact kept.array _ _ nofun
        · have noneBefore : ∀ item ∈ ([] : List Json), condition levels item := nofun
          exact of_readItems fuel levels noneBefore was
    · split at was
      · cases was
      · rename_i deep
        obtain ⟨levels, rfl⟩ := Nat.exists_eq_succ_of_ne_zero deep
        split at was
        · cases was
          exact kept.empty _
        · exact of_readMembers fuel levels (kept.empty _) was
    · cases was
      exact kept.null _
    · cases was
      exact kept.bool _ _
    · cases was
      exact kept.bool _ _
    · cases was
      exact kept.float _ _
    · cases was
      exact kept.float _ _
    · cases was
      exact kept.float _ _
    · exact kept.of_readNumber _ was
    · exact kept.of_readNumber _ was

theorem of_readItems (fuel levels : Nat) {read : List Json} {characters : List Char}
    {value : Json} {rest : List Char} (before : ∀ item ∈ read, condition levels item)
    (was : readItems fuel levels read characters = .ok (value, rest)) :
    condition (levels + 1) value := by
  cases fuel with
  | zero => cases was
  | succ fuel =>
    unfold readItems at was
    split at was
    · cases was
    · rename_i item behind first
      have each : ∀ other ∈ item :: read, condition levels other :=
        List.forall_mem_cons.mpr ⟨of_readValue fuel levels first, before⟩
      split at was
      · cases was
        apply kept.array
        intro other listed
        exact each other (List.mem_reverse.mp listed)
      · exact of_readItems fuel levels each was
      · cases was

theorem of_readMembers (fuel levels : Nat) {read : Members} {characters : List Char}
    {value : Json} {rest : List Char} (before : condition (levels + 1) (.object read))
    (was : readMembers fuel levels read characters = .ok (value, rest)) :
    condition (levels + 1) value := by
  cases fuel with
  | zero => cases was
  | succ fuel =>
    unfold readMembers at was
    split at was
    · split at was
      · cases was
      · rename_i name _ _
        split at was
        · split at was
          · cases was
          · rename_i value behind first
            have put := kept.put levels name value read before (of_readValue fuel levels first)
            split at was
            · cases was
              exact put
            · exact of_readMembers fuel levels put was
            · cases was
        · cases was
    · cases was

end

theorem of_readWithin {levels : Nat} {characters : List Char} {value : Json}
    (was : readWithin levels characters = .ok value) : condition levels value := by
  unfold readWithin at was
  split at was
  · cases was
  · split at was
    · cases was
    · rename_i found
      split at was
      · cases was
        exact kept.of_readValue _ _ found
      · cases was

/-- The members of the object that a body holds. -/
theorem of_holds [Nesting] {body : List UInt8} {members : Members}
    (holds : Reply.Holds body members) : condition Nesting.readable (.object members) := by
  obtain ⟨characters, _, read⟩ := holds
  exact kept.of_readWithin read

end Kept

theorem throughout_getD {condition : Json → Prop} {members : Members}
    (all : (object members).Throughout condition) (name : Text) {otherwise : Json}
    (fallback : otherwise.Throughout condition) :
    ((members.get? name).getD otherwise).Throughout condition := by
  cases found : members.get? name with
  | none => exact fallback
  | some value =>
    exact ((throughout_object_iff _ _).mp all).2 (name, value) (Members.mem_of_get? found)

/-- A condition on values by themselves that passes from a value to what is taken out of it: the
letters of a text, the names of an object, and the whole number that a value is converted to. -/
structure Inherited (condition : Json → Prop) : Prop where
  null : condition .null
  text : ∀ value : String, condition (.text value)
  array : ∀ items, condition (.array items)
  letter : ∀ value letter, condition (.text value) → letter ∈ value.letters →
    condition (.text letter)
  name : ∀ members member, condition (.object members) → member ∈ members →
    condition (.text member.1)
  whole : ∀ value number, condition value → value.toInt = .ok number → condition (.int number)

namespace Inherited

variable {condition : Json → Prop} (inherited : Inherited condition)

include inherited

theorem throughout_getOrNull {members : Members} (all : (object members).Throughout condition)
    (name : Text) : (members.getOrNull name).Throughout condition :=
  throughout_getD all name (throughout_of_leaf inherited.null rfl)

theorem throughout_texts {items : List Json}
    (each : ∀ item ∈ items, ∃ value, item = .text value ∧ condition (.text value)) :
    (Json.array items).Throughout condition := by
  refine (throughout_array_iff _ _).mpr ⟨inherited.array items, fun item listed => ?_⟩
  obtain ⟨value, rfl, itself⟩ := each item listed
  exact throughout_of_leaf itself rfl

theorem throughout_items {value : Json} (all : value.Throughout condition) {items : List Json}
    (listed : value.items = .ok items) : (Json.array items).Throughout condition := by
  have itself := all value (.itself value)
  cases value with
  | array given =>
    cases listed
    exact all
  | text spelling =>
    cases listed
    refine inherited.throughout_texts fun item spelled => ?_
    obtain ⟨letter, inside, rfl⟩ := List.mem_map.mp spelled
    exact ⟨letter, rfl, inherited.letter spelling letter itself inside⟩
  | object members =>
    cases listed
    refine inherited.throughout_texts fun item named => ?_
    obtain ⟨member, inside, rfl⟩ := List.mem_map.mp named
    exact ⟨member.1, rfl, inherited.name members member itself inside⟩
  | _ => cases listed

end Inherited

theorem isShort_int {number : Int} (small : number.natAbs < 10 ^ 5) :
    (int number).Throughout IsShort :=
  throughout_of_leaf (Numeral.digitCount_of_small small) rfl

theorem isShort_text (value : Text) : (text value).Throughout IsShort :=
  throughout_of_leaf trivial rfl

/-- No text makes a whole number that is too long. -/
theorem kept_isShort : Kept fun _ value => value.Throughout IsShort where
  null _ := throughout_of_leaf trivial rfl
  bool _ _ := throughout_of_leaf trivial rfl
  int _ _ short := throughout_of_leaf short rfl
  float _ _ := throughout_of_leaf trivial rfl
  text _ := isShort_text
  array _ _ each := (throughout_array_iff _ _).mpr ⟨trivial, each⟩
  empty _ := (throughout_object_iff _ _).mpr ⟨trivial, List.forall_mem_nil _⟩
  put _ _ _ _ before new := by
    refine (throughout_object_iff _ _).mpr ⟨trivial, fun member listed => ?_⟩
    rcases Members.mem_put listed with old | same
    · exact ((throughout_object_iff _ _).mp before).2 member old
    · rw [same]
      exact new

/-- A value that is converted to a whole number makes one that is not too long. -/
theorem isShort_of_toInt {value : Json} {number : Int} (short : value.IsShort)
    (whole : value.toInt = .ok number) : (int number).IsShort := by
  cases value with
  | int given =>
    cases whole
    exact short
  | bool truth =>
    cases whole
    apply Numeral.digitCount_of_small
    cases truth <;> decide
  | float given =>
    rw [toInt, Result.mapError_eq_ok_iff] at whole
    exact Double.digitCount_le_of_wholePart whole
  | text spelling =>
    rw [toInt, Result.mapError_eq_ok_iff] at whole
    exact Numeral.digitCount_le_of_readInt whole
  | _ => cases whole

theorem inherited_isShort : Inherited IsShort where
  null := trivial
  text _ := trivial
  array _ := trivial
  letter _ _ _ _ := trivial
  name _ _ _ _ := trivial
  whole _ _ := isShort_of_toInt

theorem inherited_isEncodable : Inherited IsEncodable where
  null := trivial
  text := Text.isProper_proper
  array _ := trivial
  letter := by
    rintro _ letter ⟨value, rfl⟩ inside
    obtain ⟨character, _, rfl⟩ := List.mem_map.mp inside
    exact Text.isProper_proper _
  name _ member proper := proper member
  whole _ _ _ _ := trivial

/-- The result of a call over HTTP holds no whole number that is too long. -/
theorem isShort_of_receive [Nesting] {method url : String} {reply : Reply} {raw : Json}
    (received : reply.receive method url = .ok raw) : raw.Throughout IsShort := by
  obtain ⟨body, members, -, holds, -, rfl⟩ := (Reply.receive_eq_ok_iff _ _ _ _).mp received
  exact inherited_isShort.throughout_getOrNull (kept_isShort.of_holds holds) "result"

end Json

end BlockReader
