import BlockReader.Json.Display
import BlockReader.Proofs.Json.Compact
import BlockReader.Proofs.Result
set_option autoImplicit false

namespace BlockReader

open Result

theorem decimal_isOk_iff (number : Int) :
    (∃ shown, decimal number = .ok shown) ↔
      Numeral.digitCount number ≤ Numeral.digitLimit := by
  rw [decimal]
  split <;> simp [*]

theorem decimal_failsOnly (number : Int) : FailsOnly (· = .tooLongToWrite) (decimal number) := by
  rw [decimal]
  split
  · exact failsOnly_ok _
  · exact failsOnly_error rfl

namespace Json

mutual

/-- A value can be shown exactly when no whole number in it is too long for a text. -/
theorem display_isOk_iff (value : Json) :
    (∃ shown, value.display = .ok shown) ↔ value.Throughout IsShort := by
  cases value with
  | null => exact iff_of_true ⟨_, rfl⟩ (throughout_of_leaf trivial rfl)
  | bool truth =>
    exact iff_of_true (by cases truth <;> exact ⟨_, rfl⟩) (throughout_of_leaf trivial rfl)
  | int number =>
    rw [display, decimal_isOk_iff]
    exact ⟨fun short => throughout_of_leaf short rfl, fun short => short _ (.itself _)⟩
  | float number => exact iff_of_true ⟨_, rfl⟩ (throughout_of_leaf trivial rfl)
  | text value => exact iff_of_true ⟨_, rfl⟩ (throughout_of_leaf trivial rfl)
  | array items =>
    rw [display, throughout_array_iff,
      isOk_bind_iff (displayItems_isOk_iff items) fun _ => isOk_pure_iff _, and_comm]
    exact Iff.rfl
  | object members =>
    rw [display, throughout_object_iff,
      isOk_bind_iff (displayMembers_isOk_iff members) fun _ => isOk_pure_iff _, and_comm]
    exact Iff.rfl

theorem displayItems_isOk_iff (items : List Json) :
    (∃ shown, displayItems items = .ok shown) ↔ ∀ item ∈ items, item.Throughout IsShort := by
  cases items with
  | nil => exact iff_of_true ⟨_, rfl⟩ nofun
  | cons item rest =>
    rw [displayItems, List.forall_mem_cons, isOk_bind_iff (display_isOk_iff item) fun _ =>
      isOk_bind_iff (displayItems_isOk_iff rest) fun _ => isOk_pure_iff _, and_true]

theorem displayMembers_isOk_iff (members : Members) :
    (∃ shown, displayMembers members = .ok shown) ↔
      ∀ member ∈ members, member.2.Throughout IsShort := by
  cases members with
  | nil => exact iff_of_true ⟨_, rfl⟩ nofun
  | cons member rest =>
    obtain ⟨name, value⟩ := member
    rw [displayMembers, List.forall_mem_cons, isOk_bind_iff (display_isOk_iff value) fun _ =>
      isOk_bind_iff (displayMembers_isOk_iff rest) fun _ => isOk_pure_iff _, and_true]

end

mutual

theorem display_failsOnly (value : Json) : FailsOnly (· = .tooLongToWrite) value.display := by
  cases value with
  | bool truth => cases truth <;> exact failsOnly_ok _
  | int number => exact decimal_failsOnly number
  | array items => exact failsOnly_bind (displayItems_failsOnly items) fun _ => failsOnly_ok _
  | object members =>
    exact failsOnly_bind (displayMembers_failsOnly members) fun _ => failsOnly_ok _
  | _ => exact failsOnly_ok _

theorem displayItems_failsOnly (items : List Json) :
    FailsOnly (· = .tooLongToWrite) (displayItems items) := by
  cases items with
  | nil => exact failsOnly_ok _
  | cons item rest =>
    exact failsOnly_bind (display_failsOnly item) fun _ =>
      failsOnly_bind (displayItems_failsOnly rest) fun _ => failsOnly_ok _

theorem displayMembers_failsOnly (members : Members) :
    FailsOnly (· = .tooLongToWrite) (displayMembers members) := by
  cases members with
  | nil => exact failsOnly_ok _
  | cons member rest =>
    exact failsOnly_bind (display_failsOnly member.2) fun _ =>
      failsOnly_bind (displayMembers_failsOnly rest) fun _ => failsOnly_ok _

end

theorem plain_isOk_iff (value : Json) :
    (∃ shown, value.plain = .ok shown) ↔ value.Throughout IsShort := by
  cases value with
  | text value => exact iff_of_true ⟨_, rfl⟩ (throughout_of_leaf trivial rfl)
  | _ =>
    rw [plain, isOk_bind_iff (display_isOk_iff _) fun _ => isOk_pure_iff _, and_true]
    exact nofun

theorem plain_failsOnly (value : Json) : FailsOnly (· = .tooLongToWrite) value.plain := by
  cases value with
  | text value => exact failsOnly_ok value
  | _ => exact failsOnly_bind (display_failsOnly _) fun _ => failsOnly_ok _

end Json

end BlockReader
