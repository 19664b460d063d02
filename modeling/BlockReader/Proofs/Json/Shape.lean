import BlockReader.Proofs.Json.Kept
import BlockReader.Proofs.Json.Reader
set_option autoImplicit false

namespace BlockReader

namespace Json

/-- No object has two members of one name. -/
def NamesOnce : Json → Prop
  | .object members => (members.map Prod.fst).Nodup
  | _ => True

/-- Each name stands once in its object, and containers stand at most `levels` deep inside each
other. -/
structure WellShaped (levels : Nat) (value : Json) : Prop where
  once : value.Throughout NamesOnce
  depth : value.depth ≤ levels

theorem depthOfItems_le_iff (levels : Nat) (items : List Json) :
    depthOfItems items ≤ levels ↔ ∀ item ∈ items, item.depth ≤ levels := by
  induction items with
  | nil => simp [depthOfItems]
  | cons item rest ih => rw [depthOfItems, Nat.max_le, ih, List.forall_mem_cons]

theorem depthOfMembers_le_iff (levels : Nat) (members : Members) :
    depthOfMembers members ≤ levels ↔ ∀ member ∈ members, member.2.depth ≤ levels := by
  induction members with
  | nil => simp [depthOfMembers]
  | cons member rest ih =>
    obtain ⟨name, value⟩ := member
    rw [depthOfMembers, Nat.max_le, ih, List.forall_mem_cons]

section Shapes

variable {levels : Nat}

theorem WellShaped.mono {value : Json} (shaped : value.WellShaped levels) {more : Nat}
    (deeper : levels ≤ more) : value.WellShaped more :=
  ⟨shaped.once, Nat.le_trans shaped.depth deeper⟩

theorem wellShaped_array_iff (items : List Json) :
    (array items).WellShaped (levels + 1) ↔ ∀ item ∈ items, item.WellShaped levels := by
  constructor
  · intro shaped item listed
    obtain ⟨_, each⟩ := (throughout_array_iff _ _).mp shaped.once
    have deep := Nat.le_of_succ_le_succ shaped.depth
    exact ⟨each item listed, (depthOfItems_le_iff levels items).mp deep item listed⟩
  · intro each
    constructor
    · exact (throughout_array_iff _ _).mpr ⟨trivial, fun item listed => (each item listed).once⟩
    · apply Nat.succ_le_succ
      exact (depthOfItems_le_iff levels items).mpr fun item listed => (each item listed).depth

theorem wellShaped_object_iff (members : Members) :
    (object members).WellShaped (levels + 1) ↔
      (members.map Prod.fst).Nodup ∧ ∀ member ∈ members, member.2.WellShaped levels := by
  constructor
  · intro shaped
    obtain ⟨distinct, each⟩ := (throughout_object_iff _ _).mp shaped.once
    have deep := Nat.le_of_succ_le_succ shaped.depth
    refine ⟨distinct, fun member listed => ?_⟩
    exact ⟨each member listed, (depthOfMembers_le_iff levels members).mp deep member listed⟩
  · rintro ⟨distinct, each⟩
    constructor
    · exact (throughout_object_iff _ _).mpr
        ⟨distinct, fun member listed => (each member listed).once⟩
    · apply Nat.succ_le_succ
      exact (depthOfMembers_le_iff levels members).mpr fun member listed =>
        (each member listed).depth

theorem wellShaped_null : null.WellShaped levels :=
  ⟨throughout_of_leaf trivial rfl, Nat.zero_le _⟩

theorem wellShaped_bool (value : Bool) : (bool value).WellShaped levels :=
  ⟨throughout_of_leaf trivial rfl, Nat.zero_le _⟩

theorem wellShaped_int (value : Int) : (int value).WellShaped levels :=
  ⟨throughout_of_leaf trivial rfl, Nat.zero_le _⟩

theorem wellShaped_float (value : Double) : (float value).WellShaped levels :=
  ⟨throughout_of_leaf trivial rfl, Nat.zero_le _⟩

theorem wellShaped_text (value : Text) : (text value).WellShaped levels :=
  ⟨throughout_of_leaf trivial rfl, Nat.zero_le _⟩

theorem wellShaped_texts {items : List Json} (each : ∀ item ∈ items, ∃ value, item = text value) :
    (array items).WellShaped (levels + 1) := by
  rw [wellShaped_array_iff]
  intro item listed
  obtain ⟨value, rfl⟩ := each item listed
  exact wellShaped_text value

theorem wellShaped_getOrNull {members : Members} (shaped : (object members).WellShaped (levels + 1))
    (name : Text) : (members.getOrNull name).WellShaped levels := by
  rw [Members.getOrNull]
  cases found : members.get? name with
  | none => exact wellShaped_null
  | some value =>
    exact ((wellShaped_object_iff members).mp shaped).2 (name, value) (Members.mem_of_get? found)

theorem wellShaped_items {value : Json} (shaped : value.WellShaped (levels + 1))
    {items : List Json} (listed : value.items = .ok items) :
    (array items).WellShaped (levels + 1) := by
  rcases eq_array_or_texts_of_items listed with rfl | texts
  · exact shaped
  · exact wellShaped_texts texts

/-- A name that is put stands once if it stood at most once before. -/
theorem names_put (name : Text) (value : Json) (members : Members) :
    (members.put name value).map Prod.fst =
      if name ∈ members.map Prod.fst then members.map Prod.fst
      else members.map Prod.fst ++ [name] := by
  induction members with
  | nil => rfl
  | cons member rest ih =>
    obtain ⟨other, old⟩ := member
    by_cases same : other = name
    · simp [Members.put, same]
    · rw [Members.put, if_neg same, List.map_cons, ih]
      by_cases there : name ∈ rest.map Prod.fst
      · simp [there]
      · simp [there, Ne.symm same]

theorem wellShaped_put {members : Members} {value : Json} (name : Text)
    (shaped : (object members).WellShaped (levels + 1)) (new : value.WellShaped levels) :
    (object (members.put name value)).WellShaped (levels + 1) := by
  rw [wellShaped_object_iff] at shaped ⊢
  obtain ⟨distinct, each⟩ := shaped
  constructor
  · rw [names_put]
    split
    · exact distinct
    · rename_i absent
      refine List.nodup_append.mpr ⟨distinct, List.nodup_singleton _, ?_⟩
      intro other listed another put same
      rw [same, List.mem_singleton.mp put] at listed
      exact absent listed
  · intro member listed
    rcases Members.mem_put listed with before | same
    · exact each member before
    · rw [same]
      exact new

/-- What is read has each name once, also when the text repeats one, and goes no deeper than the
reader does. -/
theorem kept_wellShaped : Kept fun levels value => value.WellShaped levels where
  null _ := wellShaped_null
  bool _ := wellShaped_bool
  int _ number _ := wellShaped_int number
  float _ := wellShaped_float
  text _ := wellShaped_text
  array _ items each := (wellShaped_array_iff items).mpr each
  empty _ := (wellShaped_object_iff []).mpr ⟨List.nodup_nil, nofun⟩
  put _ name _ _ shaped new := wellShaped_put name shaped new

end Shapes

end Json

/-- The result of a call over HTTP, whatever the reply to it: it stood in an object. -/
theorem Reply.wellShaped_of_receive [Json.Nesting] {method url : String} {reply : Reply}
    {raw : Json} (received : reply.receive method url = .ok raw) :
    ∃ levels, Json.Nesting.readable = levels + 1 ∧ raw.WellShaped levels := by
  obtain ⟨body, members, -, holds, -, rfl⟩ := (receive_eq_ok_iff _ _ _ _).mp received
  have shaped := Json.kept_wellShaped.of_holds holds
  obtain ⟨levels, same⟩ : ∃ levels, Json.Nesting.readable = levels + 1 :=
    Nat.exists_eq_add_one.mpr (Nat.lt_of_lt_of_le (Nat.succ_pos _) shaped.depth)
  rw [same] at shaped
  exact ⟨levels, same, Json.wellShaped_getOrNull shaped "result"⟩

end BlockReader
