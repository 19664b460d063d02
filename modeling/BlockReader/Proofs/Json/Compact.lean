import BlockReader.Json.Compact
set_option autoImplicit false

namespace BlockReader

/-- A text without lone halves. -/
def Text.IsProper (text : Text) : Prop :=
  ∃ value : String, text = value

@[simp] theorem Text.isProper_proper (value : String) : (proper value).IsProper :=
  ⟨value, rfl⟩

namespace Json

/-- A value, what it holds and what that holds, down to the end. -/
inductive Holds : (whole part : Json) → Prop
  | itself (value : Json) : Holds value value
  | item {items : List Json} {item part : Json} (listed : item ∈ items)
    (inside : Holds item part) : Holds (.array items) part
  | member {members : Members} {member : Text × Json} {part : Json} (listed : member ∈ members)
    (inside : Holds member.2 part) : Holds (.object members) part

/-- A condition on a value and on everything that it holds. -/
def Throughout (condition : Json → Prop) (value : Json) : Prop :=
  ∀ part, value.Holds part → condition part

theorem throughout_array_iff (condition : Json → Prop) (items : List Json) :
    (array items).Throughout condition ↔
      condition (.array items) ∧ ∀ item ∈ items, item.Throughout condition := by
  constructor
  · intro all
    exact ⟨all _ (.itself _), fun item listed part held => all part (.item listed held)⟩
  · rintro ⟨whole, each⟩ part (_ | ⟨listed, held⟩)
    · exact whole
    · exact each _ listed part held

theorem throughout_object_iff (condition : Json → Prop) (members : Members) :
    (object members).Throughout condition ↔
      condition (.object members) ∧ ∀ member ∈ members, member.2.Throughout condition := by
  constructor
  · intro all
    exact ⟨all _ (.itself _), fun member listed part held => all part (.member listed held)⟩
  · rintro ⟨whole, each⟩ part (_ | _ | ⟨listed, held⟩)
    · exact whole
    · exact each _ listed part held

/-- Of a value without depth there is nothing else to check. -/
theorem throughout_of_leaf {condition : Json → Prop} {value : Json} (itself : condition value)
    (leaf : value.depth = 0) : value.Throughout condition := by
  rintro part (_ | _ | _)
  · exact itself
  · exact absurd leaf (Nat.succ_ne_zero _)
  · exact absurd leaf (Nat.succ_ne_zero _)

theorem throughout_and_iff (first second : Json → Prop) (value : Json) :
    value.Throughout (fun part => first part ∧ second part) ↔
      value.Throughout first ∧ value.Throughout second :=
  ⟨fun both => ⟨fun part held => (both part held).1, fun part held => (both part held).2⟩,
    fun both part held => ⟨both.1 part held, both.2 part held⟩⟩

/-- A value by itself is no whole number that is too long for a text. -/
def IsShort : Json → Prop
  | .int number => Numeral.digitCount number ≤ Numeral.digitLimit
  | _ => True

/-- A value by itself is no infinity and no NaN. -/
def IsFinite : Json → Prop
  | .float number => number.isFinite = true
  | _ => True

/-- A value by itself has no lone halves, be it a text or an object with names. -/
def IsEncodable : Json → Prop
  | .text value => value.IsProper
  | .object members => ∀ member ∈ members, member.1.IsProper
  | _ => True

/-- What can be written of a value by itself. -/
def IsWritable (value : Json) : Prop :=
  value.IsShort ∧ value.IsFinite ∧ value.IsEncodable

/-- What can be written: no whole number in it is too long, every floating-point one is finite, no
text has lone halves, and its containers do not stand too deep inside each other. -/
structure Renderable [Nesting] (value : Json) : Prop where
  short : value.Throughout IsShort
  finite : value.Throughout IsFinite
  encodable : value.Throughout IsEncodable
  depth : value.depth ≤ Nesting.writable

theorem throughout_isWritable_iff (value : Json) :
    value.Throughout IsWritable ↔
      value.Throughout IsShort ∧ value.Throughout IsFinite ∧ value.Throughout IsEncodable := by
  rw [← throughout_and_iff, ← throughout_and_iff]
  rfl

theorem throughout_isWritable_leaf_iff (value : Json) (leaf : value.depth = 0) :
    value.Throughout IsWritable ↔ value.IsWritable :=
  ⟨fun all => all _ (.itself _), fun itself => throughout_of_leaf itself leaf⟩

theorem isSome_inFront_iff {others : Option (List Char)} {write : List Char → Option (List Char)}
    {mark : List Char → List Char} {condition : Prop}
    (each : ∀ tail, (write tail).isSome = true ↔ condition) :
    (do let tail ← others; let head ← write tail; pure (mark head)).isSome = true ↔
      condition ∧ others.isSome = true := by
  cases others with
  | none => simp
  | some tail =>
    rw [← each tail]
    cases written : write tail <;> simp [written]

/-- A text has to be proper before anything after it is written. -/
theorem isSome_spelled_iff (text : Text) (write : String → Option (List Char)) {condition : Prop}
    (each : ∀ value : String, text = value → ((write value).isSome = true ↔ condition)) :
    (text.string? >>= write).isSome = true ↔ text.IsProper ∧ condition := by
  cases text with
  | proper value =>
    have proper : (Text.proper value).IsProper := ⟨value, rfl⟩
    rw [Text.string?_proper, iff_true_intro proper, true_and]
    exact each value rfl
  | broken before half after =>
    have noText : ¬ (Text.broken before half after).IsProper := nofun
    simp [Text.string?, noText]

/-- The condition on the members of an object, and on what they hold. -/
theorem throughout_isWritable_object_iff (members : Members) :
    (object members).Throughout IsWritable ↔
      ∀ member ∈ members, member.1.IsProper ∧ member.2.Throughout IsWritable := by
  rw [throughout_object_iff]
  constructor
  · rintro ⟨⟨-, -, names⟩, each⟩ member listed
    exact ⟨names member listed, each member listed⟩
  · intro each
    exact ⟨⟨trivial, trivial, fun member listed => (each member listed).1⟩,
      fun member listed => (each member listed).2⟩

theorem throughout_isWritable_array_iff (items : List Json) :
    (array items).Throughout IsWritable ↔ ∀ item ∈ items, item.Throughout IsWritable := by
  rw [throughout_array_iff, iff_true_intro (show (array items).IsWritable from ⟨trivial, trivial,
    trivial⟩), true_and]

mutual

theorem isSome_writeOnto_iff (value : Json) (after : List Char) :
    (value.writeOnto after).isSome = true ↔ value.Throughout IsWritable := by
  cases value with
  | null =>
    rw [writeOnto, throughout_isWritable_leaf_iff .null rfl]
    simp [IsWritable, IsShort, IsFinite, IsEncodable]
  | bool truth =>
    rw [throughout_isWritable_leaf_iff (.bool truth) rfl]
    cases truth <;> simp [writeOnto, IsWritable, IsShort, IsFinite, IsEncodable]
  | text value =>
    rw [throughout_isWritable_leaf_iff (.text value) rfl, writeOnto,
      isSome_spelled_iff value _ fun _ _ => iff_true_intro rfl]
    simp [IsWritable, IsShort, IsFinite, IsEncodable]
  | int number =>
    rw [throughout_isWritable_leaf_iff (.int number) rfl, writeOnto]
    split <;> simp_all [IsWritable, IsShort, IsFinite, IsEncodable]
  | float number =>
    rw [throughout_isWritable_leaf_iff (.float number) rfl, writeOnto]
    split <;> simp_all [IsWritable, IsShort, IsFinite, IsEncodable]
  | array items =>
    rw [throughout_isWritable_array_iff]
    cases items with
    | nil => simp [writeOnto]
    | cons first rest =>
      rw [writeOnto, List.forall_mem_cons, ← isSome_writeItemsOnto_iff rest (']' :: after)]
      exact isSome_inFront_iff (isSome_writeOnto_iff first)
  | object members =>
    rw [throughout_isWritable_object_iff]
    cases members with
    | nil => simp [writeOnto]
    | cons member rest =>
      obtain ⟨name, first⟩ := member
      rw [writeOnto, List.forall_mem_cons, and_assoc,
        ← isSome_writeMembersOnto_iff rest ('\x7d' :: after)]
      exact isSome_spelled_iff name _ fun _ _ => isSome_inFront_iff (isSome_writeOnto_iff first)

theorem isSome_writeItemsOnto_iff (items : List Json) (after : List Char) :
    (writeItemsOnto items after).isSome = true ↔
      ∀ item ∈ items, item.Throughout IsWritable := by
  cases items with
  | nil => simp [writeItemsOnto]
  | cons item rest =>
    rw [writeItemsOnto, List.forall_mem_cons, ← isSome_writeItemsOnto_iff rest after]
    exact isSome_inFront_iff (isSome_writeOnto_iff item)

theorem isSome_writeMembersOnto_iff (members : Members) (after : List Char) :
    (writeMembersOnto members after).isSome = true ↔
      ∀ member ∈ members, member.1.IsProper ∧ member.2.Throughout IsWritable := by
  cases members with
  | nil => simp [writeMembersOnto]
  | cons member rest =>
    obtain ⟨name, value⟩ := member
    rw [writeMembersOnto, List.forall_mem_cons, and_assoc, ← isSome_writeMembersOnto_iff rest after]
    exact isSome_spelled_iff name _ fun _ _ => isSome_inFront_iff (isSome_writeOnto_iff value)

end

theorem isSome_compact?_iff [Nesting] (value : Json) :
    value.compact?.isSome = true ↔ value.Renderable := by
  rw [compact?]
  split
  · rename_i shallow
    rw [Option.isSome_map, isSome_writeOnto_iff, throughout_isWritable_iff]
    exact ⟨fun ⟨short, finite, encodable⟩ => ⟨short, finite, encodable, shallow⟩,
      fun renderable => ⟨renderable.short, renderable.finite, renderable.encodable⟩⟩
  · rename_i deep
    exact ⟨nofun, fun renderable => absurd renderable.depth deep⟩

end Json

end BlockReader
