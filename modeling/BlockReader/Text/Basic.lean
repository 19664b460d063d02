set_option autoImplicit false

namespace BlockReader

/-- A text. Besides characters it may hold halves of surrogate pairs that stand alone: a half `h`
has the code `0xD800 + h`, and parts the characters in front of it from the rest. -/
inductive Text where
  | proper (value : String)
  | broken (before : String) (half : Fin 0x800) (after : Text)
  deriving DecidableEq, Inhabited

namespace Text

instance : Coe String Text := ⟨proper⟩

def string? : Text → Option String
  | proper value => some value
  | broken .. => none

def isEmpty : Text → Bool
  | proper value => value.isEmpty
  | broken .. => false

def length : Text → Nat
  | proper value => value.length
  | broken before _ after => before.length + 1 + after.length

/-- The characters in front of the first half. -/
def front : Text → String
  | proper value => value
  | broken before _ _ => before

def prepend (start : String) : Text → Text
  | proper value => proper (start ++ value)
  | broken before half after => broken (start ++ before) half after

def append : Text → Text → Text
  | proper value, second => second.prepend value
  | broken before half after, second => broken before half (after.append second)

instance : Append Text := ⟨append⟩

def ofHalf (half : Fin 0x800) : Text :=
  broken "" half (proper "")

def halfCode (half : Fin 0x800) : Nat :=
  0xD800 + half.val

/-- The characters and the halves of a text, as texts of their own. -/
def letters : Text → List Text
  | proper value => value.toList.map (fun character => proper (String.singleton character))
  | broken before half after =>
    before.toList.map (fun character => proper (String.singleton character)) ++
      ofHalf half :: after.letters

/-- The characters of a text, with U+FFFD for each half. -/
def replaced : Text → List Char
  | proper value => value.toList
  | broken before _ after => before.toList ++ Char.ofNat 0xFFFD :: after.replaced

@[simp] theorem string?_proper (value : String) : (proper value).string? = some value := rfl

@[simp] theorem isEmpty_iff (text : Text) : text.isEmpty = true ↔ text = proper "" := by
  cases text <;> simp [isEmpty]

theorem string?_eq_some_iff (text : Text) (value : String) :
    text.string? = some value ↔ text = proper value := by
  cases text <;> simp [string?]

end Text

end BlockReader
