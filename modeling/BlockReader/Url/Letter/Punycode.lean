import BlockReader.Url.Parts
set_option autoImplicit false

namespace BlockReader.Punycode

/-- The digit of a value below 36: a letter, then the decimal digits. -/
def digit (value : Nat) : Char :=
  if value < 26 then Char.ofNat (0x61 + value) else Char.ofNat (0x30 + (value - 26))

def digitValue? (character : Char) : Option Nat :=
  let code := character.toNat
  if 0x61 ≤ code ∧ code ≤ 0x7A then some (code - 0x61)
  else if 0x30 ≤ code ∧ code ≤ 0x39 then some (code - 0x30 + 26)
  else none

/-- The threshold of the digit at a place; places are counted in steps of 36. -/
def threshold (bias place : Nat) : Nat :=
  if place ≤ bias then 1 else min 26 (place - bias)

theorem threshold_pos (bias place : Nat) : 0 < threshold bias place := by
  unfold threshold
  split <;> omega

def writeNumber (bias place number : Nat) : List Char :=
  let least := threshold bias place
  if number < least then [digit number]
  else
    digit (least + (number - least) % (36 - least)) ::
      writeNumber bias (place + 36) ((number - least) / (36 - least))
termination_by number
decreasing_by
  have positive := threshold_pos bias place
  have smaller := Nat.div_le_self (number - threshold bias place) (36 - threshold bias place)
  omega

/-- Reads a number, from the digit at a place on, and gives what follows it. -/
def readNumber? (bias place : Nat) : List Char → Option (Nat × List Char)
  | [] => none
  | character :: rest =>
    let least := threshold bias place
    match digitValue? character with
    | none => none
    | some value =>
      if value < least then some (value, rest)
      else (readNumber? bias (place + 36) rest).map fun (higher, after) =>
        (value + (36 - least) * higher, after)

/-- Reading a number uses up some of the text. -/
theorem length_lt_of_readNumber? (bias place : Nat) (text after : List Char) (number : Nat)
    (read : readNumber? bias place text = some (number, after)) : after.length < text.length := by
  induction text generalizing place number with
  | nil => simp [readNumber?] at read
  | cons character rest ih =>
    rw [readNumber?] at read
    split at read
    · simp at read
    · split at read
      · simp only [Option.some.injEq, Prod.mk.injEq] at read
        simp [← read.2]
      · obtain ⟨⟨higher, remaining⟩, inner, same⟩ := Option.map_eq_some_iff.mp read
        simp only [Prod.mk.injEq] at same
        have shorter := ih _ _ (same.2 ▸ inner)
        simp only [List.length_cons]
        omega

/-- Divides by 35 until a number is small, and counts the divisions in steps of 36. -/
def shrink (number : Nat) : Nat × Nat :=
  if 455 < number then
    let (small, steps) := shrink (number / 35)
    (small, steps + 36)
  else (number, 0)
termination_by number
decreasing_by exact Nat.div_lt_self (by omega) (by omega)

/-- The bias after a number, the first one or a later one, when `written` characters are written. -/
def adapt (isFirst : Bool) (number written : Nat) : Nat :=
  let halved := if isFirst then number / 700 else number / 2
  let (small, steps) := shrink (halved + halved / written)
  steps + 36 * small / (small + 38)

/-- What is written so far: the digits, how many characters they and the ASCII ones stand for, the
distance from the last one, and the bias. -/
structure Progress where
  digits : List Char
  written : Nat
  distance : Nat
  bias : Nat

/-- Passes one character of the text, while characters with one code point are written. -/
def Progress.pass (isFirst : Nat → Bool) (code : Nat) (progress : Progress) (character : Char) :
    Progress :=
  if character.toNat < code then { progress with distance := progress.distance + 1 }
  else if character.toNat = code then
    { digits := progress.digits ++ writeNumber progress.bias 36 progress.distance
      written := progress.written + 1
      distance := 0
      bias := adapt (isFirst progress.written) progress.distance (progress.written + 1) }
  else progress

/-- Writes the characters with code points from a list that increases; `next` is the code point
after the last one written. -/
def writeCodes (text : List Char) (isFirst : Nat → Bool) :
    (codes : List Nat) → (next : Nat) → Progress → Progress
  | [], _, progress => progress
  | code :: rest, next, progress =>
    let skipped := (code - next) * (progress.written + 1)
    let passed := text.foldl (Progress.pass isFirst code)
      { progress with distance := progress.distance + skipped }
    writeCodes text isFirst rest (code + 1) { passed with distance := passed.distance + 1 }

def encode (text : List Char) : List Char :=
  let basic := text.filter (fun character => decide (character.toNat < 0x80))
  let others := (text.filter (fun character => decide (0x80 ≤ character.toNat))).map Char.toNat
  let codes := (others.mergeSort (fun left right => decide (left ≤ right))).eraseDups
  let progress := writeCodes text (· == basic.length) codes 0x80 ⟨[], basic.length, 0, 72⟩
  basic ++ (if basic.isEmpty then [] else ['-']) ++ progress.digits

/-- Inserts into a text the characters that digits stand for. Distances count from a code point and
a place: those of the first character that may follow the last one. -/
def insertCodes (isFirst : Bool) (bias code place : Nat) (text digits : List Char) :
    Option (List Char) :=
  if digits.isEmpty then some text
  else
    match read : readNumber? bias 36 digits with
    | none => none
    | some (number, rest) =>
      let count := text.length + 1
      let nextCode := code + (place + number) / count
      let nextPlace := (place + number) % count
      if nextCode.isValidChar then
        insertCodes false (adapt isFirst number count) nextCode (nextPlace + 1)
          (text.insertIdx nextPlace (Char.ofNat nextCode)) rest
      else none
termination_by digits.length
decreasing_by exact length_lt_of_readNumber? _ _ _ _ _ read

/-- The text that small letters, digits and hyphens stand for in Punycode, if they stand for one. -/
def decode? (written : List Char) : Option (List Char) :=
  let (basic, digits) := (Text.splitAtLast? '-' written).getD ([], written)
  insertCodes true 72 0x80 0 basic digits

end BlockReader.Punycode
