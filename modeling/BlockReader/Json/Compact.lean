import BlockReader.Json.Basic
import BlockReader.Numeral.Reading
import BlockReader.Text.Quoted
set_option autoImplicit false

namespace BlockReader.Json

def escapeCompact (character : Char) : List Char :=
  if character = '"' then ['\\', '"']
  else if character = '\\' then ['\\', '\\']
  else if character = '\n' then ['\\', 'n']
  else if character = '\r' then ['\\', 'r']
  else if character = '\t' then ['\\', 't']
  else if character = '\x0c' then ['\\', 'f']
  else if character = '\x08' then ['\\', 'b']
  else if character.toNat < 0x20 then '\\' :: 'u' :: Text.hex 4 character.toNat
  else [character]

def writeText (value : String) : List Char :=
  '"' :: value.toList.flatMap escapeCompact ++ ['"']

mutual

/-- The compact form of a value, in front of what follows it: no spaces, and only what must be
escaped is. Infinities, NaNs, whole numbers of too many digits and texts with lone halves have no
compact form. -/
def writeOnto (value : Json) (after : List Char) : Option (List Char) :=
  match value with
  | .null => some ("null".toList ++ after)
  | .bool true => some ("true".toList ++ after)
  | .bool false => some ("false".toList ++ after)
  | .int number =>
    if Numeral.digitCount number ≤ Numeral.digitLimit then some (Numeral.ofInt number ++ after)
    else none
  | .float number => if number.isFinite then some (number.write .standard ++ after) else none
  | .text value => do
    let characters ← value.string?
    pure (writeText characters ++ after)
  | .array [] => some ('[' :: ']' :: after)
  | .array (first :: rest) => do
    let tail ← writeItemsOnto rest (']' :: after)
    let head ← writeOnto first tail
    pure ('[' :: head)
  | .object [] => some ('\x7b' :: '\x7d' :: after)
  | .object ((name, first) :: rest) => do
    let name ← name.string?
    let tail ← writeMembersOnto rest ('\x7d' :: after)
    let head ← writeOnto first tail
    pure ('\x7b' :: writeText name ++ ':' :: head)

def writeItemsOnto (items : List Json) (after : List Char) : Option (List Char) :=
  match items with
  | [] => some after
  | item :: rest => do
    let tail ← writeItemsOnto rest after
    let head ← writeOnto item tail
    pure (',' :: head)

def writeMembersOnto (members : List (Text × Json)) (after : List Char) :
    Option (List Char) :=
  match members with
  | [] => some after
  | (name, value) :: rest => do
    let name ← name.string?
    let tail ← writeMembersOnto rest after
    let head ← writeOnto value tail
    pure (',' :: writeText name ++ ':' :: head)

end

/-- The compact form of a value, if it has one and its containers do not stand too deep. -/
def compact? [Nesting] (value : Json) : Option String :=
  if value.depth ≤ Nesting.writable then (writeOnto value []).map String.ofList else none

end BlockReader.Json
