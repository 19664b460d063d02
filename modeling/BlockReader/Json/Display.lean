import BlockReader.Json.Basic
import BlockReader.Numeral.Written
import BlockReader.Text.Quoted
set_option autoImplicit false

namespace BlockReader.Json

mutual

/-- A value as messages show it inside another one: texts in quotes, and a space after each comma
and colon. A whole number of too many digits cannot be shown. -/
def display : Json → Except NumberFault String
  | .null => .ok "None"
  | .bool true => .ok "True"
  | .bool false => .ok "False"
  | .int value => decimal value
  | .float value => .ok value.text
  | .text value => .ok value.quoted
  | .array items => do
    let shown ← displayItems items
    pure ("[" ++ ", ".intercalate shown ++ "]")
  | .object members => do
    let shown ← displayMembers members
    pure ("\x7b" ++ ", ".intercalate shown ++ "\x7d")

def displayItems : List Json → Except NumberFault (List String)
  | [] => .ok []
  | item :: rest => do
    let shown ← display item
    let others ← displayItems rest
    pure (shown :: others)

def displayMembers : List (Text × Json) → Except NumberFault (List String)
  | [] => .ok []
  | (name, value) :: rest => do
    let shown ← display value
    let others ← displayMembers rest
    pure ((name.quoted ++ ": " ++ shown) :: others)

end

/-- A value as messages show it on its own: a text without quotes, all else as inside. -/
def plain : Json → Except NumberFault Text
  | .text value => .ok value
  | other => do
    let shown ← display other
    pure shown

/-- Values in parentheses; a single one keeps a comma. -/
def displayTuple (items : List Json) : Except NumberFault String := do
  match ← displayItems items with
  | [shown] => pure ("(" ++ shown ++ ",)")
  | shown => pure ("(" ++ ", ".intercalate shown ++ ")")

end BlockReader.Json
