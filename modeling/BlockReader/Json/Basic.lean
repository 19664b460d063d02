import BlockReader.Numeral.Double
import BlockReader.Text.Basic
set_option autoImplicit false

namespace BlockReader

/-- A JSON value. Whole numbers and floating-point values are different values, and an object keeps
its members in the order in which their names were first put. -/
inductive Json where
  | null
  | bool (value : Bool)
  | int (value : Int)
  | float (value : Double)
  | text (value : Text)
  | array (items : List Json)
  | object (members : List (Text × Json))
  deriving Inhabited

namespace Json

abbrev Members := List (Text × Json)

def Members.get? (name : Text) : Members → Option Json
  | [] => none
  | (other, value) :: rest => if other = name then some value else get? name rest

def Members.getOrNull (name : Text) (members : Members) : Json :=
  (members.get? name).getD .null

/-- Puts a member: in its old place when the name is there already, else at the end. -/
def Members.put (name : Text) (value : Json) : Members → Members
  | [] => [(name, value)]
  | (other, old) :: rest =>
    if other = name then (name, value) :: rest else (other, old) :: put name value rest

@[simp] theorem Members.get?_put_same (name : Text) (value : Json) (members : Members) :
    (members.put name value).get? name = some value := by
  induction members with
  | nil => simp [put, get?]
  | cons member rest ih =>
    obtain ⟨other, old⟩ := member
    by_cases same : other = name
    · simp [put, get?, same]
    · simp [put, get?, same, ih]

/-- Null, false, zero and what is empty count as false. -/
def truthy : Json → Bool
  | .null => false
  | .bool value => value
  | .int value => value != 0
  | .float value => !value.isZero
  | .text value => !value.isEmpty
  | .array items => !items.isEmpty
  | .object members => !members.isEmpty

def isNull : Json → Bool
  | .null => true
  | _ => false

def isNumber : Json → Bool
  | .bool _ | .int _ | .float _ => true
  | _ => false

/-- A value as a whole number, without conversion; a truth value counts as one or zero. -/
def whole? : Json → Option Int
  | .int value => some value
  | .bool value => some (if value then 1 else 0)
  | _ => none

def kind : Json → String
  | .null => "NoneType"
  | .bool _ => "bool"
  | .int _ => "int"
  | .float _ => "float"
  | .text _ => "str"
  | .array _ => "list"
  | .object _ => "dict"

mutual

def depth : Json → Nat
  | .array items => depthOfItems items + 1
  | .object members => depthOfMembers members + 1
  | _ => 0

def depthOfItems : List Json → Nat
  | [] => 0
  | item :: rest => max item.depth (depthOfItems rest)

def depthOfMembers : List (Text × Json) → Nat
  | [] => 0
  | (_, value) :: rest => max value.depth (depthOfMembers rest)

end

/-- How deep containers may stand inside each other in a text that comes from outside, and in a
value that is written out. One object at least can be written. -/
class Nesting where
  readable : Nat
  writable : Nat
  writable_pos : 0 < writable

/-- What a stack of a thousand calls leaves to the reader and to the writer. -/
instance Nesting.standard : Nesting := ⟨980, 968, by decide⟩

end Json

end BlockReader
