import BlockReader.Failure.Message
set_option autoImplicit false

namespace BlockReader.Json

def member (name : Text) : Json → Except Failure Json
  | .object members =>
    match Members.get? name members with
    | some value => .ok value
    | none => .error (.missing (.text name))
  | .array _ => .error (.shape .listIndex)
  | .text _ => .error (.shape .textIndex)
  | other => .error (.shape (.notSubscriptable other.kind))

def members : Json → Members
  | .object members => members
  | _ => []

def characters (value : Text) : List Json :=
  value.letters.map .text

/-- The items of a list, the characters of a text or the names of an object. -/
def items : Json → Except Failure (List Json)
  | .array items => .ok items
  | .text value => .ok (characters value)
  | .object members => .ok (members.map (fun member => .text member.1))
  | other => .error (.shape (.notIterable other.kind))

def count : Json → Except Failure Nat
  | .array items => .ok items.length
  | .text value => .ok value.length
  | .object members => .ok members.length
  | other => .error (.shape (.noLength other.kind))

/-- A value, or an empty list in the place of one that counts as false. -/
def orEmpty (value : Json) : Json :=
  if value.truthy then value else .array []

/-- A value as a whole number: a truth value counts as one or zero, a floating-point value loses
its fraction, and a text is read. -/
def toInt : Json → Except Failure Int
  | .int value => .ok value
  | .bool value => .ok (if value then 1 else 0)
  | .float value => (Numeral.wholePart value).mapError .number
  | .text value => (Numeral.readInt value).mapError .number
  | other => .error (.shape (.notNumeric other.kind))

def toDigest (kind : DigestKind) : Json → Except Failure (Digest kind)
  | .text value => (Digest.parse kind value).mapError .digest
  | other => .error (.shape (.notText other.kind))

inductive Operands where
  | whole (left right : Int)
  | real (left right : Double)

/-- Two values as numbers, if they are numbers: beside a floating-point value the other one is
converted. -/
def operands? (left right : Json) : Option (Except NumberFault Operands) :=
  match left, right with
  | .float left, .float right => some (.ok (.real left right))
  | .float left, right =>
    right.whole?.map fun number => (Numeral.toDouble number).map (.real left)
  | left, .float right =>
    left.whole?.map fun number => (Numeral.toDouble number).map (.real · right)
  | left, right => do
    let left ← left.whole?
    let right ← right.whole?
    pure (.ok (.whole left right))

/-- The sum of two numbers; texts and lists are joined. -/
def plus (left right : Json) : Except Failure Json :=
  match operands? left right with
  | some (.ok (.whole left right)) => .ok (.int (left + right))
  | some (.ok (.real left right)) => .ok (.float (left.add right))
  | some (.error fault) => .error (.number fault)
  | none =>
    match left, right with
    | .text first, .text second => .ok (.text (first ++ second))
    | .array first, .array second => .ok (.array (first ++ second))
    | .text _, other => .error (.shape (.noConcatenation left.kind other.kind))
    | .array _, other => .error (.shape (.noConcatenation left.kind other.kind))
    | left, right => .error (.shape (.noOperation "+" left.kind right.kind))

def minus (left right : Json) : Except Failure Json :=
  match operands? left right with
  | some (.ok (.whole left right)) => .ok (.int (left - right))
  | some (.ok (.real left right)) => .ok (.float (left.add right.negate))
  | some (.error fault) => .error (.number fault)
  | none => .error (.shape (.noOperation "-" left.kind right.kind))

end BlockReader.Json
