import BlockReader.Json.Compact
import BlockReader.Options
set_option autoImplicit false

namespace BlockReader.Api

inductive Rule where
  | integer
  | integerSize
  | truthValue
  | notNegative
  deriving DecidableEq

namespace Rule

def name : Rule → String
  | .integer => "int_parsing"
  | .integerSize => "int_parsing_size"
  | .truthValue => "bool_parsing"
  | .notNegative => "greater_than_equal"

def message : Rule → String
  | .integer => "Input should be a valid integer, unable to parse string as an integer"
  | .integerSize => "Unable to parse input string as an integer, exceeded maximum size"
  | .truthValue => "Input should be a valid boolean, unable to interpret input"
  | .notNegative => "Input should be greater than or equal to 0"

end Rule

structure Violation where
  rule : Rule
  /-- The part of the request that holds the parameter. -/
  place : String
  parameter : String
  input : String

def Violation.toJson (violation : Violation) : Json :=
  let bound : Json.Members :=
    if violation.rule = .notNegative then [("ctx", .object [("ge", .int 0)])] else []
  .object
    (("type", .text violation.rule.name) ::
      ("loc", .array [.text violation.place, .text violation.parameter]) ::
      ("msg", .text violation.rule.message) ::
      ("input", .text violation.input) :: bound)

/-- Whether a character only fills the place in front of a number. -/
def isFiller (character : Char) : Bool :=
  character == '0' || character == '_'

/-- Drops zeros, and underscores among them, in front of a number; it must begin with a digit. A
minus sign may follow the zeros. Where nothing else follows, the last character stays. -/
def dropLeadingZeros (characters : List Char) : Option (List Char) :=
  match characters with
  | '0' :: rest =>
    let last := ('0' :: rest.takeWhile isFiller).getLastD '0'
    match rest.dropWhile isFiller with
    | [] => some [last]
    | '.' :: more => some (last :: '.' :: more)
    | character :: more =>
      if Numeral.isDigit character || character == '-' then some (character :: more) else none
  | character :: _ => if Numeral.isDigit character then some characters else none
  | [] => none

/-- Drops a plus sign, and the zeros in front of a number behind its minus sign. -/
def dropSignAndZeros (characters : List Char) : Option (List Char) :=
  match characters with
  | '+' :: '-' :: _ => none
  | '+' :: rest => dropLeadingZeros rest
  | '-' :: rest => (dropLeadingZeros rest).map ('-' :: ·)
  | other => dropLeadingZeros other

/-- Drops a point and the zeros after it, when nothing but zeros follows, and at least one. -/
def dropZeroFraction (characters : List Char) : List Char :=
  match characters.dropWhile (· != '.') with
  | '.' :: '0' :: rest =>
    if rest.all (· == '0') then characters.takeWhile (· != '.') else characters
  | _ => characters

def hasDoubleUnderscore : List Char → Bool
  | '_' :: '_' :: _ => true
  | _ :: rest => hasDoubleUnderscore rest
  | [] => false

def dropUnderscores (characters : List Char) : List Char :=
  if characters.head? == some '_' || characters.getLast? == some '_' ||
    hasDoubleUnderscore characters then characters
  else characters.filter (· != '_')

/-- Reads digits after an optional minus sign, without superfluous zeros. -/
def readPlain (characters : List Char) : Except Rule Int :=
  let (negative, digits) :=
    match characters with
    | '-' :: rest => (true, rest)
    | other => (false, other)
  if digits.isEmpty || !digits.all Numeral.isDigit ||
    (digits.head? == some '0' && 1 < digits.length) || Numeral.digitLimit < digits.length then
    .error .integer
  else
    let size : Int := Numeral.ofDigits digits
    .ok (if negative then -size else size)

/-- Whether a text begins, after an optional minus sign, with more digits than a number may have.
Zeros in front do not count as such a beginning. -/
def beginsTooLong (characters : List Char) : Bool :=
  let digits :=
    match characters with
    | '-' :: rest => rest
    | other => other
  digits.head? != some '0' && Numeral.digitLimit < (digits.takeWhile Numeral.isDigit).length

/-- Reads a whole number from a parameter: blanks around it, a sign, leading zeros, single
underscores and a fraction of zeros are allowed. That the number is too long is told only of a text
that begins with its digits; any other text is then no number. -/
def readInteger (text : String) : Except Rule Int :=
  if beginsTooLong text.toList then .error .integerSize
  else match dropSignAndZeros (Text.strip Text.isBlank text.toList) with
    | some digits => readPlain (dropUnderscores (dropZeroFraction digits))
    | none => .error .integer

/-- Reads a truth value from a parameter, in any case of letters. -/
def readTruth (text : String) : Except Rule Bool :=
  let lower := String.ofList (Numeral.lower text.toList)
  if ["1", "true", "t", "yes", "y", "on"].contains lower then .ok true
  else if ["0", "false", "f", "no", "n", "off"].contains lower then .ok false
  else .error .truthValue

def readVersion (text : String) : Except Rule Int :=
  match readInteger text with
  | .ok value => if value < 0 then .error .notNegative else .ok value
  | .error rule => .error rule

def readGiven {α : Type} (name : String) (read : String → Except Rule α) (toJson : α → Json) :
    Option String → Except Violation Json
  | none => .ok .null
  | some text =>
    match read text with
    | .ok value => .ok (toJson value)
    | .error rule => .error ⟨rule, "query", name, text⟩

def readSlot (text : String) : Except Violation Int :=
  (readInteger text).mapError fun rule => ⟨rule, "path", "slot", text⟩

def violations {α : Type} : Except Violation α → List Violation
  | .ok _ => []
  | .error violation => [violation]

/-- Reads the slot and the options of a request for a block; `parameter?` looks up the query. All
violations are reported, in the order of the parameters. -/
def readRequest (slot : String) (parameter? : String → Option String) :
    Except (List Violation) (Int × Options) :=
  let given (name : String) : Json := ((parameter? name).map fun text => Json.text text).getD .null
  let slot := readSlot slot
  let rewards := readGiven "rewards" readTruth Json.bool (parameter? "rewards")
  let version := readGiven "max_supported_transaction_version" readVersion Json.int
    (parameter? "max_supported_transaction_version")
  match slot, rewards, version with
  | .ok slot, .ok rewards, .ok version =>
    .ok (slot,
      { encoding := given "encoding"
        transactionDetails := given "transaction_details"
        rewards := rewards
        commitment := given "commitment"
        maxSupportedTransactionVersion := version })
  | slot, rewards, version => .error (violations slot ++ violations rewards ++ violations version)

end BlockReader.Api
