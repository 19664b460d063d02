import BlockReader.Json.Access
set_option autoImplicit false

namespace BlockReader

inductive Encoding where
  | json
  | jsonParsed
  | base58
  | base64
  deriving DecidableEq

namespace Encoding

def name : Encoding → String
  | .json => "json"
  | .jsonParsed => "jsonParsed"
  | .base58 => "base58"
  | .base64 => "base64"

def ofName? : Text → Option Encoding
  | "json" => some .json
  | "jsonParsed" => some .jsonParsed
  | "base58" => some .base58
  | "base64" => some .base64
  | _ => none

@[simp] theorem ofName?_name (encoding : Encoding) : ofName? encoding.name = some encoding := by
  cases encoding <;> rfl

/-- The encoding that a value names. A list or an object cannot even be looked up. -/
def ofJson (value : Json) : Except Failure Encoding :=
  match value with
  | .text name =>
    match ofName? name with
    | some encoding => .ok encoding
    | none => .error (Failure.unsupportedEncoding value).raised
  | .array _ => .error (.shape (.unhashable value.kind))
  | .object _ => .error (.shape (.unhashable value.kind))
  | _ => .error (Failure.unsupportedEncoding value).raised

end Encoding

/-- The options of a request; null leaves one unset. -/
structure Options where
  encoding : Json := .null
  transactionDetails : Json := .null
  rewards : Json := .null
  commitment : Json := .null
  maxSupportedTransactionVersion : Json := .null
  /-- The commitment is one of the named levels; records show it with its name. -/
  commitmentIsNamed : Bool := false
  deriving Inhabited

/-- The configuration that goes with a slot: what was set, and always an encoding. -/
structure Config where
  encoding : Encoding
  transactionDetails : Option Json
  rewards : Option Json
  commitment : Option Json
  maxSupportedTransactionVersion : Option Json

namespace Options

/-- The detail level that a node takes when none is asked for. -/
def defaultLevel : Json := .text "full"

/-- Nothing, in the place of a value that counts as false. -/
def ifTruthy (value : Json) : Option Json :=
  if value.truthy then some value else none

def ifSet (value : Json) : Option Json :=
  if value.isNull then none else some value

/-- The configuration to send. Details and a commitment that count as false are unset; rewards
and a version are unset only when null. -/
def config (options : Options) : Except Failure Config :=
  let withEncoding (encoding : Encoding) : Config :=
    { encoding := encoding
      transactionDetails := ifTruthy options.transactionDetails
      rewards := ifSet options.rewards
      commitment := ifTruthy options.commitment
      maxSupportedTransactionVersion := ifSet options.maxSupportedTransactionVersion }
  if options.encoding.truthy then
    match Encoding.ofJson options.encoding with
    | .ok encoding => .ok (withEncoding encoding)
    | .error failure => .error failure
  else .ok (withEncoding .json)

def level (options : Options) : Json :=
  if options.transactionDetails.truthy then options.transactionDetails else defaultLevel

/-- The name under which the options themselves are passed; none of them may be called so. -/
def ownName : Text := "self"

def set (options : Options) (name : Text) (value : Json) : Except Failure Options :=
  match name with
  | "encoding" => .ok { options with encoding := value }
  | "transaction_details" => .ok { options with transactionDetails := value }
  | "rewards" => .ok { options with rewards := value }
  | "commitment" => .ok { options with commitment := value }
  | "max_supported_transaction_version" =>
    .ok { options with maxSupportedTransactionVersion := value }
  | _ =>
    .error (.shape (if name = ownName then .repeatedOption name else .unknownOption name))

def ofMembers (members : Json.Members) : Except Failure Options :=
  members.foldlM (fun options member => options.set member.1 member.2) {}

end Options

namespace Config

def optional (name : Text) (value : Option Json) : Json.Members :=
  match value with
  | some value => [(name, value)]
  | none => []

def members (config : Config) : Json.Members :=
  (Text.proper "encoding", Json.text config.encoding.name) ::
    optional "transactionDetails" config.transactionDetails ++
    optional "rewards" config.rewards ++
    optional "commitment" config.commitment ++
    optional "maxSupportedTransactionVersion" config.maxSupportedTransactionVersion

def params (slot : Json) (config : Config) : Json :=
  .array [slot, .object config.members]

/-- A member as records show it: a named commitment with its name in capitals. -/
def displayMember (named : Bool) (member : Text × Json) : Except NumberFault String := do
  let shown ← member.2.display
  let value :=
    match named, member with
    | true, ("commitment", .text (.proper name)) =>
      "<Commitment." ++ name.toUpper ++ ": " ++ shown ++ ">"
    | _, _ => shown
  pure (member.1.quoted ++ ": " ++ value)

def displayParams (slot : Json) (named : Bool) (config : Config) : Except NumberFault String := do
  let slot ← slot.display
  let members ← config.members.mapM (displayMember named)
  pure ("[" ++ slot ++ ", \x7b" ++ ", ".intercalate members ++ "\x7d]")

end Config

end BlockReader
