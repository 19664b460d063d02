import BlockReader.Failure.Basic
import BlockReader.Json.Display
set_option autoImplicit false

namespace BlockReader

def NumberFault.message : NumberFault → String
  | .notAnInteger text =>
    "invalid literal for int() with base 10: " ++ String.ofList (text.quote.take 200)
  | .notADouble text => "could not convert string to float: " ++ Text.quoted text
  | .tooManyDigits count =>
    s!"Exceeds the limit ({Numeral.digitLimit} digits) for integer string conversion: " ++
      s!"value has {count} digits; use sys.set_int_max_str_digits() to increase the limit"
  | .tooLongToWrite =>
    s!"Exceeds the limit ({Numeral.digitLimit} digits) for integer string conversion; " ++
      "use sys.set_int_max_str_digits() to increase the limit"
  | .nanToInteger => "cannot convert float NaN to integer"
  | .infinityToInteger => "cannot convert float infinity to integer"
  | .tooLargeForDouble => "int too large to convert to float"
  | .tooLargeForCount => "cannot fit 'int' into an index-sized integer"

def Text.leadingHalves : Text → Nat
  | .proper _ => 0
  | .broken before _ after => if before.isEmpty then after.leadingHalves + 1 else 0

def Text.describeHalves : Text → String
  | .proper _ => ""
  | .broken before half after =>
    let start := before.length
    let what :=
      match after.leadingHalves with
      | 0 => s!"character '{String.ofList (codeEscape (halfCode half))}' in position {start}"
      | more => s!"characters in position {start}-{start + more}"
    s!"'utf-8' codec can't encode {what}: surrogates not allowed"

def DigestFault.message : DigestFault → String
  | .notEncodable spelling => spelling.describeHalves
  | .wrongSize .hash => "string decoded to wrong size for hash"
  | .notBase58 .hash => "failed to decoded string to hash"
  | .wrongSize .signature => "string decoded to wrong size for signature"
  | .notBase58 .signature => "failed to decode string to signature"

def ShapeFault.message : ShapeFault → Text
  | .unhashable kind => s!"unhashable type: '{kind}'"
  | .notIterable kind => s!"'{kind}' object is not iterable"
  | .listIndex => "list indices must be integers or slices, not str"
  | .textIndex => "string indices must be integers, not 'str'"
  | .notSubscriptable kind => s!"'{kind}' object is not subscriptable"
  | .noLength kind => s!"object of type '{kind}' has no len()"
  | .notNumeric kind =>
    "int() argument must be a string, a bytes-like object or a real number, " ++
      s!"not '{kind}'"
  | .notText kind =>
    (if kind = Json.kind .null then "'None'" else s!"'{kind}' object") ++
      " is not an instance of 'str'"
  | .notWhole kind => s!"'{kind}' object cannot be interpreted as an integer"
  | .noOperation operator left right =>
    s!"unsupported operand type(s) for {operator}: '{left}' and '{right}'"
  | .noConcatenation kind other =>
    s!"can only concatenate {kind} (not \"{other}\") to {kind}"
  | .noOrder operator left right =>
    s!"'{operator}' not supported between instances of '{left}' and '{right}'"
  | .noPlaces kind => s!"unsupported format string passed to {kind}.__format__"
  | .unknownOption name =>
    "GetBlockOpts.__init__() got an unexpected keyword argument '" ++ name ++ "'"
  | .repeatedOption name =>
    "GetBlockOpts.__init__() got multiple values for argument '" ++ name ++ "'"

def Json.Container.name : Json.Container → String
  | .array => "array"
  | .object => "object"

def Json.Fault.message : Json.Fault → String
  | .malformed complaint line column offset =>
    s!"{complaint.message}: line {line} column {column} (char {offset})"
  | .tooManyDigits count => NumberFault.message (.tooManyDigits count)
  | .tooDeep container =>
    s!"maximum recursion depth exceeded while decoding a JSON {container.name} " ++
      "from a unicode string"

namespace FailureKind

def name (kind : FailureKind) : String :=
  kind.errorClass.name

/-- The arguments that a failure needs, and how many more it may have; none, when any number of
arguments will do. -/
def parameters? : FailureKind → Option (List String × Nat)
  | .general | .transport => none
  | .unsupportedEncoding => some (["encoding"], 0)
  | .badStatus => some (["status", "body"], 0)
  | .rpc => some (["code", "message"], 1)
  | .notConfirmed => some (["slot"], 0)

def enumerate (names : List String) : String :=
  match names.map (fun name : String => Text.quoted name) with
  | [] => ""
  | [only] => only
  | [first, second] => first ++ " and " ++ second
  | many => ", ".intercalate many.dropLast ++ ", and " ++ many.getLastD ""

/-- The complaint about the wrong number of arguments. The failure itself counts as an argument
of its own making. -/
def argumentMessage (kind : FailureKind) (given : Nat) : String :=
  let (required, optional) := kind.parameters?.getD ([], 0)
  let least := required.length + 1
  if given < required.length then
    let absent := required.drop given
    let ending := if absent.length = 1 then "" else "s"
    s!"{kind.name}.__init__() missing {absent.length} required positional argument{ending}: " ++
      enumerate absent
  else
    let range :=
      if optional = 0 then s!"{least}" else s!"from {least} to {least + optional}"
    s!"{kind.name}.__init__() takes {range} positional arguments but {given + 1} were given"

end FailureKind

namespace Failure

/-- A failure given by details alone says nothing, its only detail, or all of them. -/
def describe : List Json → Except NumberFault Text
  | [] => .ok ""
  | [detail] => detail.plain
  | details => do
    let shown ← Json.displayTuple details
    pure shown

def describePaths : List Json → Except NumberFault String
  | [] => .ok ""
  | path :: more =>
    if path.isNull then .ok ""
    else do
      let shown ← path.display
      match more with
      | [_, target] =>
        if target.isNull then pure (": " ++ shown)
        else do
          let goal ← target.display
          pure (": " ++ shown ++ " -> " ++ goal)
      | _ => pure (": " ++ shown)

/-- Failures of the system read two details as a number and its meaning, and up to three more as
what tells their paths. -/
def describeSystem : List Json → Except NumberFault Text
  | code :: meaning :: more =>
    if 3 < more.length then describe (code :: meaning :: more)
    else do
      let number ← code.plain
      let said ← meaning.plain
      let paths ← describePaths more
      pure ("[Errno " ++ number ++ "] " ++ said ++ paths)
  | details => describe details

/-- The details that a failure of the system keeps; paths are not among them. -/
def systemDetails : List Json → List Json
  | code :: meaning :: path :: more =>
    if path.isNull || 2 < more.length then code :: meaning :: path :: more else [code, meaning]
  | details => details

def systemCode? (details : List Json) : Option Int :=
  if details.length < 2 || 5 < details.length then none
  else (details.headD .null).whole?

/-- The numbers of an operation that would have to wait. -/
def waitingCodes : List Int := [11, 114, 115]

/-- The number of an operation that took too long. -/
def timeoutCode : Int := 110

/-- How much an operation that would have to wait had written, if the third detail tells that. -/
def written? (details : List Json) : Option Json :=
  match systemCode? details, details with
  | some code, _ :: _ :: amount :: _ =>
    if waitingCodes.contains code && amount.isNumber then some amount else none
  | _, _ => none

/-- The first whole number too large to be counted to. -/
def countLimit : Int := 0x8000000000000000

/-- The failure of the system with the given details. How much was written must be a whole number
of a size that can be counted to. -/
def ofSystem (details : List Json) : Except Failure Failure :=
  if systemCode? details = some timeoutCode then .ok (.connection .timeout details)
  else match written? details with
    | some (.float amount) => .error (.shape (.notWhole (Json.float amount).kind))
    | some (.int amount) =>
      if -countLimit ≤ amount ∧ amount < countLimit then .ok (.outside .system details)
      else .error (.number .tooLargeForCount)
    | _ => .ok (.outside .system details)

def describeKey : List Json → Except NumberFault Text
  | [key] => do
    let shown ← key.display
    pure shown
  | details => describe details

def describeBytes (bytes : List UInt8) (fault : Utf8.Fault) : String :=
  let code := (bytes.getD fault.start 0).toNat
  let what :=
    if fault.stop = fault.start + 1 then
      s!"byte 0x{String.ofList (Text.hex 2 code)} in position {fault.start}"
    else s!"bytes in position {fault.start}-{fault.stop - 1}"
  s!"'utf-8' codec can't decode {what}: {fault.reason.message}"

def shown (name : String) (details : List Json) : Except NumberFault String := do
  let items ← Json.displayItems details
  pure (name ++ "(" ++ ", ".intercalate items ++ ")")

/-- How the message of a failed call shows what broke its exchange off, of which `said` is the own
message. -/
def asCause (said : Except NumberFault Text) : Failure → Except NumberFault String
  | .connection fault details =>
    shown fault.errorClass.name
      (if fault.errorClass.isA .system then systemDetails details else details)
  | .undecodable bytes fault =>
    .ok (s!"UnicodeDecodeError('utf-8', {Text.quotedBytes bytes}, {fault.start}, {fault.stop}, " ++
      s!"{Text.quoted fault.reason.message})")
  | failure => do
    let said ← said
    shown failure.errorClass.name [.text said]

/-- The message of a failure, unless it holds a whole number of too many digits. -/
def message : Failure → Except NumberFault Text
  | .general details => describe details
  | .unsupportedEncoding encoding => do
    let encoding ← encoding.plain
    pure ("provided encoding is not supported: " ++ encoding)
  | .notConfirmed slot => do
    let slot ← slot.plain
    pure ("block not confirmed: " ++ slot)
  | .transport details => describe details
  | .exchangeFailed method url cause => do
    let cause ← cause.asCause cause.message
    pure (method ++ " request to " ++ url ++ " failed: " ++ cause)
  | .notAnObject method url answer => do
    let answer ← answer.display
    pure (method ++ " request to " ++ url ++ " returned a non-object response: " ++ answer)
  | .badStatus status body => do
    let status ← status.plain
    let body ← body.plain
    pure ("Failed to fetch RPC response (" ++ status ++ "): " ++ body)
  | .rpc code text _ => do
    let code ← code.plain
    let text ← text.plain
    pure ("RPC Error " ++ code ++ ": " ++ text)
  | .connection fault details =>
    if fault.errorClass.isA .system then describeSystem details else describe details
  | .outside .system details =>
    describeSystem (if (written? details).isSome then details.take 2 else details)
  | .outside .key details => describeKey details
  | .outside _ details => describe details
  | .undecodable bytes fault => .ok (describeBytes bytes fault)
  | .unreadable fault => .ok fault.message
  | .number fault => .ok fault.message
  | .digest fault => .ok fault.message
  | .shape fault => .ok fault.message
  | .missing name => do
    let name ← name.display
    pure name
  | .unknownLevel name => .ok s!"Unknown level: {Text.quoted name}"
  | .unknownFormat code =>
    .ok s!"Unknown format code '{code}' for object of type '{Json.kind (.text code)}'"
  | .arguments kind given => .ok (kind.argumentMessage given)

/-- Makes a failure whose message is written as it is made. -/
def made (failure : Failure) : Except Failure Failure :=
  match failure.message with
  | .ok _ => .ok failure
  | .error fault => .error (.number fault)

/-- What is raised in the place of a failure whose message is written as it is made. -/
def raised (failure : Failure) : Failure :=
  match failure.made with
  | .ok made => made
  | .error unmade => unmade

def breaking : List ErrorClass :=
  [.client, .timeout, .value]

/-- Whether the failure of a call takes the place of a failure of its exchange. -/
def breaksOff (failure : Failure) : Bool :=
  breaking.any failure.isA

def ofArguments (kind : FailureKind) (arguments : List Json) : Except Failure Failure :=
  match kind, arguments with
  | .general, details => .ok (.general details)
  | .transport, details => .ok (.transport details)
  | .unsupportedEncoding, [encoding] => (Failure.unsupportedEncoding encoding).made
  | .badStatus, [status, body] => (Failure.badStatus status body).made
  | .rpc, [code, text] => (Failure.rpc code text .null).made
  | .rpc, [code, text, data] => (Failure.rpc code text data).made
  | .notConfirmed, [slot] => (Failure.notConfirmed slot).made
  | kind, arguments => .error (.arguments kind arguments.length)

end Failure

end BlockReader
