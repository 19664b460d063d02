import BlockReader.Digest
import BlockReader.Failure.Class
import BlockReader.Json.Reader
import BlockReader.Text.Utf8
set_option autoImplicit false

namespace BlockReader

/-- A value of the wrong kind for what is done with it; each case carries the kind it found. -/
inductive ShapeFault where
  | unhashable (kind : String)
  | notIterable (kind : String)
  | listIndex
  | textIndex
  | notSubscriptable (kind : String)
  | noLength (kind : String)
  | notNumeric (kind : String)
  | notText (kind : String)
  /-- A number without a fraction is needed. -/
  | notWhole (kind : String)
  | noOperation (operator left right : String)
  /-- Only a value of the same kind can be appended. -/
  | noConcatenation (kind other : String)
  | noOrder (operator left right : String)
  /-- A value that cannot be written with decimal places. -/
  | noPlaces (kind : String)
  | unknownOption (name : Text)
  /-- An option under a name that is taken. -/
  | repeatedOption (name : Text)
  deriving DecidableEq

inductive ConnectionFault where
  | client
  | connection
  | payload
  | serverTimeout
  | timeout
  | value
  deriving DecidableEq

/-- What may arise outside this library and passes through it untouched. -/
inductive OutsideFault where
  | runtime
  | key
  | system
  | cancelled
  deriving DecidableEq

/-- The failures that can be made from a list of arguments. -/
inductive FailureKind where
  | general
  | unsupportedEncoding
  | transport
  | badStatus
  | rpc
  | notConfirmed
  deriving DecidableEq

inductive Failure where
  /-- A failure to fetch a block, without a closer cause. -/
  | general (details : List Json)
  | unsupportedEncoding (encoding : Json)
  | notConfirmed (slot : Json)
  /-- A call failed, without a closer cause. -/
  | transport (details : List Json)
  /-- The exchange of a call broke off. -/
  | exchangeFailed (method url : String) (cause : Failure)
  /-- The node answered a call with something else than an object. -/
  | notAnObject (method url : String) (answer : Json)
  | badStatus (status body : Json)
  | rpc (code message data : Json)
  /-- An exchange broke off. -/
  | connection (fault : ConnectionFault) (details : List Json)
  /-- A fault that is not this library's. -/
  | outside (fault : OutsideFault) (details : List Json)
  | undecodable (bytes : List UInt8) (fault : Utf8.Fault)
  | unreadable (fault : Json.Fault)
  | number (fault : NumberFault)
  | digest (fault : DigestFault)
  | shape (fault : ShapeFault)
  | missing (name : Json)
  | unknownLevel (name : String)
  /-- A text cannot be written in a format that is meant for numbers. -/
  | unknownFormat (code : String)
  | arguments (kind : FailureKind) (given : Nat)

def FailureKind.errorClass : FailureKind → ErrorClass
  | .general => .block
  | .unsupportedEncoding => .unsupportedEncoding
  | .transport => .transport
  | .badStatus => .badStatus
  | .rpc => .rpc
  | .notConfirmed => .notConfirmed

def ConnectionFault.errorClass : ConnectionFault → ErrorClass
  | .client => .client
  | .connection => .connection
  | .payload => .payload
  | .serverTimeout => .serverTimeout
  | .timeout => .timeout
  | .value => .value

def OutsideFault.errorClass : OutsideFault → ErrorClass
  | .runtime => .runtime
  | .key => .key
  | .system => .system
  | .cancelled => .cancelled

def NumberFault.errorClass : NumberFault → ErrorClass
  | .infinityToInteger | .tooLargeForDouble => .overflow
  | .notAnInteger _ | .notADouble _ | .tooManyDigits _ | .tooLongToWrite | .nanToInteger |
    .tooLargeForCount => .value

def DigestFault.errorClass : DigestFault → ErrorClass
  | .notEncodable _ => .notEncodable
  | .wrongSize .hash | .notBase58 .hash => .hash
  | .wrongSize .signature | .notBase58 .signature => .value

def Json.Fault.errorClass : Json.Fault → ErrorClass
  | .malformed .. => .unreadable
  | .tooManyDigits _ => .value
  | .tooDeep _ => .recursion

namespace Failure

def errorClass : Failure → ErrorClass
  | .general _ => FailureKind.general.errorClass
  | .unsupportedEncoding _ => FailureKind.unsupportedEncoding.errorClass
  | .notConfirmed _ => FailureKind.notConfirmed.errorClass
  | .transport _ | .exchangeFailed .. | .notAnObject .. => FailureKind.transport.errorClass
  | .badStatus .. => FailureKind.badStatus.errorClass
  | .rpc .. => FailureKind.rpc.errorClass
  | .connection fault _ => fault.errorClass
  | .outside fault _ => fault.errorClass
  | .undecodable .. => .undecodable
  | .unreadable fault => fault.errorClass
  | .number fault => fault.errorClass
  | .digest fault => fault.errorClass
  | .shape _ | .arguments .. => .shape
  | .missing _ => .key
  | .unknownLevel _ | .unknownFormat _ => .value

def isA (failure : Failure) (top : ErrorClass) : Bool :=
  failure.errorClass.isA top

/-- The failures of a call: of its exchange, its status or its answer. -/
def isTransport (failure : Failure) : Bool :=
  failure.isA .transport

/-- The failures to fetch a block, as opposed to malformed data and faults from outside. -/
def isBlockFailure (failure : Failure) : Bool :=
  failure.isA .block

end Failure

end BlockReader
