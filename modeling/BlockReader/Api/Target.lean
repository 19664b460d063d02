import BlockReader.Json.Reader
import BlockReader.Text.Blank
import BlockReader.Text.Quoted
import BlockReader.Text.Utf8
set_option autoImplicit false

namespace BlockReader.Api

open Text (splitOn)

def escapeByte (byte : UInt8) : List Char :=
  '%' :: (Text.hex 2 byte.toNat).map Char.toUpper

def isUnreserved (character : Char) : Bool :=
  character.isAlphanum || "-._~".toList.contains character

def escape (isSafe : Char → Bool) (characters : List Char) : List Char :=
  characters.flatMap fun character =>
    if isUnreserved character || isSafe character then [character]
    else (Utf8.encode (String.singleton character)).flatMap escapeByte

/-- The bytes that characters stand for: an escape of two hexadecimal digits is a byte, any other
character its own bytes. -/
def unescape : List Char → List UInt8
  | [] => []
  | '%' :: high :: low :: rest =>
    match Json.hexValue? high, Json.hexValue? low with
    | some first, some second => UInt8.ofNat (first * 16 + second) :: unescape rest
    | _, _ => 0x25 :: unescape (high :: low :: rest)
  | character :: rest => Utf8.encode (String.singleton character) ++ unescape rest

/-- The text that escaped characters stand for; what is no UTF-8 is replaced by U+FFFD. -/
def unescaped (characters : List Char) : List Char :=
  Utf8.decodeLossy (unescape characters)

/-- What is asked for: the site by its name, a path, unescaped, and a query, escaped. -/
structure Target where
  origin : List Char
  path : List Char
  query : List Char

namespace Target

/-- A path in a location: what would begin a query or a fragment there is escaped. -/
def delimited (path : List Char) : List Char :=
  path.flatMap fun character =>
    if character = '?' || character = '#' then escapeByte (UInt8.ofNat character.toNat)
    else [character]

def isLocationSafe (character : Char) : Bool :=
  ":/%#?=@[]!$&'()*+,;".toList.contains character

def location (target : Target) (path : List Char) : String :=
  let query := if target.query.isEmpty then [] else '?' :: target.query
  String.ofList (escape isLocationSafe (target.origin ++ delimited path ++ query))

end Target

/-- The text of a name or a value in a query: a plus sign is a space. -/
def queryText (characters : List Char) : String :=
  String.ofList (unescaped (characters.map fun character =>
    if character == '+' then ' ' else character))

/-- The names and values of a query; a part without a value has an empty one, and empty parts do
not count. -/
def Target.parameters (target : Target) : List (String × String) :=
  ((splitOn '&' target.query).filter (fun part => !part.isEmpty)).map fun part =>
    (queryText (part.takeWhile (· != '=')), queryText ((part.dropWhile (· != '=')).drop 1))

/-- The value of a parameter: the last one, when its name is repeated. -/
def Target.parameter? (target : Target) (name : String) : Option String :=
  target.parameters.reverse.lookup name

end BlockReader.Api
