import BlockReader.Api.Target
import BlockReader.Failure.Message
import BlockReader.Url.Host.Address
import BlockReader.Url.Host.Name
set_option autoImplicit false

namespace BlockReader

open Api (escape)
open Text (splitOn splitAtLast?)

/-- Why a text is no URL that can be asked for. -/
inductive UrlFault where
  | tooLong
  /-- A path or a query that is too long once it is escaped. -/
  | partTooLong (part : String)
  | unprintable (character : Char) (position : Nat)
  | badAddress4 (host : String)
  | badAddress6 (host : String)
  | badName (host : String)
  | badPort (port : String)
  /-- A URL without a scheme and a host whose path begins like one of them. -/
  | ambiguousPath (beginning : String)
  /-- A scheme under which nothing is served. -/
  | unknownScheme (scheme : String)
  /-- Characters outside ASCII in the name of a site, and where the first one stands. -/
  | outsideAscii (characters : List Char) (position : Nat)
  | encodedName (fault : Host.NameFault)
  /-- Brackets around what is no address. -/
  | unknownAddress (bracketed : String)
  /-- A character that the fragment of a location must not hold. -/
  | unprintableFragment (character : Char) (position : Nat)
  deriving DecidableEq

namespace UrlFault

def unprintableMessage (part : String) (character : Char) (position : Nat) : String :=
  s!"Invalid non-printable ASCII character in {part}, " ++
    s!"{Text.quoted (String.singleton character)} at position {position}."

def outsideAsciiMessage (characters : List Char) (position : Nat) : String :=
  let which := match characters with
    | [character] =>
      s!"character '{String.ofList (Text.codeEscape character.toNat)}' in position {position}"
    | _ => s!"characters in position {position}-{position + characters.length - 1}"
  s!"'ascii' codec can't encode {which}: ordinal not in range(128)"

def message : UrlFault → String
  | .tooLong => "URL too long"
  | .partTooLong part => s!"URL component '{part}' too long"
  | .unprintable character position => unprintableMessage "URL" character position
  | .badAddress4 host => s!"Invalid IPv4 address: {Text.quoted host}"
  | .badAddress6 host => s!"Invalid IPv6 address: {Text.quoted host}"
  | .badName host => s!"Invalid IDNA hostname: {Text.quoted host}"
  | .badPort port => s!"Invalid port: {Text.quoted port}"
  | .ambiguousPath beginning =>
    s!"Relative URLs cannot have a path starting with {Text.quoted beginning}"
  | .unknownScheme scheme => Text.quoted scheme
  | .outsideAscii characters position => outsideAsciiMessage characters position
  | .encodedName .tooLong => "Domain too long"
  | .encodedName .emptyLabel => "Empty Label"
  | .unknownAddress bracketed =>
    Text.quoted bracketed ++ " does not appear to be an IPv4 or IPv6 address"
  | .unprintableFragment character position =>
    unprintableMessage "URL fragment component" character position

end UrlFault

namespace Url

def isPrintableBut (excluded : String) (character : Char) : Bool :=
  decide (0x20 < character.toNat ∧ character.toNat < 0x7F) &&
    !excluded.toList.contains character

/-- Characters that stay as they are in a path. A percent sign is one of them, so the escapes
that a path has already stay too. -/
def isPathSafe : Char → Bool := isPrintableBut "\"#<>?`\x7b\x7d"

def isQuerySafe : Char → Bool := isPrintableBut "\"#<>"

def isHostSafe (character : Char) : Bool :=
  "!$&'()*+,;=\"`\x7b\x7d%|\\".toList.contains character

end Url

/-- The parts of a URL; a part that is not there is empty. -/
structure Url where
  scheme : List Char
  user : List Char
  host : List Char
  port : Option Int
  path : List Char
  query : List Char
  fragment : List Char

namespace Url

/-- The most characters that a URL may have, and each of its parts. -/
def lengthLimit : Nat := 65536

def isSchemeCharacter (character : Char) : Bool :=
  character.isAlphanum || "+.-".toList.contains character

/-- Takes a scheme and its colon. The scheme begins with a letter or is empty. -/
def takeScheme (characters : List Char) : List Char × List Char :=
  let scheme := characters.takeWhile isSchemeCharacter
  match characters.dropWhile isSchemeCharacter with
  | ':' :: rest => if scheme.head?.all Char.isAlpha then (scheme, rest) else ([], characters)
  | _ => ([], characters)

/-- Takes what follows two slashes, up to the path, the query or the fragment. -/
def takeAuthority : List Char → List Char × List Char
  | '/' :: '/' :: rest =>
    let isPart (character : Char) : Bool := character != '/' && character != '?' && character != '#'
    (rest.takeWhile isPart, rest.dropWhile isPart)
  | characters => ([], characters)

/-- Takes a host: one in brackets up to the last bracket, any other up to a colon. -/
def takeHost (characters : List Char) : List Char × List Char :=
  match characters, splitAtLast? ']' characters with
  | '[' :: _, some (inside, rest) => (inside ++ [']'], rest)
  | _, _ => (characters.takeWhile (· != ':'), characters.dropWhile (· != ':'))

/-- Reads a host. Addresses are checked; a bracketed one loses its brackets. Other hosts are
written in small letters and in ASCII. -/
def readHost (host : List Char) : Except UrlFault (List Char) :=
  if Host.looksDotted host then
    if Host.isAddress4 host then .ok host else .error (.badAddress4 (String.ofList host))
  else if host.head? = some '[' && host.getLast? = some ']' then
    let inside := (host.drop 1).dropLast
    if Host.isAddress6 inside then .ok inside else .error (.badAddress6 (String.ofList host))
  else if Text.isAscii host then
    .ok (escape isHostSafe (host.map Char.toLower))
  else match Host.Name.toAscii? host with
    | some written => .ok written
    | none => .error (.badName (String.ofList host))

def standardPort? (scheme : List Char) : Option Int :=
  match String.ofList scheme with
  | "ftp" => some 21
  | "http" | "ws" => some 80
  | "https" | "wss" => some 443
  | _ => none

/-- Reads a port. None is kept when the scheme stands for it. -/
def readPort (scheme port : List Char) : Except UrlFault (Option Int) :=
  if port.isEmpty then .ok none
  else match Numeral.readInt (String.ofList port) with
    | .error _ => .error (.badPort (String.ofList port))
    | .ok value => .ok (if some value = standardPort? scheme then none else some value)

/-- Removes the segments `.` and, with the segment before, `..`. An empty segment at the front
stays. -/
def resolveSegments (segments : List (List Char)) : List (List Char) :=
  (segments.foldl (fun kept segment =>
    if segment = ['.'] then kept
    else if segment = ['.', '.'] then (if kept = [[]] then kept else kept.tail)
    else segment :: kept) []).reverse

def resolveDots (path : List Char) : List Char :=
  ['/'].intercalate (resolveSegments (splitOn '/' path))

/-- The first control character of ASCII, and where it stands. -/
def firstControl? (characters : List Char) : Option (Char × Nat) :=
  let isPlain (character : Char) : Bool := 0x20 ≤ character.toNat && character.toNat != 0x7F
  match characters.dropWhile isPlain with
  | [] => none
  | character :: _ => some (character, (characters.takeWhile isPlain).length)

/-- A URL has a scheme or names a host; otherwise it consists of a path and a query. -/
def hasOrigin (url : Url) : Bool :=
  !url.scheme.isEmpty || !url.user.isEmpty || !url.host.isEmpty || url.port.isSome

/-- What a path without an origin must not begin with. -/
def ambiguous? (path : List Char) : Option String :=
  match path with
  | '/' :: '/' :: _ => some "//"
  | ':' :: _ => some ":"
  | _ => none

/-- Reads the parts of a URL. The dots in a path are resolved where the URL has an origin. -/
def ofParts (characters : List Char) : Except UrlFault Url := do
  let (scheme, afterScheme) := takeScheme characters
  let (authority, afterAuthority) := takeAuthority afterScheme
  let (user, afterUser) := (splitAtLast? '@' authority).getD ([], authority)
  let (host, afterHost) := takeHost afterUser
  let whole := afterAuthority.takeWhile (· != '#')
  let host ← readHost host
  let port ← readPort scheme (if afterHost.head? = some ':' then afterHost.drop 1 else afterHost)
  let url : Url :=
    { scheme := scheme
      user := user
      host := host
      port := port
      path := whole.takeWhile (· != '?')
      query := (whole.dropWhile (· != '?')).drop 1
      fragment := (afterAuthority.dropWhile (· != '#')).drop 1 }
  if url.hasOrigin then pure { url with path := resolveDots url.path }
  else match ambiguous? url.path with
    | some beginning => .error (.ambiguousPath beginning)
    | none => pure url

def parse (text : String) : Except UrlFault Url :=
  let characters := text.toList
  if lengthLimit < characters.length then .error .tooLong
  else match firstControl? characters with
    | some (character, position) => .error (.unprintable character position)
    | none => ofParts characters

/-- Only a URL with a scheme and a host names its site; any other is relative to this site. -/
def isAbsolute (url : Url) : Bool :=
  !url.scheme.isEmpty && !url.host.isEmpty

def location (url : Url) : List Char :=
  let host := if url.host.contains ':' then '[' :: url.host ++ [']'] else url.host
  match url.port with
  | some port => host ++ ':' :: Numeral.ofInt port
  | none => host

end Url

end BlockReader
