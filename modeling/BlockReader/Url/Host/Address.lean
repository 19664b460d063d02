import BlockReader.Json.Reader
import BlockReader.Text.Blank
set_option autoImplicit false

namespace BlockReader.Host

open Text (splitOn)

/-- Whether a host looks like an address of four numbers: four runs of digits between full stops. -/
def looksDotted (host : List Char) : Bool :=
  let runs := splitOn '.' host
  runs.length == 4 && runs.all (fun run => !run.isEmpty && run.all Numeral.isDigit)

/-- A number below 256 without superfluous zeros. -/
def isOctet (digits : List Char) : Bool :=
  !digits.isEmpty && digits.all Numeral.isDigit && decide (digits.length ≤ 3) &&
    (digits == ['0'] || digits.head? != some '0') && decide (Numeral.ofDigits digits ≤ 255)

def isAddress4 (host : List Char) : Bool :=
  let octets := splitOn '.' host
  octets.length == 4 && octets.all isOctet

def isGroup (digits : List Char) : Bool :=
  !digits.isEmpty && decide (digits.length ≤ 4) &&
    digits.all (fun digit => (Json.hexValue? digit).isSome)

/-- How many groups stand between colons, if all of them are groups. Where an address of four
numbers may end them, it counts as two. -/
def countGroups (mayEndDotted : Bool) (characters : List Char) : Option Nat :=
  let groups := splitOn ':' characters
  let last := groups.getLastD []
  if groups.dropLast.all isGroup then
    if isGroup last then some groups.length
    else if mayEndDotted && isAddress4 last then some (groups.length + 1)
    else none
  else none

/-- What stands before and after the first two colons in a row. -/
def splitAtGap : List Char → Option (List Char × List Char)
  | [] => none
  | ':' :: ':' :: rest => some ([], rest)
  | character :: rest => (splitAtGap rest).map fun (before, after) => (character :: before, after)

def hasEightGroups (characters : List Char) : Bool :=
  match splitAtGap characters with
  | none => countGroups true characters == some 8
  | some (before, after) =>
    let high := if before.isEmpty then some 0 else countGroups false before
    let low := if after.isEmpty then some 0 else countGroups true after
    match high, low with
    | some high, some low => decide (high + low ≤ 7)
    | _, _ => false

/-- An address of eight groups; a scope may follow a percent sign. -/
def isAddress6 (characters : List Char) : Bool :=
  let scope := characters.dropWhile (· != '%')
  hasEightGroups (characters.takeWhile (· != '%')) &&
    (scope.isEmpty || (1 < scope.length && !(scope.drop 1).contains '%'))

end BlockReader.Host
