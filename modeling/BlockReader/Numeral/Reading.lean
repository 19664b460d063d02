import BlockReader.Text.Blank
import BlockReader.Text.DecimalDigit
import BlockReader.Numeral.Written
set_option autoImplicit false

namespace BlockReader

namespace Numeral

/-- Blanks become spaces and digits of every script ASCII digits; ASCII stays as it is. -/
def toAscii (character : Char) : Char :=
  if character.toNat < 0x7F then character
  else if Text.isBlank character then ' '
  else match Text.digitValue? character with
    | some value => digitCharacter value
    | none => character

def isDigit (character : Char) : Bool :=
  decide ('0' ≤ character ∧ character ≤ '9')

/-- The number that ASCII digits write; other characters do not count. -/
def ofDigits (characters : List Char) : Nat :=
  Radix.value 10 ((characters.filter isDigit).map (fun digit => digit.toNat - 0x30))

def takeSign : List Char → Bool × List Char
  | '-' :: rest => (true, rest)
  | '+' :: rest => (false, rest)
  | other => (false, other)

/-- Whether each underscore stands between two digits, after the character `before`. -/
def underscoresSeparate (before : Char) : List Char → Bool
  | [] => before != '_'
  | '_' :: rest => isDigit before && underscoresSeparate '_' rest
  | character :: rest =>
    (before != '_' || isDigit character) && underscoresSeparate character rest

/-- Reads a whole number. Underscores are checked first, then the number of digits, and last
whether anything but blanks follows. A half is no part of a number. -/
def readInt (text : Text) : Except NumberFault Int :=
  let characters := (text.replaced.map toAscii).dropWhile Text.isBlank
  let (negative, unsigned) := takeSign characters
  let run := unsigned.takeWhile (fun character => isDigit character || character == '_')
  let rest := unsigned.dropWhile (fun character => isDigit character || character == '_')
  let count := (run.filter isDigit).length
  if run.isEmpty || !underscoresSeparate ' ' run then .error (.notAnInteger text)
  else if digitLimit < count then .error (.tooManyDigits count)
  else if rest.all Text.isBlank then
    let size : Int := ofDigits run
    .ok (if negative then -size else size)
  else .error (.notAnInteger text)

structure Parts where
  whole : List Char
  fraction : List Char
  exponent : Int

/-- An exponent mark, a sign and digits, when they are all there. -/
def takeExponent? : List Char → Option (Int × List Char)
  | mark :: rest =>
    let (negative, digits) := takeSign rest
    let run := digits.takeWhile isDigit
    if (mark == 'e' || mark == 'E') && !run.isEmpty then
      let size : Int := ofDigits run
      some (if negative then -size else size, digits.dropWhile isDigit)
    else none
  | [] => none

def Parts.toDouble (negative : Bool) (parts : Parts) : Double :=
  .ofDecimal negative (ofDigits (parts.whole ++ parts.fraction))
    (parts.exponent - parts.fraction.length)

/-- An unsigned decimal number that takes up all the characters. -/
def readDecimal? (characters : List Char) : Option Parts :=
  let whole := characters.takeWhile isDigit
  let (fraction, rest) :=
    match characters.dropWhile isDigit with
    | '.' :: more => (more.takeWhile isDigit, more.dropWhile isDigit)
    | other => ([], other)
  let (exponent, rest) := (takeExponent? rest).getD (0, rest)
  if rest.isEmpty && !(whole.isEmpty && fraction.isEmpty) then some ⟨whole, fraction, exponent⟩
  else none

def lower (characters : List Char) : List Char :=
  characters.map Char.toLower

/-- Reads a floating-point value: a decimal number, an infinity or a NaN. -/
def readDouble (text : String) : Except NumberFault Double :=
  let stripped := Text.strip Text.isBlank (text.toList.map toAscii)
  if stripped.contains '_' && !underscoresSeparate ' ' stripped then .error (.notADouble text)
  else
    let (negative, unsigned) := takeSign (stripped.filter (· != '_'))
    match readDecimal? unsigned with
    | some parts => .ok (parts.toDouble negative)
    | none =>
      let name := String.ofList (lower unsigned)
      if name == "inf" || name == "infinity" then .ok (.infinite negative)
      else if name == "nan" then .ok .nan
      else .error (.notADouble text)

def wholePart : Double → Except NumberFault Int
  | .finite negative rank => .ok (Double.truncate negative rank.val)
  | .infinite _ => .error .infinityToInteger
  | .nan => .error .nanToInteger

def toDouble (number : Int) : Except NumberFault Double :=
  match Double.ofInt? number with
  | some value => .ok value
  | none => .error .tooLargeForDouble

end Numeral

end BlockReader
