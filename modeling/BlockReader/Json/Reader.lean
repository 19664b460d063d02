import BlockReader.Json.Basic
import BlockReader.Numeral.Reading
set_option autoImplicit false

namespace BlockReader.Json

inductive Complaint where
  | byteOrderMark
  | noValue
  | noName
  | noColon
  | noComma
  | extraData
  | unterminatedText
  | controlCharacter
  | badEscape
  | badUnicodeEscape
  deriving DecidableEq

def Complaint.message : Complaint → String
  | .byteOrderMark => "Unexpected UTF-8 BOM (decode using utf-8-sig)"
  | .noValue => "Expecting value"
  | .noName => "Expecting property name enclosed in double quotes"
  | .noColon => "Expecting ':' delimiter"
  | .noComma => "Expecting ',' delimiter"
  | .extraData => "Extra data"
  | .unterminatedText => "Unterminated string starting at"
  | .controlCharacter => "Invalid control character at"
  | .badEscape => "Invalid \\escape"
  | .badUnicodeEscape => "Invalid \\uXXXX escape"

inductive Container where
  | array
  | object
  deriving DecidableEq

/-- A fault in a JSON text: a complaint at a place, a whole number with too many digits, or a
container inside too many others. -/
inductive Fault where
  | malformed (complaint : Complaint) (line column offset : Nat)
  | tooManyDigits (count : Nat)
  | tooDeep (container : Container)
  deriving DecidableEq

/-- A fault while reading, placed by the characters still to read. -/
inductive Stop where
  | malformed (complaint : Complaint) (left : List Char)
  | unterminated
  | tooManyDigits (count : Nat)
  | tooDeep (container : Container)

/-- What a part of the reader yields: a result and the characters after it, or a fault. -/
abbrev Read (α : Type) := Except Stop (α × List Char)

def isSpace (character : Char) : Bool :=
  character == ' ' || character == '\t' || character == '\n' || character == '\r'

def skip (characters : List Char) : List Char :=
  characters.dropWhile isSpace

def hexValue? (character : Char) : Option Nat :=
  if '0' ≤ character ∧ character ≤ '9' then some (character.toNat - 0x30)
  else if 'a' ≤ character ∧ character ≤ 'f' then some (character.toNat - 0x57)
  else if 'A' ≤ character ∧ character ≤ 'F' then some (character.toNat - 0x37)
  else none

def hexValues? (digits : List Char) : Option Nat :=
  (digits.mapM hexValue?).map (Radix.value 16)

/-- The character after a backslash, unless that starts a longer escape. -/
def shortEscape? : Char → Option Char
  | '"' => some '"'
  | '\\' => some '\\'
  | '/' => some '/'
  | 'b' => some '\x08'
  | 'f' => some '\x0c'
  | 'n' => some '\n'
  | 'r' => some '\r'
  | 't' => some '\t'
  | _ => none

/-- What an escape of four digits stands for: a character, or a half of a pair that stands alone. -/
inductive CodeUnit where
  | character (character : Char)
  | half (half : Fin 0x800)

def CodeUnit.ofCode (code : Nat) : CodeUnit :=
  if inside : 0xD800 ≤ code ∧ code < 0xE000 then .half ⟨code - 0xD800, by omega⟩
  else .character (Char.ofNat code)

def isHighHalf (code : Nat) : Bool := decide (0xD800 ≤ code ∧ code < 0xDC00)

def isLowHalf (code : Nat) : Bool := decide (0xDC00 ≤ code ∧ code < 0xE000)

/-- The rest of an escape of four digits; `mark` starts at its letter. Something must follow the
digits. A first half joins a second half that follows it as another such escape. -/
def unicodeEscape (mark digits : List Char) : Read CodeUnit :=
  let after := digits.drop 4
  if after.isEmpty then .error (.malformed .badUnicodeEscape mark)
  else match hexValues? (digits.take 4) with
    | none => .error (.malformed .badUnicodeEscape mark)
    | some code =>
      match after with
      | '\\' :: 'u' :: second =>
        if isHighHalf code && !(second.drop 4).isEmpty then
          match hexValues? (second.take 4) with
          | none => .error (.malformed .badUnicodeEscape ('u' :: second))
          | some other =>
            if isLowHalf other then
              .ok (.character (Char.ofNat (0x10000 + (code - 0xD800) * 0x400 + (other - 0xDC00))),
                second.drop 4)
            else .ok (.ofCode code, after)
        else .ok (.ofCode code, after)
      | _ => .ok (.ofCode code, after)

/-- Reads a text after its opening quote; `read` holds its characters since the last half, last
first. -/
def readText : (fuel : Nat) → (read characters : List Char) → Read Text
  | 0, _, _ => .error .unterminated
  | _ + 1, _, [] => .error .unterminated
  | _ + 1, read, '"' :: rest => .ok (String.ofList read.reverse, rest)
  | fuel + 1, read, '\\' :: rest =>
    match rest with
    | [] => .error .unterminated
    | 'u' :: digits =>
      match unicodeEscape rest digits with
      | .ok (.character character, rest) => readText fuel (character :: read) rest
      | .ok (.half half, rest) =>
        match readText fuel [] rest with
        | .ok (after, rest) => .ok (.broken (String.ofList read.reverse) half after, rest)
        | .error stop => .error stop
      | .error stop => .error stop
    | letter :: more =>
      match shortEscape? letter with
      | some character => readText fuel (character :: read) more
      | none => .error (.malformed .badEscape ('\\' :: rest))
  | fuel + 1, read, character :: rest =>
    if character.toNat < 0x20 then .error (.malformed .controlCharacter (character :: rest))
    else readText fuel (character :: read) rest

def takeWhole : List Char → List Char × List Char
  | '0' :: rest => (['0'], rest)
  | characters => (characters.takeWhile Numeral.isDigit, characters.dropWhile Numeral.isDigit)

def takeFraction : List Char → List Char × List Char
  | '.' :: rest =>
    let digits := rest.takeWhile Numeral.isDigit
    if digits.isEmpty then ([], '.' :: rest) else (digits, rest.dropWhile Numeral.isDigit)
  | characters => ([], characters)

/-- Reads a number after its sign; `start` is where it begins. -/
def readNumber (negative : Bool) (start characters : List Char) : Read Json :=
  let (whole, rest) := takeWhole characters
  if whole.isEmpty then .error (.malformed .noValue start)
  else
    let (fraction, afterFraction) := takeFraction rest
    match Numeral.takeExponent? afterFraction with
    | some (exponent, after) =>
      .ok (.float (Numeral.Parts.toDouble negative ⟨whole, fraction, exponent⟩), after)
    | none =>
      if !fraction.isEmpty then
        .ok (.float (Numeral.Parts.toDouble negative ⟨whole, fraction, 0⟩), afterFraction)
      else if Numeral.digitLimit < whole.length then .error (.tooManyDigits whole.length)
      else
        let size : Int := Numeral.ofDigits whole
        .ok (.int (if negative then -size else size), rest)

/-- The place of a stop at the opening quote, for a text that does not end. -/
def Stop.inText (opening : List Char) : Stop → Stop
  | .unterminated => .malformed .unterminatedText opening
  | stop => stop

mutual

/-- Reads a value, in which containers may stand inside each other `levels` deep. -/
def readValue : (fuel levels : Nat) → List Char → Read Json
  | 0, _, characters => .error (.malformed .noValue characters)
  | fuel + 1, levels, characters =>
    match characters with
    | '"' :: rest =>
      match readText fuel [] rest with
      | .ok (value, rest) => .ok (.text value, rest)
      | .error stop => .error (stop.inText characters)
    | '[' :: rest =>
      if levels = 0 then .error (.tooDeep .array)
      else match skip rest with
        | ']' :: rest => .ok (.array [], rest)
        | rest => readItems fuel (levels - 1) [] rest
    | '\x7b' :: rest =>
      if levels = 0 then .error (.tooDeep .object)
      else match skip rest with
        | '\x7d' :: rest => .ok (.object [], rest)
        | rest => readMembers fuel (levels - 1) [] rest
    | 'n' :: 'u' :: 'l' :: 'l' :: rest => .ok (.null, rest)
    | 't' :: 'r' :: 'u' :: 'e' :: rest => .ok (.bool true, rest)
    | 'f' :: 'a' :: 'l' :: 's' :: 'e' :: rest => .ok (.bool false, rest)
    | 'N' :: 'a' :: 'N' :: rest => .ok (.float .nan, rest)
    | 'I' :: 'n' :: 'f' :: 'i' :: 'n' :: 'i' :: 't' :: 'y' :: rest =>
      .ok (.float (.infinite false), rest)
    | '-' :: 'I' :: 'n' :: 'f' :: 'i' :: 'n' :: 'i' :: 't' :: 'y' :: rest =>
      .ok (.float (.infinite true), rest)
    | '-' :: rest => readNumber true characters rest
    | _ => readNumber false characters characters

/-- Reads items up to the closing bracket; `read` holds the items so far, last first. -/
def readItems : (fuel levels : Nat) → (read : List Json) → List Char → Read Json
  | 0, _, _, characters => .error (.malformed .noValue characters)
  | fuel + 1, levels, read, characters =>
    match readValue fuel levels characters with
    | .error stop => .error stop
    | .ok (item, rest) =>
      match skip rest with
      | ']' :: rest => .ok (.array (item :: read).reverse, rest)
      | ',' :: rest => readItems fuel levels (item :: read) (skip rest)
      | rest => .error (.malformed .noComma rest)

/-- Reads members up to the closing brace. A repeated name keeps its first place and its last
value. -/
def readMembers : (fuel levels : Nat) → (read : Members) → List Char → Read Json
  | 0, _, _, characters => .error (.malformed .noName characters)
  | fuel + 1, levels, read, characters =>
    match characters with
    | '"' :: rest =>
      match readText fuel [] rest with
      | .error stop => .error (stop.inText characters)
      | .ok (name, rest) =>
        match skip rest with
        | ':' :: rest =>
          match readValue fuel levels (skip rest) with
          | .error stop => .error stop
          | .ok (value, rest) =>
            match skip rest with
            | '\x7d' :: rest => .ok (.object (read.put name value), rest)
            | ',' :: rest => readMembers fuel levels (read.put name value) (skip rest)
            | rest => .error (.malformed .noComma rest)
        | rest => .error (.malformed .noColon rest)
    | _ => .error (.malformed .noName characters)

end

/-- The fault of a stop: lines and columns are counted from one, the offset from zero. -/
def Stop.fault (characters : List Char) : Stop → Fault
  | .tooManyDigits count => .tooManyDigits count
  | .tooDeep container => .tooDeep container
  | .unterminated => .malformed .unterminatedText 1 1 0
  | .malformed complaint left =>
    let offset := characters.length - left.length
    let before := characters.take offset
    let column := (before.reverse.takeWhile (· != '\n')).length + 1
    .malformed complaint (before.count '\n' + 1) column offset

/-- Reads a text that holds one value and white space around it, in which containers may stand
inside each other `levels` deep. Two steps of fuel for each character are always enough. -/
def readWithin (levels : Nat) (characters : List Char) : Except Fault Json :=
  match characters with
  | '\ufeff' :: _ => .error (.malformed .byteOrderMark 1 1 0)
  | _ =>
    match readValue (2 * characters.length + 2) levels (skip characters) with
    | .error stop => .error (stop.fault characters)
    | .ok (value, rest) =>
      match skip rest with
      | [] => .ok value
      | rest => .error ((Stop.malformed .extraData rest).fault characters)

def read [Nesting] (characters : List Char) : Except Fault Json :=
  readWithin Nesting.readable characters

end BlockReader.Json
