import BlockReader.Text.Basic
import BlockReader.Text.Printable
set_option autoImplicit false

namespace BlockReader.Text

def hexDigit (value : Nat) : Char :=
  Char.ofNat (if value < 10 then 0x30 + value else 0x57 + value)

/-- The last `width` hexadecimal digits of a number. -/
def hex : (width number : Nat) → List Char
  | 0, _ => []
  | width + 1, number => hex width (number / 16) ++ [hexDigit (number % 16)]

/-- Double quotes are used only around text with a single quote and no double one. -/
def quoteFor (hasSingle hasDouble : Bool) : Char :=
  if hasSingle && !hasDouble then '"' else '\''

def codeEscape (code : Nat) : List Char :=
  if code < 0x100 then '\\' :: 'x' :: hex 2 code
  else if code < 0x10000 then '\\' :: 'u' :: hex 4 code
  else '\\' :: 'U' :: hex 8 code

/-- A character inside quotes: the quote and the backslash are escaped, and so is what is hidden. -/
def escapeCharacter (quote character : Char) : List Char :=
  if character = quote ∨ character = '\\' then ['\\', character]
  else if character = '\t' then ['\\', 't']
  else if character = '\n' then ['\\', 'n']
  else if character = '\r' then ['\\', 'r']
  else if isPrintable character then [character]
  else codeEscape character.toNat

def escapeInside (quote : Char) : Text → List Char
  | proper value => value.toList.flatMap (escapeCharacter quote)
  | broken before half after =>
    before.toList.flatMap (escapeCharacter quote) ++ codeEscape (halfCode half) ++
      escapeInside quote after

/-- A text between quotes; halves are hidden characters. -/
def quote (text : Text) : List Char :=
  let characters := text.replaced
  let mark := quoteFor (characters.contains '\'') (characters.contains '"')
  mark :: text.escapeInside mark ++ [mark]

def quoted (text : Text) : String :=
  String.ofList text.quote

/-- A byte inside quotes: only printable ASCII is shown as it is. -/
def escapeByte (mark : Char) (byte : UInt8) : List Char :=
  let code := byte.toNat
  let character := Char.ofNat code
  if code < 0x80 ∧ (character = mark ∨ character = '\\') then ['\\', character]
  else if code = 9 then ['\\', 't']
  else if code = 10 then ['\\', 'n']
  else if code = 13 then ['\\', 'r']
  else if 0x20 ≤ code ∧ code < 0x7F then [character]
  else '\\' :: 'x' :: hex 2 code

/-- Bytes between quotes, marked as such by a leading `b`. -/
def quotedBytes (bytes : List UInt8) : String :=
  let mark := quoteFor (bytes.contains 0x27) (bytes.contains 0x22)
  String.ofList ('b' :: mark :: bytes.flatMap (escapeByte mark) ++ [mark])

/-- A text as it is printed: halves are shown by their codes. -/
def printed : Text → String
  | proper value => value
  | broken before half after =>
    before ++ String.ofList (codeEscape (halfCode half)) ++ after.printed

end BlockReader.Text
