import BlockReader.Url.Letter.Composition
import BlockReader.Url.Letter.Direction
import BlockReader.Url.Letter.HostLetter
import BlockReader.Url.Letter.Joining
import BlockReader.Url.Letter.Punycode
import BlockReader.Url.Letter.Script
set_option autoImplicit false

namespace BlockReader.Host.Label

open Text (isAscii)

def mostCharacters : Nat := 63

/-- The mark in front of a label that is written in Punycode. -/
def punycodeMark : List Char := "xn--".toList

/-- Whether the hyphens of a label stand where they may: not at its ends, and not side by side at
its third and fourth place. -/
def hasGoodHyphens (label : List Char) : Bool :=
  label.head? != some '-' && label.getLast? != some '-' && (label.drop 2).take 2 != ['-', '-']

def endsInVirama (before : List Char) : Bool :=
  before.head?.any (fun character => Text.combiningClass character == Text.viramaClass)

/-- How the next letter joins, past the transparent ones. -/
def nextJoining? (characters : List Char) : Option Text.Joining :=
  (characters.map Text.joining).find? (· != .transparent)

def wouldJoin (before after : List Char) : Bool :=
  (nextJoining? before).any (fun joining => joining == .left || joining == .dual) &&
    (nextJoining? after).any (fun joining => joining == .right || joining == .dual)

def takesMiddleDot (character : Char) : Bool :=
  Text.Script.hiragana.has character || Text.Script.katakana.has character ||
    Text.Script.han.has character

/-- Whether a character may stand in a label between the characters before it, the nearest first,
and those after it. Letters, digits and hyphens may stand anywhere. The others are the Catalan
middle dot, the Greek sign before a numeral, the Hebrew signs of abbreviation, the Japanese middle
dot, and the two characters that join letters and keep them apart. -/
def mayStand (before : List Char) (character : Char) (after : List Char) : Bool :=
  if character.isLower || character.isDigit || character = '-' then true
  else if character = '\u00b7' then before.head? == some 'l' && after.head? == some 'l'
  else if character = '\u0375' then after.head?.any Text.Script.greek.has
  else if character = '\u05f3' || character = '\u05f4' then
    before.head?.any Text.Script.hebrew.has
  else if character = '\u30fb' then (before ++ after).any takesMiddleDot
  else if character = '\u200d' then endsInVirama before
  else if character = '\u200c' then endsInVirama before || wouldJoin before after
  else decide (0x80 ≤ character.toNat) && Text.isHostLetter character

/-- Whether all the characters of the rest of a label may stand where they do; `before` holds the
characters in front, the nearest first. -/
def allMayStand (before : List Char) : List Char → Bool
  | [] => true
  | character :: rest =>
    mayStand before character rest && allMayStand (character :: before) rest

/-- Whether a label can be read in one direction. One with letters from right to left, or with an
Arabic number, begins with such a letter, has none from left to right, has numbers of one kind only,
and ends in such a letter or a number, marks aside. -/
def hasOneDirection (label : List Char) : Bool :=
  let directions := label.map Text.direction
  let has (direction : Text.Direction) : Bool := directions.contains direction
  let last? := directions.reverse.find? (· != .mark)
  if has .right || has .arabicNumber then
    directions.head? == some .right && !has .left && !(has .number && has .arabicNumber) &&
      last?.any (fun last => last == .right || last == .number || last == .arabicNumber)
  else true

def isProper (label : List Char) : Bool :=
  !label.isEmpty && hasGoodHyphens label && !label.head?.any Text.isMark &&
    allMayStand [] label && Text.isComposed label && hasOneDirection label

/-- Whether a text behind the mark is the form of a label. A label has one form only. -/
def isForm (written : List Char) : Bool :=
  written.getLast? != some '-' &&
    (Punycode.decode? written).any fun label => isProper label && Punycode.encode label == written

/-- A label in ASCII, if it can be part of a name. No character is written as less than one, so no
label becomes shorter. -/
def toAscii? (label : List Char) : Option (List Char) :=
  if mostCharacters < label.length then none
  else if isAscii label then
    let isGood :=
      if punycodeMark.isPrefixOf label then isForm (label.drop punycodeMark.length)
      else isProper label
    if isGood then some label else none
  else
    let written := punycodeMark ++ Punycode.encode label
    if isProper label && decide (written.length ≤ mostCharacters) then some written else none

end BlockReader.Host.Label
