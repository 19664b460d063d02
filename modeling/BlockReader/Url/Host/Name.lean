import BlockReader.Url.Host.Label
import BlockReader.Url.Letter.SmallLetter
set_option autoImplicit false

namespace BlockReader.Host

inductive NameFault where
  | tooLong
  | emptyLabel
  deriving DecidableEq

namespace Name

def mostCharacters : Nat := 253

/-- The full stops that part the labels of a name. -/
def isStop (character : Char) : Bool :=
  ".\u3002\uff0e\uff61".toList.contains character

/-- The labels of a name, without the empty one behind a full stop at the end. -/
def labels (name : List Char) : List (List Char) :=
  let parts := name.splitOnP isStop
  if 1 < parts.length && parts.getLast? == some [] then parts.dropLast else parts

def endsInStop (name : List Char) : Bool :=
  name.getLast?.any isStop

/-- Whether a name, one with a full stop at its end or one without, is too long. -/
def isTooLong (name : List Char) : Bool :=
  decide (mostCharacters + (if endsInStop name then 1 else 0) < name.length)

/-- A name in ASCII, if it is the name of a host. It is written in small letters, and is not shorter
then. -/
def toAscii? (name : List Char) : Option (List Char) :=
  if isTooLong name then none
  else
    let small := Text.inSmallLetters name
    match (labels small).mapM Label.toAscii? with
    | none => none
    | some written =>
      let whole := ['.'].intercalate written ++ if endsInStop small then ['.'] else []
      if isTooLong whole then none else some whole

/-- What is wrong with a name in ASCII, if it holds a label in Punycode. -/
def fault? (name : List Char) : Option NameFault :=
  if !Text.holds Label.punycodeMark name then none
  else if isTooLong name then some .tooLong
  else if (labels name).any List.isEmpty then some .emptyLabel
  else none

end Name

end BlockReader.Host
