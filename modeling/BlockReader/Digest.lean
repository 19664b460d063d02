import BlockReader.Base58
import BlockReader.Text.Basic
set_option autoImplicit false

namespace BlockReader

inductive DigestKind where
  | hash
  | signature
  deriving DecidableEq

namespace DigestKind

def size : DigestKind → Nat
  | .hash => 32
  | .signature => 64

/-- The most bytes that a spelling takes: as many digits as the largest digest needs. -/
def spellingLimit : DigestKind → Nat
  | .hash => 44
  | .signature => 88

end DigestKind

structure Digest (kind : DigestKind) where
  bytes : List UInt8
  length_eq : bytes.length = kind.size
  deriving DecidableEq

/-- Why a text spells no digest. A text with lone halves is not even looked at. -/
inductive DigestFault where
  | notEncodable (spelling : Text)
  | wrongSize (kind : DigestKind)
  | notBase58 (kind : DigestKind)
  deriving DecidableEq

namespace Digest

def text {kind : DigestKind} (digest : Digest kind) : String :=
  String.ofList (Base58.encode digest.bytes)

/-- Reads a spelling: it must have no halves, must not be too long, hold only digits of base 58,
and give the right number of bytes; the first of these that fails is reported. -/
def parse (kind : DigestKind) (spelling : Text) : Except DigestFault (Digest kind) :=
  match spelling with
  | .broken .. => .error (.notEncodable spelling)
  | .proper value =>
    if kind.spellingLimit < value.utf8ByteSize then .error (.wrongSize kind)
    else match Base58.decode? value.toList with
      | none => .error (.notBase58 kind)
      | some bytes =>
        if length_eq : bytes.length = kind.size then .ok ⟨bytes, length_eq⟩
        else .error (.wrongSize kind)

/-- The hash of zero bytes only, which stands for a parent that is no longer kept. -/
def zeroHash : Digest .hash :=
  ⟨List.replicate 32 0, by simp [DigestKind.size]⟩

end Digest

end BlockReader
