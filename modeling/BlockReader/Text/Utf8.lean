set_option autoImplicit false

namespace BlockReader.Utf8

inductive Reason where
  | startByte
  | continuationByte
  | endOfData
  deriving DecidableEq

/-- A fault in the bytes from `start` up to, not including, `stop`. -/
structure Fault where
  start : Nat
  stop : Nat
  reason : Reason
  deriving DecidableEq

def Reason.message : Reason → String
  | .startByte => "invalid start byte"
  | .continuationByte => "invalid continuation byte"
  | .endOfData => "unexpected end of data"

/-- What the front of a sequence of bytes holds. -/
inductive Front where
  | character (code width : Nat) (rest : List UInt8)
  | fault (reason : Reason) (length : Nat) (rest : List UInt8)

def within (low high : Nat) (byte : UInt8) : Bool :=
  decide (low ≤ byte.toNat ∧ byte.toNat ≤ high)

/-- Reads the continuation bytes of a character of which `seen` bytes have been read. The next
must lie between `low` and `high`; any later one may be any continuation byte. -/
def continuation (code seen : Nat) : (missing low high : Nat) → List UInt8 → Front
  | 0, _, _, bytes => .character code seen bytes
  | _ + 1, _, _, [] => .fault .endOfData seen []
  | missing + 1, low, high, byte :: rest =>
    if within low high byte then
      continuation (code * 64 + byte.toNat % 64) (seen + 1) missing 0x80 0xBF rest
    else .fault .continuationByte seen (byte :: rest)

/-- Reads one character. The first byte decides how many follow and which second bytes exclude
the longer spellings, the surrogates and what lies past the last code point. -/
def front (lead : UInt8) (rest : List UInt8) : Front :=
  let code := lead.toNat
  if code < 0x80 then .character code 1 rest
  else if code < 0xC2 then .fault .startByte 1 rest
  else if code < 0xE0 then continuation (code % 32) 1 1 0x80 0xBF rest
  else if code < 0xF0 then
    continuation (code % 16) 1 2 (if code = 0xE0 then 0xA0 else 0x80)
      (if code = 0xED then 0x9F else 0xBF) rest
  else if code < 0xF5 then
    continuation (code % 8) 1 3 (if code = 0xF0 then 0x90 else 0x80)
      (if code = 0xF4 then 0x8F else 0xBF) rest
  else .fault .startByte 1 rest

def Front.rest : Front → List UInt8
  | .character _ _ rest => rest
  | .fault _ _ rest => rest

theorem continuation_rest_length (code seen missing low high : Nat) (bytes : List UInt8) :
    (continuation code seen missing low high bytes).rest.length ≤ bytes.length := by
  induction missing generalizing code seen low high bytes with
  | zero => cases bytes <;> exact Nat.le_refl _
  | succ missing ih =>
    cases bytes with
    | nil => exact Nat.le_refl _
    | cons byte rest =>
      rw [continuation]
      split
      · exact Nat.le_trans (ih _ _ _ _ rest) (Nat.le_succ _)
      · exact Nat.le_refl _

theorem front_rest_length (lead : UInt8) (rest : List UInt8) :
    (front lead rest).rest.length ≤ rest.length := by
  simp only [front]
  split
  · exact Nat.le_refl _
  split
  · exact Nat.le_refl _
  split
  · exact continuation_rest_length _ _ _ _ _ rest
  split
  · exact continuation_rest_length _ _ _ _ _ rest
  split
  · exact continuation_rest_length _ _ _ _ _ rest
  · exact Nat.le_refl _

/-- Decodes the rest of a sequence of which `offset` bytes and the characters in `read`, last
first, have been read. -/
def decodeFrom (offset : Nat) (read : List Char) (bytes : List UInt8) :
    Except Fault (List Char) :=
  match bytes with
  | [] => .ok read.reverse
  | lead :: tail =>
    match _found : front lead tail with
    | .character code width rest =>
      decodeFrom (offset + width) (Char.ofNat code :: read) rest
    | .fault reason length _ => .error ⟨offset, offset + length, reason⟩
termination_by bytes.length
decreasing_by
  have bound := front_rest_length lead tail
  rw [_found] at bound
  exact Nat.lt_succ_of_le bound

/-- The characters that the bytes spell, or the first fault. -/
def decode (bytes : List UInt8) : Except Fault (List Char) :=
  decodeFrom 0 [] bytes

/-- The characters that the bytes spell, with U+FFFD for each faulty range. -/
def decodeLossy (bytes : List UInt8) : List Char :=
  match bytes with
  | [] => []
  | lead :: tail =>
    match _found : front lead tail with
    | .character code _ rest => Char.ofNat code :: decodeLossy rest
    | .fault _ _ rest => Char.ofNat 0xFFFD :: decodeLossy rest
termination_by bytes.length
decreasing_by
  all_goals
    have bound := front_rest_length lead tail
    rw [_found] at bound
    exact Nat.lt_succ_of_le bound

def encode (text : String) : List UInt8 :=
  text.toUTF8.toList

end BlockReader.Utf8
