import BlockReader.Digest
import BlockReader.Proofs.Base58
set_option autoImplicit false

namespace BlockReader.Digest

variable {kind : DigestKind}

theorem utf8ByteSize_ofList (characters : List Char)
    (narrow : ∀ character ∈ characters, character.utf8Size = 1) :
    (String.ofList characters).utf8ByteSize = characters.length := by
  induction characters with
  | nil => rfl
  | cons character rest ih =>
    obtain ⟨first, others⟩ := List.forall_mem_cons.mp narrow
    rw [String.ofList_cons, String.utf8ByteSize_append, String.utf8ByteSize_singleton, first,
      ih others, List.length_cons, Nat.add_comm]

theorem utf8Size_of_mem_encode (bytes : List UInt8) (character : Char)
    (member : character ∈ Base58.encode bytes) : character.utf8Size = 1 := by
  have all : Base58.alphabet.all (fun letter => letter.utf8Size == 1) = true := by decide
  have narrow := List.all_eq_true.mp all character (Base58.mem_encode bytes character member)
  exact eq_of_beq narrow

/-- No digest has a spelling past the limit: the largest one of each kind fits, and leading zero
bytes never make a spelling longer. -/
theorem utf8ByteSize_text_le (digest : Digest kind) :
    digest.text.utf8ByteSize ≤ kind.spellingLimit := by
  rw [text, utf8ByteSize_ofList _ (utf8Size_of_mem_encode digest.bytes)]
  have sized := digest.length_eq
  cases kind with
  | hash => exact Base58.length_encode_le digest.bytes 32 12 sized (by norm_num)
  | signature => exact Base58.length_encode_le digest.bytes 64 24 sized (by norm_num)

theorem parse_text (digest : Digest kind) : parse kind (.proper digest.text) = .ok digest := by
  have fits : ¬ kind.spellingLimit < digest.text.utf8ByteSize :=
    Nat.not_lt.mpr (utf8ByteSize_text_le digest)
  have read : Base58.decode? digest.text.toList = some digest.bytes := by
    rw [text, String.toList_ofList, Base58.decode?_encode]
  rw [parse, if_neg fits, read]
  exact dif_pos digest.length_eq

theorem text_of_parse (spelling : Text) (digest : Digest kind)
    (read : parse kind spelling = .ok digest) : spelling = .proper digest.text := by
  unfold parse at read
  split at read
  · cases read
  rename_i value
  split at read
  · cases read
  split at read
  · cases read
  rename_i bytes spelled
  split at read
  · cases read
    rw [text, ← (Base58.decode?_eq_some_iff _ _).mp spelled, String.ofList_toList]
  · cases read

/-- A text spells a digest exactly when it is the text of that digest. -/
theorem parse_eq_ok_iff (spelling : Text) (digest : Digest kind) :
    parse kind spelling = .ok digest ↔ spelling = .proper digest.text := by
  constructor
  · exact text_of_parse spelling digest
  · rintro rfl
    exact parse_text digest

/-- Why a text spells no digest of a kind: it has a lone half, is too long for one, has a character
outside the alphabet, or spells another number of bytes. -/
inductive Misspelled (kind : DigestKind) : Text → DigestFault → Prop
  | broken (before : String) (half : Fin 0x800) (after : Text) :
    Misspelled kind (.broken before half after) (.notEncodable (.broken before half after))
  | tooLong (spelling : String) (long : kind.spellingLimit < spelling.utf8ByteSize) :
    Misspelled kind spelling (.wrongSize kind)
  | foreign (spelling : String) (short : spelling.utf8ByteSize ≤ kind.spellingLimit)
    (character : Char) (inside : character ∈ spelling.toList)
    (outside : character ∉ Base58.alphabet) : Misspelled kind spelling (.notBase58 kind)
  | wrongSize (spelling : String) (short : spelling.utf8ByteSize ≤ kind.spellingLimit)
    (bytes : List UInt8) (spelled : spelling.toList = Base58.encode bytes)
    (other : bytes.length ≠ kind.size) : Misspelled kind spelling (.wrongSize kind)

theorem misspelled_of_parse {spelling : Text} {fault : DigestFault}
    (refused : parse kind spelling = .error fault) : Misspelled kind spelling fault := by
  unfold parse at refused
  split at refused
  · cases refused
    exact .broken ..
  rename_i value
  split at refused
  · rename_i long
    cases refused
    exact .tooLong value long
  rename_i short
  split at refused
  · rename_i none
    cases refused
    obtain ⟨character, inside, outside⟩ := (Base58.decode?_eq_none_iff _).mp none
    exact .foreign value (Nat.not_lt.mp short) character inside outside
  rename_i bytes read
  split at refused
  · cases refused
  · rename_i other
    cases refused
    exact .wrongSize value (Nat.not_lt.mp short) bytes ((Base58.decode?_eq_some_iff _ _).mp read)
      other

/-- A text is refused with the fault that it has, and with no other. -/
theorem parse_eq_error_iff (kind : DigestKind) (spelling : Text) (fault : DigestFault) :
    parse kind spelling = .error fault ↔ Misspelled kind spelling fault := by
  refine ⟨misspelled_of_parse, fun misspelled => ?_⟩
  cases misspelled with
  | broken before half after => rfl
  | tooLong spelling long => rw [parse, if_pos long]
  | foreign spelling short character inside outside =>
    rw [parse, if_neg (Nat.not_lt.mpr short),
      (Base58.decode?_eq_none_iff _).mpr ⟨character, inside, outside⟩]
  | wrongSize spelling short bytes spelled other =>
    rw [parse, if_neg (Nat.not_lt.mpr short), (Base58.decode?_eq_some_iff _ _).mpr spelled]
    exact dif_neg other

end BlockReader.Digest
