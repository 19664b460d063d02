import BlockReader.Base58
import BlockReader.Proofs.Numeral.Digits
set_option autoImplicit false

namespace BlockReader.Base58

open Radix (rebase)

theorem digitValue?_digit (value : Nat) (below : value < 58) :
    digitValue? (digit value) = some value := by
  have all : ∀ value < 58, digitValue? (digit value) = some value := by decide
  exact all value below

theorem digitValue?_eq_some (character : Char) (value : Nat)
    (found : digitValue? character = some value) : value < 58 ∧ digit value = character := by
  obtain ⟨inside, same, _⟩ := List.idxOf?_eq_some_iff.mp found
  have size : alphabet.length = 58 := by decide
  refine ⟨by omega, ?_⟩
  rw [digit, List.getD_eq_getElem?_getD, List.getElem?_eq_getElem inside, Option.getD_some, same]

/-- A text has values exactly when it consists of digits, and those are the digits of its values. -/
theorem mapM_digitValue?_eq_some_iff (text : List Char) (values : List Nat) :
    text.mapM digitValue? = some values ↔
      (∀ value ∈ values, value < 58) ∧ text = values.map digit := by
  induction text generalizing values with
  | nil => cases values <;> simp
  | cons character rest ih =>
    rw [List.mapM_cons]
    constructor
    · intro read
      obtain ⟨value, found, read⟩ := Option.bind_eq_some_iff.mp read
      obtain ⟨others, readRest, same⟩ := Option.bind_eq_some_iff.mp read
      obtain ⟨small, spelled⟩ := digitValue?_eq_some character value found
      obtain ⟨smallRest, spelledRest⟩ := (ih others).mp readRest
      cases same
      exact ⟨List.forall_mem_cons.mpr ⟨small, smallRest⟩,
        by rw [List.map_cons, spelled, spelledRest]⟩
    · rintro ⟨below, spelled⟩
      cases values with
      | nil => cases spelled
      | cons value others =>
        rw [List.map_cons, List.cons.injEq] at spelled
        obtain ⟨small, smallRest⟩ := List.forall_mem_cons.mp below
        rw [spelled.1, digitValue?_digit value small, (ih others).mpr ⟨smallRest, spelled.2⟩]
        rfl

theorem takeWhile_zero_length (bytes : List UInt8) :
    (bytes.takeWhile (· == 0)).length = Radix.leadingZeros (bytes.map UInt8.toNat) := by
  rw [Radix.leadingZeros, List.takeWhile_map, List.length_map]
  congr 2
  funext byte
  simp [← UInt8.toNat_inj]

theorem encode_eq_rebase (bytes : List UInt8) :
    encode bytes = (rebase 256 58 (bytes.map UInt8.toNat)).map digit := by
  have one : digit 0 = '1' := rfl
  rw [encode, takeWhile_zero_length, rebase, List.map_append, List.map_replicate, one]

theorem decode?_eq_rebase (text : List Char) :
    decode? text =
      (text.mapM digitValue?).map fun values => (rebase 58 256 values).map UInt8.ofNat := by
  rw [decode?]
  congr 1
  funext values
  rw [rebase, List.map_append, List.map_replicate]
  rfl

theorem toNat_lt (bytes : List UInt8) (digit : Nat) (member : digit ∈ bytes.map UInt8.toNat) :
    digit < 256 := by
  obtain ⟨byte, _, rfl⟩ := List.mem_map.mp member
  exact byte.toNat_lt

theorem map_ofNat_toNat (bytes : List UInt8) :
    (bytes.map UInt8.toNat).map UInt8.ofNat = bytes := by
  rw [List.map_map]
  exact List.map_id'' (fun _ => UInt8.ofNat_toNat) bytes

theorem map_toNat_ofNat (values : List Nat) (below : ∀ value ∈ values, value < 256) :
    (values.map UInt8.ofNat).map UInt8.toNat = values := by
  rw [List.map_map]
  conv_rhs => rw [← List.map_id values]
  apply List.map_congr_left
  intro value member
  exact UInt8.toNat_ofNat_of_lt' (below value member)

theorem decode?_encode (bytes : List UInt8) : decode? (encode bytes) = some bytes := by
  have values : (encode bytes).mapM digitValue? =
      some (rebase 256 58 (bytes.map UInt8.toNat)) := by
    rw [mapM_digitValue?_eq_some_iff, encode_eq_rebase]
    exact ⟨Radix.rebase_lt 256 58 (by decide) _, rfl⟩
  rw [decode?_eq_rebase, values, Option.map_some,
    Radix.rebase_rebase 256 58 (by decide) (by decide) _ (toNat_lt bytes), map_ofNat_toNat]

/-- Each text of the alphabet is written for exactly one sequence of bytes, the one it spells. -/
theorem decode?_eq_some_iff (text : List Char) (bytes : List UInt8) :
    decode? text = some bytes ↔ text = encode bytes := by
  constructor
  · intro read
    rw [decode?_eq_rebase] at read
    obtain ⟨values, found, rfl⟩ := Option.map_eq_some_iff.mp read
    obtain ⟨below, spelled⟩ := (mapM_digitValue?_eq_some_iff text values).mp found
    rw [encode_eq_rebase, map_toNat_ofNat _ (Radix.rebase_lt 58 256 (by decide) values),
      Radix.rebase_rebase 58 256 (by decide) (by decide) values below, spelled]
  · rintro rfl
    exact decode?_encode bytes

theorem mapM_digitValue?_eq_none_iff (text : List Char) :
    text.mapM digitValue? = none ↔ ∃ character ∈ text, character ∉ alphabet := by
  induction text with
  | nil => exact ⟨nofun, nofun⟩
  | cons character rest ih =>
    rw [List.exists_mem_cons_iff, ← ih, ← List.idxOf?_eq_none_iff, List.mapM_cons]
    show (digitValue? character >>= _) = none ↔ digitValue? character = none ∨ _
    cases digitValue? character with
    | none => exact ⟨fun _ => .inl rfl, fun _ => rfl⟩
    | some value =>
      cases rest.mapM digitValue? with
      | none => exact ⟨fun _ => .inr rfl, fun _ => rfl⟩
      | some values => exact ⟨nofun, nofun⟩

theorem decode?_eq_none_iff (text : List Char) :
    decode? text = none ↔ ∃ character ∈ text, character ∉ alphabet := by
  rw [decode?, Option.map_eq_none_iff, mapM_digitValue?_eq_none_iff]

/-- As many digits as the largest sequence of bytes of a length needs are enough for all of that
length, also for those with leading zeros. -/
theorem length_encode_le (bytes : List UInt8) (size extra : Nat) (sized : bytes.length = size)
    (reached : 256 ^ size ≤ 58 ^ (size + extra)) : (encode bytes).length ≤ size + extra := by
  rw [encode_eq_rebase, List.length_map]
  apply Radix.length_rebase_le 256 58 size extra (by decide) (by decide) reached
  · rw [List.length_map, sized]
  · exact toNat_lt bytes

theorem mem_encode (bytes : List UInt8) (character : Char) (member : character ∈ encode bytes) :
    character ∈ alphabet := by
  rw [encode_eq_rebase] at member
  obtain ⟨value, inside, rfl⟩ := List.mem_map.mp member
  have all : ∀ value < 58, digit value ∈ alphabet := by decide
  exact all value (Radix.rebase_lt 256 58 (by decide) _ value inside)

end BlockReader.Base58
