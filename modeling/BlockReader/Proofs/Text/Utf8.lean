import BlockReader.Text.Blank
import BlockReader.Text.Utf8
import Mathlib.Data.List.TakeWhile
set_option autoImplicit false

namespace BlockReader.Text

section Strip

variable {α β : Type} {spell : α → List β} {outer : α → Bool} {outerPart : β → Bool}
  (filled : ∀ item, spell item ≠ [])
  (alike : ∀ item, ∀ part ∈ spell item, outerPart part = outer item)

include filled alike

theorem dropWhile_flatMap (items : List α) :
    (items.flatMap spell).dropWhile outerPart = (items.dropWhile outer).flatMap spell := by
  induction items with
  | nil => rfl
  | cons item rest ih =>
    rw [List.flatMap_cons, List.dropWhile_cons]
    cases blank : outer item with
    | true =>
      rw [List.dropWhile_append_of_pos, ih, if_pos rfl]
      intro part inside
      rw [alike item part inside, blank]
    | false =>
      rw [if_neg Bool.false_ne_true, List.flatMap_cons]
      obtain ⟨part, parts, spelled⟩ := List.exists_cons_of_ne_nil (filled item)
      have solid : outerPart part = false := by
        rw [alike item part (by rw [spelled]; exact List.mem_cons_self), blank]
      rw [spelled, List.cons_append, List.dropWhile_cons, solid, if_neg Bool.false_ne_true]

/-- The ends may be taken off before the items are spelled, or after. -/
theorem strip_flatMap (items : List α) :
    strip outerPart (items.flatMap spell) = (strip outer items).flatMap spell := by
  have filledBack (item : α) : (List.reverse ∘ spell) item ≠ [] := fun none =>
    filled item (List.reverse_eq_nil_iff.mp none)
  have alikeBack (item : α) (part : β) (inside : part ∈ (List.reverse ∘ spell) item) :
      outerPart part = outer item := alike item part (List.mem_reverse.mp inside)
  have back : List.reverse ∘ (List.reverse ∘ spell) = spell :=
    funext fun item => List.reverse_reverse (spell item)
  rw [strip, dropWhile_flatMap filled alike, List.reverse_flatMap,
    dropWhile_flatMap filledBack alikeBack, List.reverse_flatMap, back, strip]

end Strip

theorem exists_ends {α : Type} (outer : α → Bool) (items : List α) : ∃ before behind,
    items = before ++ strip outer items ++ behind ∧
      ∀ item ∈ before ++ behind, outer item = true := by
  have front := List.takeWhile_append_dropWhile (p := outer) (l := items)
  have back := List.takeWhile_append_dropWhile (p := outer) (l := (items.dropWhile outer).reverse)
  refine ⟨items.takeWhile outer, ((items.dropWhile outer).reverse.takeWhile outer).reverse, ?_, ?_⟩
  · rw [strip, List.append_assoc, ← List.reverse_append, back, List.reverse_reverse, front]
  · intro item inside
    rcases List.mem_append.mp inside with before | behind
    · exact List.all_eq_true.mp List.all_takeWhile item before
    · exact List.all_eq_true.mp List.all_takeWhile item (List.mem_reverse.mp behind)

theorem strip_eq_nil_iff {α : Type} (outer : α → Bool) (items : List α) :
    strip outer items = [] ↔ ∀ item ∈ items, outer item = true := by
  constructor
  · intro empty
    obtain ⟨before, behind, parted, all⟩ := exists_ends outer items
    rw [empty, List.append_nil] at parted
    rw [parted]
    exact all
  · intro all
    rw [strip, List.dropWhile_eq_nil_iff.mpr all]
    rfl

theorem dropWhile_of_solid {α : Type} {outer : α → Bool} {items : List α}
    (solid : ∀ item ∈ items, outer item = false) : items.dropWhile outer = items := by
  cases items with
  | nil => rfl
  | cons item rest =>
    rw [List.dropWhile_cons, solid item List.mem_cons_self, if_neg Bool.false_ne_true]

theorem strip_of_solid {α : Type} {outer : α → Bool} {items : List α}
    (solid : ∀ item ∈ items, outer item = false) : strip outer items = items := by
  have back : ∀ item ∈ items.reverse, outer item = false :=
    fun item inside => solid item (List.mem_reverse.mp inside)
  rw [strip, dropWhile_of_solid solid, dropWhile_of_solid back, List.reverse_reverse]

/-- White space among the characters that one byte spells. -/
def isBlankLetter (character : Char) : Bool :=
  decide (character.toNat = 0x20 ∨ 9 ≤ character.toNat ∧ character.toNat ≤ 13)

theorem isBlankByte_eq (byte : UInt8) :
    isBlankByte byte = decide (byte.toNat = 0x20 ∨ 9 ≤ byte.toNat ∧ byte.toNat ≤ 13) := by
  rw [Bool.eq_iff_iff, isBlankByte, Bool.or_eq_true, Bool.and_eq_true, decide_eq_true_iff,
    decide_eq_true_iff, decide_eq_true_iff, beq_iff_eq, ← UInt8.toNat_inj, UInt8.le_iff_toNat_le,
    UInt8.le_iff_toNat_le]
  rfl

end BlockReader.Text

namespace BlockReader.Utf8

open Text (strip isBlankByte isBlankLetter)

/-- The bytes that spell a sequence of characters. -/
def spelling (characters : List Char) : List UInt8 :=
  characters.flatMap String.utf8EncodeChar

theorem continuation_zero_eq_character_iff (code seen low high : Nat) (bytes rest : List UInt8)
    (result width : Nat) : continuation code seen 0 low high bytes = .character result width rest ↔
      code = result ∧ seen = width ∧ bytes = rest := by
  rw [continuation, Front.character.injEq]

/-- A character with a continuation byte missing goes on exactly with such a byte. -/
theorem continuation_succ_eq_character_iff (code seen missing low high : Nat)
    (bytes rest : List UInt8) (result width : Nat) :
    continuation code seen (missing + 1) low high bytes = .character result width rest ↔
      ∃ byte more, bytes = byte :: more ∧ (low ≤ byte.toNat ∧ byte.toNat ≤ high) ∧
        continuation (code * 64 + byte.toNat % 64) (seen + 1) missing 0x80 0xBF more =
          .character result width rest := by
  cases bytes with
  | nil =>
    constructor
    · intro impossible
      cases impossible
    · rintro ⟨byte, more, impossible, _⟩
      cases impossible
  | cons byte more =>
    rw [continuation, within]
    by_cases inside : low ≤ byte.toNat ∧ byte.toNat ≤ high
    · rw [decide_eq_true inside, if_pos rfl]
      constructor
      · intro next
        exact ⟨byte, more, rfl, inside, next⟩
      · rintro ⟨_, _, same, _, next⟩
        cases same
        exact next
    · rw [decide_eq_false inside, if_neg Bool.false_ne_true]
      constructor
      · intro impossible
        cases impossible
      · rintro ⟨_, _, same, other, _⟩
        cases same
        exact absurd other inside

theorem toNat_ofNat (code : Nat) (valid : code.isValidChar) : (Char.ofNat code).toNat = code := by
  rw [Char.ofNat, dif_pos valid]
  rfl

theorem ofNat_eq (number : Nat) (byte : UInt8) (same : number = byte.toNat) :
    UInt8.ofNat number = byte := by
  rw [same, UInt8.ofNat_toNat]

theorem toNat_byte (number : Nat) (small : number < 256) : (UInt8.ofNat number).toNat = number :=
  UInt8.toNat_ofNat_of_lt' small

/-- The bytes of a code point. -/
theorem utf8EncodeChar_ofNat (code : Nat) (valid : code.isValidChar) :
    String.utf8EncodeChar (Char.ofNat code) =
      if code ≤ 0x7F then [UInt8.ofNat code]
      else if code ≤ 0x7FF then
        [UInt8.ofNat (code / 64 % 0x20 + 0xC0), UInt8.ofNat (code % 0x40 + 0x80)]
      else if code ≤ 0xFFFF then
        [UInt8.ofNat (code / 4096 % 0x10 + 0xE0), UInt8.ofNat (code / 64 % 0x40 + 0x80),
          UInt8.ofNat (code % 0x40 + 0x80)]
      else
        [UInt8.ofNat (code / 262144 % 0x08 + 0xF0), UInt8.ofNat (code / 4096 % 0x40 + 0x80),
          UInt8.ofNat (code / 64 % 0x40 + 0x80), UInt8.ofNat (code % 0x40 + 0x80)] := by
  have same : (Char.ofNat code).val.toNat = code := toNat_ofNat code valid
  rw [String.utf8EncodeChar, same]

section Sequences

variable (lead second third fourth : UInt8)

theorem spelled_two (first : 0xC2 ≤ lead.toNat ∧ lead.toNat < 0xE0)
    (later : 0x80 ≤ second.toNat ∧ second.toNat ≤ 0xBF) :
    let code := lead.toNat % 32 * 64 + second.toNat % 64
    code.isValidChar ∧ String.utf8EncodeChar (Char.ofNat code) = [lead, second] := by
  intro code
  have range : 0x7F < code ∧ code ≤ 0x7FF := by omega
  have valid : code.isValidChar := .inl (by omega)
  refine ⟨valid, ?_⟩
  rw [utf8EncodeChar_ofNat code valid, if_neg (by omega), if_pos range.2,
    ofNat_eq _ lead (by omega), ofNat_eq _ second (by omega)]

theorem spelled_three (first : 0xE0 ≤ lead.toNat ∧ lead.toNat < 0xF0)
    (next : (if lead.toNat = 0xE0 then 0xA0 else 0x80) ≤ second.toNat ∧
      second.toNat ≤ (if lead.toNat = 0xED then 0x9F else 0xBF))
    (later : 0x80 ≤ third.toNat ∧ third.toNat ≤ 0xBF) :
    let code := (lead.toNat % 16 * 64 + second.toNat % 64) * 64 + third.toNat % 64
    code.isValidChar ∧ String.utf8EncodeChar (Char.ofNat code) = [lead, second, third] := by
  intro code
  have notLong : lead.toNat = 0xE0 → 0xA0 ≤ second.toNat := by
    intro least
    rw [if_pos least] at next
    exact next.1
  have notHalf : lead.toNat = 0xED → second.toNat ≤ 0x9F := by
    intro half
    rw [if_pos half] at next
    exact next.2
  have inside : 0x80 ≤ second.toNat ∧ second.toNat ≤ 0xBF := by
    split at next <;> split at next <;> omega
  have range : 0x7FF < code ∧ code ≤ 0xFFFF := by omega
  have valid : code.isValidChar := by
    rcases Nat.lt_or_ge code 0xD800 with below | above
    · exact .inl below
    · exact .inr (by omega)
  refine ⟨valid, ?_⟩
  rw [utf8EncodeChar_ofNat code valid, if_neg (by omega), if_neg (by omega), if_pos range.2,
    ofNat_eq _ lead (by omega), ofNat_eq _ second (by omega), ofNat_eq _ third (by omega)]

theorem spelled_four (first : 0xF0 ≤ lead.toNat ∧ lead.toNat < 0xF5)
    (next : (if lead.toNat = 0xF0 then 0x90 else 0x80) ≤ second.toNat ∧
      second.toNat ≤ (if lead.toNat = 0xF4 then 0x8F else 0xBF))
    (later : 0x80 ≤ third.toNat ∧ third.toNat ≤ 0xBF)
    (last : 0x80 ≤ fourth.toNat ∧ fourth.toNat ≤ 0xBF) :
    let code := ((lead.toNat % 8 * 64 + second.toNat % 64) * 64 + third.toNat % 64) * 64 +
      fourth.toNat % 64
    code.isValidChar ∧
      String.utf8EncodeChar (Char.ofNat code) = [lead, second, third, fourth] := by
  intro code
  have notLong : lead.toNat = 0xF0 → 0x90 ≤ second.toNat := by
    intro least
    rw [if_pos least] at next
    exact next.1
  have notPast : lead.toNat = 0xF4 → second.toNat ≤ 0x8F := by
    intro most
    rw [if_pos most] at next
    exact next.2
  have inside : 0x80 ≤ second.toNat ∧ second.toNat ≤ 0xBF := by
    split at next <;> split at next <;> omega
  have range : 0xFFFF < code ∧ code < 0x110000 := by omega
  have valid : code.isValidChar := .inr (by omega)
  refine ⟨valid, ?_⟩
  rw [utf8EncodeChar_ofNat code valid, if_neg (by omega), if_neg (by omega), if_neg (by omega),
    ofNat_eq _ lead (by omega), ofNat_eq _ second (by omega), ofNat_eq _ third (by omega),
    ofNat_eq _ fourth (by omega)]

end Sequences

/-- A character that is read stands in front, in the one spelling that it has. -/
theorem spelled_of_front (lead : UInt8) (tail rest : List UInt8) (code width : Nat)
    (read : front lead tail = .character code width rest) :
    code.isValidChar ∧ lead :: tail = String.utf8EncodeChar (Char.ofNat code) ++ rest := by
  unfold front at read
  dsimp only at read
  split at read
  · rename_i one
    cases read
    have valid : lead.toNat.isValidChar := .inl (by omega)
    refine ⟨valid, ?_⟩
    rw [utf8EncodeChar_ofNat _ valid, if_pos (by omega), ofNat_eq _ lead rfl,
      List.singleton_append]
  split at read
  · cases read
  split at read
  · obtain ⟨second, more, rfl, inside, last⟩ := (continuation_succ_eq_character_iff ..).mp read
    obtain ⟨rfl, -, rfl⟩ := (continuation_zero_eq_character_iff ..).mp last
    obtain ⟨valid, spelled⟩ := spelled_two lead second (by omega) inside
    exact ⟨valid, by rw [spelled]; rfl⟩
  split at read
  · obtain ⟨second, more, rfl, inside, next⟩ := (continuation_succ_eq_character_iff ..).mp read
    obtain ⟨third, more, rfl, insideThird, last⟩ :=
      (continuation_succ_eq_character_iff ..).mp next
    obtain ⟨rfl, -, rfl⟩ := (continuation_zero_eq_character_iff ..).mp last
    obtain ⟨valid, spelled⟩ := spelled_three lead second third (by omega) inside insideThird
    exact ⟨valid, by rw [spelled]; rfl⟩
  split at read
  · obtain ⟨second, more, rfl, inside, next⟩ := (continuation_succ_eq_character_iff ..).mp read
    obtain ⟨third, more, rfl, insideThird, next⟩ :=
      (continuation_succ_eq_character_iff ..).mp next
    obtain ⟨fourth, more, rfl, insideFourth, last⟩ :=
      (continuation_succ_eq_character_iff ..).mp next
    obtain ⟨rfl, -, rfl⟩ := (continuation_zero_eq_character_iff ..).mp last
    obtain ⟨valid, spelled⟩ :=
      spelled_four lead second third fourth (by omega) inside insideThird insideFourth
    exact ⟨valid, by rw [spelled]; rfl⟩
  · cases read

/-- The spelling of a character in front is read as that character. -/
theorem front_of_spelled (character : Char) (rest : List UInt8) :
    ∃ lead tail width, String.utf8EncodeChar character ++ rest = lead :: tail ∧
      front lead tail = .character character.toNat width rest := by
  have valid : character.toNat < 0xD800 ∨
      0xDFFF < character.toNat ∧ character.toNat < 0x110000 := character.valid
  have spelled := utf8EncodeChar_ofNat character.toNat character.valid
  rw [Char.ofNat_toNat] at spelled
  rw [spelled]
  generalize character.toNat = code at valid
  split
  · refine ⟨_, _, 1, rfl, ?_⟩
    rw [front, toNat_byte _ (by omega), if_pos (by omega)]
    rfl
  split
  · refine ⟨_, _, 2, rfl, ?_⟩
    rw [front, toNat_byte _ (by omega), if_neg (by omega), if_neg (by omega),
      if_pos (by omega)]
    refine (continuation_succ_eq_character_iff ..).mpr ⟨_, _, rfl, ?_, ?_⟩
    · rw [toNat_byte _ (by omega)]
      omega
    · rw [toNat_byte _ (by omega)]
      exact (continuation_zero_eq_character_iff ..).mpr ⟨by omega, rfl, rfl⟩
  split
  · refine ⟨_, _, 3, rfl, ?_⟩
    rw [front, toNat_byte _ (by omega), if_neg (by omega), if_neg (by omega),
      if_neg (by omega), if_pos (by omega)]
    refine (continuation_succ_eq_character_iff ..).mpr ⟨_, _, rfl, ?_, ?_⟩
    · rw [toNat_byte _ (by omega)]
      split <;> split <;> omega
    refine (continuation_succ_eq_character_iff ..).mpr ⟨_, _, rfl, ?_, ?_⟩
    · rw [toNat_byte _ (by omega)]
      omega
    · rw [toNat_byte _ (by omega), toNat_byte _ (by omega)]
      exact (continuation_zero_eq_character_iff ..).mpr ⟨by omega, rfl, rfl⟩
  · refine ⟨_, _, 4, rfl, ?_⟩
    rw [front, toNat_byte _ (by omega), if_neg (by omega), if_neg (by omega),
      if_neg (by omega), if_neg (by omega), if_pos (by omega)]
    refine (continuation_succ_eq_character_iff ..).mpr ⟨_, _, rfl, ?_, ?_⟩
    · rw [toNat_byte _ (by omega)]
      split <;> split <;> omega
    refine (continuation_succ_eq_character_iff ..).mpr ⟨_, _, rfl, ?_, ?_⟩
    · rw [toNat_byte _ (by omega)]
      omega
    refine (continuation_succ_eq_character_iff ..).mpr ⟨_, _, rfl, ?_, ?_⟩
    · rw [toNat_byte _ (by omega)]
      omega
    · rw [toNat_byte _ (by omega), toNat_byte _ (by omega),
        toNat_byte _ (by omega)]
      exact (continuation_zero_eq_character_iff ..).mpr ⟨by omega, rfl, rfl⟩

theorem utf8EncodeChar_ne_nil (character : Char) : String.utf8EncodeChar character ≠ [] := by
  obtain ⟨lead, tail, _, spelled, _⟩ := front_of_spelled character []
  rw [List.append_nil] at spelled
  rw [spelled]
  exact List.cons_ne_nil lead tail

theorem spelling_cons (first : Char) (rest : List Char) :
    spelling (first :: rest) = String.utf8EncodeChar first ++ spelling rest :=
  List.flatMap_cons

theorem eq_nil_of_spelling {characters : List Char} (empty : [] = spelling characters) :
    characters = [] := by
  cases characters with
  | nil => rfl
  | cons first rest =>
    rw [spelling_cons] at empty
    exact absurd (List.append_eq_nil_iff.mp empty.symm).1 (utf8EncodeChar_ne_nil first)

/-- In front of a spelling stands the spelling of its first character. -/
theorem front_of_spelling {lead : UInt8} {tail : List UInt8} {characters : List Char}
    (spelled : lead :: tail = spelling characters) : ∃ first rest width,
      characters = first :: rest ∧
        front lead tail = .character first.toNat width (spelling rest) := by
  cases characters with
  | nil => cases spelled
  | cons first rest =>
    obtain ⟨_, _, width, same, read⟩ := front_of_spelled first (spelling rest)
    rw [spelling_cons, same] at spelled
    cases spelled
    exact ⟨first, rest, width, rfl, read⟩

theorem decodeFrom_eq_ok_iff (offset : Nat) (read : List Char) (bytes : List UInt8)
    (characters : List Char) : decodeFrom offset read bytes = .ok characters ↔
      ∃ later, characters = read.reverse ++ later ∧ bytes = spelling later := by
  fun_induction decodeFrom offset read bytes with
  | case1 offset read =>
    constructor
    · intro done
      exact ⟨[], by rw [List.append_nil, Except.ok.inj done], rfl⟩
    · rintro ⟨later, same, spelled⟩
      rw [same, eq_nil_of_spelling spelled, List.append_nil]
  | case2 offset read lead tail code width rest found ih =>
    obtain ⟨_, spelled⟩ := spelled_of_front lead tail rest code width found
    rw [ih]
    constructor
    · rintro ⟨later, same, others⟩
      refine ⟨Char.ofNat code :: later, ?_, ?_⟩
      · rw [same, List.reverse_cons, List.append_assoc, List.singleton_append]
      · rw [spelling_cons, ← others, spelled]
    · rintro ⟨later, same, others⟩
      obtain ⟨first, rest, _, rfl, again⟩ := front_of_spelling others
      rw [found] at again
      cases again
      refine ⟨rest, ?_, rfl⟩
      rw [same, List.reverse_cons, List.append_assoc, Char.ofNat_toNat, List.singleton_append]
  | case3 offset read lead tail reason length rest found =>
    constructor
    · intro impossible
      cases impossible
    · rintro ⟨later, _, others⟩
      obtain ⟨_, _, _, _, again⟩ := front_of_spelling others
      rw [found] at again
      cases again

/-- Bytes are read as the characters that they are the UTF-8 of, and there is no other UTF-8. -/
theorem decode_eq_ok_iff (bytes : List UInt8) (characters : List Char) :
    decode bytes = .ok characters ↔ bytes = spelling characters := by
  rw [decode, decodeFrom_eq_ok_iff]
  constructor
  · rintro ⟨later, rfl, spelled⟩
    exact spelled
  · intro spelled
    exact ⟨characters, rfl, spelled⟩

theorem spelling_injective (first second : List Char) (same : spelling first = spelling second) :
    first = second := by
  have read := (decode_eq_ok_iff (spelling second) first).mpr same.symm
  rw [(decode_eq_ok_iff _ second).mpr rfl] at read
  exact (Except.ok.inj read).symm

theorem isBlankByte_of_mem (character : Char) (byte : UInt8)
    (inside : byte ∈ String.utf8EncodeChar character) :
    isBlankByte byte = isBlankLetter character := by
  have spelled := utf8EncodeChar_ofNat character.toNat character.valid
  rw [Char.ofNat_toNat] at spelled
  have alike : (byte.toNat = 0x20 ∨ 9 ≤ byte.toNat ∧ byte.toNat ≤ 13) ↔
      (character.toNat = 0x20 ∨ 9 ≤ character.toNat ∧ character.toNat ≤ 13) := by
    rw [spelled] at inside
    split at inside
    · rw [List.mem_singleton.mp inside, toNat_byte _ (by omega)]
    split at inside
    · simp only [List.mem_cons, List.not_mem_nil, or_false] at inside
      rcases inside with rfl | rfl <;> rw [toNat_byte _ (by omega)] <;> omega
    split at inside
    · simp only [List.mem_cons, List.not_mem_nil, or_false] at inside
      rcases inside with rfl | rfl | rfl <;> rw [toNat_byte _ (by omega)] <;> omega
    · simp only [List.mem_cons, List.not_mem_nil, or_false] at inside
      rcases inside with rfl | rfl | rfl | rfl <;> rw [toNat_byte _ (by omega)] <;> omega
  rw [Text.isBlankByte_eq, isBlankLetter, Bool.eq_iff_iff, decide_eq_true_iff, decide_eq_true_iff]
  exact alike

theorem strip_spelling (characters : List Char) :
    strip isBlankByte (spelling characters) = spelling (strip isBlankLetter characters) :=
  Text.strip_flatMap utf8EncodeChar_ne_nil isBlankByte_of_mem characters

/-- Blank bytes are characters of their own. -/
theorem exists_spelling_of_blank (bytes : List UInt8)
    (blank : ∀ byte ∈ bytes, isBlankByte byte = true) :
    ∃ characters, bytes = spelling characters := by
  induction bytes with
  | nil => exact ⟨[], rfl⟩
  | cons byte rest ih =>
    obtain ⟨first, others⟩ := List.forall_mem_cons.mp blank
    obtain ⟨characters, spelled⟩ := ih others
    rw [Text.isBlankByte_eq, decide_eq_true_iff] at first
    have valid : byte.toNat.isValidChar := .inl (by omega)
    refine ⟨Char.ofNat byte.toNat :: characters, ?_⟩
    rw [spelling_cons, utf8EncodeChar_ofNat _ valid, if_pos (by omega), ofNat_eq _ byte rfl,
      ← spelled, List.singleton_append]

/-- What is left of bytes without the blanks around them is UTF-8 exactly when all of them are, and
its characters are what is left of theirs. -/
theorem decode_strip_eq_ok_iff (bytes : List UInt8) (characters : List Char) :
    decode (strip isBlankByte bytes) = .ok characters ↔
      ∃ all, bytes = spelling all ∧ characters = strip isBlankLetter all := by
  rw [decode_eq_ok_iff]
  constructor
  · intro inner
    obtain ⟨before, behind, parted, blank⟩ := Text.exists_ends isBlankByte bytes
    obtain ⟨blankBefore, blankBehind⟩ := List.forall_mem_append.mp blank
    obtain ⟨first, spelledFirst⟩ := exists_spelling_of_blank before blankBefore
    obtain ⟨last, spelledLast⟩ := exists_spelling_of_blank behind blankBehind
    have whole : bytes = spelling (first ++ characters ++ last) := by
      rw [spelling, List.flatMap_append, List.flatMap_append]
      exact parted.trans (by rw [inner, spelledFirst, spelledLast]; rfl)
    refine ⟨_, whole, spelling_injective _ _ ?_⟩
    rw [← strip_spelling, ← whole, inner]
  · rintro ⟨all, rfl, rfl⟩
    exact strip_spelling all

end BlockReader.Utf8
