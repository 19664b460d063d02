import BlockReader.Json.Compact
import BlockReader.Json.Reader
import BlockReader.Proofs.Json.Compact
import BlockReader.Proofs.Numeral.Written
set_option autoImplicit false

namespace BlockReader.Json

section Text

theorem hexValues?_hex : ∀ code < 0x20, hexValues? (Text.hex 4 code) = some code := by
  decide

theorem length_hex (width number : Nat) : (Text.hex width number).length = width := by
  induction width generalizing number with
  | zero => rfl
  | succ width ih => rw [Text.hex, List.length_append, ih, List.length_singleton]

theorem unicodeEscape_hex {character : Char} (control : character.toNat < 0x20)
    (mark rest : List Char) (more : rest ≠ []) :
    unicodeEscape mark (Text.hex 4 character.toNat ++ rest) = .ok (.character character, rest) := by
  have behind : (Text.hex 4 character.toNat ++ rest).drop 4 = rest :=
    List.drop_left' (length_hex 4 _)
  have digits : (Text.hex 4 character.toNat ++ rest).take 4 = Text.hex 4 character.toNat :=
    List.take_left' (length_hex 4 _)
  have same : CodeUnit.ofCode character.toNat = .character character := by
    rw [CodeUnit.ofCode, dif_neg (by omega), Char.ofNat_toNat]
  have noHalf : isHighHalf character.toNat = false := by
    rw [isHighHalf, decide_eq_false_iff_not]
    omega
  rw [unicodeEscape, behind, digits, hexValues?_hex _ control,
    if_neg (by rwa [List.isEmpty_iff])]
  dsimp only
  split
  · rw [noHalf, same]
    rfl
  · rw [same]

/-- A character that was written is read back. -/
theorem readText_escapeCompact (fuel : Nat) (read rest : List Char) (character : Char)
    (more : rest ≠ []) :
    readText (fuel + 1) read (escapeCompact character ++ rest) =
      readText fuel (character :: read) rest := by
  unfold escapeCompact
  split_ifs with quote backslash newline return_ tab feed back control
  · rw [quote]
    rfl
  · rw [backslash]
    rfl
  · rw [newline]
    rfl
  · rw [return_]
    rfl
  · rw [tab]
    rfl
  · rw [feed]
    rfl
  · rw [back]
    rfl
  · rw [List.cons_append, List.cons_append, readText, unicodeEscape_hex control _ _ more]
  · rw [List.singleton_append, readText, if_neg control]
    · exact quote
    · exact backslash

/-- A text that was written is read back, as far as its closing quote. -/
theorem readText_escaped (characters : List Char) (fuel : Nat) (read after : List Char)
    (enough : characters.length < fuel) :
    readText fuel read (characters.flatMap escapeCompact ++ '"' :: after) =
      .ok (.proper (String.ofList (read.reverse ++ characters)), after) := by
  induction characters generalizing fuel read with
  | nil =>
    obtain ⟨less, rfl⟩ := Nat.exists_eq_add_of_lt enough
    rw [List.append_nil]
    rfl
  | cons character later ih =>
    obtain ⟨less, rfl⟩ := Nat.exists_eq_add_one_of_ne_zero (Nat.ne_zero_of_lt enough)
    have more : later.flatMap escapeCompact ++ '"' :: after ≠ [] := by simp
    rw [List.flatMap_cons, List.append_assoc, readText_escapeCompact less read _ character more,
      ih less (character :: read) (Nat.lt_of_succ_lt_succ enough), List.reverse_cons,
      List.append_assoc, List.singleton_append]

end Text

/-- What stands behind a value begins with a comma or closes something, if it does not end. -/
def Closes (after : List Char) : Prop :=
  ∀ character, after.head? = some character →
    character = ',' ∨ character = ']' ∨ character = '\x7d'

theorem closes_nil : Closes [] := by
  intro character impossible
  cases impossible

section Number

variable {after : List Char} (closes : Closes after)

include closes

theorem takeWhile_isDigit_of_closes :
    after.takeWhile Numeral.isDigit = [] ∧ after.dropWhile Numeral.isDigit = after := by
  cases after with
  | nil => exact ⟨rfl, rfl⟩
  | cons first rest => rcases closes first rfl with rfl | rfl | rfl <;> exact ⟨rfl, rfl⟩

theorem takeWhole_ofNat (number : Nat) :
    takeWhole (Numeral.ofNat number ++ after) = (Numeral.ofNat number, after) := by
  by_cases zero : number = 0
  · rw [zero]
    rfl
  · have noZero := Numeral.head?_ofNat_ne_zero zero
    have digits : ∀ character ∈ Numeral.ofNat number, Numeral.isDigit character = true :=
      fun _ listed => Numeral.isDigit_of_mem_ofNat listed
    obtain ⟨none, all⟩ := takeWhile_isDigit_of_closes closes
    cases written : Numeral.ofNat number with
    | nil => exact absurd written (Numeral.ofNat_ne_nil number)
    | cons first rest =>
      rw [written] at noZero digits
      have notZero : first ≠ '0' := by
        rintro rfl
        exact noZero rfl
      rw [List.cons_append, takeWhole]
      · rw [← List.cons_append, List.takeWhile_append_of_pos digits,
          List.dropWhile_append_of_pos digits, none, all, List.append_nil]
      · intro _ same
        exact notZero (List.head_eq_of_cons_eq same)

theorem takeFraction_of_closes : takeFraction after = ([], after) := by
  rw [takeFraction]
  rintro rest rfl
  rcases closes '.' rfl with impossible | impossible | impossible <;> cases impossible

theorem takeExponent?_of_closes : Numeral.takeExponent? after = none := by
  cases after with
  | nil => rfl
  | cons mark rest =>
    rcases closes mark rfl with rfl | rfl | rfl <;> rfl

/-- A number that was written is read back, unless it has too many digits. -/
theorem readNumber_ofNat (negative : Bool) (start : List Char) (number : Nat) :
    readNumber negative start (Numeral.ofNat number ++ after) =
      if Numeral.digitLimit < (Numeral.ofNat number).length then
        .error (.tooManyDigits (Numeral.ofNat number).length)
      else .ok (.int (if negative then -number else number), after) := by
  have nonempty : (Numeral.ofNat number).isEmpty = false :=
    List.isEmpty_eq_false_iff.mpr (Numeral.ofNat_ne_nil number)
  rw [readNumber, takeWhole_ofNat closes]
  dsimp only
  rw [nonempty, takeFraction_of_closes closes]
  dsimp only
  rw [takeExponent?_of_closes closes]
  dsimp only
  rw [Numeral.ofDigits_ofNat]
  rfl

end Number

/-- A value of its own kind, whatever it holds, is read as it was written: no floating-point value
is, nor an object with two members of one name. -/
def IsLegible : Json → Prop
  | .float _ => False
  | .object members => (members.map Prod.fst).Nodup
  | _ => True

/-- A character with which the compact form of a value begins. -/
def StartsValue (character : Char) : Prop :=
  character ∈ ['n', 't', 'f', '-', '"', '[', '\x7b'] ∨ Numeral.isDigit character = true

instance (character : Char) : Decidable (StartsValue character) :=
  inferInstanceAs (Decidable (_ ∨ _))

theorem StartsValue.not_isSpace {character : Char} (starts : StartsValue character) :
    isSpace character = false := by
  by_contra space
  rw [Bool.not_eq_false, isSpace] at space
  simp only [Bool.or_eq_true, beq_iff_eq] at space
  rcases space with ((rfl | rfl) | rfl) | rfl <;> revert starts <;> decide

theorem StartsValue.ne_bracket {character : Char} (starts : StartsValue character) :
    character ≠ ']' := by
  rintro rfl
  revert starts
  decide

theorem StartsValue.ne_mark {character : Char} (starts : StartsValue character) :
    character ≠ '\ufeff' := by
  rintro rfl
  revert starts
  decide

theorem bind_bind_eq_some_iff {others : Option (List Char)}
    {write : List Char → Option (List Char)} {mark : List Char → List Char}
    {written : List Char} :
    (do let tail ← others; let head ← write tail; pure (mark head)) = some written ↔
      ∃ tail head, others = some tail ∧ write tail = some head ∧ mark head = written := by
  cases others with
  | none => simp
  | some tail => cases wrote : write tail <;> simp [wrote]

theorem spelled_eq_some_iff {text : Text} {write : String → Option (List Char)}
    {written : List Char} :
    (text.string? >>= write) = some written ↔
      ∃ value : String, text = value ∧ write value = some written := by
  rw [Option.bind_eq_bind, Option.bind_eq_some_iff]
  simp only [Text.string?_eq_some_iff]

theorem ofInt_starts (number : Int) : ∃ first later,
    Numeral.ofInt number = first :: later ∧ StartsValue first := by
  rw [Numeral.ofInt]
  split
  · exact ⟨'-', _, rfl, by decide⟩
  · cases written : Numeral.ofNat number.natAbs with
    | nil => exact absurd written (Numeral.ofNat_ne_nil _)
    | cons first later =>
      have listed : first ∈ Numeral.ofNat number.natAbs := by
        rw [written]
        exact List.mem_cons_self
      exact ⟨first, later, rfl, .inr (Numeral.isDigit_of_mem_ofNat listed)⟩

mutual

theorem exists_front (value : Json) (legible : value.Throughout IsLegible)
    {after written : List Char} (wrote : value.writeOnto after = some written) :
    ∃ first later, written = first :: (later ++ after) ∧ StartsValue first := by
  cases value with
  | null =>
    rw [writeOnto] at wrote
    cases wrote
    exact ⟨_, _, rfl, by decide⟩
  | bool truth =>
    cases truth <;> rw [writeOnto] at wrote <;> cases wrote <;> exact ⟨_, _, rfl, by decide⟩
  | float number => exact (legible _ (.itself _)).elim
  | int number =>
    rw [writeOnto] at wrote
    split at wrote
    · obtain ⟨first, later, same, starts⟩ := ofInt_starts number
      cases wrote
      rw [same]
      exact ⟨first, later, rfl, starts⟩
    · cases wrote
  | text characters =>
    rw [writeOnto, spelled_eq_some_iff] at wrote
    obtain ⟨characters, rfl, ⟨⟩⟩ := wrote
    exact ⟨_, _, rfl, by decide⟩
  | array items =>
    obtain ⟨_, each⟩ := (throughout_array_iff _ _).mp legible
    cases items with
    | nil =>
      rw [writeOnto] at wrote
      cases wrote
      exact ⟨'[', [']'], rfl, by decide⟩
    | cons first rest =>
      rw [writeOnto, bind_bind_eq_some_iff] at wrote
      obtain ⟨tail, head, others, one, rfl⟩ := wrote
      obtain ⟨front, rfl⟩ := exists_front_items rest
        (fun item listed => each item (List.mem_cons_of_mem _ listed)) others
      obtain ⟨start, later, rfl, _⟩ := exists_front first (each first List.mem_cons_self) one
      exact ⟨'[', start :: later ++ front ++ [']'], by simp, by decide⟩
  | object members =>
    obtain ⟨_, each⟩ := (throughout_object_iff _ _).mp legible
    cases members with
    | nil =>
      rw [writeOnto] at wrote
      cases wrote
      exact ⟨'\x7b', ['\x7d'], rfl, by decide⟩
    | cons member rest =>
      obtain ⟨name, value⟩ := member
      rw [writeOnto, spelled_eq_some_iff] at wrote
      obtain ⟨name, rfl, wrote⟩ := wrote
      rw [bind_bind_eq_some_iff] at wrote
      obtain ⟨tail, head, others, one, rfl⟩ := wrote
      obtain ⟨front, rfl⟩ := exists_front_members rest
        (fun member listed => each member (List.mem_cons_of_mem _ listed)) others
      have legible := each (.proper name, value) List.mem_cons_self
      obtain ⟨start, later, rfl, _⟩ := exists_front value legible one
      exact ⟨'\x7b', writeText name ++ ':' :: start :: later ++ front ++ ['\x7d'], by simp,
        by decide⟩

theorem exists_front_items (items : List Json)
    (each : ∀ item ∈ items, item.Throughout IsLegible) {after written : List Char}
    (wrote : writeItemsOnto items after = some written) : ∃ front, written = front ++ after := by
  cases items with
  | nil =>
    rw [writeItemsOnto] at wrote
    cases wrote
    exact ⟨[], rfl⟩
  | cons item rest =>
    rw [writeItemsOnto, bind_bind_eq_some_iff] at wrote
    obtain ⟨tail, head, others, one, rfl⟩ := wrote
    obtain ⟨front, rfl⟩ := exists_front_items rest
      (fun item listed => each item (List.mem_cons_of_mem _ listed)) others
    obtain ⟨start, later, rfl, _⟩ := exists_front item (each item List.mem_cons_self) one
    exact ⟨',' :: start :: later ++ front, by simp⟩

theorem exists_front_members (members : Members)
    (each : ∀ member ∈ members, member.2.Throughout IsLegible) {after written : List Char}
    (wrote : writeMembersOnto members after = some written) :
    ∃ front, written = front ++ after := by
  cases members with
  | nil =>
    rw [writeMembersOnto] at wrote
    cases wrote
    exact ⟨[], rfl⟩
  | cons member rest =>
    obtain ⟨name, value⟩ := member
    rw [writeMembersOnto, spelled_eq_some_iff] at wrote
    obtain ⟨name, rfl, wrote⟩ := wrote
    rw [bind_bind_eq_some_iff] at wrote
    obtain ⟨tail, head, others, one, rfl⟩ := wrote
    obtain ⟨front, rfl⟩ := exists_front_members rest
      (fun member listed => each member (List.mem_cons_of_mem _ listed)) others
    obtain ⟨start, later, rfl, _⟩ := exists_front value (each _ List.mem_cons_self) one
    exact ⟨',' :: writeText name ++ ':' :: start :: later ++ front, by simp⟩

end

theorem skip_of_starts {first : Char} (starts : StartsValue first) (later : List Char) :
    skip (first :: later) = first :: later :=
  List.dropWhile_cons_of_neg (by rw [starts.not_isSpace]; exact Bool.false_ne_true)

theorem closes_of_writeItemsOnto {items : List Json} {after tail : List Char}
    (wrote : writeItemsOnto items (']' :: after) = some tail) : Closes tail := by
  cases items with
  | nil =>
    rw [writeItemsOnto] at wrote
    cases wrote
    rintro _ ⟨⟩
    exact .inr (.inl rfl)
  | cons item rest =>
    rw [writeItemsOnto, bind_bind_eq_some_iff] at wrote
    obtain ⟨_, _, _, _, rfl⟩ := wrote
    rintro _ ⟨⟩
    exact .inl rfl

theorem closes_of_writeMembersOnto {members : Members} {after tail : List Char}
    (wrote : writeMembersOnto members ('\x7d' :: after) = some tail) : Closes tail := by
  cases members with
  | nil =>
    rw [writeMembersOnto] at wrote
    cases wrote
    rintro _ ⟨⟩
    exact .inr (.inr rfl)
  | cons member rest =>
    obtain ⟨name, value⟩ := member
    rw [writeMembersOnto, spelled_eq_some_iff] at wrote
    obtain ⟨name, rfl, wrote⟩ := wrote
    rw [bind_bind_eq_some_iff] at wrote
    obtain ⟨_, _, _, _, rfl⟩ := wrote
    rintro _ ⟨⟩
    exact .inl rfl

theorem length_le_escaped (characters : List Char) :
    characters.length ≤ (characters.flatMap escapeCompact).length := by
  induction characters with
  | nil => exact Nat.le_refl _
  | cons character later ih =>
    have some : 0 < (escapeCompact character).length := by
      unfold escapeCompact
      split_ifs <;> exact Nat.succ_pos _
    rw [List.flatMap_cons, List.length_append, List.length_cons]
    omega

/-- A name that is new is put at the end. -/
theorem put_of_new {name : Text} (value : Json) {members : Members}
    (new : name ∉ members.map Prod.fst) : members.put name value = members ++ [(name, value)] := by
  induction members with
  | nil => rfl
  | cons member rest ih =>
    obtain ⟨other, old⟩ := member
    rw [List.map_cons, List.mem_cons, not_or] at new
    rw [Members.put, if_neg (Ne.symm new.1), ih new.2]
    rfl

section Start

variable {first : Char} (digit : Numeral.isDigit first = true) (fuel levels : Nat)
  (later : List Char)

include digit

theorem readValue_digit : readValue (fuel + 1) levels (first :: later) =
    readNumber false (first :: later) (first :: later) := by
  rw [readValue.eq_def]
  dsimp only
  split <;> first
    | rfl
    | rename_i same
      cases same
      exact absurd digit (by decide)

theorem readValue_minus : readValue (fuel + 1) levels ('-' :: first :: later) =
    readNumber true ('-' :: first :: later) (first :: later) := by
  rw [readValue]
  intro _ same
  cases same
  exact absurd digit (by decide)

end Start

/-- A whole number that was written is read back, unless it has too many digits. -/
theorem readValue_ofInt (number : Int) {after : List Char} (closes : Closes after)
    (fuel levels : Nat) : readValue (fuel + 1) levels (Numeral.ofInt number ++ after) =
      if Numeral.digitLimit < Numeral.digitCount number then
        .error (.tooManyDigits (Numeral.digitCount number))
      else .ok (.int number, after) := by
  cases written : Numeral.ofNat number.natAbs with
  | nil => exact absurd written (Numeral.ofNat_ne_nil _)
  | cons first later =>
    have digit : Numeral.isDigit first = true := by
      apply Numeral.isDigit_of_mem_ofNat
      rw [written]
      exact List.mem_cons_self
    have size := readNumber_ofNat closes (number < 0) (Numeral.ofInt number ++ after)
      number.natAbs
    rw [Numeral.digitCount]
    rw [Numeral.ofInt] at size ⊢
    by_cases negative : number < 0
    · have same : -(number.natAbs : Int) = number := by omega
      rw [if_pos negative, written, List.cons_append, List.cons_append] at size ⊢
      rw [decide_eq_true negative, if_pos rfl, same] at size
      rw [readValue_minus digit, size]
    · have same : (number.natAbs : Int) = number := by omega
      rw [if_neg negative, written, List.cons_append] at size ⊢
      rw [decide_eq_false negative, if_neg Bool.false_ne_true, same] at size
      rw [readValue_digit digit, size]

theorem readValue_int (number : Int) {after : List Char} (closes : Closes after)
    (short : Numeral.digitCount number ≤ Numeral.digitLimit) (fuel levels : Nat) :
    readValue (fuel + 1) levels (Numeral.ofInt number ++ after) = .ok (.int number, after) := by
  rw [readValue_ofInt number closes, if_neg (Nat.not_lt.mpr short)]

theorem writeText_append (value : String) (after : List Char) :
    writeText value ++ after = '"' :: (value.toList.flatMap escapeCompact ++ '"' :: after) := by
  simp [writeText]

theorem readText_written (value : String) (after : List Char) {fuel : Nat}
    (enough : value.toList.length < fuel) :
    readText fuel [] (value.toList.flatMap escapeCompact ++ '"' :: after) = .ok (value, after) := by
  rw [readText_escaped value.toList fuel [] after enough, List.reverse_nil, List.nil_append,
    String.ofList_toList]

theorem readValue_text (value : String) (after : List Char) (fuel levels : Nat)
    (enough : value.toList.length < fuel) :
    readValue (fuel + 1) levels (writeText value ++ after) = .ok (.text value, after) := by
  rw [writeText_append, readValue, readText_written value after enough]

theorem skip_colon (later : List Char) : skip (':' :: later) = ':' :: later := rfl

section Last

variable {value : Json} {fuel levels : Nat} {head rest : List Char}

theorem readItems_last (first : readValue fuel levels head = .ok (value, ']' :: rest))
    (read : List Json) :
    readItems (fuel + 1) levels read head = .ok (.array (read.reverse ++ [value]), rest) := by
  rw [← List.reverse_cons, readItems, first]
  rfl

theorem readItems_next (first : readValue fuel levels head = .ok (value, ',' :: rest))
    (read : List Json) :
    readItems (fuel + 1) levels read head = readItems fuel levels (value :: read) (skip rest) := by
  rw [readItems, first]
  rfl

variable {name : String} (enough : name.toList.length < fuel) {read : Members}
  (new : (name : Text) ∉ read.map Prod.fst)

include enough new

theorem readMembers_last
    (first : readValue fuel levels (skip head) = .ok (value, '\x7d' :: rest)) :
    readMembers (fuel + 1) levels read (writeText name ++ ':' :: head) =
      .ok (.object (read ++ [(.proper name, value)]), rest) := by
  have named := readText_written name (':' :: head) enough
  rw [writeText_append, readMembers, named]
  simp only [skip_colon, first, put_of_new value new]
  rfl

theorem readMembers_next
    (first : readValue fuel levels (skip head) = .ok (value, ',' :: rest)) :
    readMembers (fuel + 1) levels read (writeText name ++ ':' :: head) =
      readMembers fuel levels (read ++ [(.proper name, value)]) (skip rest) := by
  have named := readText_written name (':' :: head) enough
  rw [writeText_append, readMembers, named]
  simp only [skip_colon, first, put_of_new value new]
  rfl

end Last

-- Structural on the value, as writing is, and not on the fuel of the reader: the fuel only has to
-- last for the characters that were written.
mutual

theorem readValue_written (value : Json) (legible : value.Throughout IsLegible)
    {after written : List Char} (wrote : value.writeOnto after = some written)
    (closes : Closes after) (fuel levels : Nat) (enough : written.length ≤ fuel + after.length)
    (deep : value.depth ≤ levels) : readValue fuel levels written = .ok (value, after) := by
  have positive : fuel ≠ 0 := by
    obtain ⟨first, later, rfl, _⟩ := exists_front value legible wrote
    rw [List.length_cons, List.length_append] at enough
    omega
  obtain ⟨less, rfl⟩ := Nat.exists_eq_add_one_of_ne_zero positive
  cases value with
  | null =>
    rw [writeOnto] at wrote
    cases wrote
    rfl
  | bool truth =>
    cases truth <;> rw [writeOnto] at wrote <;> cases wrote <;> rfl
  | float number => exact (legible _ (.itself _)).elim
  | int number =>
    rw [writeOnto] at wrote
    split at wrote
    · rename_i short
      cases wrote
      exact readValue_int number closes short less levels
    · cases wrote
  | text characters =>
    rw [writeOnto, spelled_eq_some_iff] at wrote
    obtain ⟨characters, rfl, ⟨⟩⟩ := wrote
    apply readValue_text
    have escaped := length_le_escaped characters.toList
    simp only [writeText, List.length_append, List.length_cons, List.length_nil] at enough
    omega
  | array items =>
    obtain ⟨_, each⟩ := (throughout_array_iff _ _).mp legible
    rw [depth] at deep
    have inside : levels ≠ 0 := by omega
    cases items with
    | nil =>
      rw [writeOnto] at wrote
      cases wrote
      rw [readValue, if_neg inside]
      rfl
    | cons first rest =>
      rw [writeOnto, bind_bind_eq_some_iff] at wrote
      obtain ⟨tail, head, others, one, rfl⟩ := wrote
      have listed : writeItemsOnto (first :: rest) (']' :: after) = some (',' :: head) := by
        rw [writeItemsOnto, bind_bind_eq_some_iff]
        exact ⟨tail, head, others, one, rfl⟩
      rw [List.length_cons] at enough
      have items := readItems_written (first :: rest) each listed less (levels - 1) [] (by omega)
        (by omega)
      obtain ⟨start, later, rfl, starts⟩ := exists_front first (each first List.mem_cons_self) one
      rw [readValue, if_neg inside, skip_of_starts starts]
      split
      · rename_i same
        exact absurd (List.head_eq_of_cons_eq same) starts.ne_bracket
      · exact items
  | object members =>
    obtain ⟨distinct, each⟩ := (throughout_object_iff _ _).mp legible
    rw [depth] at deep
    have inside : levels ≠ 0 := by omega
    cases members with
    | nil =>
      rw [writeOnto] at wrote
      cases wrote
      rw [readValue, if_neg inside]
      rfl
    | cons member rest =>
      obtain ⟨name, value⟩ := member
      rw [writeOnto, spelled_eq_some_iff] at wrote
      obtain ⟨name, rfl, wrote⟩ := wrote
      rw [bind_bind_eq_some_iff] at wrote
      obtain ⟨tail, head, others, one, rfl⟩ := wrote
      have listed : writeMembersOnto ((.proper name, value) :: rest) ('\x7d' :: after) =
          some (',' :: (writeText name ++ ':' :: head)) := by
        rw [writeMembersOnto, spelled_eq_some_iff]
        refine ⟨name, rfl, ?_⟩
        rw [bind_bind_eq_some_iff]
        exact ⟨tail, head, others, one, rfl⟩
      rw [List.cons_append, List.length_cons] at enough
      have members := readMembers_written ((.proper name, value) :: rest) each listed less
        (levels - 1) [] distinct (by omega) (by omega)
      rw [List.cons_append, readValue, if_neg inside]
      exact members

theorem readItems_written (items : List Json) (each : ∀ item ∈ items, item.Throughout IsLegible)
    {after head : List Char} (wrote : writeItemsOnto items (']' :: after) = some (',' :: head))
    (fuel levels : Nat) (read : List Json) (enough : head.length ≤ fuel + after.length)
    (deep : depthOfItems items ≤ levels) :
    readItems fuel levels read head = .ok (.array (read.reverse ++ items), after) := by
  cases items with
  | nil =>
    rw [writeItemsOnto] at wrote
    cases wrote
  | cons item rest =>
    rw [writeItemsOnto, bind_bind_eq_some_iff] at wrote
    obtain ⟨tail, head, others, one, same⟩ := wrote
    cases same
    obtain ⟨legible, eachLater⟩ := List.forall_mem_cons.mp each
    rw [depthOfItems] at deep
    have closes := closes_of_writeItemsOnto others
    have longer : tail.length < head.length ∧ after.length < tail.length := by
      obtain ⟨front, rfl⟩ := exists_front_items rest eachLater others
      obtain ⟨start, later, rfl, _⟩ := exists_front item legible one
      simp only [List.length_append, List.length_cons]
      omega
    have positive : fuel ≠ 0 := by omega
    obtain ⟨less, rfl⟩ := Nat.exists_eq_add_one_of_ne_zero positive
    have first := readValue_written item legible one closes less levels (by omega) (by omega)
    cases rest with
    | nil =>
      rw [writeItemsOnto] at others
      cases others
      exact readItems_last first read
    | cons next more =>
      have parts := others
      rw [writeItemsOnto, bind_bind_eq_some_iff] at parts
      obtain ⟨_, following, _, nextOne, rfl⟩ := parts
      rw [List.length_cons] at longer
      have later := readItems_written (next :: more) eachLater others less levels (item :: read)
        (by omega) (by omega)
      rw [List.reverse_cons, List.append_assoc, List.singleton_append] at later
      obtain ⟨start, behind, rfl, starts⟩ :=
        exists_front next (eachLater next List.mem_cons_self) nextOne
      rw [readItems_next first read, skip_of_starts starts]
      exact later

theorem readMembers_written (members : Members)
    (each : ∀ member ∈ members, member.2.Throughout IsLegible) {after text : List Char}
    (wrote : writeMembersOnto members ('\x7d' :: after) = some (',' :: text))
    (fuel levels : Nat) (read : Members) (distinct : ((read ++ members).map Prod.fst).Nodup)
    (enough : text.length ≤ fuel + after.length) (deep : depthOfMembers members ≤ levels) :
    readMembers fuel levels read text = .ok (.object (read ++ members), after) := by
  cases members with
  | nil =>
    rw [writeMembersOnto] at wrote
    cases wrote
  | cons member rest =>
    obtain ⟨name, value⟩ := member
    rw [writeMembersOnto, spelled_eq_some_iff] at wrote
    obtain ⟨name, rfl, wrote⟩ := wrote
    rw [bind_bind_eq_some_iff] at wrote
    obtain ⟨tail, head, others, one, same⟩ := wrote
    obtain ⟨legible, eachLater⟩ := List.forall_mem_cons.mp each
    rw [depthOfMembers] at deep
    have closes := closes_of_writeMembersOnto others
    have spelled : text = writeText name ++ ':' :: head := (List.tail_eq_of_cons_eq same).symm
    have longer : tail.length < head.length ∧ after.length < tail.length := by
      obtain ⟨front, rfl⟩ := exists_front_members rest eachLater others
      obtain ⟨start, later, rfl, _⟩ := exists_front value legible one
      simp only [List.length_append, List.length_cons]
      omega
    have escaped := length_le_escaped name.toList
    rw [spelled] at enough ⊢
    simp only [writeText, List.length_append, List.length_cons] at enough
    have positive : fuel ≠ 0 := by omega
    obtain ⟨less, rfl⟩ := Nat.exists_eq_add_one_of_ne_zero positive
    have first := readValue_written value legible one closes less levels (by omega) (by omega)
    have new : (name : Text) ∉ read.map Prod.fst := by
      rw [List.map_append, List.map_cons] at distinct
      intro listed
      exact (List.nodup_append.mp distinct).2.2 _ listed _ List.mem_cons_self rfl
    have ready : skip head = head := by
      obtain ⟨start, behind, rfl, starts⟩ := exists_front value legible one
      exact skip_of_starts starts _
    rw [← ready] at first
    have short : name.toList.length < less := by omega
    cases rest with
    | nil =>
      rw [writeMembersOnto] at others
      cases others
      exact readMembers_last short new first
    | cons member more =>
      obtain ⟨next, other⟩ := member
      obtain ⟨following, rfl, quoted⟩ :
          ∃ following, tail = ',' :: following ∧ skip following = following := by
        have parts := others
        rw [writeMembersOnto, spelled_eq_some_iff] at parts
        obtain ⟨_, -, parts⟩ := parts
        rw [bind_bind_eq_some_iff] at parts
        obtain ⟨_, _, _, _, rfl⟩ := parts
        exact ⟨_, rfl, rfl⟩
      rw [List.length_cons] at longer
      have later := readMembers_written ((next, other) :: more) eachLater others less levels
        (read ++ [(.proper name, value)]) (by simpa using distinct) (by omega) (by omega)
      rw [List.append_assoc, List.singleton_append] at later
      rw [readMembers_next short new first, quoted]
      exact later

end

/-- Reading the compact form of a value gives the value back, its members in their order, when the
reader goes as deep as the value does. -/
theorem readWithin_compact [Nesting] {value : Json} (legible : value.Throughout IsLegible)
    {body : String} (wrote : value.compact? = some body) (levels : Nat)
    (deep : value.depth ≤ levels) : readWithin levels body.toList = .ok value := by
  rw [compact?] at wrote
  split at wrote
  case isFalse => cases wrote
  obtain ⟨written, front, rfl⟩ := Option.map_eq_some_iff.mp wrote
  have whole := readValue_written value legible front closes_nil (2 * written.length + 2) levels
    (by omega) deep
  obtain ⟨first, later, same, starts⟩ := exists_front value legible front
  have ready : skip written = written := by
    rw [same, skip_of_starts starts]
  rw [String.toList_ofList, readWithin, ready, whole]
  · rfl
  · intro rest marked
    rw [same] at marked
    exact starts.ne_mark (List.head_eq_of_cons_eq marked)

/-- A text that is a whole number of too many digits is not read. -/
theorem read_ofInt_of_long [Nesting] (number : Int)
    (long : Numeral.digitLimit < Numeral.digitCount number) :
    read (Numeral.ofInt number) = .error (.tooManyDigits (Numeral.digitCount number)) := by
  obtain ⟨first, later, written, starts⟩ := ofInt_starts number
  have stopped := readValue_ofInt number closes_nil (2 * (Numeral.ofInt number).length + 1)
    Nesting.readable
  rw [if_pos long, List.append_nil] at stopped
  have ready : skip (Numeral.ofInt number) = Numeral.ofInt number := by
    rw [written, skip_of_starts starts]
  rw [read, readWithin, ready, stopped]
  · rfl
  · intro rest marked
    rw [written] at marked
    exact starts.ne_mark (List.head_eq_of_cons_eq marked)

end BlockReader.Json
