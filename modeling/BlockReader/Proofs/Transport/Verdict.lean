import BlockReader.Proofs.Json.Kept
import BlockReader.Proofs.Json.Reader
import BlockReader.Proofs.Text.Utf8
import BlockReader.Proofs.Transport.Reply
set_option autoImplicit false

namespace BlockReader

open Text (strip isBlankByte isBlankLetter)

namespace Failure

/-- An exchange breaks off with a failure of the client for HTTP, over time or over a value, or of
any class that derives from one of these. -/
def Breaks (failure : Failure) : Prop :=
  ∃ top ∈ breaking, ErrorClass.Derives failure.errorClass top

theorem breaksOff_iff (failure : Failure) : failure.breaksOff = true ↔ failure.Breaks := by
  rw [breaksOff, List.any_eq_true]
  exact exists_congr fun top => and_congr_right fun _ => ErrorClass.isA_iff _ top

theorem breaks_connection (fault : ConnectionFault) (details : List Json) :
    (connection fault details).Breaks := by
  rw [← breaksOff_iff]
  cases fault <;> rfl

theorem inCall_of_breaks {failure : Failure} (breaks : failure.Breaks) (method url : String) :
    failure.inCall method url = (exchangeFailed method url failure).raised := by
  rw [inCall, if_pos ((breaksOff_iff failure).mpr breaks)]

theorem inCall_of_not_breaks {failure : Failure} (other : ¬ failure.Breaks) (method url : String) :
    failure.inCall method url = failure := by
  rw [inCall, if_neg fun breaks => other ((breaksOff_iff failure).mp breaks)]

theorem inCall_undecodable (method url : String) (bytes : List UInt8) (fault : Utf8.Fault) :
    (undecodable bytes fault).inCall method url =
      exchangeFailed method url (undecodable bytes fault) := rfl

theorem inCall_tooLongToWrite (method url : String) :
    (number .tooLongToWrite).inCall method url =
      exchangeFailed method url (number .tooLongToWrite) := rfl

theorem inCall_unreadable (method url : String) {fault : Json.Fault}
    (flat : ∀ container, fault ≠ .tooDeep container) :
    (unreadable fault).inCall method url = exchangeFailed method url (unreadable fault) := by
  cases fault with
  | tooDeep container => exact absurd rfl (flat container)
  | _ => rfl

end Failure

namespace Reply

/-- An error object that was read can be told. -/
theorem ofErrorMember_object {members : Json.Members}
    (short : (Json.object members).Throughout Json.IsShort) :
    Failure.ofErrorMember (.object members) =
      .rpc ((members.get? "code").getD (.int 0)) ((members.get? "message").getD (.text ""))
        (members.getOrNull "data") := by
  have zero : (Json.int 0).Throughout Json.IsShort := Json.isShort_int (by decide)
  have code := Json.throughout_getD short "code" zero
  have message := Json.throughout_getD short "message" (Json.isShort_text "")
  exact Failure.raised_of_hasMessage ((Failure.hasMessage_rpc_iff _ _ _).mpr ⟨code, message⟩)

theorem ofErrorMember_other {error : Json} (other : ∀ members, error ≠ .object members)
    {text : Text} (shown : error.plain = .ok text) :
    Failure.ofErrorMember error = .rpc (.int 0) (.text text) .null := by
  have zero : (Json.int 0).Throughout Json.IsShort := Json.isShort_int (by decide)
  have stated : Failure.ofErrorMember error = (Failure.rpc (.int 0) (.text text) .null).raised := by
    cases error with
    | object members => exact absurd rfl (other members)
    | _ =>
      rw [Failure.ofErrorMember]
      · rw [shown]
      · exact nofun
  rw [stated]
  exact Failure.raised_of_hasMessage
    ((Failure.hasMessage_rpc_iff _ _ _).mpr ⟨zero, Json.isShort_text text⟩)

theorem result_notAnObject (method url : String) {value : Json}
    (other : ∀ members, value ≠ .object members) (short : value.Throughout Json.IsShort) :
    result method url value = .error (.notAnObject method url value) := by
  have stated : result method url value =
      .error (Failure.notAnObject method url value).raised := by
    cases value with
    | object members => exact absurd rfl (other members)
    | _ => rfl
  rw [stated, Failure.raised_of_hasMessage
    ((Failure.hasMessage_notAnObject_iff method url value).mpr short)]

theorem hasMessage_refused_iff (status : Int) (characters : List Char) :
    (Failure.badStatus (.int status) (.text (String.ofList characters))).HasMessage ↔
      (Json.int status).IsShort := by
  rw [Failure.hasMessage_badStatus_iff, and_iff_left (Json.isShort_text _)]
  exact ⟨fun all => all _ (.itself _), fun short => Json.throughout_of_leaf short rfl⟩

theorem isBlankLetter_of_mem_ofInt {number : Int} {character : Char}
    (inside : character ∈ Numeral.ofInt number) : isBlankLetter character = false := by
  have digits : ∀ character ∈ Numeral.ofNat number.natAbs, isBlankLetter character = false := by
    intro character listed
    have range := Numeral.toNat_of_isDigit (Numeral.isDigit_of_mem_ofNat listed)
    rw [isBlankLetter, decide_eq_false_iff_not]
    omega
  rw [Numeral.ofInt] at inside
  split at inside
  · rcases List.mem_cons.mp inside with rfl | listed
    · rfl
    · exact digits character listed
  · exact digits character inside

end Reply

section Received

variable [Json.Nesting]

/-- No text holds a whole number that is too long, wherever it stands in it. -/
theorem Json.isShort_of_read {characters : List Char} {value : Json}
    (was : Json.read characters = .ok value) : value.Throughout IsShort :=
  kept_isShort.of_readWithin was

namespace Reply

/-- A body is not blank, and it is the UTF-8 of a text that is read with the given result once the
blanks around it are taken away. -/
structure Tells (body : List UInt8) (read : Except Json.Fault Json) : Prop where
  notBlank : ∃ byte ∈ body, isBlankByte byte = false
  text : ∃ characters, body = Utf8.spelling characters ∧
    Json.read (strip isBlankLetter characters) = read

/-- What the reply to a call to a method at a url comes to. -/
inductive Yields (method url : String) : Reply → Except Failure Json → Prop
  /-- The exchange broke off with a failure of a class that counts for that; the call keeps it as
  its cause. -/
  | broken (failure : Failure) (breaks : failure.Breaks)
    (told : (Failure.exchangeFailed method url failure).HasMessage) :
    Yields method url (.broken failure) (.error (.exchangeFailed method url failure))
  /-- A whole number of too many digits keeps such a failure from being shown as a cause. -/
  | untold (failure : Failure) (breaks : failure.Breaks)
    (unwritten : ¬ (Failure.exchangeFailed method url failure).HasMessage) :
    Yields method url (.broken failure) (.error (.number .tooLongToWrite))
  /-- Any other failure passes through as it is. -/
  | passed (failure : Failure) (other : ¬ failure.Breaks) :
    Yields method url (.broken failure) (.error failure)
  | refused (status : Int) (body : List UInt8) (failed : status ≠ success)
    (short : (Json.int status).IsShort) (characters : List Char)
    (spelled : body = Utf8.spelling characters) :
    Yields method url (.answer status body)
      (.error (.badStatus (.int status) (.text (String.ofList characters))))
  /-- A status of too many digits takes the place of the refusal. -/
  | unshown (status : Int) (body : List UInt8) (failed : status ≠ success)
    (long : ¬ (Json.int status).IsShort) (characters : List Char)
    (spelled : body = Utf8.spelling characters) :
    Yields method url (.answer status body)
      (.error (.exchangeFailed method url (.number .tooLongToWrite)))
  /-- The text of a refusal is not UTF-8, and that takes the place of the refusal. -/
  | garbled (status : Int) (body : List UInt8) (failed : status ≠ success)
    (foreign : ∀ characters, body ≠ Utf8.spelling characters) (fault : Utf8.Fault)
    (found : Utf8.decode body = .error fault) :
    Yields method url (.answer status body)
      (.error (.exchangeFailed method url (.undecodable body fault)))
  | undecodable (body : List UInt8) (foreign : ∀ characters, body ≠ Utf8.spelling characters)
    (fault : Utf8.Fault) (found : Utf8.decode (strip isBlankByte body) = .error fault) :
    Yields method url (.answer success body)
      (.error (.exchangeFailed method url (.undecodable (strip isBlankByte body) fault)))
  | unreadable (body : List UInt8) (fault : Json.Fault) (told : Tells body (.error fault))
    (flat : ∀ container, fault ≠ .tooDeep container) :
    Yields method url (.answer success body)
      (.error (.exchangeFailed method url (.unreadable fault)))
  /-- Containers that stand too deep for the reader are no broken exchange. -/
  | tooDeep (body : List UInt8) (container : Json.Container)
    (told : Tells body (.error (.tooDeep container))) :
    Yields method url (.answer success body) (.error (.unreadable (.tooDeep container)))
  | blank (body : List UInt8) (empty : ∀ byte ∈ body, isBlankByte byte = true) :
    Yields method url (.answer success body) (.error (.notAnObject method url .null))
  | notAnObject (body : List UInt8) (value : Json) (told : Tells body (.ok value))
    (other : ∀ members, value ≠ .object members) :
    Yields method url (.answer success body) (.error (.notAnObject method url value))
  /-- An error object is told by its members, those that are missing by zero, an empty text and
  null; what else the answer holds does not matter. -/
  | errorObject (body : List UInt8) (members error : Json.Members)
    (told : Tells body (.ok (.object members)))
    (found : members.get? "error" = some (.object error)) :
    Yields method url (.answer success body)
      (.error (.rpc ((error.get? "code").getD (.int 0)) ((error.get? "message").getD (.text ""))
        (error.getOrNull "data")))
  /-- Any other error, null among them, is told by its text. -/
  | errorValue (body : List UInt8) (members : Json.Members) (error : Json)
    (told : Tells body (.ok (.object members))) (found : members.get? "error" = some error)
    (other : ∀ members, error ≠ .object members) (text : Text) (shown : error.plain = .ok text) :
    Yields method url (.answer success body) (.error (.rpc (.int 0) (.text text) .null))
  | result (body : List UInt8) (members : Json.Members) (told : Tells body (.ok (.object members)))
    (noError : members.get? "error" = none) :
    Yields method url (.answer success body) (.ok (members.getOrNull "result"))

theorem Tells.isShort {body : List UInt8} {value : Json} (told : Tells body (.ok value)) :
    value.Throughout Json.IsShort := by
  obtain ⟨characters, -, read⟩ := told.text
  exact Json.isShort_of_read read

theorem Tells.isShort_member {body : List UInt8} {members : Json.Members} {name : Text}
    {value : Json} (told : Tells body (.ok (.object members)))
    (found : members.get? name = some value) : value.Throughout Json.IsShort :=
  ((Json.throughout_object_iff _ _).mp told.isShort).2 (name, value)
    (Json.Members.mem_of_get? found)

section Body

variable {body : List UInt8}

theorem bodyValue_of_blank (empty : ∀ byte ∈ body, isBlankByte byte = true) :
    bodyValue body = .ok .null := by
  rw [bodyValue, (Text.strip_eq_nil_iff isBlankByte body).mpr empty]
  rfl

theorem bodyValue_of_undecodable {fault : Utf8.Fault}
    (found : Utf8.decode (strip isBlankByte body) = .error fault) :
    bodyValue body = .error (.undecodable (strip isBlankByte body) fault) := by
  have notEmpty : ¬ (strip isBlankByte body).isEmpty = true := by
    intro empty
    rw [List.isEmpty_iff.mp empty, Utf8.decode_nil] at found
    cases found
  rw [bodyValue, if_neg notEmpty, bodyText, found]

theorem Tells.bodyValue {read : Except Json.Fault Json} (told : Tells body read) :
    bodyValue body = read.mapError .unreadable := by
  obtain ⟨byte, inside, solid⟩ := told.notBlank
  obtain ⟨characters, spelled, same⟩ := told.text
  have notEmpty : ¬ (strip isBlankByte body).isEmpty = true := by
    intro empty
    have blank := (Text.strip_eq_nil_iff isBlankByte body).mp (List.isEmpty_iff.mp empty)
    rw [blank byte inside] at solid
    cases solid
  have decoded := (Utf8.decode_strip_eq_ok_iff body _).mpr ⟨characters, spelled, rfl⟩
  rw [Reply.bodyValue, if_neg notEmpty, bodyText, decoded]
  dsimp only
  rw [same]

/-- A body is blank, or it is no UTF-8, or it tells something. -/
theorem body_cases (body : List UInt8) :
    (∀ byte ∈ body, isBlankByte byte = true) ∨
      (∃ fault, (∀ characters, body ≠ Utf8.spelling characters) ∧
        Utf8.decode (strip isBlankByte body) = .error fault) ∨
      ∃ read, Tells body read := by
  by_cases empty : ∀ byte ∈ body, isBlankByte byte = true
  · exact .inl empty
  cases decoded : Utf8.decode (strip isBlankByte body) with
  | ok characters =>
    obtain ⟨all, spelled, -⟩ := (Utf8.decode_strip_eq_ok_iff body characters).mp decoded
    have notBlank : ∃ byte ∈ body, isBlankByte byte = false := by
      push Not at empty
      obtain ⟨byte, inside, solid⟩ := empty
      exact ⟨byte, inside, Bool.eq_false_of_not_eq_true solid⟩
    exact .inr (.inr ⟨_, notBlank, all, spelled, rfl⟩)
  | error fault =>
    refine .inr (.inl ⟨fault, fun characters spelled => ?_, rfl⟩)
    rw [(Utf8.decode_strip_eq_ok_iff body _).mpr ⟨characters, spelled, rfl⟩] at decoded
    cases decoded

end Body

variable {method url : String}

theorem receive_of_failure {body : List UInt8} {failure : Failure}
    (unread : bodyValue body = .error failure) :
    receive method url (.answer success body) = .error (failure.inCall method url) := by
  simp only [receive, value, ↓reduceIte, unread]

theorem receive_of_value {body : List UInt8} {answer : Json}
    (read : bodyValue body = .ok answer) :
    receive method url (.answer success body) = result method url answer := by
  simp only [receive, value, ↓reduceIte, read]

theorem receive_of_refused {status : Int} (failed : status ≠ success) {characters : List Char} :
    receive method url (.answer status (Utf8.spelling characters)) =
      .error ((Failure.badStatus (.int status) (.text (String.ofList characters))).raised.inCall
        method url) := by
  rw [receive, value, if_neg failed, bodyText, (Utf8.decode_eq_ok_iff _ characters).mpr rfl]

theorem receive_of_yields {reply : Reply} {ended : Except Failure Json}
    (yields : reply.Yields method url ended) : reply.receive method url = ended := by
  cases yields with
  | broken failure breaks told =>
    exact congrArg Except.error ((Failure.inCall_of_breaks breaks method url).trans
      (Failure.raised_of_hasMessage told))
  | untold failure breaks unwritten =>
    exact congrArg Except.error ((Failure.inCall_of_breaks breaks method url).trans
      (Failure.raised_of_not_hasMessage unwritten))
  | passed failure other =>
    exact congrArg Except.error (Failure.inCall_of_not_breaks other method url)
  | refused status body failed short characters spelled =>
    rw [spelled, receive_of_refused failed,
      Failure.raised_of_hasMessage ((hasMessage_refused_iff status characters).mpr short)]
    rfl
  | unshown status body failed long characters spelled =>
    rw [spelled, receive_of_refused failed, Failure.raised_of_not_hasMessage
      fun written => long ((hasMessage_refused_iff status characters).mp written)]
    exact congrArg Except.error (Failure.inCall_tooLongToWrite method url)
  | garbled status body failed foreign fault found =>
    rw [receive, value, if_neg failed, bodyText, found]
    exact congrArg Except.error (Failure.inCall_undecodable method url body fault)
  | undecodable body foreign fault found =>
    exact (receive_of_failure (bodyValue_of_undecodable found)).trans
      (congrArg Except.error (Failure.inCall_undecodable method url _ fault))
  | unreadable body fault told flat =>
    exact (receive_of_failure told.bodyValue).trans
      (congrArg Except.error (Failure.inCall_unreadable method url flat))
  | tooDeep body container told => exact receive_of_failure told.bodyValue
  | blank body empty =>
    have noObject : ∀ members, Json.null ≠ .object members := by
      intro members same
      cases same
    rw [receive_of_value (bodyValue_of_blank empty)]
    exact result_notAnObject method url noObject (Json.throughout_of_leaf trivial rfl)
  | notAnObject body value told other =>
    rw [receive_of_value told.bodyValue]
    exact result_notAnObject method url other told.isShort
  | errorObject body members error told found =>
    rw [receive_of_value told.bodyValue]
    dsimp only [result]
    rw [found]
    exact congrArg Except.error (ofErrorMember_object (told.isShort_member found))
  | errorValue body members error told found other text shown =>
    rw [receive_of_value told.bodyValue]
    dsimp only [result]
    rw [found]
    exact congrArg Except.error (ofErrorMember_other other shown)
  | result body members told noError =>
    rw [receive_of_value told.bodyValue]
    dsimp only [result]
    rw [noError]

theorem exists_yields_of_value (method url : String) {body : List UInt8} {value : Json}
    (told : Tells body (.ok value)) :
    ∃ ended, (Reply.answer success body).Yields method url ended := by
  by_cases object : ∃ members, value = .object members
  · obtain ⟨members, rfl⟩ := object
    cases found : Json.Members.get? "error" members with
    | none => exact ⟨_, .result body members told found⟩
    | some error =>
      by_cases errorIsObject : ∃ members, error = .object members
      · obtain ⟨inner, rfl⟩ := errorIsObject
        exact ⟨_, .errorObject body members inner told found⟩
      · obtain ⟨text, shown⟩ := (Json.plain_isOk_iff error).mpr (told.isShort_member found)
        exact ⟨_, .errorValue body members error told found
          (fun inner same => errorIsObject ⟨inner, same⟩) text shown⟩
  · exact ⟨_, .notAnObject body value told fun members same => object ⟨members, same⟩⟩

theorem exists_yields (method url : String) (reply : Reply) :
    ∃ ended, reply.Yields method url ended := by
  cases reply with
  | broken failure =>
    by_cases breaks : failure.Breaks
    · by_cases told : (Failure.exchangeFailed method url failure).HasMessage
      · exact ⟨_, .broken failure breaks told⟩
      · exact ⟨_, .untold failure breaks told⟩
    · exact ⟨_, .passed failure breaks⟩
  | answer status body =>
    by_cases succeeded : status = success
    · subst succeeded
      rcases body_cases body with empty | ⟨fault, foreign, found⟩ | ⟨read, told⟩
      · exact ⟨_, .blank body empty⟩
      · exact ⟨_, .undecodable body foreign fault found⟩
      rcases read with fault | value
      · by_cases deep : ∃ container, fault = .tooDeep container
        · obtain ⟨container, rfl⟩ := deep
          exact ⟨_, .tooDeep body container told⟩
        · exact ⟨_, .unreadable body fault told fun container same => deep ⟨container, same⟩⟩
      · exact exists_yields_of_value method url told
    · cases decoded : Utf8.decode body with
      | ok characters =>
        have spelled := (Utf8.decode_eq_ok_iff body characters).mp decoded
        by_cases short : (Json.int status).IsShort
        · exact ⟨_, .refused status body succeeded short characters spelled⟩
        · exact ⟨_, .unshown status body succeeded short characters spelled⟩
      | error fault =>
        refine ⟨_, .garbled status body succeeded (fun characters spelled => ?_) fault decoded⟩
        rw [(Utf8.decode_eq_ok_iff body characters).mpr spelled] at decoded
        cases decoded

/-- What is received is what the one case that applies to the reply tells. -/
theorem receive_eq_iff (method url : String) (reply : Reply) (ended : Except Failure Json) :
    reply.receive method url = ended ↔ reply.Yields method url ended := by
  constructor
  · rintro rfl
    obtain ⟨ended, yields⟩ := exists_yields method url reply
    rw [receive_of_yields yields]
    exact yields
  · exact receive_of_yields

/-- A body of one whole number tells what reading the number comes to. -/
theorem tells_ofInt (number : Int) :
    Tells (Utf8.spelling (Numeral.ofInt number)) (Json.read (Numeral.ofInt number)) where
  notBlank := by
    obtain ⟨first, later, written, -⟩ := Json.ofInt_starts number
    have solid : isBlankLetter first = false :=
      isBlankLetter_of_mem_ofInt (by rw [written]; exact List.mem_cons_self)
    obtain ⟨byte, more, spelled⟩ := List.exists_cons_of_ne_nil (Utf8.utf8EncodeChar_ne_nil first)
    have inside : byte ∈ String.utf8EncodeChar first := by
      rw [spelled]
      exact List.mem_cons_self
    refine ⟨byte, ?_, (Utf8.isBlankByte_of_mem first byte inside).trans solid⟩
    rw [written, Utf8.spelling_cons]
    exact List.mem_append_left _ inside
  text := ⟨_, rfl, by rw [Text.strip_of_solid fun _ => isBlankLetter_of_mem_ofInt]⟩

end Reply

namespace Wire

/-- A call, whatever it asks for, ends as the one case that applies to the reply to it tells. Among
the texts that are not read are whole numbers of more digits than the reader takes. A connection
that breaks off is told as the cause, unless its details hold such a number. -/
theorem call_yields_iff (method : String) (params : Json) (wire : Wire) :
    let called := (transport.call method params wire).result
    (∀ ended, called = ended ↔ wire.next.1.Yields method wire.line.url ended) ∧
      (∀ number : Int, Numeral.digitLimit < Numeral.digitCount number →
        wire.next.1 = .answer Reply.success (Utf8.spelling (Numeral.ofInt number)) →
        called = .error (.exchangeFailed method wire.line.url
          (.unreadable (.tooManyDigits (Numeral.digitCount number))))) ∧
      ∀ fault details, (∀ detail ∈ details, detail.Throughout Json.IsShort) →
        wire.next.1 = .broken (.connection fault details) →
        called = .error (.exchangeFailed method wire.line.url (.connection fault details)) := by
  intro called
  have exactly (ended : Except Failure Json) :
      called = ended ↔ wire.next.1.Yields method wire.line.url ended :=
    Reply.receive_eq_iff method wire.line.url wire.next.1 ended
  refine ⟨exactly, ?_, ?_⟩
  · intro number long answered
    have told := Reply.tells_ofInt number
    rw [Json.read_ofInt_of_long number long] at told
    rw [exactly, answered]
    exact .unreadable _ _ told nofun
  · intro fault details short broken
    rw [exactly, broken]
    exact .broken _ (Failure.breaks_connection fault details)
      (Failure.hasMessage_exchangeFailed method wire.line.url fault short)

/-- A refusal is reported as one, with its status and text, exactly when the text is UTF-8 and the
status is no number of too many digits. Any other bytes take the place of the refusal, and so does
such a number; then neither the status nor the text is reported. -/
theorem call_badStatus_iff (method : String) (params : Json) (line : Line) (later : List Reply)
    (status : Int) (body : List UInt8) (failed : status ≠ Reply.success) :
    let called := (transport.call method params ⟨line, .answer status body :: later⟩).result
    ((∃ text, called = .error (.badStatus (.int status) text)) ↔
        (Json.int status).IsShort ∧ ∃ characters, body = Utf8.spelling characters) ∧
      (∀ characters, body = Utf8.spelling characters → (Json.int status).IsShort →
        called = .error (.badStatus (.int status) (.text (String.ofList characters)))) ∧
      (∀ characters, body = Utf8.spelling characters → ¬ (Json.int status).IsShort →
        called = .error (.exchangeFailed method line.url (.number .tooLongToWrite))) ∧
      ((∀ characters, body ≠ Utf8.spelling characters) → ∃ fault,
        called = .error (.exchangeFailed method line.url (.undecodable body fault))) := by
  intro called
  have reported (characters : List Char) (spelled : body = Utf8.spelling characters)
      (short : (Json.int status).IsShort) :
      called = .error (.badStatus (.int status) (.text (String.ofList characters))) :=
    Reply.receive_of_yields (.refused status body failed short characters spelled)
  have unshown (characters : List Char) (spelled : body = Utf8.spelling characters)
      (long : ¬ (Json.int status).IsShort) :
      called = .error (.exchangeFailed method line.url (.number .tooLongToWrite)) :=
    Reply.receive_of_yields (.unshown status body failed long characters spelled)
  have replaced (foreign : ∀ characters, body ≠ Utf8.spelling characters) : ∃ fault,
      called = .error (.exchangeFailed method line.url (.undecodable body fault)) := by
    cases decoded : Utf8.decode body with
    | ok characters =>
      exact absurd ((Utf8.decode_eq_ok_iff body characters).mp decoded) (foreign characters)
    | error fault =>
      exact ⟨fault, Reply.receive_of_yields (.garbled status body failed foreign fault decoded)⟩
  refine ⟨⟨?_, ?_⟩, reported, unshown, replaced⟩
  · rintro ⟨text, refused⟩
    by_contra other
    by_cases spelled : ∃ characters, body = Utf8.spelling characters
    · obtain ⟨characters, spells⟩ := spelled
      rw [unshown characters spells fun short => other ⟨short, characters, spells⟩] at refused
      cases refused
    · obtain ⟨fault, garbled⟩ := replaced (not_exists.mp spelled)
      rw [garbled] at refused
      cases refused
  · rintro ⟨short, characters, spelled⟩
    exact ⟨_, reported characters spelled short⟩

end Wire

end Received

namespace Wire

theorem call_badStatus_accented :
    (503 : Int) ≠ Reply.success ∧
      (transport.call "getBlock" (.array [.int 5])
        ⟨Line.start "http://127.0.0.1" false .null, [.answer 503 [0xC3, 0xA9]]⟩).result =
      .error (.badStatus (.int 503) (.text "é")) := by
  have failed : (503 : Int) ≠ Reply.success := by decide
  have short : (Json.int 503).IsShort := Numeral.digitCount_of_small (by decide)
  exact ⟨failed, (call_badStatus_iff "getBlock" (.array [.int 5])
    (Line.start "http://127.0.0.1" false .null) [] 503 [0xC3, 0xA9] failed).2.1 ['é'] rfl short⟩

/-- A refusal whose text is one byte that no character begins with is reported without its
status. -/
theorem call_garbled :
    let called := (transport.call "getBlock" (.array [.int 5, .object [("encoding", .text "json")]])
      ⟨Line.start "http://localhost:8899" false .null, [.answer 500 [0xFF]]⟩).result
    called = .error (.exchangeFailed "getBlock" "http://localhost:8899"
        (.undecodable [0xFF] ⟨0, 1, .startByte⟩)) ∧
      ∀ text, called ≠ .error (.badStatus (.int 500) text) := by
  intro called
  have found : Utf8.decode [0xFF] = .error ⟨0, 1, .startByte⟩ := by
    simp [Utf8.decode, Utf8.decodeFrom, Utf8.front]
  have ended : called = .error (.exchangeFailed "getBlock" "http://localhost:8899"
      (.undecodable [0xFF] ⟨0, 1, .startByte⟩)) := by
    refine Reply.receive_of_yields (.garbled 500 [0xFF] (by decide) (fun characters spelled => ?_)
      _ found)
    rw [(Utf8.decode_eq_ok_iff [0xFF] characters).mpr spelled] at found
    cases found
  refine ⟨ended, fun text refused => ?_⟩
  rw [ended] at refused
  cases refused

end Wire

end BlockReader
