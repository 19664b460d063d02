import BlockReader.Proofs.Failure
import BlockReader.Proofs.Json.Access
import BlockReader.Transport.Http
set_option autoImplicit false

namespace BlockReader

open Result

theorem Utf8.decode_nil : Utf8.decode [] = .ok [] := by
  rw [decode, decodeFrom, List.reverse_nil]

theorem Failure.raised_ne_notConfirmed {failure : Failure}
    (other : ∀ slot, failure ≠ .notConfirmed slot) (slot : Json) :
    failure.raised ≠ .notConfirmed slot :=
  fun same => other slot (eq_of_raised same nofun).1

theorem Failure.ofErrorMember_ne_notConfirmed (error slot : Json) :
    ofErrorMember error ≠ .notConfirmed slot := by
  unfold ofErrorMember
  split
  · exact raised_ne_notConfirmed (by nofun) slot
  · split
    · exact raised_ne_notConfirmed (by nofun) slot
    · exact nofun

theorem Failure.ofErrorMember_ne_unsupportedEncoding (error encoding : Json) :
    ofErrorMember error ≠ .unsupportedEncoding encoding := by
  unfold ofErrorMember
  split
  · exact fun same => nomatch (eq_of_raised same nofun).1
  · split
    · exact fun same => nomatch (eq_of_raised same nofun).1
    · exact nofun

theorem Failure.inCall_eq_notConfirmed_iff (failure : Failure) (method url : String)
    (slot : Json) :
    failure.inCall method url = .notConfirmed slot ↔ failure = .notConfirmed slot := by
  rw [inCall]
  split
  · rename_i broke
    constructor
    · intro impossible
      exact absurd impossible (raised_ne_notConfirmed (by nofun) slot)
    · rintro rfl
      cases broke
  · exact Iff.rfl

namespace Reply

theorem bodyText_eq_ok_iff (body : List UInt8) (characters : List Char) :
    bodyText body = .ok characters ↔ Utf8.decode body = .ok characters := by
  rw [bodyText]
  cases Utf8.decode body <;> simp

theorem result_eq_ok_iff (method url : String) (value raw : Json) :
    result method url value = .ok raw ↔ ∃ members : Json.Members, value = .object members ∧
      members.get? "error" = none ∧ members.getOrNull "result" = raw := by
  cases value with
  | object members =>
    rw [result]
    cases found : Json.Members.get? "error" members <;> simp [found]
  | _ => simp [result]

theorem result_failsOnly (method url : String) (value : Json) :
    FailsOnly (fun failure => ∀ slot, failure ≠ .notConfirmed slot) (result method url value) := by
  cases value with
  | object members =>
    rw [result]
    cases Json.Members.get? "error" members with
    | some error => exact failsOnly_error (Failure.ofErrorMember_ne_notConfirmed error)
    | none => exact failsOnly_ok _
  | _ => exact failsOnly_error (Failure.raised_ne_notConfirmed (by nofun))

end Reply

variable [Json.Nesting]

theorem Json.read_nil : ∃ fault, Json.read [] = .error fault :=
  ⟨_, rfl⟩

namespace Reply

/-- What a body says: without the blanks around it, it is the text of an object with the given
members. -/
def Holds (body : List UInt8) (members : Json.Members) : Prop :=
  ∃ characters, Utf8.decode (Text.strip Text.isBlankByte body) = .ok characters ∧
    Json.read characters = .ok (.object members)

theorem bodyValue_object_iff (body : List UInt8) (members : Json.Members) :
    bodyValue body = .ok (.object members) ↔ Holds body members := by
  rw [bodyValue]
  split
  · rename_i blank
    constructor
    · intro impossible
      cases impossible
    · rintro ⟨characters, spelled, read⟩
      obtain ⟨fault, unreadable⟩ := Json.read_nil
      rw [List.isEmpty_iff.mp blank, Utf8.decode_nil] at spelled
      cases spelled
      rw [unreadable] at read
      cases read
  · constructor
    · intro read
      split at read
      · cases read
      · rename_i characters spelled
        refine ⟨characters, (bodyText_eq_ok_iff _ _).mp spelled, ?_⟩
        cases value : Json.read characters with
        | ok value' =>
          rw [value] at read
          cases read
          rfl
        | error fault =>
          rw [value] at read
          cases read
    · rintro ⟨characters, spelled, read⟩
      rw [(bodyText_eq_ok_iff _ _).mpr spelled]
      dsimp only
      rw [read]
      rfl

theorem Holds.unique {body : List UInt8} {members others : Json.Members}
    (holds : Holds body members) (other : Holds body others) : members = others := by
  rw [← bodyValue_object_iff] at holds other
  exact Json.object.inj (Except.ok.inj (holds.symm.trans other))

/-- A reply carries a result exactly when it succeeds with an object that has no error member; the
result is that member of it, null when it is missing. -/
theorem receive_eq_ok_iff (method url : String) (reply : Reply) (raw : Json) :
    reply.receive method url = .ok raw ↔ ∃ (body : List UInt8) (members : Json.Members),
      reply = .answer success body ∧ Holds body members ∧ members.get? "error" = none ∧
        members.getOrNull "result" = raw := by
  constructor
  · intro received
    rw [receive] at received
    split at received
    · cases received
    · rename_i value carried
      obtain ⟨members, rfl, noError, same⟩ := (result_eq_ok_iff _ _ _ _).mp received
      cases reply with
      | broken failure => cases carried
      | answer status body =>
        rw [Reply.value] at carried
        split at carried
        · rename_i succeeded
          rw [succeeded]
          exact ⟨body, members, rfl, (bodyValue_object_iff _ _).mp carried, noError, same⟩
        · split at carried <;> cases carried
  · rintro ⟨body, members, rfl, holds, noError, same⟩
    rw [receive, Reply.value, if_pos rfl, (bodyValue_object_iff _ _).mpr holds]
    exact (result_eq_ok_iff _ _ _ _).mpr ⟨members, rfl, noError, same⟩

theorem bodyValue_failsOnly (body : List UInt8) :
    FailsOnly (fun failure => ∀ slot, failure ≠ .notConfirmed slot) (bodyValue body) := by
  rw [bodyValue]
  split
  · exact failsOnly_ok _
  · split
    · rename_i failure undecoded
      rw [bodyText] at undecoded
      split at undecoded
      · cases undecoded
      · cases undecoded
        exact failsOnly_error nofun
    · exact failsOnly_mapError _ nofun

theorem value_answer_failsOnly (status : Int) (body : List UInt8) :
    FailsOnly (fun failure => ∀ slot, failure ≠ .notConfirmed slot)
      (Reply.value (.answer status body)) := by
  rw [Reply.value]
  split
  · exact bodyValue_failsOnly body
  · rw [bodyText]
    cases Utf8.decode body with
    | ok characters => exact failsOnly_error (Failure.raised_ne_notConfirmed (by nofun))
    | error fault => exact failsOnly_error nofun

end Reply

/-- No answer of a node is received as an unconfirmed block; only an exchange that broke off as one
is. -/
theorem Reply.receive_eq_notConfirmed_iff (method url : String) (reply : Reply) (slot : Json) :
    reply.receive method url = .error (.notConfirmed slot) ↔
      reply = .broken (.notConfirmed slot) := by
  constructor
  · intro received
    rw [receive] at received
    split at received
    · rename_i failure carried
      have same := (Failure.inCall_eq_notConfirmed_iff failure method url slot).mp
        (Except.error.inj received)
      cases reply with
      | broken cause => rw [← same, Except.error.inj carried]
      | answer status body => exact absurd same (value_answer_failsOnly status body _ carried slot)
    · rename_i value carried
      exact absurd rfl (result_failsOnly method url value _ received slot)
  · rintro rfl
    rfl

/-- No reply is received as an unknown encoding, not even one that broke off over an encoding. -/
theorem Reply.receive_ne_unsupportedEncoding (method url : String) (reply : Reply)
    (encoding : Json) : reply.receive method url ≠ .error (.unsupportedEncoding encoding) := by
  intro received
  rw [receive] at received
  split at received
  · rename_i failure carried
    have same : failure.inCall method url = .unsupportedEncoding encoding :=
      Except.error.inj received
    rw [Failure.inCall] at same
    split at same
    · exact nomatch (Failure.eq_of_raised same nofun).1
    · rename_i intact
      rw [same] at intact
      exact intact rfl
  · rename_i value carried
    cases value with
    | object members =>
      rw [result] at received
      split at received
      · rename_i error found
        exact Failure.ofErrorMember_ne_unsupportedEncoding error encoding
          (Except.error.inj received)
      · cases received
    | _ => exact nomatch (Failure.eq_of_raised (Except.error.inj received) nofun).1

end BlockReader
