import BlockReader.Proofs.Fetch
import BlockReader.Proofs.Json.Kept
set_option autoImplicit false

namespace BlockReader

section Replies

variable [Json.Nesting]

/-- The node says that it has no such block yet: it succeeds with an object whose result is missing
or null, and that has no error member. -/
def Reply.Unconfirmed (reply : Reply) : Prop :=
  ∃ (body : List UInt8) (members : Json.Members), reply = .answer success body ∧
    Holds body members ∧ members.get? "error" = none ∧
      (members.get? "result" = none ∨ members.get? "result" = some .null)

/-- Replies that carry nothing, or nothing that counts as true, and are yet not unconfirmed. -/
inductive Reply.Hollow : Reply → Prop
  | refused (status : Int) (body : List UInt8) (failed : status ≠ success) :
    Hollow (.answer status body)
  | blank (status : Int) (body : List UInt8) (empty : Text.strip Text.isBlankByte body = []) :
    Hollow (.answer status body)
  | undecodable (status : Int) (body : List UInt8) (fault : Utf8.Fault)
    (broken : Utf8.decode (Text.strip Text.isBlankByte body) = .error fault) :
    Hollow (.answer status body)
  | unreadable (status : Int) (body : List UInt8) (characters : List Char) (fault : Json.Fault)
    (spelled : Utf8.decode (Text.strip Text.isBlankByte body) = .ok characters)
    (broken : Json.read characters = .error fault) : Hollow (.answer status body)
  | notAnObject (status : Int) (body : List UInt8) (characters : List Char) (value : Json)
    (spelled : Utf8.decode (Text.strip Text.isBlankByte body) = .ok characters)
    (read : Json.read characters = .ok value) (other : ∀ members, value ≠ .object members) :
    Hollow (.answer status body)
  | faulty (status : Int) (body : List UInt8) (members : Json.Members) (holds : Holds body members)
    (error : (members.get? "error").isSome) : Hollow (.answer status body)
  | falsy (status : Int) (body : List UInt8) (members : Json.Members) (holds : Holds body members)
    (value : Json) (found : members.get? "result" = some value) (present : value ≠ .null)
    (untrue : value.truthy = false) : Hollow (.answer status body)

theorem Reply.Hollow.not_unconfirmed {reply : Reply} (hollow : reply.Hollow) :
    ¬ reply.Unconfirmed := by
  rintro ⟨body, members, rfl, holds, noError, missing⟩
  have spelledOut := holds
  obtain ⟨characters, spelled, read⟩ := spelledOut
  cases hollow with
  | refused _ _ failed => exact failed rfl
  | blank _ _ empty =>
    obtain ⟨fault, unreadable⟩ := Json.read_nil
    rw [empty, Utf8.decode_nil] at spelled
    cases spelled
    rw [unreadable] at read
    cases read
  | undecodable _ _ fault broken =>
    rw [broken] at spelled
    cases spelled
  | unreadable _ _ others fault spelledAgain broken =>
    rw [spelledAgain] at spelled
    cases spelled
    rw [broken] at read
    cases read
  | notAnObject _ _ others value spelledAgain readAgain other =>
    rw [spelledAgain] at spelled
    cases spelled
    rw [readAgain] at read
    cases read
    exact other members rfl
  | faulty _ _ others holdsAgain error =>
    rw [← holds.unique holdsAgain, noError] at error
    cases error
  | falsy _ _ others holdsAgain value found present untrue =>
    rw [← holds.unique holdsAgain] at found
    rw [found] at missing
    rcases missing with absent | null
    · cases absent
    · exact present (Option.some.inj null)

theorem Reply.receive_eq_null_iff (method url : String) (reply : Reply) :
    reply.receive method url = .ok .null ↔ reply.Unconfirmed := by
  rw [receive_eq_ok_iff, Unconfirmed]
  refine exists_congr fun body => exists_congr fun members => ?_
  rw [Json.Members.getOrNull]
  cases members.get? "result" <;> simp

/-- Over HTTP a block is reported as unconfirmed exactly when the node's reply says so, and then at
the slot that was asked for; no hollow reply is mistaken for that, and what is returned is always a
block read from a result other than null. A slot that cannot be written, for its digits, can be
neither sent to a node nor named in a failure. -/
theorem fetchBlock_eq_notConfirmed_iff (wire : Wire) (slot : Json) (options : Options)
    (config : Config) (accepted : options.config = .ok config)
    (notRaised : ∀ other, wire.next.1 ≠ .broken (.notConfirmed other)) :
    (∀ other, (fetchBlock Wire.transport slot options wire).result =
        .error (.notConfirmed other) ↔
          wire.next.1.Unconfirmed ∧ slot.Throughout Json.IsShort ∧ other = slot) ∧
      (wire.next.1.Hollow → ∀ other, (fetchBlock Wire.transport slot options wire).result ≠
        .error (.notConfirmed other)) ∧
      ∀ block, (fetchBlock Wire.transport slot options wire).result = .ok block →
        ∃ raw, raw ≠ .null ∧ wire.next.1.receive blockMethod wire.line.url = .ok raw ∧
          Block.decode slot raw options.level = .ok block := by
  have ended : (fetchBlock Wire.transport slot options wire).result =
      wire.next.1.receive blockMethod wire.line.url >>= fun raw =>
        Block.decode slot raw options.level := by
    rw [fetchBlock_of_accepted _ slot options config accepted]
    rfl
  have exactly (other : Json) : (fetchBlock Wire.transport slot options wire).result =
      .error (.notConfirmed other) ↔
        wire.next.1.Unconfirmed ∧ slot.Throughout Json.IsShort ∧ other = slot := by
    rw [ended, ← Reply.receive_eq_null_iff blockMethod wire.line.url]
    cases received : wire.next.1.receive blockMethod wire.line.url with
    | ok raw =>
      show Block.decode slot raw options.level = _ ↔ _
      rw [Block.decode_eq_notConfirmed_iff, Failure.hasMessage_notConfirmed_iff, Except.ok.injEq]
    | error failure =>
      constructor
      · intro failed
        cases failed
        exact absurd ((Reply.receive_eq_notConfirmed_iff _ _ _ other).mp received)
          (notRaised other)
      · rintro ⟨impossible, _⟩
        cases impossible
  refine ⟨exactly, ?_, ?_⟩
  · intro hollow other failed
    exact hollow.not_unconfirmed ((exactly other).mp failed).1
  · intro block returned
    rw [ended] at returned
    obtain ⟨raw, received, read⟩ := (Result.bind_eq_ok_iff _ _ _).mp returned
    refine ⟨raw, ?_, received, read⟩
    rintro rfl
    cases read

end Replies

theorem fetchBlock_null_result :
    let wire : Wire := ⟨Line.start "http://127.0.0.1" false .null,
      [.answer 200 [0x20, 0x7B, 0x22, 0x72, 0x65, 0x73, 0x75, 0x6C, 0x74, 0x22, 0x3A, 0x6E, 0x75,
        0x6C, 0x6C, 0x7D, 0x0A]]⟩
    (Options.config {} = .ok ⟨.json, none, none, none, none⟩ ∧
        ∀ other, wire.next.1 ≠ .broken (.notConfirmed other)) ∧
      (fetchBlock Wire.transport (.int 7) {} wire).result = .error (.notConfirmed (.int 7)) := by
  intro wire
  have notRaised (other : Json) : wire.next.1 ≠ .broken (.notConfirmed other) := nofun
  have spelled : Utf8.decode [0x7B, 0x22, 0x72, 0x65, 0x73, 0x75, 0x6C, 0x74, 0x22, 0x3A, 0x6E,
      0x75, 0x6C, 0x6C, 0x7D] =
      .ok ['\x7b', '"', 'r', 'e', 's', 'u', 'l', 't', '"', ':', 'n', 'u', 'l', 'l', '\x7d'] := by
    simp [Utf8.decode, Utf8.decodeFrom, Utf8.front]
  have unconfirmed : wire.next.1.Unconfirmed :=
    ⟨_, [("result", .null)], rfl, ⟨_, spelled, rfl⟩, rfl, Or.inr rfl⟩
  have short : (Json.int 7).Throughout Json.IsShort := Json.isShort_int (by decide)
  exact ⟨⟨rfl, notRaised⟩, ((fetchBlock_eq_notConfirmed_iff wire (.int 7) {} _ rfl notRaised).1
    (.int 7)).mpr ⟨unconfirmed, short, rfl⟩⟩

end BlockReader
