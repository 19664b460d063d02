import BlockReader.Failure.Message
import BlockReader.Proofs.Json.Display
set_option autoImplicit false

namespace BlockReader.Failure

open Result

theorem describe_failsOnly (details : List Json) :
    FailsOnly (· = .tooLongToWrite) (describe details) := by
  unfold describe
  split
  · exact failsOnly_ok _
  · exact Json.plain_failsOnly _
  · refine failsOnly_bind ?_ fun _ => failsOnly_ok _
    refine failsOnly_bind (Json.displayItems_failsOnly _) fun shown => ?_
    split <;> exact failsOnly_ok _

theorem describePaths_failsOnly (paths : List Json) :
    FailsOnly (· = .tooLongToWrite) (describePaths paths) := by
  unfold describePaths
  split
  · exact failsOnly_ok _
  split
  · exact failsOnly_ok _
  refine failsOnly_bind (Json.display_failsOnly _) fun shown => ?_
  split
  · split
    · exact failsOnly_ok _
    · exact failsOnly_bind (Json.display_failsOnly _) fun _ => failsOnly_ok _
  · exact failsOnly_ok _

theorem describeSystem_failsOnly (details : List Json) :
    FailsOnly (· = .tooLongToWrite) (describeSystem details) := by
  unfold describeSystem
  split
  · split
    · exact describe_failsOnly _
    · exact failsOnly_bind (Json.plain_failsOnly _) fun _ =>
        failsOnly_bind (Json.plain_failsOnly _) fun _ =>
          failsOnly_bind (describePaths_failsOnly _) fun _ => failsOnly_ok _
  · exact describe_failsOnly _

theorem describeKey_failsOnly (details : List Json) :
    FailsOnly (· = .tooLongToWrite) (describeKey details) := by
  unfold describeKey
  split
  · exact failsOnly_bind (Json.display_failsOnly _) fun _ => failsOnly_ok _
  · exact describe_failsOnly _

theorem shown_failsOnly (name : String) (details : List Json) :
    FailsOnly (· = .tooLongToWrite) (shown name details) :=
  failsOnly_bind (Json.displayItems_failsOnly details) fun _ => failsOnly_ok _

theorem asCause_failsOnly {said : Except NumberFault Text}
    (only : FailsOnly (· = .tooLongToWrite) said) (failure : Failure) :
    FailsOnly (· = .tooLongToWrite) (failure.asCause said) := by
  unfold asCause
  split
  · exact shown_failsOnly _ _
  · exact failsOnly_ok _
  · exact failsOnly_bind only fun _ => shown_failsOnly _ _

/-- The only thing that keeps a message from being written is a whole number of too many digits. -/
theorem message_failsOnly (failure : Failure) :
    FailsOnly (· = .tooLongToWrite) failure.message := by
  induction failure with
  | general details => exact describe_failsOnly details
  | transport details => exact describe_failsOnly details
  | unsupportedEncoding encoding =>
    exact failsOnly_bind (Json.plain_failsOnly encoding) fun _ => failsOnly_ok _
  | notConfirmed slot => exact failsOnly_bind (Json.plain_failsOnly slot) fun _ => failsOnly_ok _
  | exchangeFailed method url cause ih =>
    exact failsOnly_bind (asCause_failsOnly ih cause) fun _ => failsOnly_ok _
  | notAnObject method url answer =>
    exact failsOnly_bind (Json.display_failsOnly answer) fun _ => failsOnly_ok _
  | badStatus status body =>
    exact failsOnly_bind (Json.plain_failsOnly status) fun _ =>
      failsOnly_bind (Json.plain_failsOnly body) fun _ => failsOnly_ok _
  | rpc code text data =>
    exact failsOnly_bind (Json.plain_failsOnly code) fun _ =>
      failsOnly_bind (Json.plain_failsOnly text) fun _ => failsOnly_ok _
  | connection fault details =>
    unfold message
    split
    · exact describeSystem_failsOnly details
    · exact describe_failsOnly details
  | outside fault details =>
    cases fault with
    | system => exact describeSystem_failsOnly _
    | key => exact describeKey_failsOnly details
    | _ => exact describe_failsOnly details
  | missing name => exact failsOnly_bind (Json.display_failsOnly name) fun _ => failsOnly_ok _
  | _ => exact failsOnly_ok _

/-- The message of a failure can be written. -/
def HasMessage (failure : Failure) : Prop :=
  ∃ message, failure.message = .ok message

theorem message_of_not_hasMessage {failure : Failure} (unwritten : ¬ failure.HasMessage) :
    failure.message = .error .tooLongToWrite := by
  cases written : failure.message with
  | ok message => exact absurd ⟨message, written⟩ unwritten
  | error fault => rw [message_failsOnly failure fault written]

theorem raised_of_hasMessage {failure : Failure} (written : failure.HasMessage) :
    failure.raised = failure := by
  obtain ⟨message, written⟩ := written
  rw [raised, made, written]

theorem raised_of_not_hasMessage {failure : Failure} (unwritten : ¬ failure.HasMessage) :
    failure.raised = .number .tooLongToWrite := by
  rw [raised, made, message_of_not_hasMessage unwritten]

/-- What is raised is the failure itself, if its message can be written. -/
theorem eq_of_raised {failure other : Failure} (is : failure.raised = other)
    (noNumber : ∀ fault, other ≠ .number fault) : failure = other ∧ failure.HasMessage := by
  by_cases written : failure.HasMessage
  · rw [raised_of_hasMessage written] at is
    exact ⟨is, written⟩
  · rw [raised_of_not_hasMessage written] at is
    exact absurd is.symm (noNumber _)

theorem hasMessage_notConfirmed_iff (slot : Json) :
    (notConfirmed slot).HasMessage ↔ slot.Throughout Json.IsShort := by
  rw [HasMessage, message, isOk_bind_iff (Json.plain_isOk_iff slot) fun _ =>
    isOk_pure_iff _, and_true]

theorem hasMessage_unsupportedEncoding_iff (encoding : Json) :
    (unsupportedEncoding encoding).HasMessage ↔ encoding.Throughout Json.IsShort := by
  rw [HasMessage, message, isOk_bind_iff (Json.plain_isOk_iff encoding) fun _ =>
    isOk_pure_iff _, and_true]

/-- A text names an encoding in the message that refuses it. -/
theorem message_unsupportedEncoding_text (name : String) :
    (unsupportedEncoding (.text name)).message =
      .ok ("provided encoding is not supported: " ++ name : String) := rfl

theorem hasMessage_notAnObject_iff (method url : String) (answer : Json) :
    (notAnObject method url answer).HasMessage ↔ answer.Throughout Json.IsShort := by
  rw [HasMessage, message, isOk_bind_iff (Json.display_isOk_iff answer) fun _ =>
    isOk_pure_iff _, and_true]

theorem hasMessage_badStatus_iff (status body : Json) :
    (badStatus status body).HasMessage ↔
      status.Throughout Json.IsShort ∧ body.Throughout Json.IsShort := by
  rw [HasMessage, message, isOk_bind_iff (Json.plain_isOk_iff status) fun _ =>
    isOk_bind_iff (Json.plain_isOk_iff body) fun _ => isOk_pure_iff _, and_true]

theorem mem_of_mem_systemDetails {details : List Json} {detail : Json}
    (kept : detail ∈ systemDetails details) : detail ∈ details := by
  unfold systemDetails at kept
  split at kept
  · split at kept
    · exact kept
    · simp only [List.mem_cons, List.not_mem_nil, or_false] at kept
      rcases kept with rfl | rfl
      · exact List.mem_cons_self
      · exact List.mem_cons_of_mem _ List.mem_cons_self
  · exact kept

theorem hasMessage_exchangeFailed (method url : String) (fault : ConnectionFault)
    {details : List Json} (short : ∀ detail ∈ details, detail.Throughout Json.IsShort) :
    (exchangeFailed method url (connection fault details)).HasMessage := by
  have cause (kept : List Json) (each : ∀ detail ∈ kept, detail ∈ details) :
      ∃ text, shown fault.errorClass.name kept = .ok text :=
    (isOk_bind_iff (Json.displayItems_isOk_iff kept) fun _ => isOk_pure_iff _).mpr
      ⟨fun detail listed => short detail (each detail listed), trivial⟩
  refine (isOk_bind_iff ?_ fun _ => isOk_pure_iff _).mpr ⟨trivial, trivial⟩
  rw [asCause, iff_true]
  split
  · exact cause _ fun _ => mem_of_mem_systemDetails
  · exact cause details fun _ => id

theorem hasMessage_rpc_iff (code text data : Json) :
    (rpc code text data).HasMessage ↔
      code.Throughout Json.IsShort ∧ text.Throughout Json.IsShort := by
  rw [HasMessage, message, isOk_bind_iff (Json.plain_isOk_iff code) fun _ =>
    isOk_bind_iff (Json.plain_isOk_iff text) fun _ => isOk_pure_iff _, and_true]

end BlockReader.Failure
