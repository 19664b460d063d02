import BlockReader.Api.Response
import BlockReader.Proofs.Json.Compact
set_option autoImplicit false

namespace BlockReader

namespace Json

theorem mem_itemsWithoutReserved {item : Json} {items : List Json}
    (kept : item ∈ itemsWithoutReserved items) : ∃ whole ∈ items, item = whole.withoutReserved := by
  induction items with
  | nil => cases kept
  | cons first rest ih =>
    rw [itemsWithoutReserved, List.mem_cons] at kept
    rcases kept with rfl | kept
    · exact ⟨first, List.mem_cons_self, rfl⟩
    · obtain ⟨whole, listed, same⟩ := ih kept
      exact ⟨whole, List.mem_cons_of_mem _ listed, same⟩

theorem mem_membersWithoutReserved {member : Text × Json} {members : Members}
    (kept : member ∈ membersWithoutReserved members) :
    ∃ whole ∈ members, member = (whole.1, whole.2.withoutReserved) := by
  induction members with
  | nil => cases kept
  | cons first rest ih =>
    obtain ⟨name, value⟩ := first
    rw [membersWithoutReserved] at kept
    split at kept
    · obtain ⟨whole, listed, same⟩ := ih kept
      exact ⟨whole, List.mem_cons_of_mem _ listed, same⟩
    · rcases List.mem_cons.mp kept with rfl | kept
      · exact ⟨(name, value), List.mem_cons_self, rfl⟩
      · obtain ⟨whole, listed, same⟩ := ih kept
        exact ⟨whole, List.mem_cons_of_mem _ listed, same⟩

/-- What a value holds without its reserved members is a part of it without its own. -/
theorem exists_of_holds_withoutReserved {value part : Json}
    (held : value.withoutReserved.Holds part) :
    ∃ whole, value.Holds whole ∧ part = whole.withoutReserved := by
  generalize kept : value.withoutReserved = shown at held
  induction held generalizing value with
  | itself shown => exact ⟨value, .itself value, kept.symm⟩
  | item listed inside ih =>
    cases value with
    | array items =>
      cases kept
      obtain ⟨outer, given, same⟩ := mem_itemsWithoutReserved listed
      obtain ⟨whole, held, shown⟩ := ih same.symm
      exact ⟨whole, .item given held, shown⟩
    | _ => cases kept
  | member listed inside ih =>
    cases value with
    | object members =>
      cases kept
      obtain ⟨outer, given, rfl⟩ := mem_membersWithoutReserved listed
      obtain ⟨whole, held, shown⟩ := ih rfl
      exact ⟨whole, .member given held, shown⟩
    | _ => cases kept

theorem throughout_withoutReserved {condition : Json → Prop}
    (keeps : ∀ part, condition part → condition part.withoutReserved) {value : Json}
    (all : value.Throughout condition) : value.withoutReserved.Throughout condition := by
  intro part held
  obtain ⟨whole, inside, rfl⟩ := exists_of_holds_withoutReserved held
  exact keeps whole (all whole inside)

theorem isShort_withoutReserved {value : Json} (short : value.Throughout IsShort) :
    value.withoutReserved.Throughout IsShort := by
  refine throughout_withoutReserved (fun part short => ?_) short
  cases part with
  | int number => exact short
  | _ => trivial

theorem isFinite_withoutReserved {value : Json} (finite : value.Throughout IsFinite) :
    value.withoutReserved.Throughout IsFinite := by
  refine throughout_withoutReserved (fun part finite => ?_) finite
  cases part with
  | float number => exact finite
  | _ => trivial

theorem isEncodable_withoutReserved {value : Json} (encodable : value.Throughout IsEncodable) :
    value.withoutReserved.Throughout IsEncodable := by
  refine throughout_withoutReserved (fun part encodable => ?_) encodable
  cases part with
  | text value => exact encodable
  | object members =>
    intro member kept
    obtain ⟨whole, listed, rfl⟩ := mem_membersWithoutReserved kept
    exact encodable whole listed
  | _ => trivial

end Json

namespace Api.Response

def report (message : Text) : Json :=
  .object [("detail", .text message)]

theorem statusOf?_of_isTransport {failure : Failure} (ofCall : failure.isTransport = true) :
    statusOf? failure = some 502 := by
  unfold statusOf?
  split
  · cases ofCall
  · cases ofCall
  · exact if_pos ofCall

theorem statusOf?_of_other {failure : Failure}
    (encodings : ∀ encoding, failure ≠ .unsupportedEncoding encoding)
    (slots : ∀ slot, failure ≠ .notConfirmed slot) (notOfCall : ¬ failure.isTransport = true) :
    statusOf? failure = none := by
  unfold statusOf?
  split
  · exact absurd rfl (encodings _)
  · exact absurd rfl (slots _)
  · exact if_neg notOfCall

variable [Json.Nesting]

/-- A status, and a value as the body. -/
structure Carries (status : Nat) (value : Json) (response : Response) : Prop where
  status : response.status = status
  contentType : response.contentType = some "application/json"
  body : value.compact? = some response.body

/-- A failure is told under a status, by its message. A message that cannot be written, or has
lone halves, is not told, and the response is an internal error. -/
structure Tells (status : Nat) (failure : Failure) (response : Response) : Prop where
  told : ∀ message : String, failure.message = .ok message →
    response.Carries status (report message)
  untold : (∀ message : String, failure.message ≠ .ok message) → response = internalError

theorem ofJson_carries (status : Nat) {value : Json} (renderable : value.Renderable) :
    (ofJson status value).Carries status value := by
  obtain ⟨body, written⟩ :=
    Option.isSome_iff_exists.mp ((Json.isSome_compact?_iff value).mpr renderable)
  rw [ofJson, written]
  exact ⟨rfl, rfl, written⟩

theorem ofJson_of_not_renderable (status : Nat) {value : Json} (unwritten : ¬ value.Renderable) :
    ofJson status value = internalError := by
  rw [← Json.isSome_compact?_iff, Bool.not_eq_true, Option.isSome_eq_false_iff,
    Option.isNone_iff_eq_none] at unwritten
  rw [ofJson, unwritten]

theorem report_renderable_iff (message : Text) :
    (report message).Renderable ↔ message.IsProper := by
  constructor
  · intro renderable
    exact renderable.encodable (.text message) (.member List.mem_cons_self (.itself _))
  · intro proper
    have writable : (report message).Throughout Json.IsWritable := by
      refine (Json.throughout_isWritable_object_iff _).mpr fun member listed => ?_
      cases List.mem_singleton.mp listed
      exact ⟨⟨"detail", rfl⟩,
        (Json.throughout_isWritable_leaf_iff (.text message) rfl).mpr
          ⟨trivial, trivial, proper⟩⟩
    obtain ⟨short, finite, encodable⟩ := (Json.throughout_isWritable_iff _).mp writable
    exact ⟨short, finite, encodable, Json.Nesting.writable_pos⟩

def ofFetched : Except Failure Block → Response
  | .ok block => .ofBlock block
  | .error failure => .ofFailure failure

/-- A response tells how fetching a block ended. -/
structure Reports (fetched : Except Failure Block) (response : Response) : Prop where
  unsupportedEncoding : ∀ encoding, fetched = .error (.unsupportedEncoding encoding) →
    response.Tells 400 (.unsupportedEncoding encoding)
  notConfirmed : ∀ slot, fetched = .error (.notConfirmed slot) →
    response.Tells 404 (.notConfirmed slot)
  transport : ∀ failure, fetched = .error failure →
    ErrorClass.Derives failure.errorClass .transport → response.Tells 502 failure
  /-- Any other failure is an internal error, unless the request was cancelled. -/
  otherFailure : ∀ failure, fetched = .error failure →
    (∀ encoding, failure ≠ .unsupportedEncoding encoding) →
    (∀ slot, failure ≠ .notConfirmed slot) →
    ¬ ErrorClass.Derives failure.errorClass .transport →
    (∀ details, failure ≠ .outside .cancelled details) → response = internalError
  block : ∀ block, fetched = .ok block → block.toJson.withoutReserved.Renderable →
    response.Carries 200 block.toJson.withoutReserved
  /-- A block that cannot be written is an internal error as well. -/
  unwritten : ∀ block, fetched = .ok block → ¬ block.toJson.withoutReserved.Renderable →
    response = internalError

theorem ofFailure_of_status {failure : Failure} {status : Nat}
    (expected : statusOf? failure = some status) :
    (ofFailure failure).Tells status failure where
  told message written := by
    simp only [ofFailure, expected, written]
    exact ofJson_carries status ((report_renderable_iff message).mpr ⟨message, rfl⟩)
  untold unwritten := by
    simp only [ofFailure, expected]
    cases written : failure.message with
    | error fault => rfl
    | ok message =>
      refine ofJson_of_not_renderable status fun renderable => ?_
      obtain ⟨value, rfl⟩ := (report_renderable_iff message).mp renderable
      exact unwritten value written

theorem ofFailure_of_no_status {failure : Failure} (unexpected : statusOf? failure = none)
    (notCancelled : ∀ details, failure ≠ .outside .cancelled details) :
    ofFailure failure = internalError := by
  unfold ofFailure
  rw [unexpected]
  split
  · rename_i impossible
    cases impossible
  · exact absurd rfl (notCancelled _)
  · rfl

theorem ofFetched_reports (fetched : Except Failure Block) :
    (ofFetched fetched).Reports fetched where
  unsupportedEncoding := by
    rintro encoding rfl
    exact ofFailure_of_status rfl
  notConfirmed := by
    rintro slot rfl
    exact ofFailure_of_status rfl
  transport := by
    rintro failure rfl ofCall
    exact ofFailure_of_status (statusOf?_of_isTransport ((ErrorClass.isA_iff _ _).mpr ofCall))
  otherFailure := by
    rintro failure rfl encodings slots notOfCall notCancelled
    refine ofFailure_of_no_status (statusOf?_of_other encodings slots ?_) notCancelled
    exact fun ofCall => notOfCall ((ErrorClass.isA_iff _ _).mp ofCall)
  block := by
    rintro block rfl renderable
    exact ofJson_carries 200 renderable
  unwritten := by
    rintro block rfl unwritten
    exact ofJson_of_not_renderable 200 unwritten

end Api.Response

end BlockReader
