import BlockReader.Proofs.Api.Site
import BlockReader.Proofs.Scan.Traffic
set_option autoImplicit false

namespace BlockReader

open Api (Request Response Backend Site scripted)
open Result

/-- The value can be looked up: it is neither a list nor an object. -/
structure Json.IsHashable (value : Json) : Prop where
  notArray : ∀ items, value ≠ .array items
  notObject : ∀ members, value ≠ .object members

theorem Json.IsHashable.depth_eq_zero {value : Json} (hashable : value.IsHashable) :
    value.depth = 0 := by
  cases value with
  | array items => exact absurd rfl (hashable.notArray items)
  | object members => exact absurd rfl (hashable.notObject members)
  | _ => rfl

theorem Json.IsHashable.throughout_isShort_iff {value : Json} (hashable : value.IsHashable) :
    value.Throughout IsShort ↔ value.IsShort :=
  ⟨fun all => all value (.itself value),
    fun short => throughout_of_leaf short hashable.depth_eq_zero⟩

section Attempt

theorem Block.decode_ne_unsupportedEncoding (slot raw level encoding : Json) :
    decode slot raw level ≠ .error (.unsupportedEncoding encoding) := by
  intro failed
  cases raw with
  | null =>
    rw [decode_null] at failed
    cases (Failure.eq_of_raised (Except.error.inj failed) nofun).1
  | _ => cases decode_failsOnly slot _ level rfl _ failed

/-- Reading an answer adds no unknown encoding to those that the answer reports. -/
theorem Block.bind_decode_eq_unsupportedEncoding_iff (answer : Answer)
    (slot level encoding : Json) :
    (answer >>= fun raw => decode slot raw level) = .error (.unsupportedEncoding encoding) ↔
      answer = .error (.unsupportedEncoding encoding) := by
  rw [bind_eq_error_iff]
  constructor
  · rintro (raised | ⟨raw, _, failed⟩)
    · exact raised
    · exact absurd failed (decode_ne_unsupportedEncoding slot raw level encoding)
  · exact .inl

variable {σ : Type} {transport : Transport σ} {slot : Json} {options : Options} {config : Config}
  (accepted : options.config = .ok config)

include accepted

/-- An attempt reports an unknown encoding only when its call does. -/
theorem fetchBlock_eq_unsupportedEncoding_iff (node : σ) (encoding : Json) :
    (fetchBlock transport slot options node).result = .error (.unsupportedEncoding encoding) ↔
      (transport.call blockMethod (config.params slot) node).result =
        .error (.unsupportedEncoding encoding) := by
  rw [fetchBlock_of_accepted transport slot options config accepted]
  exact Block.bind_decode_eq_unsupportedEncoding_iff _ slot options.level encoding

theorem nthFetch_eq_unsupportedEncoding_iff (node : σ) (index : Nat) (encoding : Json) :
    (nthFetch transport slot options index node).result =
        .error (.unsupportedEncoding encoding) ↔
      (transport.nthCall (config.params slot) index node).result =
        .error (.unsupportedEncoding encoding) := by
  rw [nthFetch_of_accepted accepted]
  exact fetchBlock_eq_unsupportedEncoding_iff accepted _ encoding

/-- A round reports an unknown encoding only when its last call does. -/
theorem IsRound.eq_unsupportedEncoding_iff {patience : Patience} {start : σ} {delays : List Delay}
    {outcome : Outcome σ Block}
    (round : IsRound transport slot options config patience 0 start delays outcome)
    (encoding : Json) : outcome.result = .error (.unsupportedEncoding encoding) ↔
      (transport.nthCall (config.params slot) delays.length start).result =
        .error (.unsupportedEncoding encoding) := by
  rw [← nthFetch_eq_unsupportedEncoding_iff accepted]
  rcases round.result with last | ⟨⟨other, unconfirmed⟩, failure, notOfFetch, failed⟩
  · rw [last]
  -- Where the wait failed, neither side is about an encoding.
  · rw [unconfirmed, failed]
    constructor
    · intro same
      cases same
      cases notOfFetch
    · intro impossible
      cases impossible

end Attempt

namespace Api.Response

theorem statusOf?_eq_400_iff (failure : Failure) :
    statusOf? failure = some 400 ↔ ∃ encoding, failure = .unsupportedEncoding encoding := by
  constructor
  · intro expected
    unfold statusOf? at expected
    split at expected
    · exact ⟨_, rfl⟩
    · cases expected
    · split at expected <;> cases expected
  · rintro ⟨encoding, rfl⟩
    rfl

end Api.Response

theorem leaveOut?_of_unknownEncoding (slot encoding : Json) (patience : Patience) :
    leaveOut? slot patience (Failure.unsupportedEncoding encoding).raised = none := by
  by_cases written : (Failure.unsupportedEncoding encoding).HasMessage
  · rw [Failure.raised_of_hasMessage written]
    rfl
  · rw [Failure.raised_of_not_hasMessage written]
    rfl

section Entries

variable [Json.Nesting]

namespace Api.Response

theorem status_ofJson (status : Nat) (value : Json) :
    (ofJson status value).status = status ∨ (ofJson status value).status = 500 := by
  rw [ofJson]
  split
  · exact .inl rfl
  · exact .inr rfl

/-- A failure is answered with its own status or as an internal error. -/
theorem status_ofFailure (failure : Failure) :
    (ofFailure failure).status = 500 ∨ statusOf? failure = some (ofFailure failure).status := by
  cases expected : statusOf? failure with
  | none =>
    left
    unfold ofFailure
    rw [expected]
    split
    · contradiction
    · rfl
    · rfl
  | some status =>
    have tells := ofFailure_of_status expected
    by_cases said : ∃ message : String, failure.message = .ok message
    · obtain ⟨message, said⟩ := said
      rw [(tells.told message said).status]
      exact .inr rfl
    · left
      rw [tells.untold fun message written => said ⟨message, written⟩]
      rfl

/-- A fetch is answered as a bad request exactly when it failed over an unknown encoding that can be
told. -/
theorem status_ofFetched_eq_400_iff (fetched : Except Failure Block) :
    (ofFetched fetched).status = 400 ↔ ∃ (encoding : Json) (message : String),
      fetched = .error (.unsupportedEncoding encoding) ∧
        (Failure.unsupportedEncoding encoding).message = .ok message := by
  constructor
  · intro refused
    cases fetched with
    | ok block =>
      have shown := status_ofJson 200 block.toJson.withoutReserved
      change (ofJson 200 _).status = 400 at refused
      omega
    | error failure =>
      change (ofFailure failure).status = 400 at refused
      have own := (status_ofFailure failure).resolve_left (by omega)
      rw [refused] at own
      obtain ⟨encoding, rfl⟩ := (statusOf?_eq_400_iff failure).mp own
      by_cases said : ∃ message : String,
          (Failure.unsupportedEncoding encoding).message = .ok message
      · obtain ⟨message, said⟩ := said
        exact ⟨encoding, message, rfl, said⟩
      · rw [(ofFailure_of_status own).untold fun message written => said ⟨message, written⟩]
          at refused
        cases refused
  · rintro ⟨encoding, message, rfl, said⟩
    exact ((ofFailure_of_status rfl).told message said).status

end Api.Response

/-- The service fetches with a client that is installed, its own or a new one. -/
theorem Api.Site.serveBlock_of_any {σ : Type} (backend : Backend σ) {slot : Int}
    (short : (Json.int slot).IsShort) (options : Options) (site : Site σ) :
    let ready := (Site.ensureClient backend site).node
    let fetched := fetchBlock backend.transport (.int slot) options ready.node
    Site.serveBlock backend slot options site =
      ⟨.ok (.ofFetched fetched.result), ⟨fetched.node, true⟩,
        fetched.events ++ failureRecords slot fetched.result⟩ := by
  obtain ⟨node, installed⟩ := site
  cases installed with
  | true => exact serveBlock_of_installed backend short options node
  | false =>
    exact serveBlock_of_installed backend short options (backend.renew node)

namespace Options

/-- Everything that can be asked for with the options ends in one failure, and nothing is seen of
it: no call, no sleep, not even a record. The node stays in the state that it was in, over HTTP with
the sessions and the next number of its line. -/
structure IsRefused (options : Options) (failure : Failure) : Prop where
  fetched : ∀ {σ : Type} (transport : Transport σ) (slot : Json) (node : σ),
    fetchBlock transport slot options node = ⟨.error failure, node, []⟩
  waitedFor : ∀ {σ : Type} (transport : Transport σ) (slot : Json) (retries : Int)
    (backoff : Json) (node : σ),
    fetchWithRetry transport slot options ⟨.int retries, backoff⟩ node =
      ⟨.error failure, node, []⟩
  scanned : ∀ {σ : Type} (transport : Transport σ) (slots : List Json) (retries : Int)
    (backoff : Json) (node : σ), slots ≠ [] →
    scan transport options ⟨.int retries, backoff⟩ slots node =
      ⟨.error failure, node, []⟩
  /-- The service has got its client ready, and does not use it. The encoding is a text there. -/
  served : ∀ {σ : Type} (backend : Backend σ) (request : Request) (slot : Int) (site : Site σ),
    request.Asks slot options → ∃ response,
      Site.serve backend request site =
        ⟨.ok response, (Site.ensureClient backend site).node, []⟩ ∧
      ∃ message : String, (Failure.unsupportedEncoding options.encoding).message = .ok message ∧
        response.Carries 400 (Response.report message)

/-- Everything that can be asked for with the options is sent, with one call for each attempt, and
fails over an unknown encoding only if that is what the transport says. -/
structure IsSentOnce (options : Options) (config : Config) : Prop where
  /-- An attempt is one call, with a record in front of it. -/
  fetched : ∀ {σ : Type} (transport : Transport σ) (slot : Json) (node : σ),
    let call := transport.call blockMethod (config.params slot) node
    let outcome := fetchBlock transport slot options node
    outcome.node = call.node ∧
      outcome.events = requestEvents slot options config ++ call.events ∧
      ∀ encoding, outcome.result = .error (.unsupportedEncoding encoding) ↔
        call.result = .error (.unsupportedEncoding encoding)
  /-- There is an attempt behind each that finds the block unconfirmed, until the last, and the last
  decides. -/
  waitedFor : ∀ {σ : Type} (transport : Transport σ) (slot : Json) (retries : Int)
    (backoff : Json) (node : σ),
    let params := config.params slot
    let outcome := fetchWithRetry transport slot options ⟨.int retries, backoff⟩ node
    ∃ delays : List Delay, delays.length ≤ retries.toNat ∧
      (∀ index < delays.length,
        IsUnconfirmed (nthFetch transport slot options index node).result) ∧
      unlogged outcome.events = transport.trace params delays node ∧
      outcome.node = transport.after params (delays.length + 1) node ∧
      ∀ encoding, outcome.result = .error (.unsupportedEncoding encoding) ↔
        (transport.nthCall params delays.length node).result =
          .error (.unsupportedEncoding encoding)
  /-- The calls of a scan are those of its rounds, and the last decides whether it ends over an
  encoding. -/
  scanned : ∀ {σ : Type} (transport : Transport σ) (slots : List Json) (retries : Int)
    (backoff : Json) (node : σ),
    let outcome := scan transport options ⟨.int retries, backoff⟩ slots node
    ∃ rounds : List Round, rounds.map Round.slot <+: slots ∧
      unlogged outcome.events = transport.roundsTrace config rounds node ∧
      outcome.node = transport.afterRounds config rounds node ∧
      ∀ encoding, outcome.result = .error (.unsupportedEncoding encoding) →
        ∃ before last, rounds = before ++ [last] ∧
          (transport.nthCall (config.params last.slot) last.delays.length
            (transport.afterRounds config before node)).result =
              .error (.unsupportedEncoding encoding)
  /-- The service makes one call with its client. -/
  served : ∀ {σ : Type} (backend : Backend σ) (request : Request) (slot : Int) (site : Site σ),
    request.Asks slot options →
      let ready := (Site.ensureClient backend site).node
      let call := backend.transport.call blockMethod (config.params (.int slot)) ready.node
      ∃ response events,
        Site.serve backend request site = ⟨.ok response, ⟨call.node, true⟩, events⟩ ∧
        unlogged events = unlogged call.events ∧
        (response.status = 400 ↔ ∃ (encoding : Json) (message : String),
          call.result = .error (.unsupportedEncoding encoding) ∧
            (Failure.unsupportedEncoding encoding).message = .ok message)

theorem isRefused {options : Options} (unknown : options.HasUnknownEncoding)
    (hashable : options.encoding.IsHashable) :
    options.IsRefused (Failure.unsupportedEncoding options.encoding).raised := by
  have rejected := config_of_unknownEncoding unknown hashable.notArray hashable.notObject
  have fetched {σ : Type} (transport : Transport σ) (slot : Json) (node : σ) :=
    fetchBlock_of_rejected transport slot options _ rejected node
  have waitedFor {σ : Type} (transport : Transport σ) (slot : Json) (retries : Int)
      (backoff : Json) (node : σ) :
      fetchWithRetry transport slot options ⟨.int retries, backoff⟩ node =
        ⟨.error (Failure.unsupportedEncoding options.encoding).raised, node, []⟩ := by
    have settled : ¬ IsUnconfirmed (fetchBlock transport slot options node).result := by
      rw [fetched]
      rintro ⟨other, same⟩
      exact Failure.raised_ne_notConfirmed (by nofun) other (Except.error.inj same)
    have same : attemptResult slot ⟨.int retries, backoff⟩ (0 + retries.toNat) 0
        (fetchBlock transport slot options node).result =
          (fetchBlock transport slot options node).result := attemptResult_of_settled settled
    rw [fetchWithRetry_of_limit transport slot options _ retries.toNat rfl,
      fetchFrom_of_settled transport slot options _ 0 retries.toNat node
        (.inr (by rw [same]; exact settled)), same, fetched]
  refine ⟨fetched, waitedFor, ?_, ?_⟩
  · intro σ transport slots retries backoff node nonempty
    cases slots with
    | nil => exact absurd rfl nonempty
    | cons slot rest =>
      rw [scan, Task.bind_of_ok _ _ node _ rfl]
      dsimp only [Task.attempt_apply]
      rw [waitedFor]
      dsimp only
      rw [leaveOut?_of_unknownEncoding]
      rfl
  · intro σ backend request slot site asks
    obtain ⟨name, named⟩ := asks.exists_encoding unknown
    have written := Failure.message_unsupportedEncoding_text name
    rw [named]
    refine ⟨.ofFailure (.unsupportedEncoding (.text name)), ?_, _, written,
      (Response.ofFailure_of_status rfl).told _ written⟩
    rw [Api.Site.serve_of_asked backend asks site, Api.Site.serveBlock_of_any backend asks.isShort,
      fetched, named, Failure.raised_of_hasMessage ⟨_, written⟩]
    obtain ⟨node, installed⟩ := site
    cases installed <;> rfl

theorem isSentOnce {options : Options} {config : Config} (accepted : options.config = .ok config) :
    options.IsSentOnce config := by
  refine ⟨?_, ?_, ?_, ?_⟩
  · intro σ transport slot node call outcome
    have run := fetchBlock_of_accepted transport slot options config accepted node
    refine ⟨congrArg Outcome.node run, congrArg Outcome.events run, fun encoding => ?_⟩
    rw [show outcome.result = _ from congrArg Outcome.result run]
    exact Block.bind_decode_eq_unsupportedEncoding_iff _ slot options.level encoding
  · intro σ transport slot retries backoff node params outcome
    obtain ⟨delays, enough, round⟩ : ∃ delays : List Delay, delays.length ≤ retries.toNat ∧
        IsRound transport slot options config ⟨.int retries, backoff⟩ 0 node delays outcome :=
      fetchWithRetry_round accepted (Patience.limit_int retries backoff)
    exact ⟨delays, enough, round.unconfirmed, round.traffic, round.node,
      round.eq_unsupportedEncoding_iff accepted⟩
  · intro σ transport slots retries backoff node outcome
    obtain ⟨rounds, scanned⟩ :=
      scan_rounds transport accepted (Patience.limit_int retries backoff) slots node
    refine ⟨rounds, scanned.front, scanned.traffic, scanned.node, fun encoding failed => ?_⟩
    obtain ⟨before, last, split, raised⟩ := scanned.raised _ failed rfl
    exact ⟨before, last, split, (nthFetch_eq_unsupportedEncoding_iff accepted _ _ _).mp raised⟩
  · intro σ backend request slot site asks ready call
    let fetched := fetchBlock backend.transport (.int slot) options ready.node
    refine ⟨.ofFetched fetched.result, fetched.events ++ Api.failureRecords slot fetched.result,
      ?_, ?_, ?_⟩
    · have left : fetched.node = call.node := node_fetchBlock accepted
      rw [Api.Site.serve_of_asked backend asks, Api.Site.serveBlock_of_any backend asks.isShort,
        ← left]
    · have made : unlogged fetched.events = unlogged call.events := unlogged_fetchBlock accepted
      have recorded : unlogged (Api.failureRecords slot fetched.result) = [] :=
        Api.unlogged_failureRecords slot fetched.result
      rw [unlogged_append, made, recorded, List.append_nil]
    · rw [Response.status_ofFetched_eq_400_iff]
      exact exists_congr fun encoding => exists_congr fun _ =>
        and_congr_left' (fetchBlock_eq_unsupportedEncoding_iff accepted ready.node encoding)

end Options

/-- The encoding decides, before anything is sent, which options can be used at all. One that is
unknown is refused at every entry, in whatever state the transport is and whatever the other options
are; it is told unless it is a whole number that is too long for a text. With any other encoding, or
none, each attempt is one call. -/
theorem encoding_checked_first (options : Options) :
    (options.HasUnknownEncoding → options.encoding.IsHashable →
      (options.encoding.IsShort → options.IsRefused (.unsupportedEncoding options.encoding)) ∧
        (¬ options.encoding.IsShort → options.IsRefused (.number .tooLongToWrite))) ∧
      (¬ options.HasUnknownEncoding →
        ∃ config, options.config = .ok config ∧ options.IsSentOnce config) := by
  constructor
  · intro unknown hashable
    have refused := Options.isRefused unknown hashable
    have told := (Failure.hasMessage_unsupportedEncoding_iff options.encoding).trans
      hashable.throughout_isShort_iff
    constructor
    · intro short
      rw [Failure.raised_of_hasMessage (told.mpr short)] at refused
      exact refused
    · intro long
      rw [Failure.raised_of_not_hasMessage fun written => long (told.mp written)] at refused
      exact refused
  · intro notUnknown
    obtain ⟨config, accepted⟩ := options.exists_config_iff.mpr notUnknown
    exact ⟨config, accepted, Options.isSentOnce accepted⟩

end Entries

/-- A scan with an unknown encoding leaves a line that has sent calls, and whose session was closed,
as it is. With an encoding that counts as false, the transport alone can report one. -/
theorem encoding_checked_first_over_http :
    let unknown : Options := { encoding := .text "xml", rewards := .bool false }
    let falsy : Options := { encoding := .text "" }
    let line : Line := ⟨"http://node", .null, [⟨.made, false⟩, ⟨.given, false⟩], true, 4⟩
    let script : Script := ⟨[.error (.unsupportedEncoding (.int 1)), .ok .null], 0⟩
    (unknown.HasUnknownEncoding ∧ unknown.encoding.IsHashable ∧ ¬ falsy.HasUnknownEncoding) ∧
      scan Wire.transport unknown ⟨.int 3, .text "soon"⟩ [.int 7, .int 8] ⟨line, []⟩ =
        ⟨.error (.unsupportedEncoding (.text "xml")), ⟨line, []⟩, []⟩ ∧
      (fetchBlock (Script.transport true) (.int 7) falsy script).result =
        .error (.unsupportedEncoding (.int 1)) := by
  intro unknown falsy line script
  have notOffered : unknown.HasUnknownEncoding := by
    refine ⟨by decide, fun encoding same => ?_⟩
    refine absurd (Text.proper.inj (Json.text.inj same)) ?_
    cases encoding <;> decide
  have hashable : unknown.encoding.IsHashable := ⟨nofun, nofun⟩
  have notAsked : ¬ falsy.HasUnknownEncoding := by
    rintro ⟨truthy, _⟩
    cases truthy
  have refused := ((encoding_checked_first unknown).1 notOffered hashable).1 trivial
  obtain ⟨config, _, sent⟩ := (encoding_checked_first falsy).2 notAsked
  obtain ⟨_, _, reported⟩ := sent.fetched (Script.transport true) (.int 7) script
  refine ⟨⟨notOffered, hashable, notAsked⟩, ?_, (reported (.int 1)).mpr rfl⟩
  exact refused.scanned Wire.transport [.int 7, .int 8] 3 (.text "soon") ⟨line, []⟩ nofun

/-- A request that also breaks a rule is told the rule, and a number that is too long for a text
cannot be told. -/
theorem encoding_checked_first_untold :
    let request := Request.get "/blocks/5" "encoding=xml&rewards=maybe"
    let long : Options := { encoding := .int (10 ^ Numeral.digitLimit) }
    (request.target.parameter? "encoding" = some "xml" ∧
      (Site.serve scripted request ⟨⟨[], 0⟩, true⟩).result.toOption.map Response.status =
        some 422) ∧
      (long.HasUnknownEncoding ∧ long.encoding.IsHashable) ∧
        ∀ script : Script, (fetchBlock (Script.transport true) (.int 5) long script).result =
          .error (.number .tooLongToWrite) := by
  intro request long
  have number (value : Int) (nonzero : value ≠ 0) :
      Options.HasUnknownEncoding { encoding := .int value } := ⟨bne_iff_ne.mpr nonzero, nofun⟩
  have unknown : long.HasUnknownEncoding := number _ (pow_ne_zero _ (by decide))
  have hashable : long.encoding.IsHashable := ⟨nofun, nofun⟩
  have large : 10 ^ Numeral.digitLimit ≤ (10 ^ Numeral.digitLimit : Int).natAbs := by
    rw [Int.natAbs_pow]
    exact Nat.pow_le_pow_left (by decide) _
  have tooLong : ¬ long.encoding.IsShort := Nat.not_le_of_lt (Numeral.lt_digitCount large)
  have refused := ((encoding_checked_first long).1 unknown hashable).2 tooLong
  refine ⟨⟨by decide +kernel, by decide +kernel⟩, ⟨unknown, hashable⟩, fun script => ?_⟩
  rw [refused.fetched]

end BlockReader
