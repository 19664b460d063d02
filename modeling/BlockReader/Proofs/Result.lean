import BlockReader.Failure.Basic
set_option autoImplicit false

namespace BlockReader.Result

variable {ε α β : Type}

theorem bind_eq_ok_iff (first : Except ε α) (next : α → Except ε β) (value : β) :
    (first >>= next) = .ok value ↔ ∃ middle, first = .ok middle ∧ next middle = .ok value := by
  cases first with
  | ok middle =>
    constructor
    · intro success
      exact ⟨middle, rfl, success⟩
    · rintro ⟨_, same, success⟩
      cases same
      exact success
  | error failure =>
    constructor
    · intro success
      cases success
    · rintro ⟨_, same, _⟩
      cases same

theorem bind_eq_error_iff (first : Except ε α) (next : α → Except ε β)
    (failure : ε) : (first >>= next) = .error failure ↔
      first = .error failure ∨ ∃ middle, first = .ok middle ∧ next middle = .error failure := by
  cases first with
  | ok middle =>
    constructor
    · intro failed
      exact Or.inr ⟨middle, rfl, failed⟩
    · rintro (impossible | ⟨_, same, failed⟩)
      · cases impossible
      · cases same
        exact failed
  | error other =>
    constructor
    · intro failed
      cases failed
      exact Or.inl rfl
    · rintro (same | ⟨_, impossible, _⟩)
      · cases same
        rfl
      · cases impossible

theorem bind_fails_first {first : Except ε α} {failure : ε}
    (failed : first = .error failure) (next : α → Except ε β) :
    (first >>= next) = .error failure := by
  rw [failed]
  rfl

theorem bind_fails_later {first : Except ε α} {next : α → Except ε β} {middle : α}
    {failure : ε} (success : first = .ok middle) (failed : next middle = .error failure) :
    (first >>= next) = .error failure := by
  rw [success]
  exact failed

theorem mapError_eq_ok_iff {δ : Type} (wrap : ε → δ) (result : Except ε α) (value : α) :
    result.mapError wrap = .ok value ↔ result = .ok value := by
  cases result with
  | ok other => exact ⟨fun same => congrArg Except.ok (Except.ok.inj same),
      fun same => congrArg Except.ok (Except.ok.inj same)⟩
  | error fault =>
    constructor
    · intro impossible
      cases impossible
    · intro impossible
      cases impossible

theorem pure_eq_ok_iff (value expected : α) :
    (pure value : Except ε α) = .ok expected ↔ value = expected :=
  ⟨Except.ok.inj, congrArg Except.ok⟩

theorem isOk_pure_iff (value : α) :
    (∃ result, (pure value : Except ε α) = .ok result) ↔ True :=
  iff_true_intro ⟨value, rfl⟩

theorem isOk_mapError_iff {δ : Type} (wrap : ε → δ) (result : Except ε α) :
    (∃ value, result.mapError wrap = .ok value) ↔ ∃ value, result = .ok value :=
  exists_congr fun value => mapError_eq_ok_iff wrap result value

/-- Two steps succeed when both do, where the second does not depend on what the first gives. -/
theorem isOk_bind_iff {first : Except ε α} {next : α → Except ε β} {before after : Prop}
    (one : (∃ value, first = .ok value) ↔ before)
    (two : ∀ value, (∃ result, next value = .ok result) ↔ after) :
    (∃ result, (first >>= next) = .ok result) ↔ before ∧ after := by
  simp only [bind_eq_ok_iff]
  constructor
  · rintro ⟨result, value, success, later⟩
    exact ⟨one.mp ⟨value, success⟩, (two value).mp ⟨result, later⟩⟩
  · rintro ⟨holds, rest⟩
    obtain ⟨value, success⟩ := one.mpr holds
    obtain ⟨result, later⟩ := (two value).mpr rest
    exact ⟨result, value, success, later⟩

/-- Steps over a list fail as the first item does whose step fails. -/
theorem mapM_eq_error_iff (step : α → Except ε β) (items : List α) (failure : ε) :
    items.mapM step = .error failure ↔ ∃ before values item behind,
      items = before ++ item :: behind ∧ before.mapM step = .ok values ∧
        step item = .error failure := by
  induction items with
  | nil =>
    constructor
    · intro impossible
      cases impossible
    · rintro ⟨before, values, item, behind, same, -, -⟩
      exact absurd same.symm (List.append_ne_nil_of_right_ne_nil before (List.cons_ne_nil _ _))
  | cons first rest ih =>
    rw [List.mapM_cons, bind_eq_error_iff]
    constructor
    · rintro (failed | ⟨value, success, failed⟩)
      · exact ⟨[], [], first, rest, rfl, rfl, failed⟩
      rcases (bind_eq_error_iff _ _ _).mp failed with failed | ⟨_, _, impossible⟩
      · obtain ⟨before, values, item, behind, rfl, successes, failed⟩ := ih.mp failed
        refine ⟨first :: before, value :: values, item, behind, rfl, ?_, failed⟩
        rw [List.mapM_cons, success, successes]
        rfl
      · cases impossible
    · rintro ⟨before, values, item, behind, same, successes, failed⟩
      cases before with
      | nil =>
        cases same
        exact .inl failed
      | cons other before =>
        cases same
        rw [List.mapM_cons] at successes
        obtain ⟨value, success, others⟩ := (bind_eq_ok_iff _ _ _).mp successes
        obtain ⟨values, successes, -⟩ := (bind_eq_ok_iff _ _ _).mp others
        refine .inr ⟨value, success, (bind_eq_error_iff _ _ _).mpr (.inl ?_)⟩
        exact ih.mpr ⟨before, values, item, behind, rfl, successes, failed⟩

/-- Whatever failure a result ends in is of an allowed kind. -/
def FailsOnly (allowed : ε → Prop) (result : Except ε α) : Prop :=
  ∀ failure, result = .error failure → allowed failure

variable {allowed : ε → Prop}

theorem failsOnly_ok (value : α) : FailsOnly allowed (.ok value) := by
  intro failure impossible
  cases impossible

theorem failsOnly_error {failure : ε} (kind : allowed failure) :
    FailsOnly allowed (.error failure : Except ε α) := by
  intro other same
  cases same
  exact kind

theorem failsOnly_mapError {δ : Type} {wrap : δ → ε} (result : Except δ α)
    (each : ∀ fault, allowed (wrap fault)) : FailsOnly allowed (result.mapError wrap) := by
  cases result with
  | ok value => exact failsOnly_ok value
  | error fault => exact failsOnly_error (each fault)

theorem FailsOnly.mapError {δ : Type} {before : δ → Prop} {result : Except δ α}
    (only : FailsOnly before result) {wrap : δ → ε} (each : ∀ fault, before fault →
      allowed (wrap fault)) : FailsOnly allowed (result.mapError wrap) := by
  cases result with
  | ok value => exact failsOnly_ok value
  | error fault => exact failsOnly_error (each fault (only fault rfl))

/-- A result that ends in a failure holds no value. -/
theorem FailsOnly.and_notOk {result : Except ε α} (only : FailsOnly allowed result) :
    FailsOnly (fun failure => allowed failure ∧ ¬ ∃ value, result = .ok value) result := by
  intro failure failed
  refine ⟨only failure failed, ?_⟩
  rintro ⟨value, success⟩
  cases failed.symm.trans success

theorem failsOnly_bind {first : Except ε α} {next : α → Except ε β}
    (before : FailsOnly allowed first) (after : ∀ value, FailsOnly allowed (next value)) :
    FailsOnly allowed (first >>= next) := by
  cases first with
  | ok value => exact after value
  | error failure => exact failsOnly_error (before failure rfl)

theorem failsOnly_mapM {step : α → Except ε β} (each : ∀ item, FailsOnly allowed (step item))
    (items : List α) : FailsOnly allowed (items.mapM step) := by
  induction items with
  | nil => exact failsOnly_ok []
  | cons item rest ih =>
    rw [List.mapM_cons]
    apply failsOnly_bind (each item)
    intro value
    apply failsOnly_bind ih
    intro values
    exact failsOnly_ok (value :: values)

end BlockReader.Result
