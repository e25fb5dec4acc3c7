/-!
# Computations that may fail

What follows from the success or the failure of a computation that is put
together from smaller ones: a sequence, a change of the answer or of the
failure, and a fold over a list.  A computation that also has a state is opened by
saying what its parts do in a given state.
-/

namespace TypedMustache.Attempt

variable {ε δ α β : Type}

theorem bind_eq_ok_iff {attempt : Except ε α} {next : α → Except ε β} {answer : β} :
    attempt.bind next = .ok answer ↔ ∃ first, attempt = .ok first ∧ next first = .ok answer := by
  cases attempt <;> simp [Except.bind]

theorem map_eq_ok_iff {attempt : Except ε α} {change : α → β} {answer : β} :
    attempt.map change = .ok answer ↔ ∃ first, attempt = .ok first ∧ change first = answer := by
  cases attempt <;> simp [Except.map]

@[simp]
theorem mapError_ok (change : ε → δ) (answer : α) :
    (.ok answer : Except ε α).mapError change = .ok answer := rfl

@[simp]
theorem mapError_error (change : ε → δ) (failure : ε) :
    (.error failure : Except ε α).mapError change = .error (change failure) := rfl

theorem mapError_eq_ok_iff {attempt : Except ε α} {change : ε → δ} {answer : α} :
    attempt.mapError change = .ok answer ↔ attempt = .ok answer := by
  cases attempt <;> simp

theorem exists_of_isOk {attempt : Except ε α} (succeeds : attempt.isOk = true) :
    ∃ answer, attempt = .ok answer := by
  cases attempt with
  | ok answer => exact ⟨answer, rfl⟩
  | error failure => cases succeeds

theorem toOption_eq_some_iff {attempt : Except ε α} {answer : α} :
    attempt.toOption = some answer ↔ attempt = .ok answer := by
  cases attempt <;> simp [Except.toOption]

theorem bind_eq_error_iff {attempt : Except ε α} {next : α → Except ε β} {failure : ε} :
    attempt.bind next = .error failure ↔
      attempt = .error failure ∨ ∃ first, attempt = .ok first ∧ next first = .error failure := by
  cases attempt <;> simp [Except.bind]

theorem map_eq_error_iff {attempt : Except ε α} {change : α → β} {failure : ε} :
    attempt.map change = .error failure ↔ attempt = .error failure := by
  cases attempt <;> simp [Except.map]

theorem mapError_eq_error_iff {attempt : Except ε α} {change : ε → δ} {failure : δ} :
    attempt.mapError change = .error failure ↔
      ∃ reason, attempt = .error reason ∧ change reason = failure := by
  cases attempt <;> simp

/-! ## Computations with a state -/

section State

variable {σ : Type} (state : σ)

@[simp]
theorem bind_apply (action : EStateM ε σ α) (next : α → EStateM ε σ β) :
    (action >>= next) state =
      match action state with
      | .ok answer after => next answer after
      | .error failure after => .error failure after := by
  change EStateM.bind action next state = _
  rw [EStateM.bind]
  cases action state <;> rfl

@[simp]
theorem map_apply (change : α → β) (action : EStateM ε σ α) :
    (change <$> action) state =
      match action state with
      | .ok answer after => .ok (change answer) after
      | .error failure after => .error failure after := by
  change EStateM.map change action state = _
  rw [EStateM.map]
  cases action state <;> rfl

@[simp]
theorem pure_apply (answer : α) : (pure answer : EStateM ε σ α) state = .ok answer state := rfl

@[simp]
theorem get_apply : (get : EStateM ε σ σ) state = .ok state state := rfl

@[simp]
theorem modify_apply (change : σ → σ) :
    (modify change : EStateM ε σ PUnit) state = .ok ⟨⟩ (change state) := rfl

@[simp]
theorem throw_apply (failure : ε) :
    (throw failure : EStateM ε σ α) state = .error failure state := rfl

end State

/-! ## Folds -/

/-- A fold that fails does so at one of its items. -/
theorem exists_of_foldlM_eq_error
    {step : β → α → Except ε β} {items : List α} {start : β} {failure : ε}
    (failed : items.foldlM step start = .error failure) :
    ∃ item ∈ items, ∃ before, step before item = .error failure := by
  induction items generalizing start with
  | nil =>
      cases failed
  | cons item rest ih =>
      rw [List.foldlM_cons] at failed
      rcases bind_eq_error_iff.mp failed with here | ⟨next, -, later⟩
      · exact ⟨item, List.mem_cons_self, start, here⟩
      · rcases ih later with ⟨other, member, before, there⟩
        exact ⟨other, List.mem_cons_of_mem _ member, before, there⟩

/-- What every step of a fold keeps holds of what the fold comes to. -/
theorem holds_of_foldlM
    {step : β → α → Except ε β} {items : List α} {start result : β}
    (holds : β → Prop) (atStart : holds start)
    (kept : ∀ item ∈ items, ∀ before after,
      holds before → step before item = .ok after → holds after)
    (done : items.foldlM step start = .ok result) : holds result := by
  induction items generalizing start with
  | nil =>
      cases done
      exact atStart
  | cons item rest ih =>
      rw [List.foldlM_cons] at done
      rcases bind_eq_ok_iff.mp done with ⟨next, first, later⟩
      apply ih (kept item List.mem_cons_self start next atStart first)
      · intro other member
        exact kept other (List.mem_cons_of_mem _ member)
      · exact later

end TypedMustache.Attempt
