/-!
# Results

What the outcome of a changed result says about the result. A change of the value leaves
a failure as it is, so success and failure can be told apart before the change.
-/

namespace MailRules

variable {ε α β : Type} {result : Except ε α} {f : α → β}

theorem map_eq_ok_iff {value : β} :
    result.map f = .ok value ↔ ∃ a, result = .ok a ∧ f a = value := by
  constructor
  · intro h
    cases result with
    | error failure => cases h
    | ok a => exact ⟨a, rfl, Except.ok.inj h⟩
  · rintro ⟨a, rfl, rfl⟩
    rfl

theorem map_eq_error_iff {failure : ε} :
    result.map f = .error failure ↔ result = .error failure := by
  constructor
  · intro h
    cases result with
    | error failure' => rw [Except.error.inj h]
    | ok a => cases h
  · rintro rfl
    rfl

/-- A result that is not the one expected is a failure or another value. -/
theorem error_or_ok_of_ne {value : α} (h : result ≠ .ok value) :
    (∃ failure, result = .error failure) ∨ ∃ other, result = .ok other ∧ other ≠ value := by
  cases result with
  | error failure => exact .inl ⟨failure, rfl⟩
  | ok other =>
      refine .inr ⟨other, rfl, ?_⟩
      rintro rfl
      exact h rfl

/-- Results whose failures cannot be compared can be compared by their values. -/
theorem eq_ok_of_toOption {value : α} (h : result.toOption = some value) : result = .ok value := by
  cases result with
  | error failure => cases h
  | ok value' => rw [Option.some.inj h]

end MailRules
