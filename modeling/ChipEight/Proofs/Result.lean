/-
Module: ChipEight.Proofs.Result
Purpose: Taking apart results that are either a value or a complaint.
Main exports: Result.bind_eq_ok_iff, Result.bind_eq_error_iff, Result.map_eq_ok_iff,
  Result.map_eq_error_iff, Result.mapError_eq_ok_iff, Result.Agree
-/

namespace ChipEight.Result

variable {ε α β : Type}

/-- A sequence of two parts yields a value exactly when both parts do. -/
theorem bind_eq_ok_iff {first : Except ε α} {next : α → Except ε β} {value : β} :
    first >>= next = .ok value ↔ ∃ middle, first = .ok middle ∧ next middle = .ok value := by
  cases first with
  | error complaint => simp [bind, Except.bind]
  | ok middle => simp [bind, Except.bind]

/-- A sequence of two parts complains exactly when one of them does, the first one going ahead. -/
theorem bind_eq_error_iff {first : Except ε α} {next : α → Except ε β} {complaint : ε} :
    first >>= next = .error complaint ↔
      first = .error complaint ∨ ∃ middle, first = .ok middle ∧ next middle = .error complaint := by
  cases first with
  | error other => simp [bind, Except.bind]
  | ok middle => simp [bind, Except.bind]

theorem map_eq_ok_iff {result : Except ε α} {f : α → β} {value : β} :
    result.map f = .ok value ↔ ∃ before, result = .ok before ∧ f before = value := by
  cases result with
  | error complaint => simp [Except.map]
  | ok before => simp [Except.map]

theorem map_eq_error_iff {result : Except ε α} {f : α → β} {complaint : ε} :
    result.map f = .error complaint ↔ result = .error complaint := by
  cases result with
  | error other => simp [Except.map]
  | ok before => simp [Except.map]

theorem mapError_eq_ok_iff {δ : Type} {result : Except ε α} {f : ε → δ} {value : α} :
    result.mapError f = .ok value ↔ result = .ok value := by
  constructor
  · intro done
    cases result with
    | error complaint => cases done
    | ok before =>
        cases done
        rfl
  · intro done
    rw [done]
    rfl

/-!
### Two results

Two computations that run in step with each other are compared by their results.
-/

/-- The results are the same complaint, or they are values that are related. -/
inductive Agree {γ : Type} (related : α → γ → Prop) : Except ε α → Except ε γ → Prop where
  | error (complaint : ε) : Agree related (.error complaint) (.error complaint)
  | ok {value : α} {value' : γ} (holds : related value value') :
      Agree related (.ok value) (.ok value')

theorem Agree.imp {γ : Type} {related related' : α → γ → Prop} {result : Except ε α}
    {result' : Except ε γ} (agree : Agree related result result')
    (implies : ∀ value value', related value value' → related' value value') :
    Agree related' result result' := by
  cases agree with
  | error complaint => exact .error complaint
  | ok holds => exact .ok (implies _ _ holds)

/-- What is made of one result in two ways agrees if it is related value by value. -/
theorem Agree.map {γ : Type} {related : β → γ → Prop} {result : Except ε α} {f : α → β}
    {f' : α → γ} (holds : ∀ value, related (f value) (f' value)) :
    Agree related (result.map f) (result.map f') := by
  cases result with
  | error complaint => exact .error complaint
  | ok value => exact .ok (holds value)

theorem Agree.map_right {γ δ : Type} {related : α → γ → Prop} {related' : α → δ → Prop}
    {result : Except ε α} {result' : Except ε γ} {f : γ → δ} (agree : Agree related result result')
    (holds : ∀ value value', related value value' → related' value (f value')) :
    Agree related' result (result'.map f) := by
  cases agree with
  | error complaint => exact .error complaint
  | ok related => exact .ok (holds _ _ related)

/-- Values that are related by a common image lead to the same result. -/
theorem Agree.map_eq {γ : Type} {f : α → β} {f' : γ → β} {result : Except ε α}
    {result' : Except ε γ}
    (agree : Agree (fun value value' => f value = f' value') result result') :
    result.map f = result'.map f' := by
  cases agree with
  | error complaint => rfl
  | ok same => exact congrArg Except.ok same

end ChipEight.Result
