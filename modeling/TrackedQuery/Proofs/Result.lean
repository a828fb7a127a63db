import TrackedQuery.Error

/-!
# Taking results apart

A computation of several steps succeeds when every step does, and fails with the error of the first
step that does not.
-/

namespace TrackedQuery.Result

variable {α β : Type} {result : Result α} {next : α → Result β}

theorem bind_eq_ok {value : β} :
    result >>= next = .ok value ↔ ∃ first, result = .ok first ∧ next first = .ok value := by
  cases result with
  | error error => simp [bind, Except.bind]
  | ok first => simp [bind, Except.bind]

theorem bind_eq_error {error : Error} :
    result >>= next = .error error ↔
      result = .error error ∨ ∃ first, result = .ok first ∧ next first = .error error := by
  cases result with
  | error other => simp [bind, Except.bind]
  | ok first => simp [bind, Except.bind]

theorem map_eq_ok {change : α → β} {value : β} :
    Except.map change result = .ok value ↔ ∃ first, result = .ok first ∧ change first = value := by
  cases result with
  | error error => simp [Except.map]
  | ok first => simp [Except.map]

theorem map_eq_error {change : α → β} {error : Error} :
    Except.map change result = .error error ↔ result = .error error := by
  cases result with
  | error other => simp [Except.map]
  | ok first => simp [Except.map]

end TrackedQuery.Result
