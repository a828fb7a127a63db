/-!
# Things kept under names

A list of names with what is kept under each.  Keeping something replaces what was kept under the
same name (`get?_put_self`) and leaves every other name alone (`get?_put_of_ne`).
-/

namespace TrackedQuery

/-- Things kept under distinct names. -/
abbrev Names (α : Type) := List (String × α)

namespace Names

variable {α : Type}

/-- What is kept under a name. -/
def get? (names : Names α) (name : String) : Option α :=
  (names.find? fun entry => entry.1 == name).map Prod.snd

/-- Forgets a name. -/
def remove (names : Names α) (name : String) : Names α :=
  names.filter fun entry => entry.1 != name

/-- Keeps something under a name, in place of what was kept under it. -/
def put (names : Names α) (name : String) (thing : α) : Names α :=
  (name, thing) :: names.remove name

theorem mem_of_get? {names : Names α} {name : String} {thing : α}
    (found : names.get? name = some thing) : (name, thing) ∈ names := by
  obtain ⟨entry, hentry, rfl⟩ := Option.map_eq_some_iff.mp found
  have named : entry.1 = name := by simpa using List.find?_some hentry
  rw [← named]
  exact List.mem_of_find?_eq_some hentry

@[simp] theorem get?_remove_self (names : Names α) (name : String) :
    (names.remove name).get? name = none := by
  simp [remove, get?]

/-- Forgetting a name leaves the others alone. -/
theorem get?_remove_of_ne {other name : String} (distinct : other ≠ name) (names : Names α) :
    (names.remove name).get? other = names.get? other := by
  have sameTest : (fun entry : String × α =>
      decide ((entry.1 != name) = true ∧ (entry.1 == other) = true)) =
        fun entry => entry.1 == other := by
    funext entry
    by_cases hother : entry.1 = other <;> simp [hother, distinct]
  simp only [remove, get?, List.find?_filter, sameTest]

@[simp] theorem get?_put_self (names : Names α) (name : String) (thing : α) :
    (names.put name thing).get? name = some thing := by
  simp [put, get?]

/-- Keeping something under one name leaves the others alone. -/
theorem get?_put_of_ne {other name : String} (distinct : other ≠ name) (names : Names α)
    (thing : α) : (names.put name thing).get? other = names.get? other := by
  rw [← get?_remove_of_ne distinct names]
  simp [put, get?, Ne.symm distinct]

end Names

end TrackedQuery
