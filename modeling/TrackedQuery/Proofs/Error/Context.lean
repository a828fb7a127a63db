import TrackedQuery.Error

/-!
# What a context keeps

An error that is put into a context is kept as it is: its text ends the new text, and every kind it
has is still found.  Of the context the newest cause is kept.  If someone else holds the context as
well it cannot be taken apart, and then only the text of this cause is kept, without its kind
(`Error.enclose`).

So a context of one cause is shown in front of the error, and both keep their kinds unless the
context is held (`Error.enclose_keeps`).
-/

namespace TrackedQuery

namespace Error

/-- Puts a context around an error, where the context may be held by someone else. -/
def enclose (held : Bool) (error consequent : Error) : Error :=
  if held then error.contextShared consequent else error.context consequent

/-- The newest cause of a context, as far as it is kept. -/
def keptCause (held : Bool) (consequent : Error) : Cause :=
  if held then .adhoc consequent.cause.message else consequent.cause

private theorem chain_enclose (held : Bool) (error consequent : Error) :
    (error.enclose held consequent).chain = consequent.keptCause held :: error.chain := by
  cases held <;> rfl

/-- The wording of a cause is kept in any case. -/
theorem message_keptCause (held : Bool) (consequent : Error) :
    (consequent.keptCause held).message = consequent.cause.message := by
  cases held <;> rfl

/-- The kind of a cause is kept if nobody else holds it. -/
theorem kind?_keptCause (held : Bool) (consequent : Error) :
    (consequent.keptCause held).kind? = if held then none else consequent.kind? := by
  cases held <;> rfl

/-! ## Texts -/

private theorem message_enclose (held : Bool) (error consequent : Error) :
    (error.enclose held consequent).message =
      consequent.cause.message ++ ": " ++ error.message := by
  have chained : error.chain.map Cause.message ≠ [] := by simp [chain]
  calc (error.enclose held consequent).message
      = ": ".intercalate ((consequent.keptCause held :: error.chain).map Cause.message) := by
        rw [message, chain_enclose]
    _ = (consequent.keptCause held).message ++ ": " ++ error.message := by
        rw [List.map_cons, String.intercalate_cons_of_ne_nil chained, message]
    _ = consequent.cause.message ++ ": " ++ error.message := by rw [message_keptCause]

/-- An error of one cause has the text of this cause. -/
theorem message_of_single {error : Error} (single : error.earlier = []) :
    error.message = error.cause.message := by
  rw [message, chain, single, List.map_singleton, String.intercalate_singleton]

/-! ## Kinds -/

private theorem hasKind_iff {error : Error} {kind : ErrorKind} :
    error.hasKind kind = true ↔ ∃ cause ∈ error.chain, cause.kind? = some kind := by
  simp [hasKind, anyCause]

private theorem hasKind_of_kind? {error : Error} {kind : ErrorKind}
    (found : error.kind? = some kind) :
    error.hasKind kind = true :=
  hasKind_iff.mpr ⟨error.cause, List.mem_cons_self, found⟩

/-- The kinds of an error in a context are its own, and that of the newest cause of the context if
it is kept. -/
theorem hasKind_enclose_iff {held : Bool} {error consequent : Error} {kind : ErrorKind} :
    (error.enclose held consequent).hasKind kind = true ↔
      held = false ∧ consequent.kind? = some kind ∨ error.hasKind kind = true := by
  have newest : (error.enclose held consequent).hasKind kind =
      ((consequent.keptCause held).kind? == some kind || error.hasKind kind) := by
    rw [hasKind, anyCause, chain_enclose, List.any_cons]
    rfl
  rw [newest, kind?_keptCause]
  cases held <;> simp

/-- An error of one cause has the kind of this cause alone. -/
theorem hasKind_of_single {error : Error} (single : error.earlier = []) {kind : ErrorKind} :
    error.hasKind kind = true ↔ error.kind? = some kind := by
  rw [hasKind_iff, chain, single]
  simp [kind?]

/-! ## Both -/

/-- An error in a context has a text that begins with that of the newest cause of the context and
ends with its own.  It has all of its own kinds and that of the context, provided that nobody else
holds it, and no kinds but those of the two.  If the context has one cause, its whole text comes
first, and these are all of the kinds. -/
theorem enclose_keeps (held : Bool) (error consequent : Error) :
    (∃ text, (error.enclose held consequent).message =
      consequent.cause.message ++ text ++ ": " ++ error.message) ∧
    (∀ kind, error.hasKind kind = true ∨ held = false ∧ consequent.kind? = some kind →
      (error.enclose held consequent).hasKind kind = true) ∧
    (∀ kind, (error.enclose held consequent).hasKind kind = true →
      consequent.hasKind kind = true ∨ error.hasKind kind = true) ∧
    (consequent.earlier = [] →
      (error.enclose held consequent).message =
        consequent.message ++ ": " ++ error.message ∧
      ∀ kind, (error.enclose held consequent).hasKind kind = true ↔
        held = false ∧ consequent.hasKind kind = true ∨ error.hasKind kind = true) := by
  refine ⟨⟨"", ?_⟩, ?_, ?_, ?_⟩
  · rw [message_enclose, String.append_empty]
  · exact fun kind kept => hasKind_enclose_iff.mpr kept.symm
  · intro kind found
    exact (hasKind_enclose_iff.mp found).imp_left fun newest => hasKind_of_kind? newest.2
  · intro single
    refine ⟨?_, fun kind => ?_⟩
    · rw [message_enclose, message_of_single single]
    · rw [hasKind_enclose_iff, hasKind_of_single single]

end Error

namespace Example

/-- An update failed because its row was missing. -/
def failedUpdate : Error := ⟨.adhoc "updating Blog", [.entityNotFound none]⟩

/-- The entity is not known. -/
def unknownBlog : Error := ⟨.unknownEntity "Blog", []⟩

/-- The unknown entity is shown in front of the failed update, and its kind is found unless someone
else holds it. -/
theorem enclose_keeps_failedUpdate :
    unknownBlog.earlier = [] ∧
      (failedUpdate.enclose true unknownBlog).message =
        "unknown entity `Blog`: updating Blog: entity not found" ∧
      (failedUpdate.enclose true unknownBlog).hasKind .entityNotFound = true ∧
      (failedUpdate.enclose true unknownBlog).hasKind .unknownEntity = false ∧
      (failedUpdate.enclose false unknownBlog).hasKind .unknownEntity = true := by
  have single : unknownBlog.earlier = [] := rfl
  obtain ⟨-, -, -, held⟩ := Error.enclose_keeps true failedUpdate unknownBlog
  obtain ⟨-, -, -, free⟩ := Error.enclose_keeps false failedUpdate unknownBlog
  refine ⟨single, ?_, ?_, ?_, ?_⟩
  · exact (held single).1.trans (by decide)
  · exact ((held single).2 .entityNotFound).mpr (.inr rfl)
  · rw [← Bool.not_eq_true, (held single).2 .unknownEntity]
    decide
  · exact ((free single).2 .unknownEntity).mpr (.inl ⟨rfl, rfl⟩)

/-- A context that someone else holds loses its kind, and of a context that was itself put around an
error that error is lost. -/
theorem not_enclose_keeps_all :
    ¬ ((failedUpdate.enclose true unknownBlog).hasKind .unknownEntity = true ↔
      unknownBlog.hasKind .unknownEntity = true ∨ failedUpdate.hasKind .unknownEntity = true) ∧
    ¬ (unknownBlog.enclose false failedUpdate).message =
      failedUpdate.message ++ ": " ++ unknownBlog.message := by
  decide

end Example

end TrackedQuery
