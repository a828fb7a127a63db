import TrackedQuery.Proofs.Splitting.Query

/-!
# Bodies that mind their names

The body behind a seam uses its own names for its predicates, and it uses them at its own level
only: a clause nested in it, which has another recorder, neither keeps nor takes a value under them.
It takes nothing else, except for values under the plain names, under which no predicate is kept.
`Form.Minds` says so.  The names of nested clauses are not asked about otherwise.

The predicates of other clauses are excluded by this, of earlier ones and of those around.  Their
slots are looked up in the recorder of this clause all the same, where something else stands in
them, and what that is depends on where the seam is.
-/

namespace TrackedQuery

/-- Whether a form is sure to yield no predicate. -/
def Form.isPlain : Form → Bool
  | .table _ _ | .navigate _ _ _ | .column _ _ _ | .allColumns _ | .key _ | .literal _ | .typed _
  | .toExpr _ | .sortBy _ _ | .aggregate _ _ _ | .countRows | .restrict _ _ | .keep _ _ => true
  | .byReference _ | .compare _ _ _ | .matchText _ _ _ | .inList _ _ _ | .between _ _ _
  | .inQuery _ _ _ | .isNull _ _ | .anyRow _ _ _ _ | .and _ _ | .or _ _ | .not _ | .kept _
  | .observe _ => false

/-- A name that may be used at the level of the body itself, or in a clause nested in it. -/
def Naming.Admits (naming : Naming) (nested : Bool) (name : String) : Prop :=
  match nested with
  | false => name ∈ naming.own ∨ name ∈ naming.plain
  | true => name ∉ naming.own

mutual

/-- A form uses names as the body behind a seam may; `nested` tells whether it belongs to a clause
nested in the body. -/
def Form.Minds (naming : Naming) (nested : Bool) : Form → Prop
  | .table _ _ | .key _ | .literal _ | .typed _ | .countRows => True
  | .navigate operand _ _ | .column operand _ _ | .allColumns operand | .toExpr operand
  | .byReference operand | .matchText operand _ _ | .isNull operand _ | .sortBy operand _
  | .aggregate operand _ _ | .not operand | .observe operand => operand.Minds naming nested
  | .compare _ lhs rhs | .and lhs rhs | .or lhs rhs =>
      lhs.Minds naming nested ∧ rhs.Minds naming nested
  | .inList operand items _ =>
      operand.Minds naming nested ∧ Form.AllMind naming nested items
  | .between operand lower upper =>
      operand.Minds naming nested ∧ lower.Minds naming nested ∧ upper.Minds naming nested
  | .inQuery operand _ steps | .anyRow operand _ steps _ =>
      operand.Minds naming nested ∧ Step.AllMind naming steps
  | .restrict operand body => operand.Minds naming nested ∧ Form.AllMind naming nested body
  | .keep name form =>
      form.Minds naming nested ∧ naming.Admits nested name ∧
        (name ∈ naming.plain → form.isPlain = true)
  | .kept name => naming.Admits nested name

/-- `Form.Minds` of several forms. -/
def Form.AllMind (naming : Naming) (nested : Bool) : List Form → Prop
  | [] => True
  | form :: rest => form.Minds naming nested ∧ Form.AllMind naming nested rest

/-- The clause of a step uses names as a clause nested in the body behind a seam may. -/
def Step.Minds (naming : Naming) : Step → Prop
  | .filterBy body | .filterByIf _ body | .orderBy body | .join _ _ body | .groupBy body
  | .having body | .select body _ => Form.AllMind naming true body
  | .joinQuery _ source body => source.Minds naming ∧ Form.AllMind naming true body
  | .stack _ other => other.Minds naming
  | .filterByKey _ | .asTable _ | .asTracking | .withDeleted | .limit _ | .offset _ | .ask _ => True

/-- `Step.Minds` of several steps. -/
def Step.AllMind (naming : Naming) : List Step → Prop
  | [] => True
  | step :: rest => step.Minds naming ∧ Step.AllMind naming rest

/-- Every clause of a program uses names as one nested in the body behind a seam may. -/
def Program.Minds (naming : Naming) : Program → Prop
  | ⟨_, steps⟩ => Step.AllMind naming steps

end

/-! ## Plain forms -/

/-- A computation that yields a value without a slot. -/
def SessionM.Plain (run : SessionM Term) : Prop :=
  ∀ session, (run session).1.slot? = none

section Plain

variable (term : Term)

private theorem Term.plain_navigate (name entity : String) :
    SessionM.Plain (term.navigate name entity) := by
  intro session
  cases term <;> rfl

private theorem Term.plain_column (name : String) (scalar : Scalar) :
    SessionM.Plain (term.column? name scalar) := by
  intro session
  cases term <;> rfl

private theorem Term.plain_allColumns : SessionM.Plain term.allColumns := by
  intro session
  cases term <;> rfl

private theorem Term.plain_aggregate (function : AggregateFunction) (distinct : Bool) :
    SessionM.Plain (term.aggregate? function distinct) := by
  intro session
  cases term <;> rfl

private theorem Term.plain_restrict (body : SessionM Unit) :
    SessionM.Plain (term.restrict body) := by
  intro session
  cases term <;> rfl

/-- What a plain form yields has no slot. -/
theorem Form.plain_evaluate {form : Form} (plain : form.isPlain = true) (frames : List Frame) :
    SessionM.Plain (form.evaluate frames) := by
  intro session
  cases form with
  | table index outwards =>
      show (Frame.tableAt frames index outwards).slot? = none
      unfold Frame.tableAt
      split <;> rfl
  -- a key is an expression or nothing, with or without a clause around
  | key index =>
      show (Session.keyAt frames index session).1.slot? = none
      unfold Session.keyAt
      cases Frame.keys? frames <;> rfl
  | literal | typed | countRows | keep | toExpr | sortBy => rfl
  | navigate table name entity => exact Term.plain_navigate _ name entity _
  | column table name scalar => exact Term.plain_column _ name scalar _
  | allColumns table => exact Term.plain_allColumns _ _
  | aggregate column function distinct => exact Term.plain_aggregate _ function distinct _
  | restrict aggregate body => exact Term.plain_restrict _ _ _
  | byReference | compare | matchText | inList | between | inQuery | isNull | anyRow | and | or
  | not | kept | observe => cases plain

end Plain

/-! ## Names -/

section Names

variable {seam : Seam} {site : Site} {depth : Nat}

/-- A value under a name that is admitted is kept as it is moved. -/
theorem Seam.kept_of_admits {name : String}
    (admits : seam ≠ .still → seam.naming.Admits (depth != 0) name)
    {term : Term} (plain : name ∈ seam.naming.plain → term.slot? = none) :
    seam.kept name term = term.moved (seam.slotAt depth) := by
  by_cases still : seam = .still
  · rw [still, slotAt_still, Term.moved_id]
    exact kept_still name term
  · have admitted := admits still
    cases depth with
    | zero =>
        rcases admitted with own | free
        · exact if_pos own
        · -- a plain value stays as it is wherever it is moved
          rw [Term.moved_of_slot?_eq_none (plain free)]
          unfold Seam.kept
          split
          · exact Term.moved_of_slot?_eq_none (plain free) _
          · rfl
    | succ depth =>
        show seam.kept name term = term.moved id
        rw [Term.moved_id]
        exact if_neg admitted

/-- Keeping a value under a name that admits it. -/
theorem InStep.keepTerm {name : String}
    (admits : seam ≠ .still → seam.naming.Admits (depth != 0) name) {term : Term}
    (plain : name ∈ seam.naming.plain → term.slot? = none) :
    InStep seam site depth (Session.keepTerm name term)
      (Session.keepTerm name (term.moved (seam.slotAt depth))) id := by
  refine .modifySession fun shape session placed => ⟨?_, placed.recording, ?_, placed.stages⟩
  · refine congrArg (Prod.mk _) ?_
    show Session.mk .. = Session.mk ..
    simp only [Seam.session, Seam.terms_put, seam.kept_of_admits admits plain]
  · intro other mem term' found
    change (session.terms.put name term).get? other = some term' at found
    by_cases same : other = name
    · subst same
      rw [Names.get?_put_self] at found
      cases found
      exact plain mem
    · rw [Names.get?_put_of_ne same] at found
      exact placed.plain other mem term' found

/-- Taking a value under a name that admits it. -/
theorem InStep.takeTerm {name : String}
    (admits : seam ≠ .still → seam.naming.Admits (depth != 0) name) :
    InStep seam site depth (Session.takeTerm name) (Session.takeTerm name)
      (Term.moved (seam.slotAt depth)) := by
  refine .modifySession fun shape session placed => ?_
  have same : (seam.session depth session).terms.get? name =
      (session.terms.get? name).map (seam.kept name) := seam.get?_terms session.terms name
  rw [same]
  cases found : session.terms.get? name with
  | none => exact ⟨rfl, placed⟩
  | some term =>
      have moved := seam.kept_of_admits admits fun mem => placed.plain name mem term found
      simp only [Option.map_some, moved, Term.isMoved_moved]
      split
      · -- a value that is kept no longer is forgotten on both sides
        refine ⟨congrArg (Prod.mk _) ?_, placed.recording, fun other mem term' found' => ?_,
          placed.stages⟩
        · show Session.mk .. = Session.mk ..
          simp only [Seam.session, Seam.terms_remove]
        · change (session.terms.remove name).get? other = some term' at found'
          by_cases same : other = name
          · subst same
            rw [Names.get?_remove_self] at found'
            cases found'
          · rw [Names.get?_remove_of_ne same] at found'
            exact placed.plain other mem term' found'
      · exact ⟨rfl, placed⟩

end Names

end TrackedQuery
