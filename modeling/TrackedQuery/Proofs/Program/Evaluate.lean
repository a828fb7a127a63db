import TrackedQuery.Proofs.Program.Step

/-!
# Programs keep sessions sound

Every form, step and program that keeps to its closures keeps sessions sound, by induction on how
they are written (`Form.isKept`, `Step.isKept`, `Program.isKept`), if the rule admits every query
that is written down in it.  The steps of a nested query are taken in the closure that it is written
in, on a query whose context lies inside the one of the closure.
-/

namespace TrackedQuery

variable {scheme : Scheme}

/-! ## Nested queries -/

section Nested

variable {steps : List Step} {base : EntityType} {context : ContextId} {names : List String}
  {outer : List Closure} {frames : List Frame} {start : Recording}

variable (kept : Step.AllKept scheme steps) (admits : scheme.rule.Admits ⟨base.name, steps⟩)
  (fits : Step.AllFit scheme (names ++ Closure.namesOf outer) steps)
  (exist : Frame.TablesExist start frames)

include kept admits fits exist

/-- The steps of a nested query answer a query in the context that was made for it. -/
theorem Step.AllKept.nested {recording : Recording} {query : Query} {enclosing : List ContextId}
    (grows : start.Grows recording) (made : query.Made scheme.rule base enclosing recording) :
    Keeps scheme recording (⟨context, names⟩ :: outer)
      (Step.evaluateAll frames 0 (.query query) steps) (⟨context, names⟩ :: outer)
      (fun later outcome => Result.Meets scheme.rule
        (fun stage => stage.Valid scheme.rule later ∧ stage.Admitted scheme.rule later ∧
          stage.context = query.context) (StepFailure.forget outcome)) := by
  have fits : Step.AllFit scheme (Closure.namesOf (⟨context, names⟩ :: outer)) steps := fits
  refine (kept.reaches fits (exist.mono grows) made).weaken fun later _ _ meets => ?_
  exact meets.mono fun stage ⟨sound, same, reached⟩ =>
    ⟨sound.valid, admits later stage reached, same⟩

theorem Step.AllKept.nestedQuery :
    NestedKept scheme start ⟨context, names⟩ outer base
      (fun nested => do
        let outcome ← Step.evaluateAll frames 0 (.query nested) steps
        return (StepFailure.forget outcome).bind Stage.toQuery)
      .query :=
  fun _ _ _ grows made => (kept.nested admits fits exist grows made).map
    fun _ _ _ meets => Stage.meets_toQuery meets

theorem Step.AllKept.nestedProjection :
    NestedKept scheme start ⟨context, names⟩ outer base
      (fun nested => do
        let outcome ← Step.evaluateAll frames 0 (.query nested) steps
        return (StepFailure.forget outcome).bind Stage.toProjected)
      .projected :=
  fun _ _ _ grows made => (kept.nested admits fits exist grows made).map
    fun _ _ _ meets => Stage.meets_toProjected meets

end Nested

namespace Form.Kept

theorem anyRow {operand : Form} {entity : String} {steps : List Step}
    (admits : scheme.rule.Admits ⟨entity, steps⟩) (kept : operand.Kept scheme)
    (steps_kept : Step.AllKept scheme steps) (negated : Bool) :
    (Form.anyRow operand entity steps negated).Kept scheme := by
  intro context names outer frames start fits sound
  refine kept.next fits.1 sound fun first term _ sound _ => ?_
  refine (Session.keeps_typeOf entity).bind fun second base grows same => ?_
  subst same
  have nested : NestedKept scheme second ⟨context, operand.names ++ names⟩ outer base _ .query :=
    steps_kept.nestedQuery admits fits.2 (sound.mono grows).tables
  exact Term.Kept.yields (Term.kept_anyRow negated nested) id

theorem inQuery {operand : Form} {entity : String} {steps : List Step}
    (admits : scheme.rule.Admits ⟨entity, steps⟩) (kept : operand.Kept scheme)
    (steps_kept : Step.AllKept scheme steps) :
    (Form.inQuery operand entity steps).Kept scheme := by
  intro context names outer frames start fits sound
  refine kept.next fits.1 sound fun first term _ sound valid => ?_
  refine (Session.keeps_typeOf entity).bind fun second base grows same => ?_
  subst same
  have nested :
      NestedKept scheme second ⟨context, operand.names ++ names⟩ outer base _ .projected :=
    steps_kept.nestedProjection admits fits.2 (sound.mono grows).tables
  exact Term.Kept.yields (Term.kept_inQuery (valid.mono grows) nested) id

end Form.Kept

/-! ## All programs -/

mutual

theorem Form.isKept : ∀ form : Form, (∀ text ∈ form.texts, scheme.rule.Admits text) →
    form.Kept scheme
  | .table index outwards, _ => Form.Kept.table index outwards
  | .navigate operand name entity, admits => Form.Kept.navigate (operand.isKept admits) name entity
  | .column operand name scalar, admits => Form.Kept.column (operand.isKept admits) name scalar
  | .allColumns operand, admits => Form.Kept.allColumns (operand.isKept admits)
  | .key index, _ => Form.Kept.key index
  | .literal value, _ => Form.Kept.literal value
  | .typed expr, _ => Form.Kept.typed expr
  | .toExpr operand, admits => Form.Kept.toExpr (operand.isKept admits)
  | .byReference operand, admits => Form.Kept.byReference (operand.isKept admits)
  | .compare op lhs rhs, admits =>
      have parts := List.forall_mem_append.mp admits
      Form.Kept.compare (lhs.isKept parts.1) (rhs.isKept parts.2) op
  | .matchText operand kind text, admits => Form.Kept.matchText (operand.isKept admits) kind text
  | .inList operand items negated, admits =>
      have parts := List.forall_mem_append.mp admits
      Form.Kept.inList (operand.isKept parts.1) (Form.allAreKept items parts.2) negated
  | .between operand lower upper, admits =>
      have parts := List.forall_mem_append.mp admits
      have bounds := List.forall_mem_append.mp parts.2
      Form.Kept.between (operand.isKept parts.1) (lower.isKept bounds.1) (upper.isKept bounds.2)
  | .inQuery operand _ steps, admits =>
      have parts := List.forall_mem_append.mp admits
      have written := List.forall_mem_cons.mp parts.2
      Form.Kept.inQuery written.1 (operand.isKept parts.1) (Step.allAreKept steps written.2)
  | .isNull operand negated, admits => Form.Kept.isNull (operand.isKept admits) negated
  | .sortBy operand direction, admits => Form.Kept.sortBy (operand.isKept admits) direction
  | .aggregate operand function distinct, admits =>
      Form.Kept.aggregate (operand.isKept admits) function distinct
  | .countRows, _ => Form.Kept.countRows
  | .restrict operand body, admits =>
      have parts := List.forall_mem_append.mp admits
      Form.Kept.restrict (operand.isKept parts.1) (Form.runIsKept body parts.2)
  | .anyRow operand _ steps negated, admits =>
      have parts := List.forall_mem_append.mp admits
      have written := List.forall_mem_cons.mp parts.2
      Form.Kept.anyRow written.1 (operand.isKept parts.1) (Step.allAreKept steps written.2) negated
  | .and lhs rhs, admits =>
      have parts := List.forall_mem_append.mp admits
      Form.Kept.and (lhs.isKept parts.1) (rhs.isKept parts.2)
  | .or lhs rhs, admits =>
      have parts := List.forall_mem_append.mp admits
      Form.Kept.or (lhs.isKept parts.1) (rhs.isKept parts.2)
  | .not operand, admits => Form.Kept.not (operand.isKept admits)
  | .keep name operand, admits => Form.Kept.keep name (operand.isKept admits)
  | .kept name, _ => Form.Kept.taken name
  | .observe operand, admits => Form.Kept.observe (operand.isKept admits)

theorem Form.allAreKept : ∀ forms : List Form,
    (∀ text ∈ Form.textsAll forms, scheme.rule.Admits text) → Form.AllKept scheme forms
  | [], _ => Form.allKept_nil
  | form :: rest, admits =>
      have parts := List.forall_mem_append.mp admits
      Form.AllKept.cons (form.isKept parts.1) (Form.allAreKept rest parts.2)

theorem Form.runIsKept : ∀ forms : List Form,
    (∀ text ∈ Form.textsAll forms, scheme.rule.Admits text) → Form.RunKept scheme forms
  | [], _ => Form.runKept_nil
  | form :: rest, admits =>
      have parts := List.forall_mem_append.mp admits
      Form.RunKept.cons (form.isKept parts.1) (Form.runIsKept rest parts.2)

theorem Step.isKept : ∀ step : Step, (∀ text ∈ step.texts, scheme.rule.Admits text) →
    step.Kept scheme
  | .filterBy body, admits => Step.Kept.filterBy (Form.runIsKept body admits)
  | .filterByIf condition body, admits =>
      Step.Kept.filterByIf condition (Form.runIsKept body admits)
  | .filterByKey id, _ => Step.Kept.filterByKey id
  | .orderBy body, admits => Step.Kept.orderBy (Form.runIsKept body admits)
  | .join kind entity body, admits => Step.Kept.join kind entity (Form.runIsKept body admits)
  | .joinQuery kind source body, admits =>
      have parts := List.forall_mem_append.mp admits
      Step.Kept.joinQuery kind (source.isKept parts.1) (Form.runIsKept body parts.2)
  | .asTable _, _ | .asTracking, _ | .withDeleted, _ | .limit _, _ | .offset _, _ =>
      Step.Kept.setting rfl
  | .stack op other, admits => Step.Kept.stack op (other.isKept admits)
  | .select body counted, admits => Step.Kept.select counted (Form.allAreKept body admits)
  | .groupBy body, admits => Step.Kept.groupBy (Form.allAreKept body admits)
  | .having body, admits => Step.Kept.having (Form.runIsKept body admits)
  | .ask ending, _ => Step.Kept.ask ending

theorem Step.allAreKept : ∀ steps : List Step,
    (∀ text ∈ Step.textsAll steps, scheme.rule.Admits text) → Step.AllKept scheme steps
  | [], _ => Step.allKept_nil
  | step :: rest, admits =>
      have parts := List.forall_mem_append.mp admits
      Step.AllKept.cons (step.isKept parts.1) (Step.allAreKept rest parts.2)

theorem Program.isKept : ∀ program : Program,
    (∀ text ∈ program.texts, scheme.rule.Admits text) → program.Kept scheme
  | ⟨_, steps⟩, admits =>
      have parts := List.forall_mem_append.mp admits
      Program.kept_mk (fun text own => parts.1 text (Option.mem_toList.mpr own))
        (Step.allAreKept steps parts.2)

end

end TrackedQuery
