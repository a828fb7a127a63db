import TrackedQuery.Proofs.Program.Text
import TrackedQuery.Proofs.Splitting.Minds

/-!
# Forms and steps, in step

For each kind of form and of step: if its parts do the same on both sides of a seam when they mind
their names, then so does the whole.  The families are closed by induction on how programs are
written (`Form.passes`, `Step.isSame`, `Program.isSame`).

## Strategy

* What is written is of six kinds, each with a statement about what its evaluation gives.  A form
  gives a value, whose slot is moved (`Form.Passes`).  Forms in turn give their values
  (`Form.AllPass`), or nothing if they are run for what they record (`Form.RunSame`).  A step, steps
  in turn and a program give a query, in which there are no slots (`Step.IsSame`, `Step.AllSame`,
  `Program.IsSame`).
* Names have to be minded only if something is moved.  Across the seam that is `still` everything
  passes, which is how a single run of a body is reasoned about.
* The lemma of a form evaluates the operands first (`Form.Passes.next`, `Form.Passes.nextBoth`), and
  what is left is about values.  The lemma of a step begins with the body of its closure
  (`Step.IsSame.run`, `Step.IsSame.items`).
* Names matter where a form keeps a value or takes one: under a name of the seam the two sides have
  values with different slots, under any other name they have the same value (`Form.Passes.keep`,
  `Form.Passes.taken`).
-/

namespace TrackedQuery

variable {seam : Seam} {site : Site}

/-- A form that minds its names does the same on both sides of a seam. -/
def Form.Passes (seam : Seam) (site : Site) (form : Form) : Prop :=
  ∀ {depth : Nat} (frames : List Frame),
    (seam ≠ .still → form.Minds seam.naming (depth != 0)) →
    Term.Passes seam site depth (form.evaluate frames) (form.evaluate frames)

/-- Forms that mind their names, and are evaluated in turn, do the same on both sides of a seam. -/
def Form.AllPass (seam : Seam) (site : Site) (forms : List Form) : Prop :=
  ∀ {depth : Nat} (frames : List Frame),
    (seam ≠ .still → Form.AllMind seam.naming (depth != 0) forms) →
    InStep seam site depth (Form.evaluateAll frames forms) (Form.evaluateAll frames forms)
      (List.map (Term.moved (seam.slotAt depth)))

/-- Forms that mind their names, and are evaluated for what they record, do the same on both sides
of a seam. -/
def Form.RunSame (seam : Seam) (site : Site) (forms : List Form) : Prop :=
  ∀ {depth : Nat} (frames : List Frame),
    (seam ≠ .still → Form.AllMind seam.naming (depth != 0) forms) →
    Same seam site depth (Form.run frames forms)

/-- A step that minds its names does the same on both sides of a seam. -/
def Step.IsSame (seam : Seam) (site : Site) (step : Step) : Prop :=
  ∀ {depth : Nat} (frames : List Frame) (stage : Stage),
    (seam ≠ .still → step.Minds seam.naming) → Same seam site depth (step.evaluate frames stage)

/-- Steps that mind their names do the same on both sides of a seam. -/
def Step.AllSame (seam : Seam) (site : Site) (steps : List Step) : Prop :=
  ∀ {depth : Nat} (frames : List Frame) (position : Nat) (stage : Stage),
    (seam ≠ .still → Step.AllMind seam.naming steps) →
    Same seam site depth (Step.evaluateAll frames position stage steps)

/-- A program that minds its names does the same on both sides of a seam. -/
def Program.IsSame (seam : Seam) (site : Site) (program : Program) : Prop :=
  ∀ {depth : Nat} (frames : List Frame), (seam ≠ .still → program.Minds seam.naming) →
    Same seam site depth (program.evaluate frames)

namespace Form.Passes

variable {operand lhs rhs : Form}

/-! ## Forms -/

/-- A function of the value of a form. -/
theorem next (passes : operand.Passes seam site) {depth : Nat} (frames : List Frame)
    (minds : seam ≠ .still → operand.Minds seam.naming (depth != 0))
    {next next' : Term → SessionM Term}
    (continues : ∀ term, Term.Passes seam site depth (next term)
      (next' (term.moved (seam.slotAt depth)))) :
    Term.Passes seam site depth (operand.evaluate frames >>= next)
      (operand.evaluate frames >>= next') :=
  (passes frames minds).bind continues

/-- A function of the values of two forms. -/
theorem nextBoth (left : lhs.Passes seam site) (right : rhs.Passes seam site) {depth : Nat}
    (frames : List Frame)
    (minds : seam ≠ .still →
      lhs.Minds seam.naming (depth != 0) ∧ rhs.Minds seam.naming (depth != 0))
    {next next' : Term → Term → SessionM Term}
    (continues : ∀ left right, Term.Passes seam site depth (next left right)
      (next' (left.moved (seam.slotAt depth)) (right.moved (seam.slotAt depth)))) :
    Term.Passes seam site depth
      (lhs.evaluate frames >>= fun left => rhs.evaluate frames >>= next left)
      (lhs.evaluate frames >>= fun left => rhs.evaluate frames >>= next' left) :=
  left.next frames (fun moves => (minds moves).1) fun term =>
    right.next frames (fun moves => (minds moves).2) (continues term)

theorem table (index outwards : Nat) : (Form.table index outwards).Passes seam site := by
  intro depth frames minds
  refine .pure ?_
  unfold Frame.tableAt
  split <;> rfl

theorem key (index : Nat) : (Form.key index).Passes seam site := by
  intro depth frames minds
  show Term.Passes seam site depth (Session.keyAt frames index) (Session.keyAt frames index)
  unfold Session.keyAt
  cases Frame.keys? frames with
  | some keys => exact .pure rfl
  | none => exact (Session.same_observe .noKey).bind fun _ => .pure rfl

theorem literal (value : Value) : (Form.literal value).Passes seam site := fun _ _ => .pure rfl

theorem typed (expr : TypedExpr) : (Form.typed expr).Passes seam site := fun _ _ => .pure rfl

theorem countRows : Form.countRows.Passes seam site := fun _ _ => .pure rfl

theorem navigate (passes : operand.Passes seam site) (name entity : String) :
    (Form.navigate operand name entity).Passes seam site := fun frames minds =>
  passes.next frames minds fun term => term.passes_navigate name entity

theorem column (passes : operand.Passes seam site) (name : String) (scalar : Scalar) :
    (Form.column operand name scalar).Passes seam site := fun frames minds =>
  passes.next frames minds fun term => term.passes_column name scalar

theorem allColumns (passes : operand.Passes seam site) :
    (Form.allColumns operand).Passes seam site := fun frames minds =>
  passes.next frames minds fun term => term.passes_allColumns

theorem toExpr (passes : operand.Passes seam site) : (Form.toExpr operand).Passes seam site :=
  fun frames minds => passes.next frames minds fun term => term.inStep_toExpr.map fun _ => rfl

theorem byReference (passes : operand.Passes seam site) :
    (Form.byReference operand).Passes seam site := fun frames minds =>
  passes.next frames minds fun term => .pure (term.byReference_moved _)

theorem compare (left : lhs.Passes seam site) (right : rhs.Passes seam site) (op : CompareOp) :
    (Form.compare op lhs rhs).Passes seam site := fun frames minds =>
  left.nextBoth right frames minds fun lhs rhs => lhs.passes_compare rhs op

theorem matchText (passes : operand.Passes seam site) (kind : TextMatch) (text : String) :
    (Form.matchText operand kind text).Passes seam site := fun frames minds =>
  passes.next frames minds fun term => term.passes_matchText kind text

theorem inList {items : List Form} (passes : operand.Passes seam site)
    (all : Form.AllPass seam site items) (negated : Bool) :
    (Form.inList operand items negated).Passes seam site := fun frames minds =>
  passes.next frames (fun moves => (minds moves).1) fun term =>
    (all frames fun moves => (minds moves).2).bind fun items => term.passes_inList items negated

theorem between {lower upper : Form} (passes : operand.Passes seam site)
    (low : lower.Passes seam site) (high : upper.Passes seam site) :
    (Form.between operand lower upper).Passes seam site := fun frames minds =>
  passes.next frames (fun moves => (minds moves).1) fun term =>
    low.nextBoth high frames (fun moves => (minds moves).2) fun lower upper =>
      term.passes_between lower upper

theorem isNull (passes : operand.Passes seam site) (negated : Bool) :
    (Form.isNull operand negated).Passes seam site := fun frames minds =>
  passes.next frames minds fun term => term.passes_isNull negated

theorem sortBy (passes : operand.Passes seam site) (direction : Direction) :
    (Form.sortBy operand direction).Passes seam site := fun frames minds =>
  passes.next frames minds fun term => term.passes_sortBy direction

theorem aggregate (passes : operand.Passes seam site) (function : AggregateFunction)
    (distinct : Bool) : (Form.aggregate operand function distinct).Passes seam site :=
  fun frames minds =>
    passes.next frames minds fun term => term.passes_aggregate function distinct

theorem restrict {body : List Form} (passes : operand.Passes seam site)
    (same : Form.RunSame seam site body) : (Form.restrict operand body).Passes seam site :=
  fun frames minds => passes.next frames (fun moves => (minds moves).1) fun term =>
    term.passes_restrict (same frames fun moves => (minds moves).2)

theorem and (left : lhs.Passes seam site) (right : rhs.Passes seam site) :
    (Form.and lhs rhs).Passes seam site := fun frames minds =>
  left.nextBoth right frames minds fun lhs rhs => lhs.passes_and rhs

theorem or (left : lhs.Passes seam site) (right : rhs.Passes seam site) :
    (Form.or lhs rhs).Passes seam site := fun frames minds =>
  left.nextBoth right frames minds fun lhs rhs => lhs.passes_or rhs

theorem not (passes : operand.Passes seam site) : (Form.not operand).Passes seam site :=
  fun frames minds => passes.next frames minds fun term => term.passes_not

theorem anyRow {steps : List Step} (passes : operand.Passes seam site) (entity : String)
    (same : Step.AllSame seam site steps) (negated : Bool) :
    (Form.anyRow operand entity steps negated).Passes seam site := fun frames minds =>
  passes.next frames (fun moves => (minds moves).1) fun term =>
    (Session.same_typeOf entity).bind fun base => term.passes_anyRow base negated fun nested =>
      (same frames 0 (.query nested) fun moves => (minds moves).2).map fun _ => rfl

theorem inQuery {steps : List Step} (passes : operand.Passes seam site) (entity : String)
    (same : Step.AllSame seam site steps) :
    (Form.inQuery operand entity steps).Passes seam site := fun frames minds =>
  passes.next frames (fun moves => (minds moves).1) fun term =>
    (Session.same_typeOf entity).bind fun base => term.passes_inQuery base fun nested =>
      (same frames 0 (.query nested) fun moves => (minds moves).2).map fun _ => rfl

/-- The value that is kept is plain if the name is one for plain values. -/
theorem keep (passes : operand.Passes seam site) (name : String) :
    (Form.keep name operand).Passes seam site := by
  intro depth frames minds
  -- a seam with nothing before it has no plain names
  have moves : name ∈ seam.naming.plain → seam ≠ .still := by
    rintro mem rfl
    exact List.not_mem_nil mem
  refine InStep.bindOf (fun term => name ∈ seam.naming.plain → term.slot? = none)
    (passes frames fun moves => (minds moves).1) (fun session mem => ?_) fun term plain => ?_
  · exact Form.plain_evaluate ((minds (moves mem)).2.2 mem) frames session
  · exact (InStep.keepTerm (fun moves => (minds moves).2.1) plain).bind fun _ => .pure rfl

theorem taken (name : String) : (Form.kept name).Passes seam site := fun _ minds =>
  InStep.takeTerm minds

theorem observe (passes : operand.Passes seam site) : (Form.observe operand).Passes seam site :=
  fun frames minds => passes.next frames minds fun term =>
    term.inStep_view.bind fun view => (Session.same_observe (.view view)).bind fun _ => .pure rfl

end Form.Passes

/-! ## Bodies -/

namespace Form

theorem allPass_nil : AllPass seam site [] := fun _ _ => .pure rfl

theorem AllPass.cons {form : Form} {rest : List Form} (first : form.Passes seam site)
    (others : AllPass seam site rest) : AllPass seam site (form :: rest) := fun frames minds =>
  (first frames fun moves => (minds moves).1).bind fun _ =>
    (others frames fun moves => (minds moves).2).map fun _ => rfl

theorem runSame_nil : RunSame seam site [] := fun _ _ => .pure rfl

theorem RunSame.cons {form : Form} {rest : List Form} (first : form.Passes seam site)
    (others : RunSame seam site rest) : RunSame seam site (form :: rest) := fun frames minds =>
  (first frames fun moves => (minds moves).1).bind fun _ =>
    others frames fun moves => (minds moves).2

end Form

/-! ## Steps -/

namespace Step.IsSame

variable {body : List Form}

/-- The body of a clause that records. -/
theorem run (same : Form.RunSame seam site body) {depth : Nat}
    (minds : seam ≠ .still → Form.AllMind seam.naming true body) (keys : Option (List Item))
    (frames : List Frame) :
    BodySame seam site depth fun tables => Form.run (⟨tables, keys⟩ :: frames) body :=
  fun _ => same _ minds

/-- The body of a clause that answers items. -/
theorem items (passes : Form.AllPass seam site body) {depth : Nat}
    (minds : seam ≠ .still → Form.AllMind seam.naming true body) (keys : Option (List Item))
    (frames : List Frame) :
    BodySame seam site depth fun tables =>
      Form.evaluateAll (⟨tables, keys⟩ :: frames) body >>= Term.toItemsAll :=
  fun tables => (@passes (depth + 1) (⟨tables, keys⟩ :: frames) minds).bind Term.inStep_toItemsAll

theorem filterBy (same : Form.RunSame seam site body) :
    (Step.filterBy body).IsSame seam site := by
  intro depth frames stage minds
  cases stage with
  | query built => exact (built.same_filterBy (run same minds none frames)).map fun _ => rfl
  | grouped | projected => exact .pure rfl

theorem filterByIf (condition : Bool) (same : Form.RunSame seam site body) :
    (Step.filterByIf condition body).IsSame seam site := by
  intro depth frames stage minds
  cases stage with
  | query built =>
      cases condition with
      | false => exact .pure rfl
      | true => exact (built.same_filterBy (run same minds none frames)).map fun _ => rfl
  | grouped | projected => exact .pure rfl

theorem filterByKey (id : Value) : (Step.filterByKey id).IsSame seam site := by
  intro depth frames stage minds
  cases stage with
  | query built => exact (built.same_filterByKey id).map fun _ => rfl
  | grouped | projected => exact .pure rfl

theorem orderBy (same : Form.RunSame seam site body) : (Step.orderBy body).IsSame seam site := by
  intro depth frames stage minds
  cases stage with
  | query built => exact (built.same_orderBy (run same minds none frames)).map fun _ => rfl
  | grouped built => exact (built.same_orderBy (run same minds _ frames)).map fun _ => rfl
  | projected => exact .pure rfl

theorem join (kind : JoinKind) (entity : String) (same : Form.RunSame seam site body) :
    (Step.join kind entity body).IsSame seam site := by
  intro depth frames stage minds
  cases stage with
  | query built =>
      exact (built.same_joinRows kind entity none (run same minds none frames)).map fun _ => rfl
  | grouped | projected => exact .pure rfl

theorem joinQuery (kind : JoinKind) {source : Program} (source_same : source.IsSame seam site)
    (same : Form.RunSame seam site body) :
    (Step.joinQuery kind source body).IsSame seam site := by
  intro depth frames stage minds
  cases stage with
  | query built =>
      refine (source_same frames fun moves => (minds moves).1).bind fun outcome => ?_
      dsimp only [id]
      split
      · exact .pure rfl
      · have clause : BodySame seam site depth _ :=
          run same (fun moves => (minds moves).2) none frames
        exact (built.same_joinQuery kind _ clause).map fun _ => rfl
  | grouped | projected => exact .pure rfl

theorem setting {step : Step} (sets : step.isSetting = true) : step.IsSame seam site := by
  intro depth frames stage minds
  cases step with
  | asTable | asTracking | withDeleted | limit | offset => cases stage <;> exact .pure rfl
  | _ => cases sets

theorem stack (op : SetOperator) {other : Program} (same : other.IsSame seam site) :
    (Step.stack op other).IsSame seam site := by
  intro depth frames stage minds
  refine (same frames minds).bind fun outcome => ?_
  dsimp only [id]
  cases stage with
  | query built =>
      dsimp only
      split
      · exact .pure rfl
      · exact (built.same_stack op _).map fun _ => rfl
  | projected built =>
      dsimp only
      split
      · exact .pure rfl
      · exact (built.same_stack op _).map fun _ => rfl
  | grouped built => exact .pure rfl

theorem select (counted : Bool) (passes : Form.AllPass seam site body) :
    (Step.select body counted).IsSame seam site := by
  intro depth frames stage minds
  cases stage with
  | query built => exact (built.same_select (items passes minds none frames)).map fun _ => rfl
  | grouped built =>
      refine (built.same_select fun tables => ?_).map fun _ => rfl
      have answered : Same seam site (depth + 1) _ :=
        items passes minds (some built.keys) frames tables
      cases counted with
      | false => exact answered
      | true => exact (Session.same_observe _).bind fun _ => answered
  | projected => exact .pure rfl

theorem groupBy (passes : Form.AllPass seam site body) : (Step.groupBy body).IsSame seam site := by
  intro depth frames stage minds
  cases stage with
  | query built => exact (built.same_groupBy (items passes minds none frames)).map fun _ => rfl
  | grouped | projected => exact .pure rfl

theorem having (same : Form.RunSame seam site body) : (Step.having body).IsSame seam site := by
  intro depth frames stage minds
  cases stage with
  | grouped built => exact (built.same_having (run same minds _ frames)).map fun _ => rfl
  | query | projected => exact .pure rfl

theorem ask (ending : Ending) : (Step.ask ending).IsSame seam site := fun _ stage _ =>
  (Session.same_ask stage ending).bind fun reply =>
    (Session.same_observe (.reply reply)).bind fun _ => .pure rfl

end Step.IsSame

/-! ## Programs -/

theorem Step.allSame_nil : Step.AllSame seam site [] := fun _ _ _ _ => .pure rfl

theorem Step.AllSame.cons {step : Step} {rest : List Step} (first : step.IsSame seam site)
    (others : Step.AllSame seam site rest) : Step.AllSame seam site (step :: rest) := by
  intro depth frames position stage minds
  refine (first frames stage fun moves => (minds moves).1).bind fun outcome => ?_
  cases outcome with
  | error error => exact .pure rfl
  | ok next => exact others frames (position + 1) next fun moves => (minds moves).2

theorem Program.isSame_mk (beginning : Beginning) {steps : List Step}
    (same : Step.AllSame seam site steps) : Program.IsSame seam site ⟨beginning, steps⟩ := by
  intro depth frames minds
  refine (Session.same_begin beginning).bind fun outcome => ?_
  cases outcome with
  | error error => exact .pure rfl
  | ok stage => exact same frames 0 stage minds

mutual

theorem Form.passes (seam : Seam) (site : Site) : ∀ form : Form, form.Passes seam site
  | .table index outwards => Form.Passes.table index outwards
  | .navigate operand name entity => Form.Passes.navigate (operand.passes seam site) name entity
  | .column operand name scalar => Form.Passes.column (operand.passes seam site) name scalar
  | .allColumns operand => Form.Passes.allColumns (operand.passes seam site)
  | .key index => Form.Passes.key index
  | .literal value => Form.Passes.literal value
  | .typed expr => Form.Passes.typed expr
  | .toExpr operand => Form.Passes.toExpr (operand.passes seam site)
  | .byReference operand => Form.Passes.byReference (operand.passes seam site)
  | .compare op lhs rhs => Form.Passes.compare (lhs.passes seam site) (rhs.passes seam site) op
  | .matchText operand kind text => Form.Passes.matchText (operand.passes seam site) kind text
  | .inList operand items negated =>
      Form.Passes.inList (operand.passes seam site) (Form.allPass seam site items) negated
  | .between operand lower upper =>
      Form.Passes.between (operand.passes seam site) (lower.passes seam site)
        (upper.passes seam site)
  | .inQuery operand entity steps =>
      Form.Passes.inQuery (operand.passes seam site) entity (Step.allSame seam site steps)
  | .isNull operand negated => Form.Passes.isNull (operand.passes seam site) negated
  | .sortBy operand direction => Form.Passes.sortBy (operand.passes seam site) direction
  | .aggregate operand function distinct =>
      Form.Passes.aggregate (operand.passes seam site) function distinct
  | .countRows => Form.Passes.countRows
  | .restrict operand body =>
      Form.Passes.restrict (operand.passes seam site) (Form.runSame seam site body)
  | .anyRow operand entity steps negated =>
      Form.Passes.anyRow (operand.passes seam site) entity (Step.allSame seam site steps) negated
  | .and lhs rhs => Form.Passes.and (lhs.passes seam site) (rhs.passes seam site)
  | .or lhs rhs => Form.Passes.or (lhs.passes seam site) (rhs.passes seam site)
  | .not operand => Form.Passes.not (operand.passes seam site)
  | .keep name operand => Form.Passes.keep (operand.passes seam site) name
  | .kept name => Form.Passes.taken name
  | .observe operand => Form.Passes.observe (operand.passes seam site)

theorem Form.allPass (seam : Seam) (site : Site) :
    ∀ forms : List Form, Form.AllPass seam site forms
  | [] => Form.allPass_nil
  | form :: rest => Form.AllPass.cons (form.passes seam site) (Form.allPass seam site rest)

theorem Form.runSame (seam : Seam) (site : Site) :
    ∀ forms : List Form, Form.RunSame seam site forms
  | [] => Form.runSame_nil
  | form :: rest => Form.RunSame.cons (form.passes seam site) (Form.runSame seam site rest)

theorem Step.isSame (seam : Seam) (site : Site) : ∀ step : Step, step.IsSame seam site
  | .filterBy body => Step.IsSame.filterBy (Form.runSame seam site body)
  | .filterByIf condition body => Step.IsSame.filterByIf condition (Form.runSame seam site body)
  | .filterByKey id => Step.IsSame.filterByKey id
  | .orderBy body => Step.IsSame.orderBy (Form.runSame seam site body)
  | .join kind entity body => Step.IsSame.join kind entity (Form.runSame seam site body)
  | .joinQuery kind source body =>
      Step.IsSame.joinQuery kind (source.isSame seam site) (Form.runSame seam site body)
  | .asTable _ | .asTracking | .withDeleted | .limit _ | .offset _ => Step.IsSame.setting rfl
  | .stack op other => Step.IsSame.stack op (other.isSame seam site)
  | .select body counted => Step.IsSame.select counted (Form.allPass seam site body)
  | .groupBy body => Step.IsSame.groupBy (Form.allPass seam site body)
  | .having body => Step.IsSame.having (Form.runSame seam site body)
  | .ask ending => Step.IsSame.ask ending

theorem Step.allSame (seam : Seam) (site : Site) :
    ∀ steps : List Step, Step.AllSame seam site steps
  | [] => Step.allSame_nil
  | step :: rest => Step.AllSame.cons (step.isSame seam site) (Step.allSame seam site rest)

theorem Program.isSame (seam : Seam) (site : Site) :
    ∀ program : Program, program.IsSame seam site
  | ⟨beginning, steps⟩ => Program.isSame_mk beginning (Step.allSame seam site steps)

end

end TrackedQuery
