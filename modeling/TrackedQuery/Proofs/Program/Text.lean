import TrackedQuery.Proofs.Session.Store

/-!
# The queries that a program writes down

A program writes a query down for itself, one for every query that it joins or stacks, and one for
every query that is nested in a clause.  Each is an entity and the steps taken from there
(`Program.texts`).  What becomes of it, the steps decide: the setting of the query can be read off
them without running them (`QueryText.setting`), since the bodies of its clauses and the queries
written inside them have no part in it.

A rule admits a query if the plan of whatever its steps build is as the rule asks
(`Rule.Admits`).  So a rule may ask of every plan that it is the plan of a query that was written
down, and no other.
-/

namespace TrackedQuery

/-- A query as it is written down. -/
structure QueryText where
  /-- The entity of the base table. -/
  entity : String
  steps : List Step

/-! ## Writing queries down -/

/-- The query that a program writes down for itself.  A program that goes on with a query that was
kept has none. -/
def Beginning.text? (steps : List Step) : Beginning → Option QueryText
  | .entity _ name => some ⟨name, steps⟩
  | .kept _ => none

mutual

/-- The queries that are written down in a form. -/
def Form.texts : Form → List QueryText
  | .table _ _ | .key _ | .literal _ | .typed _ | .countRows | .kept _ => []
  | .navigate operand _ _ | .column operand _ _ | .allColumns operand | .toExpr operand
  | .byReference operand | .matchText operand _ _ | .isNull operand _ | .sortBy operand _
  | .aggregate operand _ _ | .not operand | .keep _ operand | .observe operand => operand.texts
  | .compare _ lhs rhs | .and lhs rhs | .or lhs rhs => lhs.texts ++ rhs.texts
  | .inList operand items _ => operand.texts ++ Form.textsAll items
  | .between operand lower upper => operand.texts ++ (lower.texts ++ upper.texts)
  | .inQuery operand entity steps | .anyRow operand entity steps _ =>
      operand.texts ++ ⟨entity, steps⟩ :: Step.textsAll steps
  | .restrict operand body => operand.texts ++ Form.textsAll body

/-- The queries that are written down in forms. -/
def Form.textsAll : List Form → List QueryText
  | [] => []
  | form :: rest => form.texts ++ Form.textsAll rest

/-- The queries that are written down in a step. -/
def Step.texts : Step → List QueryText
  | .filterBy body | .filterByIf _ body | .orderBy body | .join _ _ body | .select body _
  | .groupBy body | .having body => Form.textsAll body
  | .joinQuery _ source body => source.texts ++ Form.textsAll body
  | .stack _ other => other.texts
  | .filterByKey _ | .asTable _ | .asTracking | .withDeleted | .limit _ | .offset _ | .ask _ => []

/-- The queries that are written down in steps. -/
def Step.textsAll : List Step → List QueryText
  | [] => []
  | step :: rest => step.texts ++ Step.textsAll rest

/-- The queries that are written down in a program, its own one first. -/
def Program.texts : Program → List QueryText
  | ⟨beginning, steps⟩ => (beginning.text? steps).toList ++ Step.textsAll steps

end

/-- The query that a program writes down for itself. -/
def Program.text? (program : Program) : Option QueryText :=
  program.beginning.text? program.steps

/-! ## Settings -/

/-- Whether a step sets an option of the query, and nothing else. -/
def Step.isSetting : Step → Bool
  | .asTable _ | .asTracking | .withDeleted | .limit _ | .offset _ => true
  | _ => false

/-- The setting of a query after a step.  Once it is grouped or projected, it keeps its setting. -/
def Step.settle (setting : Setting) : Step → Setting
  | .withDeleted => { setting with leavesOutDeleted := !setting.isOpen && setting.leavesOutDeleted }
  | .select _ _ | .groupBy _ => { setting with isOpen := false }
  | _ => setting

/-- The setting of a query of which nothing has been asked yet. -/
def Setting.initial : Setting := ⟨true, true⟩

/-- The setting that the steps of a query make. -/
def QueryText.setting (text : QueryText) : Setting := text.steps.foldl Step.settle .initial

/-! ## Building queries -/

/-- In some session, and in some clause, the steps of the text lead from a new query over its entity
to the given query. -/
def QueryText.Builds (text : QueryText) (stage : Stage) (after : Session) : Prop :=
  ∃ (frames : List Frame) (before : Session) (query : Query),
    query.IsNew before.recording ∧ query.base.name = text.entity ∧
      Step.evaluateAll frames 0 (.query query) text.steps before = (.ok stage, after)

/-- What is known of a query that the text has built while the session was kept sound. -/
structure QueryText.Reaches (rule : Rule) (text : QueryText) (recording : Recording)
    (stage : Stage) : Prop where
  builds : ∃ after, after.recording = recording ∧ text.Builds stage after
  base : (recording.contextAt stage.context).base = text.entity
  setting : stage.setting = text.setting
  context : recording.ContextSound rule stage.context

/-- The plans of the queries that the text builds are as the rule asks of plans. -/
def Rule.Admits (rule : Rule) (text : QueryText) : Prop :=
  ∀ (recording : Recording) (stage : Stage), text.Reaches rule recording stage →
    stage.Admitted rule recording

theorem Rule.AdmitsCompiled.admits {rule : Rule} (admits : rule.AdmitsCompiled)
    (text : QueryText) : rule.Admits text :=
  fun recording stage _ => admits.admitted recording stage

end TrackedQuery
