import TrackedQuery.Example
import TrackedQuery.Proofs.Program.Answer
import TrackedQuery.Proofs.Program.Written

/-!
# What every plan of a program asks for

The plan of a program contains the plans of nested queries, of joined queries and of stacked ones.
Each of them is the plan of a query that the program writes down (`QueryText.Plans`): it bears the
identity of that query, its filter and the conditions of its joins mean what the clauses of that
query say, and it leaves rows marked as deleted out if the database does and the steps of that query
do not keep them.  The only plans of which this cannot be said are those that the program itself
writes down as expressions (`Program.written`).

## Strategy

That a plan is one of a query that was written down, or was itself written down, is a rule about
plans.  It admits every query that the program writes down, so it is one that sound sessions keep
(`Program.meets_planAnswer`).  The rule asks nothing of columns, and so nothing of the names that a
program uses (`Program.fits_of_written`).
-/

namespace TrackedQuery

/-! ## Plans of queries that are written down -/

private theorem Stage.Compiles.compile {recording : Recording} {plan : Plan} {stage : Stage}
    (compiles : stage.Compiles recording plan) :
    ∃ projection grouping,
      stage.clauses.compile (recording.contextAt stage.context) projection grouping = .ok plan := by
  cases stage with
  | query built => exact ⟨none, none, compiles⟩
  | grouped built => exact compiles.elim
  | projected built => exact ⟨some built.items, built.grouping, compiles⟩

/-- The plan is the one that a query answers, and the query is one that the text has built over the
database of the connection. -/
structure QueryText.PlannedBy (connection : Connection) (text : QueryText) (plan : Plan)
    (stage : Stage) (session : Session) : Prop where
  builds : text.Builds stage session
  answered : stage.request session .plan = .ready (.ok (.plan plan))
  /-- The plan bears the identity of the query. -/
  query : plan.source.query = some stage.context
  base : (session.recording.contextAt stage.context).base = text.entity
  schema : (session.recording.contextAt stage.context).schema = connection.schema
  /-- The plan asks for what the clauses of the query and the joins of its context say. -/
  means : plan.Means (session.recording.contextAt stage.context) stage.clauses
  /-- The setting is the one that the text makes, and none of another query. -/
  setting : stage.clauses.leavesOutDeleted (session.recording.contextAt stage.context) =
    (connection.options.logicalDelete && text.setting.leavesOutDeleted)

/-- The plan is the one of a query that the text builds over the database of the connection. -/
def QueryText.Plans (connection : Connection) (text : QueryText) (plan : Plan) : Prop :=
  ∃ stage session, text.PlannedBy connection plan stage session

/-- Every plan is the one of a query that the program writes down, or stands in an expression that
it writes down, and every query reads the database of the connection. -/
def Rule.writtenIn (connection : Connection) (program : Program) : Rule where
  strict := false
  plan plan := (∃ text ∈ program.texts, text.Plans connection plan) ∨
    ∃ expr ∈ program.written, ∃ depth, ⟨depth, .plan plan⟩ ∈ expr.visits 0
  database schema options := schema = connection.schema ∧ options = connection.options

section Plans

variable {connection : Connection} {program : Program} {text : QueryText}

private theorem QueryText.Reaches.plans {recording : Recording} {stage : Stage} {plan : Plan}
    (reached : text.Reaches (.writtenIn connection program) recording stage)
    (compiles : stage.Compiles recording plan) : text.Plans connection plan := by
  obtain ⟨⟨after, rfl, builds⟩, base, settled, named, sound, -⟩ := reached
  obtain ⟨schema, options⟩ := sound.database
  obtain ⟨projection, grouping, compiled⟩ := compiles.compile
  refine ⟨stage, after, builds, Stage.request_plan_eq_iff.mpr compiles, ?_, base, schema,
    Plan.means_of_compile compiled, ?_⟩
  · obtain ⟨_, _, _, -, -, -, rfl⟩ := Clauses.compile_eq_ok compiled
    exact congrArg some named
  · have own : stage.clauses.logicalDelete = text.setting.leavesOutDeleted :=
      congrArg Setting.leavesOutDeleted settled
    rw [Clauses.leavesOutDeleted, options, own]

private theorem Rule.admits_writtenIn (mem : text ∈ program.texts) :
    (Rule.writtenIn connection program).Admits text :=
  fun _ _ reached _ compiles => .inl ⟨text, mem, reached.plans compiles⟩

private theorem Program.fits_writtenIn :
    program.Fits ⟨.writtenIn connection program, fun _ => False⟩ [] := by
  have lax : (Rule.writtenIn connection program).strict = false := rfl
  refine program.fits_of_written lax [] fun expr mem => ?_
  -- the rule asks of an expression only that its plans are written down in it
  have plans : ∀ visit ∈ expr.visits 0, ∀ other, visit.node = .plan other →
      (Rule.writtenIn connection program).plan other := by
    rintro ⟨depth, node⟩ stops other same
    cases same
    exact .inr ⟨expr, mem, depth, stops⟩
  exact (obeys_of_visits lax).expr expr plans

/-- If the filter of the plan holds of a row that is marked as deleted, then the text keeps such
rows, or the database does. -/
theorem QueryText.Plans.keeps_deleted {plan : Plan} (planned : text.Plans connection plan)
    {entity : Entity} (resolved : connection.schema.resolve text.entity = .ok entity)
    {env : Environment} (passes : env.truthOption plan.filter = some true)
    (marked : entity.rowAlive env baseAlias ≠ some true) :
    (connection.options.logicalDelete && text.setting.leavesOutDeleted) = false := by
  obtain ⟨stage, session, planned⟩ := planned
  obtain ⟨other, found, -, -, filter⟩ := planned.means.base
  rw [planned.base, planned.schema, resolved] at found
  cases found
  rw [← planned.setting]
  refine Bool.eq_false_iff.mpr fun leaves_out => marked ?_
  rw [filter env, if_pos leaves_out] at passes
  exact (Truth.and_eq_true.mp passes).2

/-- In a new session no query is kept that a program could go on with. -/
theorem Program.text?_of_answered {types : List EntityType} {plan : Plan}
    (answered : program.planAnswer connection types = .replies [.ok (.plan plan)]) :
    ∃ text, program.text? = some text := by
  obtain ⟨beginning, steps⟩ := program
  cases beginning with
  | entity _ name => exact ⟨⟨name, steps⟩, rfl⟩
  | kept name => cases answered

end Plans

/-- The plan that a walk stops at. -/
def Visit.plan? (visit : Visit) : Option Plan :=
  match visit.node with
  | .plan plan => some plan
  | _ => none

private theorem Visit.plan?_eq_some {visit : Visit} {plan : Plan} :
    visit.plan? = some plan ↔ visit.node = .plan plan := by
  unfold plan?
  split <;> simp_all

/-- What the filter and the join conditions of a plan mean: those of every plan that compiles, and
for a program those of its own plan and of every plan inside it, however deeply it is nested, each
with the clauses, the context and the setting of its own query. -/
theorem planAnswer_means :
    (∀ (clauses : Clauses) (context : Context) (projection : Option (List Item))
      (grouping : Option Grouping) (plan : Plan),
      clauses.compile context projection grouping = .ok plan → plan.Means context clauses) ∧
    ∀ (connection : Connection) (types : List EntityType) (program : Program) (plan : Plan),
      program.planAnswer connection types = .replies [.ok (.plan plan)] →
        (∃ text, program.text? = some text ∧ text.Plans connection plan) ∧
        ∀ depth nested, ⟨depth, .plan nested⟩ ∈ plan.visits 0 →
          (∃ text ∈ program.texts, text.Plans connection nested) ∨
            ∃ expr ∈ program.written, ∃ depth, ⟨depth, .plan nested⟩ ∈ expr.visits 0 := by
  refine ⟨fun _ _ _ _ _ compiled => Plan.means_of_compile compiled, ?_⟩
  intro connection types program plan answered
  have database : (Rule.writtenIn connection program).database connection.schema
      connection.options := ⟨rfl, rfl⟩
  have meets := program.meets_planAnswer (fun _ mem => Rule.admits_writtenIn mem)
    Program.fits_writtenIn database types
  obtain ⟨obeys, own⟩ := meets.plans plan answered
  obtain ⟨text, written⟩ := program.text?_of_answered answered
  obtain ⟨recording, stage, reached, compiles⟩ := own text written
  exact ⟨⟨text, written, reached.plans compiles⟩, fun depth nested visited => obeys.plans visited⟩

namespace Example

/-- The blogs that share their topic with a blog, also with one that is marked as deleted. -/
def repeatedTopics : Program :=
  { beginning := .entity none "Blog"
    steps :=
      [.filterBy
        [.anyRow (.table 0 0) "Blog"
          [.withDeleted,
            .filterBy
              [.compare .eq (.column (.table 0 0) "topic_id" .string)
                (.column (.table 0 1) "topic_id" .string)]]
          false]] }

/-- The blog of the nested query has the topic of the blog around it. -/
def sharedTopic : Expr :=
  .equals (.column ⟨0, 0, 6, some ⟨1, 0, 6⟩⟩) (.column ⟨1, 0, 6, some ⟨0, 0, 6⟩⟩)

/-- Rows in which every column has the value `true`, the mark of deleted rows too. -/
def markedRows : Environment where
  column _ _ _ := .bool true
  compare _ lhs rhs := lhs.truth == rhs.truth
  like _ _ := false
  aggregate _ _ _ := .null
  anyRow _ := true
  member _ _ := some true

/-- The filter of the nested query is its equation and no more, since its text keeps deleted rows,
whereas the query around it leaves them out. -/
theorem repeatedTopics_means :
    ∃ plan nested, repeatedTopics.planAnswer connection types = .replies [.ok (.plan plan)] ∧
      ⟨1, .plan nested⟩ ∈ plan.visits 0 ∧
      (∃ filter, nested.filter = some filter ∧ filter.same sharedTopic = true) ∧
      (∃ text ∈ repeatedTopics.texts,
        text.Plans connection nested ∧ text.setting.leavesOutDeleted = false) ∧
      markedRows.truthOption plan.filter = some false := by
  -- the row is marked as deleted, so it tells the two settings apart
  have plans : ((repeatedTopics.planAnswer connection types).plan?.any fun plan =>
      markedRows.truthOption plan.filter == some false &&
        (plan.visits 0).any fun visit => visit.depth == 1 && visit.plan?.any fun nested =>
          markedRows.truthOption nested.filter == some true &&
            nested.filter.any fun filter => filter.same sharedTopic) = true := by
    decide +kernel
  obtain ⟨plan, found, checked⟩ := (Option.any_eq_true ..).mp plans
  have answered := StepAnswer.eq_of_plan? found
  simp only [Bool.and_eq_true, beq_iff_eq, List.any_eq_true, Option.any_eq_true] at checked
  obtain ⟨leaves_out, ⟨depth, node⟩, visited, rfl, nested, isPlan, passes, filter, filters, same⟩ :=
    checked
  obtain rfl : node = .plan nested := Visit.plan?_eq_some.mp isPlan
  refine ⟨plan, nested, answered, visited, ⟨filter, filters, same⟩, ?_, leaves_out⟩
  rcases (planAnswer_means.2 connection types repeatedTopics plan answered).2 1 nested visited with
    ⟨text, mem, planned⟩ | ⟨expr, written, -⟩
  · have resolved : connection.schema.resolve text.entity = .ok blog := by
      have entities : ∀ text ∈ repeatedTopics.texts, text.entity = "Blog" := by decide
      rw [entities text mem]
      rfl
    have marked : blog.rowAlive markedRows baseAlias ≠ some true := by decide
    have settled := planned.keeps_deleted resolved passes marked
    exact ⟨text, mem, planned, settled⟩
  · cases written

end Example

end TrackedQuery
