import TrackedQuery.Proofs.Query.Recording
import TrackedQuery.Session.State

/-!
# Valid values

What the values of a session have to do with its recording: a handle stands for a table or a column
that exists, and what was built from columns is as a rule asks where it is to be used.  A value that
is valid stays so when the recording grows.

Where a value may be used depends on what it is (`Term.ValidIn`).  A handle, or a literal, is read
anew wherever it is used and may be used everywhere (`Term.Roams`).  What was built from columns
counts the queries between the clause and the tables, and so it belongs to the clauses of one
context.  A query that is kept is used by later programs, and is nested in no other one
(`Stage.KeptAs`).
-/

namespace TrackedQuery

/-- The context of a query. -/
def Stage.context : Stage → ContextId
  | .query built => built.context
  | .grouped built => built.query.context
  | .projected built => built.context

/-- The clauses of a query. -/
def Stage.clauses : Stage → Clauses
  | .query built => built.clauses
  | .grouped built => built.query.clauses
  | .projected built => built.clauses

/-- The tables that the bodies of the clauses of a query are given.  Those of a projection are given
none, as it has no more clauses with bodies. -/
def Stage.tables : Stage → List Alias
  | .query built => built.tables
  | .grouped built => built.query.tables
  | .projected _ => []

/-- What the clauses of a query can still change of it. -/
structure Setting where
  /-- Whether the query has neither groups nor a projection yet. -/
  isOpen : Bool
  /-- Whether the query leaves rows marked as deleted out. -/
  leavesOutDeleted : Bool

/-- Whether a query is neither grouped nor projected. -/
def Stage.isOpen : Stage → Bool
  | .query _ => true
  | .grouped _ | .projected _ => false

/-- The setting of a query at some stage. -/
def Stage.setting (stage : Stage) : Setting := ⟨stage.isOpen, stage.clauses.logicalDelete⟩

/-- The query as it stands has the given plan.  A grouped query has none before it is projected. -/
def Stage.Compiles (recording : Recording) (plan : Plan) : Stage → Prop
  | .query built =>
      built.clauses.compile (recording.contextAt built.context) none none = .ok plan
  | .grouped _ => False
  | .projected built =>
      built.clauses.compile (recording.contextAt built.context) (some built.items)
        built.grouping = .ok plan

section Valid

variable {rule : Rule} {before after : Recording} {context : ContextId}

/-! ## Handles -/

/-- The table that a handle stands for exists. -/
def TableHandle.Valid (recording : Recording) (table : TableHandle) : Prop :=
  ∀ binding ∈ table.binding, table.context < recording.contexts.length ∧
    binding.tableAlias < (recording.contextAt table.context).nextAlias

/-- The table of the column that a handle stands for exists. -/
def ColumnHandle.Valid (recording : Recording) (column : ColumnHandle) : Prop :=
  ∀ source ∈ column.source, source.table < (recording.contextAt source.context).nextAlias

theorem TableHandle.Valid.mono {table : TableHandle} (valid : table.Valid before)
    (grows : before.Grows after) : table.Valid after := by
  intro binding mem
  obtain ⟨known, exists_table⟩ := valid binding mem
  exact ⟨Nat.lt_of_lt_of_le known grows.length,
    Nat.lt_of_lt_of_le exists_table (grows.tables table.context)⟩

theorem ColumnHandle.Valid.mono {column : ColumnHandle} (valid : column.Valid before)
    (grows : before.Grows after) : column.Valid after :=
  fun source mem => Nat.lt_of_lt_of_le (valid source mem) (grows.tables source.context)

/-! ## Expressions -/

/-- An expression is as the rule asks where a clause of the context is built. -/
def Expr.ValidIn (rule : Rule) (recording : Recording) (context : ContextId) (expr : Expr) : Prop :=
  expr.Obeys rule (recording.levels context)

theorem Expr.ValidIn.mono {expr : Expr} (valid : expr.ValidIn rule before context)
    (grows : before.Grows after) : expr.ValidIn rule after context :=
  Expr.Obeys.mono valid fun _ => grows.levels context

/-- Every item is as the rule asks. -/
def Item.ValidIn (rule : Rule) (recording : Recording) (context : ContextId) (items : List Item) :
    Prop :=
  ∀ item ∈ items, item.expr.ValidIn rule recording context

theorem Item.ValidIn.mono {items : List Item} (valid : Item.ValidIn rule before context items)
    (grows : before.Grows after) : Item.ValidIn rule after context items :=
  fun item mem => (valid item mem).mono grows

/-- The argument of an aggregate is as the rule asks. -/
def Aggregate.ValidIn (rule : Rule) (recording : Recording) (context : ContextId)
    (aggregate : Aggregate) : Prop :=
  ∀ argument ∈ aggregate.argument, argument.ValidIn rule recording context

theorem Aggregate.ValidIn.mono {aggregate : Aggregate}
    (valid : aggregate.ValidIn rule before context) (grows : before.Grows after) :
    aggregate.ValidIn rule after context :=
  fun argument mem => (valid argument mem).mono grows

theorem Aggregate.ValidIn.toExpr {aggregate : Aggregate}
    (valid : aggregate.ValidIn rule before context) :
    aggregate.toExpr.expr.ValidIn rule before context :=
  Expr.optionObeys_iff.mpr valid

/-! ## Values of forms -/

/-- The value of a form can be used where a clause of the context is built. -/
def Term.ValidIn (rule : Rule) (recording : Recording) (context : ContextId) : Term → Prop
  | .table handle => handle.Valid recording
  | .column handle => handle.Valid recording
  | .columns items => Item.ValidIn rule recording context items
  | .expr operand => operand.expr.ValidIn rule recording context
  | .aggregate operand => operand.ValidIn rule recording context
  | .predicate operand => operand.expr.ValidIn rule recording context
  | .reference operand => operand.expr.ValidIn rule recording context
  | .literal _ => True
  | .nothing => True

theorem Term.ValidIn.mono {term : Term} (valid : term.ValidIn rule before context)
    (grows : before.Grows after) : term.ValidIn rule after context := by
  cases term with
  | table handle => exact TableHandle.Valid.mono valid grows
  | column handle => exact ColumnHandle.Valid.mono valid grows
  | columns items => exact Item.ValidIn.mono valid grows
  | expr operand => exact Expr.ValidIn.mono valid grows
  | aggregate operand => exact Aggregate.ValidIn.mono valid grows
  | predicate operand => exact Expr.ValidIn.mono valid grows
  | reference operand => exact Expr.ValidIn.mono valid grows
  | literal value => trivial
  | nothing => trivial

/-- Whether a value is read anew wherever it is used: handles are, and so are literals. -/
def Term.Roams : Term → Prop
  | .table _ | .column _ | .literal _ | .nothing => True
  | .columns _ | .expr _ | .aggregate _ | .predicate _ | .reference _ => False

/-- A value that is read anew can be used in every clause. -/
theorem Term.ValidIn.roam {term : Term} (valid : term.ValidIn rule before context)
    (roams : term.Roams) (other : ContextId) : term.ValidIn rule before other := by
  cases term <;> first | exact valid | exact roams.elim

/-- Under a rule that is not strict, where a value is used does not matter. -/
theorem Term.ValidIn.anywhere {term : Term} (valid : term.ValidIn rule before context)
    (lax : rule.strict = false) (other : ContextId) : term.ValidIn rule before other := by
  have grow : rule.strict = true → LevelsGrow (before.levels context) (before.levels other) := by
    simp [lax]
  cases term with
  | columns items => exact fun item mem => Expr.Obeys.mono (valid item mem) grow
  | expr operand => exact Expr.Obeys.mono valid grow
  | aggregate operand => exact fun argument mem => Expr.Obeys.mono (valid argument mem) grow
  | predicate operand => exact Expr.Obeys.mono valid grow
  | reference operand => exact Expr.Obeys.mono valid grow
  | table | column | literal | nothing => exact valid

/-! ## Queries -/

/-- What a query has collected is as the rule asks. -/
structure Query.Valid (rule : Rule) (recording : Recording) (query : Query) : Prop where
  known : query.context < recording.contexts.length
  clauses : query.clauses.Obey rule (recording.levels query.context)

/-- What a grouped query has collected is as the rule asks. -/
structure GroupedQuery.Valid (rule : Rule) (recording : Recording) (grouped : GroupedQuery) :
    Prop where
  query : grouped.query.Valid rule recording
  keys : Item.ValidIn rule recording grouped.query.context grouped.keys
  conditions : ∀ condition : Expr, condition ∈ grouped.conditions →
    condition.ValidIn rule recording grouped.query.context

/-- What a projection has collected is as the rule asks. -/
structure ProjectedQuery.Valid (rule : Rule) (recording : Recording) (query : ProjectedQuery) :
    Prop where
  known : query.context < recording.contexts.length
  clauses : query.clauses.Obey rule (recording.levels query.context)
  items : Item.ValidIn rule recording query.context query.items
  grouping : ∀ grouping ∈ query.grouping, grouping.Obey rule (recording.levels query.context)

/-- What a query has collected is as the rule asks, whatever kind of query it is. -/
def Stage.Valid (rule : Rule) (recording : Recording) : Stage → Prop
  | .query built => built.Valid rule recording
  | .grouped built => built.Valid rule recording
  | .projected built => built.Valid rule recording

theorem Clauses.Obey.mono {clauses : Clauses} {around wider : List Level}
    (obey : clauses.Obey rule around) (grow : rule.strict = true → LevelsGrow around wider) :
    clauses.Obey rule wider where
  filter statement mem := (obey.filter statement mem).mono grow
  orderBy key mem := (obey.orderBy key mem).mono grow
  arms arm mem := (obey.arms arm mem).mono grow

theorem Grouping.Obey.mono {grouping : Grouping} {around wider : List Level}
    (obey : grouping.Obey rule around) (grow : rule.strict = true → LevelsGrow around wider) :
    grouping.Obey rule wider where
  keys key mem := (obey.keys key mem).mono grow
  having statement mem := (obey.having statement mem).mono grow

theorem Query.Valid.mono {query : Query} (valid : query.Valid rule before)
    (grows : before.Grows after) : query.Valid rule after where
  known := Nat.lt_of_lt_of_le valid.known grows.length
  clauses := valid.clauses.mono fun _ => grows.levels _

theorem GroupedQuery.Valid.mono {grouped : GroupedQuery} (valid : grouped.Valid rule before)
    (grows : before.Grows after) : grouped.Valid rule after where
  query := valid.query.mono grows
  keys := valid.keys.mono grows
  conditions condition mem := (valid.conditions condition mem).mono grows

theorem ProjectedQuery.Valid.mono {query : ProjectedQuery} (valid : query.Valid rule before)
    (grows : before.Grows after) : query.Valid rule after where
  known := Nat.lt_of_lt_of_le valid.known grows.length
  clauses := valid.clauses.mono fun _ => grows.levels _
  items := valid.items.mono grows
  grouping grouping mem := (valid.grouping grouping mem).mono fun _ => grows.levels _

/-- Changing what no rule is about. -/
theorem Query.Valid.setClauses {query : Query} (valid : query.Valid rule before)
    {clauses : Clauses} (filter : clauses.filter = query.clauses.filter)
    (orderBy : clauses.orderBy = query.clauses.orderBy)
    (arms : clauses.arms = query.clauses.arms) :
    Query.Valid rule before { query with clauses := clauses } where
  known := valid.known
  clauses := ⟨filter ▸ valid.clauses.filter, orderBy ▸ valid.clauses.orderBy,
    arms ▸ valid.clauses.arms⟩

theorem ProjectedQuery.Valid.setClauses {query : ProjectedQuery} (valid : query.Valid rule before)
    {clauses : Clauses} (filter : clauses.filter = query.clauses.filter)
    (orderBy : clauses.orderBy = query.clauses.orderBy)
    (arms : clauses.arms = query.clauses.arms) :
    ProjectedQuery.Valid rule before { query with clauses := clauses } where
  known := valid.known
  clauses := ⟨filter ▸ valid.clauses.filter, orderBy ▸ valid.clauses.orderBy,
    arms ▸ valid.clauses.arms⟩
  items := valid.items
  grouping := valid.grouping

theorem Stage.Valid.mono {stage : Stage} (valid : stage.Valid rule before)
    (grows : before.Grows after) : stage.Valid rule after := by
  cases stage with
  | query built => exact Query.Valid.mono valid grows
  | grouped built => exact GroupedQuery.Valid.mono valid grows
  | projected built => exact ProjectedQuery.Valid.mono valid grows

theorem Stage.Valid.known {stage : Stage} (valid : stage.Valid rule before) :
    stage.context < before.contexts.length := by
  cases stage with
  | query built => exact Query.Valid.known valid
  | grouped built => exact (GroupedQuery.Valid.query valid).known
  | projected built => exact ProjectedQuery.Valid.known valid

/-- A valid query whose tables are roots of its context: the base table, and those that were joined
on request. -/
structure Stage.Sound (rule : Rule) (recording : Recording) (stage : Stage) : Prop where
  valid : stage.Valid rule recording
  roots : ∀ table ∈ stage.tables, (recording.contextAt stage.context).Root table

/-- `Stage.Sound` of a query that is neither grouped nor projected. -/
abbrev Query.Sound (rule : Rule) (recording : Recording) (query : Query) : Prop :=
  Stage.Sound rule recording (.query query)

/-- `Stage.Sound` of a grouped query. -/
abbrev GroupedQuery.Sound (rule : Rule) (recording : Recording) (grouped : GroupedQuery) : Prop :=
  Stage.Sound rule recording (.grouped grouped)

theorem Stage.Sound.mono {stage : Stage} (sound : stage.Sound rule before)
    (grows : before.Grows after) : stage.Sound rule after where
  valid := sound.valid.mono grows
  roots table mem :=
    (grows.contexts stage.context sound.valid.known).roots table (sound.roots table mem)

/-- A projection has no tables, so it is enough that it is valid. -/
theorem ProjectedQuery.Valid.sound {query : ProjectedQuery} (valid : query.Valid rule before) :
    Stage.Sound rule before (.projected query) :=
  ⟨valid, List.forall_mem_nil _⟩

/-- A query that is sound, in the given context and with the given setting. -/
structure Stage.SoundAs (rule : Rule) (context : ContextId) (setting : Setting)
    (recording : Recording) (stage : Stage) : Prop where
  sound : stage.Sound rule recording
  context : stage.context = context
  setting : stage.setting = setting

/-- The plan of the query as it stands, if it has one, is as the rule asks of plans. -/
def Stage.Admitted (rule : Rule) (recording : Recording) (stage : Stage) : Prop :=
  ∀ plan, stage.Compiles recording plan → rule.plan plan

theorem Rule.AdmitsCompiled.admitted (admits : rule.AdmitsCompiled) (recording : Recording)
    (stage : Stage) : stage.Admitted rule recording := by
  intro plan compiles
  cases stage with
  | query built => exact admits _ _ _ _ plan compiles
  | grouped built => exact compiles.elim
  | projected built => exact admits _ _ _ _ plan compiles

/-- The query is nested in no other one. -/
def Stage.Outermost (recording : Recording) (stage : Stage) : Prop :=
  (recording.contextAt stage.context).enclosing = []

theorem Stage.Outermost.mono {stage : Stage} (outermost : stage.Outermost before)
    (known : stage.context < before.contexts.length) (grows : before.Grows after) :
    stage.Outermost after :=
  (grows.enclosing known).trans outermost

/-- A query that is kept is sound and nested in no other one.  An earlier program built it, so all
that is known of its plan is that it is compiled. -/
structure Stage.KeptAs (rule : Rule) (recording : Recording) (stage : Stage) : Prop where
  sound : stage.Sound rule recording
  outermost : stage.Outermost recording
  admits : rule.AdmitsCompiled

theorem Stage.KeptAs.mono {stage : Stage} (kept : stage.KeptAs rule before)
    (grows : before.Grows after) : stage.KeptAs rule after where
  sound := kept.sound.mono grows
  outermost := kept.outermost.mono kept.sound.valid.known grows
  admits := kept.admits

end Valid

end TrackedQuery
