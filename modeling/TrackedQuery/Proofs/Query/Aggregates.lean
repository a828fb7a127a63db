import TrackedQuery.Example
import TrackedQuery.Proofs.Plan.Truth
import TrackedQuery.Proofs.Recording.Clause
import TrackedQuery.Query.Handle

/-!
# What aggregates of some rows yield

An aggregate is computed from the values that its argument has on the rows of a group, and leaves
those out that are `NULL`.  Restricted to the rows that satisfy a condition, it is written as an
aggregate of all rows whose argument is `NULL` on the others.  The two yield the same, whatever the
function, the argument and the rows are, and filters add up (`Aggregate.filter_yields`).

## Strategy

* `AggregateRules`: how a database computes aggregates.  Which values it takes for duplicates, and
  what it makes of one or more values, is left open.
* `argumentValues_when`: an argument that is `NULL` elsewhere has the values on the rows that
  satisfy the condition.  A count of rows has no argument, and a constant is never `NULL`.
-/

namespace TrackedQuery

/-! ## Aggregates over rows -/

/-- How a database computes aggregates of values that are not `NULL`. -/
structure AggregateRules where
  /-- The values without those that occurred before. -/
  distinct : List Value → List Value
  /-- What a function other than a count makes of one or more values, in the order of the rows. -/
  combine : AggregateFunction → Value → List Value → Value

/-- The values of an argument on rows, in order, without `NULL`. -/
def argumentValues (rows : List Environment) (argument : Expr) : List Value :=
  (rows.map argument.eval).filter fun value => !value.isNull

namespace AggregateRules

/-- What a function makes of values: a count is their number, and of no values the others make
`NULL`. -/
def yields (rules : AggregateRules) : AggregateFunction → List Value → Value
  | .count, values => .int64 (.ofNat values.length)
  | _, [] => .null
  | function, first :: rest => rules.combine function first rest

/-- The value of an aggregate over rows.  Without an argument it is the number of rows. -/
def aggregate (rules : AggregateRules) (rows : List Environment) (function : AggregateFunction) :
    Option Expr → Bool → Value
  | none, _ => .int64 (.ofNat rows.length)
  | some argument, false => rules.yields function (argumentValues rows argument)
  | some argument, true =>
      rules.yields function (rules.distinct (argumentValues rows argument))

end AggregateRules

namespace Environment

/-- The environment of a group: aggregates are computed over its rows. -/
def onRows (env : Environment) (rules : AggregateRules) (rows : List Environment) : Environment :=
  { env with aggregate := rules.aggregate rows }

/-- Whether every statement is true on a row. -/
def satisfies (row : Environment) (statements : List Expr) : Bool :=
  Truth.all (statements.map row.truth) == some true

end Environment

/-! ## Restricting the rows -/

private theorem Expr.eval_when (row : Environment) (condition result otherwise : Expr) :
    (Expr.when condition result otherwise).eval row =
      if row.truth condition = some true then result.eval row else otherwise.eval row := by
  rw [Expr.when, Expr.eval, Branch.choose, Branch.choose]
  rfl

/-- An argument that is `NULL` elsewhere has its values on the rows that satisfy the condition. -/
theorem argumentValues_when (rows : List Environment) (statements : List Expr)
    (argument : Expr) :
    argumentValues rows (.when (.all statements) argument .null) =
      argumentValues (rows.filter (·.satisfies statements)) argument := by
  induction rows with
  | nil => rfl
  | cons row rest ih =>
      unfold argumentValues at ih ⊢
      rw [List.map_cons, List.filter_cons, Expr.eval_when, row.truth_all]
      by_cases holds : Truth.all (statements.map row.truth) = some true
      · have kept : row.satisfies statements = true := by rw [Environment.satisfies, holds]; rfl
        rw [if_pos holds, List.filter_cons, kept]
        simp only [if_true, List.map_cons, List.filter_cons, ih]
      · have dropped : row.satisfies statements = false := by
          rw [Environment.satisfies, beq_eq_false_iff_ne]
          exact holds
        -- the row has a value on neither side: here `NULL` is left out, there the row
        have nothing : (Expr.null.eval row).isNull = true := by
          rw [Expr.null, Expr.eval]
          rfl
        rw [if_neg holds, List.filter_cons, dropped, nothing]
        simp only [Bool.not_true, Bool.false_eq_true, if_false, ih]

/-- A constant has one value on every row. -/
theorem length_argumentValues_value (rows : List Environment) {literal : Value}
    (present : literal.isNull = false) :
    (argumentValues rows (.value literal)).length = rows.length := by
  induction rows with
  | nil => rfl
  | cons row rest ih =>
      unfold argumentValues at ih ⊢
      have constant : (Expr.value literal).eval row = literal := by rw [Expr.eval]
      rw [List.map_cons, List.filter_cons, constant, present]
      simp only [Bool.not_false, if_true, List.length_cons, ih]

namespace Aggregate

/-- The value of an aggregate over rows. -/
def valueOver (aggregate : Aggregate) (rules : AggregateRules) (env : Environment)
    (rows : List Environment) : Value :=
  aggregate.toExpr.expr.eval (env.onRows rules rows)

private theorem valueOver_eq (aggregate : Aggregate) (rules : AggregateRules) (env : Environment)
    (rows : List Environment) :
    aggregate.valueOver rules env rows =
      rules.aggregate rows aggregate.function aggregate.argument aggregate.distinct := by
  rw [valueOver, toExpr, Expr.eval]
  rfl

/-- An aggregate without an argument is a count of rows. -/
def Proper (aggregate : Aggregate) : Prop :=
  aggregate.argument = none → aggregate.function = .count ∧ aggregate.distinct = false

private theorem proper_countRows : countRows.Proper := fun _ => ⟨rfl, rfl⟩

private theorem proper_restrict (aggregate : Aggregate) (condition : Expr) :
    (aggregate.restrict condition).Proper := nofun

/-- A restricted aggregate has the value of the aggregate over the rows that satisfy all
statements. -/
theorem valueOver_restrict {aggregate : Aggregate} (proper : aggregate.Proper)
    (statements : List Expr) (rules : AggregateRules) (env : Environment)
    (rows : List Environment) :
    (aggregate.restrict (.all statements)).valueOver rules env rows =
      aggregate.valueOver rules env (rows.filter (·.satisfies statements)) := by
  obtain ⟨function, argument, distinct, ty⟩ := aggregate
  rw [valueOver_eq, valueOver_eq, restrict]
  cases argument with
  | none =>
      -- a count of rows becomes the count of a constant
      obtain ⟨rfl, rfl⟩ := proper rfl
      have present : (Value.int64 1).isNull = false := rfl
      have constant := length_argumentValues_value (rows.filter (·.satisfies statements)) present
      simp only [Option.getD_none, AggregateRules.aggregate, AggregateRules.yields,
        argumentValues_when, constant]
  | some argument =>
      cases distinct <;> simp only [Option.getD_some, AggregateRules.aggregate, argumentValues_when]

section Filter

variable {σ : Type} [MonadStateOf Recording (StateM σ)]

/-- The aggregates of columns are proper. -/
theorem proper_aggregate (column : ColumnHandle) (function : AggregateFunction) (distinct : Bool)
    (state : σ) :
    ((column.aggregate function distinct : StateM σ Aggregate) state).1.Proper := nofun

/-- The statements that a body leaves in the filter of an aggregate.  Which ones these are says
`Agrees.recordInside_body`. -/
def filterStatements (body : StateM σ Unit) (state : σ) : List Expr :=
  (recordInside (.predicates []) body state).1.statements

private theorem filter_run (aggregate : Aggregate) (body : StateM σ Unit) (state : σ) :
    (aggregate.filter body state).1 =
      aggregate.restrict (.all (filterStatements body state)) := rfl

/-- An aggregate with a filter has the value of the aggregate over the rows that satisfy the
statements of the filter.  With a second filter it is over the rows that satisfy those of both. -/
theorem filter_yields {aggregate : Aggregate} (proper : aggregate.Proper)
    (first second : StateM σ Unit) (state : σ) (rules : AggregateRules) (env : Environment)
    (rows : List Environment) :
    let filtered := aggregate.filter first state
    let twice := filtered.1.filter second filtered.2
    filtered.1.valueOver rules env rows =
        aggregate.valueOver rules env (rows.filter (·.satisfies (filterStatements first state))) ∧
      twice.1.valueOver rules env rows =
        aggregate.valueOver rules env (rows.filter fun row =>
          row.satisfies (filterStatements first state) &&
            row.satisfies (filterStatements second filtered.2)) := by
  intro filtered twice
  have once : ∀ rows : List Environment, filtered.1.valueOver rules env rows =
      aggregate.valueOver rules env (rows.filter (·.satisfies (filterStatements first state))) := by
    intro rows
    rw [filter_run]
    exact valueOver_restrict proper _ rules env rows
  -- a filtered aggregate is as proper as the one it came from, so a second filter is one more cut
  have again : filtered.1.Proper := proper_restrict aggregate _
  refine ⟨once rows, ?_⟩
  calc twice.1.valueOver rules env rows
      = filtered.1.valueOver rules env
          (rows.filter (·.satisfies (filterStatements second filtered.2))) :=
        valueOver_restrict again _ rules env rows
    _ = aggregate.valueOver rules env
          ((rows.filter (·.satisfies (filterStatements second filtered.2))).filter
            (·.satisfies (filterStatements first state))) := once _
    _ = _ := by rw [List.filter_filter]

end Filter

end Aggregate

namespace Example

/-- A row of the mapping between blogs and tags. -/
def mappingRow (tag weight : Value) : Environment where
  column _ _ column := if column = 1 then tag else weight
  compare _ lhs rhs := lhs.equal rhs
  like _ _ := false
  aggregate _ _ _ := .null
  anyRow _ := false
  member _ _ := none

/-- Values that are the same are duplicates. -/
def firstValues : AggregateRules where
  distinct values := values.eraseDupsBy Value.equal
  combine _ first _ := first

/-- A clause that has just begun. -/
def taggingBench : Bench := ⟨Recording.empty.beginClause 0 (.predicates []), []⟩

/-- Rows whose weight is one, another one, or absent. -/
def mappingRows : List Environment :=
  [mappingRow (.string "lean") (.int32 1), mappingRow (.string "lean") .null,
    mappingRow .null (.int32 1), mappingRow (.string "rust") (.int32 1),
    mappingRow (.string "lean") (.int32 1), mappingRow (.string "lean") (.int32 2)]

/-- The tags of the mapping. -/
def tagColumn : ColumnHandle := ⟨"tag_id", some ⟨0, baseAlias, 1, .string⟩⟩

/-- Two rows have the tag and the weight, and two tags occur on rows of that weight. -/
theorem filter_yields_taggings :
    let weighed : BenchM Unit := Move.performAll [.record (weightIs 1)]
    let tagged : BenchM Unit := Move.performAll [.record tagIsLean]
    let rows := Aggregate.countRows.filter weighed taggingBench
    let tags := (tagColumn.aggregate .count true : BenchM Aggregate) taggingBench
    (rows.1.filter tagged rows.2).1.valueOver firstValues (mappingRow .null .null) mappingRows =
        .int64 2 ∧
      (tags.1.filter weighed tags.2).1.valueOver firstValues (mappingRow .null .null)
        mappingRows = .int64 2 := by
  intro weighed tagged rows tags
  have counted := (Aggregate.filter_yields Aggregate.proper_countRows weighed tagged taggingBench
    firstValues (mappingRow .null .null) mappingRows).2
  have proper : tags.1.Proper := Aggregate.proper_aggregate tagColumn .count true taggingBench
  have different := (Aggregate.filter_yields proper weighed tagged tags.2 firstValues
    (mappingRow .null .null) mappingRows).1
  exact ⟨counted.trans rfl, different.trans rfl⟩

end Example

end TrackedQuery
