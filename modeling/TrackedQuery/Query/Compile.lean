import TrackedQuery.Plan.Same
import TrackedQuery.Plan.Walk
import TrackedQuery.Query.Context

/-!
# From clauses to plans

The clauses of a query and the tables of its context determine its plan.  Compilation adds what no
clause says: the columns of the base table when nothing is projected, and the conditions that keep
rows marked as deleted out.  Two checks guard the result: the columns of the query belong to its
tables (`Plan.foreignAlias?`), and what a grouped query projects is built from keys, aggregates and
constants (`Expr.isGrouped`).
-/

namespace TrackedQuery

/-- What the clauses of a query have collected. -/
structure Clauses where
  /-- The statements of all filters, in order; rows satisfy each of them. -/
  filter : List Expr
  orderBy : List SortKey
  offset : Option Nat
  limit : Option Nat
  /-- The plans whose rows are stacked below. -/
  arms : List Arm
  /-- The table to read instead of the one of the base entity. -/
  tableName : Option String
  /-- Whether rows marked as deleted are left out, if the database leaves them out at all. -/
  logicalDelete : Bool
  /-- Whether the rows that are loaded are captured. -/
  tracking : Bool

/-- The clauses of a query that has none. -/
def Clauses.initial : Clauses :=
  { filter := []
    orderBy := []
    offset := none
    limit := none
    arms := []
    tableName := none
    logicalDelete := true
    tracking := false }

/-- The window that the offset and the limit make, if they make one. -/
def Clauses.window? (clauses : Clauses) : Option Window :=
  let window : Window := ⟨clauses.offset, clauses.limit⟩
  if window.isAll then none else some window

/-- How a query groups its rows. -/
structure Grouping where
  keys : List Expr
  /-- The statements that groups satisfy. -/
  having : List Expr

/-! ## Checks -/

/-- Whether an expression is one of the keys. -/
def Expr.isKey (keys : List Expr) (expr : Expr) : Bool := keys.any fun key => key.same expr

mutual

/-- Whether an expression counts as one value for each group: it is a key, an aggregate or a
literal, or is built from such.  Of a membership test only the operand counts, and a test for rows
always does. -/
def Expr.isGrouped (keys : List Expr) (expr : Expr) : Bool :=
  expr.isKey keys ||
    match expr with
    | .value _ | .aggregate _ _ _ | .anyRow _ _ => true
    | .column _ => false
    | .compare _ lhs rhs => lhs.isGrouped keys && rhs.isGrouped keys
    | .conj operands | .disj operands => Expr.allGrouped keys operands
    | .neg operand | .like operand _ _ | .isNull operand _ | .inQuery operand _ _ =>
        operand.isGrouped keys
    | .inList operand items _ => operand.isGrouped keys && Expr.allGrouped keys items
    | .cases branches otherwise => Branch.allGrouped keys branches && otherwise.isGrouped keys

/-- `Expr.isGrouped` of every expression. -/
def Expr.allGrouped (keys : List Expr) : List Expr → Bool
  | [] => true
  | expr :: rest => expr.isGrouped keys && Expr.allGrouped keys rest

/-- `Expr.isGrouped` of both parts of every branch. -/
def Branch.allGrouped (keys : List Expr) : List Branch → Bool
  | [] => true
  | ⟨condition, result⟩ :: rest =>
      condition.isGrouped keys && result.isGrouped keys && Branch.allGrouped keys rest

end

namespace Plan

/-- The stops of a walk over the parts of a plan that its columns may occur in, without stacked
plans. -/
def ownVisits (plan : Plan) : List Visit :=
  Join.visitsAll 0 plan.joins ++ Expr.visitsOption 0 plan.filter ++ Item.visitsAll 0 plan.projection
    ++ Expr.visitsAll 0 plan.groupBy ++ Expr.visitsOption 0 plan.having
    ++ SortKey.visitsAll 0 plan.orderBy

/-- The table of the first column of the plan that belongs to none of its tables. -/
def foreignAlias? (plan : Plan) : Option Alias :=
  ((plan.ownVisits.filterMap Visit.ownColumn?).find? fun ref => !plan.hasAlias ref.table).map
    ColumnRef.table

/-- Every column of the plan belongs to one of its tables. -/
def checkAliases (plan : Plan) : Result Unit :=
  match plan.foreignAlias? with
  | some table => fail (.invalidStatement (.foreignAlias table plan.source.entity))
  | none => .ok ()

/-- Every projected item of a grouped plan counts as one value for each group. -/
def checkGrouping (plan : Plan) : Result Unit :=
  if plan.isGrouped then
    match plan.projection.findIdx? fun item => !item.expr.isGrouped plan.groupBy with
    | some position => fail (.invalidProjection (.ungroupedItem position plan.source.entity))
    | none => .ok ()
  else .ok ()

end Plan

/-- Plans may be stacked when their projections are compatible. -/
def checkUnion (left right : Plan) : Result Unit :=
  if Item.compatible left.projection right.projection then .ok ()
  else fail (.incompatibleUnion left.shape right.shape)

/-! ## Compilation -/

/-- The columns of the base table of an entity, from a position on. -/
def baseItemsFrom (index : Nat) : List Column → List Item
  | [] => []
  | column :: rest =>
      ⟨.column (.local baseAlias index), column.ty⟩ :: baseItemsFrom (index + 1) rest

/-- Every column of the base table of an entity. -/
def Entity.baseItems (entity : Entity) : List Item := baseItemsFrom 0 entity.columns

/-- What a query projects: the items asked for, or every column of the base table. -/
def projectionOf (entity : Entity) : Option (List Item) → Result (List Item)
  | none => .ok entity.baseItems
  | some [] => fail (.invalidProjection .empty)
  | some items => .ok items

/-- Keeps the rows marked as deleted out of a join.  Nested rows are left alone, because the query
they come from has its own setting. -/
def Join.keepAlive (schema : Schema) (join : Join) : Result Join :=
  if join.isNested then .ok join
  else do
    let target ← schema.resolve join.entity
    match target.alive? join.tableAlias with
    | some alive => return { join with condition := join.condition.and alive }
    | none => return join

/-- `Join.keepAlive` of every join. -/
def Join.keepAllAlive (schema : Schema) : List Join → Result (List Join)
  | [] => .ok []
  | join :: rest => do
      let join ← join.keepAlive schema
      let rest ← keepAllAlive schema rest
      return join :: rest

/-- The conjunction of statements, or nothing when that is the literal `true`. -/
def condition? (statements : List Expr) : Option Expr :=
  let condition := Expr.all statements
  if condition.isTrue then none else some condition

namespace Clauses

/-- Whether rows marked as deleted are left out of a query with these clauses. -/
def leavesOutDeleted (clauses : Clauses) (context : Context) : Bool :=
  context.options.logicalDelete && clauses.logicalDelete

/-- The joins of the plan. -/
def planJoins (clauses : Clauses) (context : Context) : Result (List Join) :=
  if clauses.leavesOutDeleted context then Join.keepAllAlive context.schema context.joins
  else .ok context.joins

/-- The statements that rows of the plan satisfy. -/
def planStatements (clauses : Clauses) (context : Context) (entity : Entity) : List Expr :=
  if clauses.leavesOutDeleted context then clauses.filter ++ (entity.alive? baseAlias).toList
  else clauses.filter

/-- The plan of a query.  Without a projection every column of the base table is projected. -/
def compile (clauses : Clauses) (context : Context) (projection : Option (List Item))
    (grouping : Option Grouping) : Result Plan := do
  let entity ← context.schema.resolve context.base
  let items ← projectionOf entity projection
  let joins ← clauses.planJoins context
  let plan : Plan :=
    { source := ⟨entity.name, clauses.tableName.getD entity.table, baseAlias, some context.id⟩
      joins := joins
      filter := condition? (clauses.planStatements context entity)
      projection := items
      groupBy := (grouping.map Grouping.keys).getD []
      having := grouping.bind fun grouping => condition? grouping.having
      orderBy := clauses.orderBy
      window := clauses.window?
      arms := [] }
  plan.checkAliases
  plan.checkGrouping
  return { plan with arms := clauses.arms }

/-- The plan that counts the rows of a query, whatever their order and the window. -/
def compileCount (clauses : Clauses) (context : Context) : Result Plan :=
  if clauses.arms.isEmpty then
    { clauses with orderBy := [], offset := none, limit := none }.compile context
      (some [⟨.countRows, .int64⟩]) none
  else fail (.invalidStatement .countOfUnion)

end Clauses

/-! ## Pages -/

/-- The two plans of a page: one counts all rows, the other loads those of the page. -/
structure PagePlan where
  count : Plan
  data : Plan
  /-- The number of rows of a full page. -/
  size : Nat

/-- How many rows precede a page, if pages of that size can be addressed. -/
def pageOffset? (index size : Int) : Option Nat :=
  if index < 1 || size < 1 then none
  else
    let offset := (index.toNat - 1) * size.toNat
    if offset < UInt64.size then some offset else none

/-- The plans of page `index`, counted from 1, with `size` rows to a page. -/
def Clauses.compilePage (clauses : Clauses) (context : Context) (index size : Int) :
    Result PagePlan :=
  match pageOffset? index size with
  | none => fail (.invalidPageRequest index size)
  | some offset => do
      let count ← clauses.compileCount context
      let data ←
        { clauses with offset := some offset, limit := some size.toNat }.compile context none none
      return ⟨count, data, size.toNat⟩

end TrackedQuery
