import TrackedQuery.Value

/-!
# Plans and the expressions in them

A plan is a fully resolved query: it names tables, aliases and column positions and refers to
nothing else.  Plans and expressions contain each other, because an expression may ask about the
rows of a nested plan.  Inside a nested plan a column of an enclosing one is written with the number
of plans to leave (`ColumnRef.nesting`).

Alias 0 is the base table of a plan; each join has an alias of its own.
-/

namespace TrackedQuery

/-! ## Names and operators -/

/-- One occurrence of a table in a query. -/
abbrev Alias := Nat

/-- The alias of the base table. -/
def baseAlias : Alias := 0

/-- Which of the queries under construction. -/
abbrev ContextId := Nat

/-- A column of a table of a query under construction. -/
structure BoundColumn where
  context : ContextId
  table : Alias
  column : Nat
deriving DecidableEq

/-- A column of a table: leave `nesting` plans, then take the column at a position of the table
bound to an alias there. -/
structure ColumnRef where
  nesting : Nat
  table : Alias
  column : Nat
  /-- What was read, if the reference was made by reading a handle.  Like the query of a `Source` it
  is kept for those who reason about plans: no plan differs from another one in it. -/
  bound : Option BoundColumn
deriving DecidableEq

/-- A column of a table of the plan itself. -/
def ColumnRef.local (table : Alias) (column : Nat) : ColumnRef := ⟨0, table, column, none⟩

/-- Whether the column belongs to an enclosing plan. -/
def ColumnRef.isCorrelated (ref : ColumnRef) : Bool := ref.nesting > 0

/-- Comparison of two values. -/
inductive CompareOp where
  | eq
  | ne
  | ge
  | gt
  | le
  | lt
deriving DecidableEq

/-- The operator that holds when the operands change places. -/
def CompareOp.reverse : CompareOp → CompareOp
  | .eq => .eq
  | .ne => .ne
  | .ge => .le
  | .gt => .lt
  | .le => .ge
  | .lt => .gt

/-- The sign of an operator. -/
def CompareOp.sign : CompareOp → String
  | .eq => "="
  | .ne => "!="
  | .ge => ">="
  | .gt => ">"
  | .le => "<="
  | .lt => "<"

/-- Functions of the rows of a group. -/
inductive AggregateFunction where
  | count
  | sum
  | avg
  | max
  | min
deriving DecidableEq

/-- The name of an aggregate function. -/
def AggregateFunction.name : AggregateFunction → String
  | .count => "count"
  | .sum => "sum"
  | .avg => "avg"
  | .max => "max"
  | .min => "min"

/-- The type of the result for arguments of the given type. -/
def AggregateFunction.resultTy (function : AggregateFunction) (argument : Ty) : Ty :=
  match function with
  | .count => .int64
  | .sum => argument.summed
  | .avg => argument.averaged
  | .max | .min => argument

/-- Which rows of the two sides a join keeps without a partner. -/
inductive JoinKind where
  | inner
  | left
  | right
deriving DecidableEq

/-- The way a table was reached: a starting table and the navigations followed from it. -/
structure NavPath where
  origin : Alias
  steps : List String
deriving DecidableEq

namespace NavPath

/-- The step that registers the mapping table of a many-to-many navigation. -/
def mappingStep : String := "#mapping"

/-- The path that stays at its starting table. -/
def root (origin : Alias) : NavPath := ⟨origin, []⟩

/-- Whether no navigation is followed. -/
def isRoot (path : NavPath) : Bool := path.steps.isEmpty

/-- The path with one more step. -/
def child (path : NavPath) (step : String) : NavPath := ⟨path.origin, path.steps ++ [step]⟩

/-- The last step. -/
def last? (path : NavPath) : Option String := path.steps.getLast?

end NavPath

/-- Why a join is part of a query. -/
inductive JoinOrigin where
  /-- It was asked for. -/
  | explicit
  /-- A navigation was read; joins of one path are shared. -/
  | navigation (path : NavPath)
deriving DecidableEq

/-- The order of a sort key. -/
inductive Direction where
  | ascending
  | descending
deriving DecidableEq

/-- How the rows of two plans are stacked. -/
inductive SetOperator where
  /-- Duplicates are removed. -/
  | union
  /-- Duplicates are kept. -/
  | unionAll
deriving DecidableEq

/-- The rows to return after ordering: how many to skip and how many to keep at most. -/
structure Window where
  offset : Option Nat
  limit : Option Nat
deriving DecidableEq, Inhabited

/-- The window that keeps every row. -/
def Window.all : Window := ⟨none, none⟩

/-- The window of page `index`, counted from 1, with `size` rows to a page.  There is none for page
0, and none if the number of rows before the page does not fit 64 bits. -/
def Window.page? (index size : UInt64) : Option Window :=
  if index = 0 then none
  else
    let offset := (index.toNat - 1) * size.toNat
    if offset < UInt64.size then some ⟨some offset, some size.toNat⟩ else none

/-- Whether the window neither skips nor bounds. -/
def Window.isAll (window : Window) : Bool := window.offset.isNone && window.limit.isNone

/-- The base table of a plan. -/
structure Source where
  entity : String
  table : String
  tableAlias : Alias
  /-- The query that the plan was compiled from, if it was compiled. -/
  query : Option ContextId
deriving DecidableEq

/-! ## The family -/

mutual

/-- An expression over the columns of a plan. -/
inductive Expr where
  | value (value : Value)
  | column (ref : ColumnRef)
  | compare (op : CompareOp) (lhs rhs : Expr)
  | conj (operands : List Expr)
  | disj (operands : List Expr)
  | neg (operand : Expr)
  | inList (operand : Expr) (items : List Expr) (negated : Bool)
  /-- A text matches a pattern in which `%` stands for any text. -/
  | like (operand : Expr) (pattern : String) (negated : Bool)
  | isNull (operand : Expr) (negated : Bool)
  /-- Only a count may lack an argument; it counts rows then. -/
  | aggregate (function : AggregateFunction) (argument : Option Expr) (distinct : Bool)
  | cases (branches : List Branch) (otherwise : Expr)
  /-- A nested plan has a row. -/
  | anyRow (plan : Plan) (negated : Bool)
  /-- A value is among the rows of a nested plan of one column. -/
  | inQuery (operand : Expr) (plan : Plan) (negated : Bool)

/-- One branch of a case distinction. -/
structure Branch where
  condition : Expr
  result : Expr

/-- One column of the rows of a plan. -/
structure Item where
  expr : Expr
  ty : Ty

/-- One key of an ordering. -/
structure SortKey where
  expr : Expr
  direction : Direction

/-- A table joined to a plan.  With a nested plan, the rows of that plan stand in for the table. -/
structure Join where
  kind : JoinKind
  tableAlias : Alias
  entity : String
  table : String
  condition : Expr
  origin : JoinOrigin
  rows : Option Plan

/-- A plan whose rows are stacked on those of another. -/
structure Arm where
  op : SetOperator
  plan : Plan

/-- A fully resolved query. -/
structure Plan where
  source : Source
  joins : List Join
  filter : Option Expr
  projection : List Item
  groupBy : List Expr
  having : Option Expr
  orderBy : List SortKey
  window : Option Window
  arms : List Arm

end

instance : Inhabited Expr := ⟨.value .null⟩

/-! ## Parts of a plan -/

/-- The types of the items of a projection. -/
def Item.shape (items : List Item) : List Ty := items.map Item.ty

/-- Whether the rows of two projections may be stacked: as many columns, and types that unify at
every position. -/
def Item.compatible : List Item → List Item → Bool
  | [], [] => true
  | left :: lefts, right :: rights => left.ty.unifies right.ty && compatible lefts rights
  | _, _ => false

namespace Join

/-- Whether a navigation created the join. -/
def isImplicit (join : Join) : Bool :=
  match join.origin with
  | .navigation _ => true
  | .explicit => false

/-- The path of the navigation that created the join. -/
def path? (join : Join) : Option NavPath :=
  match join.origin with
  | .navigation path => some path
  | .explicit => none

/-- Whether a nested plan stands in for the table. -/
def isNested (join : Join) : Bool := join.rows.isSome

end Join

namespace Plan

/-- The entity bound to an alias, if the plan has the alias. -/
def entityOf? (plan : Plan) (tableAlias : Alias) : Option String :=
  if plan.source.tableAlias = tableAlias then some plan.source.entity
  else (plan.joins.find? fun join => join.tableAlias == tableAlias).map Join.entity

/-- Whether some table of the plan has the alias. -/
def hasAlias (plan : Plan) (tableAlias : Alias) : Bool := (plan.entityOf? tableAlias).isSome

/-- The joins that navigations created. -/
def implicitJoins (plan : Plan) : List Join := plan.joins.filter Join.isImplicit

/-- Whether the plan groups its rows. -/
def isGrouped (plan : Plan) : Bool := !plan.groupBy.isEmpty

/-- The types of the projected columns. -/
def shape (plan : Plan) : List Ty := Item.shape plan.projection

end Plan

end TrackedQuery
