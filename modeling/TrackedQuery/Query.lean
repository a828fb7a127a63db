import TrackedQuery.Database.Connection
import TrackedQuery.Instance
import TrackedQuery.Query.Compile
import TrackedQuery.Query.Handle

/-!
# Queries

A query starts from an entity and is refined clause by clause.  Each clause consumes a query and
answers a refined one, or the first error of its body.  Projecting a query (`Query.select`) gives a
`ProjectedQuery`, grouping it (`Query.groupBy`) a `GroupedQuery` that remains to be projected.

A query nested in the clause of another one has a context of its own, around which are the context
of the clause and those around that.  It belongs to no connection, and so it can be compiled but not
run.
-/

namespace TrackedQuery

variable {m : Type → Type} [Monad m] [MonadStateOf Recording m]

/-- A query under construction. -/
structure Query where
  /-- What its rows are loaded as; also the entity of its base table. -/
  base : EntityType
  context : ContextId
  /-- Where it is run; a nested query cannot be run. -/
  home : Option Connection
  /-- The base table and the tables that were joined on request. -/
  tables : List Alias
  clauses : Clauses

/-- A query with grouping keys. -/
structure GroupedQuery where
  query : Query
  keys : List Item
  /-- The statements that groups satisfy. -/
  conditions : List Expr

/-- A query with an explicit projection. -/
structure ProjectedQuery where
  context : ContextId
  home : Option Connection
  clauses : Clauses
  items : List Item
  grouping : Option Grouping

/-! ## Starting -/

namespace Query

/-- A query in a new context. -/
def inContext (base : EntityType) (home : Option Connection) (context : Context) : m Query := do
  let id ← modifyGetThe Recording (·.addContext context)
  return ⟨base, id, home, [baseAlias], .initial⟩

/-- A query of a connection. -/
def ofConnection (connection : Connection) (base : EntityType) : m Query :=
  inContext base (some connection) (.start connection.schema connection.options [] base.name)

/-- A query nested in the query of a context. -/
def nestedIn (parent : ContextId) (base : EntityType) : m Query := do
  let recording ← getThe Recording
  let around := recording.contextAt parent
  inContext base none (.start around.schema around.options (recording.scope parent) base.name)

/-- The handles of the tables of a query. -/
def tableHandles (query : Query) : m (List TableHandle) := do
  let context ← contextOf query.context
  return query.tables.map fun table => ⟨query.context, context.binding? table⟩

/-- The plan of a query as it stands. -/
def compile (query : Query) : m (Result Plan) := do
  return query.clauses.compile (← contextOf query.context) none none

/-! ## Clauses -/

/-- Adds the statements of a body to the filter. -/
def filterBy (query : Query) (body : List TableHandle → m Unit) : m (Result Query) := do
  let tables ← query.tableHandles
  let outcome ← recordClause query.context (.predicates []) (body tables)
  return outcome.map fun (_, recorded) =>
    { query with
      clauses := { query.clauses with filter := query.clauses.filter ++ recorded.statements } }

/-- The values of the key columns that an identifier stands for: a tuple for several key columns,
the identifier itself for one. -/
def keyValues (entity : Entity) (id : Value) : Result Row :=
  match entity.primaryKey, id with
  | [_], value => .ok [value]
  | key, .record fields =>
      if fields.length = key.length then .ok fields
      else fail (.invalidStatement (.keyArity entity.name key.length (.record fields)))
  | key, value => fail (.invalidStatement (.keyArity entity.name key.length value))

/-- The equations of key columns with values of their types. -/
def keyEquations (entity : Entity) : List Nat → Row → Result (List Expr)
  | index :: indices, value :: values =>
      match entity.columns[index]? with
      | none => keyEquations entity indices values
      | some column =>
          if value.isA column.ty then do
            let rest ← keyEquations entity indices values
            return .equals (.column (.local baseAlias index)) (.value value) :: rest
          else fail (.typeMismatch (entity.name ++ "." ++ column.name) column.ty value.inferTy)
  | _, _ => .ok []

/-- Adds to the filter that the base table has the given key, as a single statement. -/
def filterByKey (query : Query) (id : Value) : m (Result Query) := do
  let context ← contextOf query.context
  return do
    let entity ← context.schema.resolve query.base.name
    let values ← keyValues entity id
    let equations ← keyEquations entity entity.primaryKey values
    return { query with
      clauses := { query.clauses with filter := query.clauses.filter ++ [.all equations] } }

/-- Adds the sort keys of a body to the ordering. -/
def orderBy (query : Query) (body : List TableHandle → m Unit) : m (Result Query) := do
  let tables ← query.tableHandles
  let outcome ← recordClause query.context (.order []) (body tables)
  return outcome.map fun (_, recorded) =>
    { query with
      clauses := { query.clauses with orderBy := query.clauses.orderBy ++ recorded.sortKeys } }

/-- Joins a table, or the rows of a plan in its stead, under the condition that a body states. -/
def joinRows (query : Query) (kind : JoinKind) (entity : String) (rows : Option Plan)
    (body : List TableHandle → m Unit) : m (Result Query) := do
  match (← contextOf query.context).beginJoin kind entity rows with
  | .error error => return .error error
  | .ok (table, context) =>
      modifyThe Recording (·.setContext query.context context)
      let query := { query with tables := query.tables ++ [table] }
      let tables ← query.tableHandles
      match ← recordClause query.context (.predicates []) (body tables) with
      | .error error => return .error error
      | .ok (_, recorded) =>
          let context := (← contextOf query.context).completeJoin table (.all recorded.statements)
          modifyThe Recording (·.setContext query.context context)
          return .ok query

/-- Joins the table of an entity. -/
def join (query : Query) (kind : JoinKind) (entity : String) (body : List TableHandle → m Unit) :
    m (Result Query) :=
  query.joinRows kind entity none body

/-- Joins the rows of a query as if they were the table of its base entity. -/
def joinQuery (query : Query) (kind : JoinKind) (source : Query)
    (body : List TableHandle → m Unit) : m (Result Query) := do
  match ← source.compile with
  | .error error => return .error error
  | .ok rows => query.joinRows kind source.base.name (some rows) body

/-- Reads another table than that of the base entity. -/
def asTable (query : Query) (table : String) : Query :=
  { query with clauses := { query.clauses with tableName := some table } }

/-- Captures every instance that is loaded. -/
def asTracking (query : Query) : Query :=
  { query with clauses := { query.clauses with tracking := true } }

/-- Keeps the rows marked as deleted. -/
def withDeleted (query : Query) : Query :=
  { query with clauses := { query.clauses with logicalDelete := false } }

/-- Bounds the number of rows. -/
def limit (query : Query) (limit : Nat) : Query :=
  { query with clauses := { query.clauses with limit := some limit } }

/-- Skips rows. -/
def offset (query : Query) (offset : Nat) : Query :=
  { query with clauses := { query.clauses with offset := some offset } }

/-- Stacks the rows of another query below. -/
def stack (query : Query) (op : SetOperator) (other : Query) : m (Result Query) := do
  let left ← query.compile
  let right ← other.compile
  return do
    let left ← left
    let right ← right
    checkUnion left right
    return { query with
      clauses := { query.clauses with arms := query.clauses.arms ++ [⟨op, right⟩] } }

end Query

/-! ## Projections -/

namespace ProjectedQuery

/-- The plan of a projected query. -/
def compile (query : ProjectedQuery) : m (Result Plan) := do
  return query.clauses.compile (← contextOf query.context) (some query.items) query.grouping

/-- A projection of a query, provided that it compiles. -/
def ofQuery (query : Query) (items : List Item) (grouping : Option Grouping) :
    m (Result ProjectedQuery) := do
  let projected : ProjectedQuery := ⟨query.context, query.home, query.clauses, items, grouping⟩
  return (← projected.compile).map fun _ => projected

/-- The types of the projected items. -/
def shape (query : ProjectedQuery) : List Ty := Item.shape query.items

/-- Bounds the number of rows. -/
def limit (query : ProjectedQuery) (limit : Nat) : ProjectedQuery :=
  { query with clauses := { query.clauses with limit := some limit } }

/-- Skips rows. -/
def offset (query : ProjectedQuery) (offset : Nat) : ProjectedQuery :=
  { query with clauses := { query.clauses with offset := some offset } }

/-- Stacks the rows of another projection below. -/
def stack (query : ProjectedQuery) (op : SetOperator) (other : ProjectedQuery) :
    m (Result ProjectedQuery) := do
  let left ← query.compile
  let right ← other.compile
  return do
    let left ← left
    let right ← right
    checkUnion left right
    return { query with
      clauses := { query.clauses with arms := query.clauses.arms ++ [⟨op, right⟩] } }

end ProjectedQuery

/-- Projects a query to the items that a body answers. -/
def Query.select (query : Query) (body : List TableHandle → m (List Item)) :
    m (Result ProjectedQuery) := do
  let tables ← query.tableHandles
  match ← recordClause query.context .values (body tables) with
  | .error error => return .error error
  | .ok (items, _) => ProjectedQuery.ofQuery query items none

/-! ## Groups -/

/-- Groups a query by the keys that a body answers. -/
def Query.groupBy (query : Query) (body : List TableHandle → m (List Item)) :
    m (Result GroupedQuery) := do
  let tables ← query.tableHandles
  let outcome ← recordClause query.context .values (body tables)
  return outcome.map fun (keys, _) => ⟨query, keys, []⟩

namespace GroupedQuery

/-- The key at a position; past the last key, `NULL`. -/
def keyAt (keys : List Item) (index : Nat) : TypedExpr := keys[index]?.getD ⟨.null, .null⟩

/-- Adds the statements of a body to the filter of groups. -/
def having (query : GroupedQuery) (body : List TableHandle → m Unit) :
    m (Result GroupedQuery) := do
  let tables ← query.query.tableHandles
  let outcome ← recordClause query.query.context (.predicates []) (body tables)
  return outcome.map fun (_, recorded) =>
    { query with conditions := query.conditions ++ recorded.statements }

/-- Adds the sort keys of a body to the ordering. -/
def orderBy (query : GroupedQuery) (body : List TableHandle → m Unit) :
    m (Result GroupedQuery) := do
  return (← query.query.orderBy body).map fun ordered => { query with query := ordered }

/-- Projects the groups to the items that a body answers. -/
def select (query : GroupedQuery) (body : List TableHandle → m (List Item)) :
    m (Result ProjectedQuery) := do
  let tables ← query.query.tableHandles
  match ← recordClause query.query.context .values (body tables) with
  | .error error => return .error error
  | .ok (items, _) =>
      ProjectedQuery.ofQuery query.query items
        (some ⟨query.keys.map Item.expr, query.conditions⟩)

end GroupedQuery

end TrackedQuery
