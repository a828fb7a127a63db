import TrackedQuery.Schema

/-!
# Query contexts

A context knows which tables take part in a query under construction.  Alias 0 is the base table,
and every join gets the next alias.  Joins are added in two ways: on request, and by reading a
navigation.  A navigation read twice along the same path yields the same join, so a context
remembers which alias each path led to.

A context also knows the contexts around it, innermost first.  A column of an enclosing context is
written with its position in that list.
-/

namespace TrackedQuery

/-- What all queries of one database share. -/
structure QueryOptions where
  /-- The kind of the joins that navigations create. -/
  implicitJoin : JoinKind
  /-- Whether rows marked as deleted are left out. -/
  logicalDelete : Bool

/-- Left joins for navigations, and deleted rows left out. -/
def QueryOptions.standard : QueryOptions := ⟨.left, true⟩

/-- The tables of one query under construction. -/
structure Context where
  /-- The position of the context among all that were made. -/
  id : ContextId
  schema : Schema
  options : QueryOptions
  /-- The contexts around this one, innermost first. -/
  enclosing : List ContextId
  /-- The entity of the base table. -/
  base : String
  /-- The joins, in the order of their aliases. -/
  joins : List Join
  /-- The alias that each navigated path led to, in the order the paths were first read. -/
  paths : List (NavPath × Alias)

/-- An alias with the entity it stands for and the path that led to it. -/
structure Binding where
  tableAlias : Alias
  entity : String
  path : NavPath

namespace Context

/-- A context with a base table and nothing else, before it has its place among the others. -/
def start (schema : Schema) (options : QueryOptions) (enclosing : List ContextId) (base : String) :
    Context :=
  ⟨0, schema, options, enclosing, base, [], []⟩

/-- The entity of every alias, in order. -/
def tables (context : Context) : List String := context.base :: context.joins.map Join.entity

/-- The alias of the next join. -/
def nextAlias (context : Context) : Alias := context.joins.length + 1

/-- The alias that a path led to. -/
def aliasOf? (context : Context) (path : NavPath) : Option Alias :=
  (context.paths.find? fun entry => entry.1 == path).map Prod.snd

/-- The path that led to an alias; a table that was not navigated to is its own root. -/
def pathOf (context : Context) (tableAlias : Alias) : NavPath :=
  ((context.paths.find? fun entry => entry.2 == tableAlias).map Prod.fst).getD (.root tableAlias)

/-- What an alias stands for. -/
def binding? (context : Context) (tableAlias : Alias) : Option Binding :=
  context.tables[tableAlias]?.map fun entity => ⟨tableAlias, entity, context.pathOf tableAlias⟩

/-! ## Joins -/

/-- Adds a join under the next alias. -/
def addJoin (context : Context) (join : Join) : Context :=
  { context with joins := context.joins ++ [{ join with tableAlias := context.nextAlias }] }

theorem length_tables (context : Context) : context.tables.length = context.nextAlias := by
  simp [tables, nextAlias]

@[simp] theorem tables_addJoin (context : Context) (join : Join) :
    (context.addJoin join).tables = context.tables ++ [join.entity] := by
  simp [addJoin, tables]

@[simp] theorem nextAlias_addJoin (context : Context) (join : Join) :
    (context.addJoin join).nextAlias = context.nextAlias + 1 := by
  simp [addJoin, nextAlias]

/-- Registers a path, or registers it anew. -/
def setPath (paths : List (NavPath × Alias)) (path : NavPath) (tableAlias : Alias) :
    List (NavPath × Alias) :=
  match paths with
  | [] => [(path, tableAlias)]
  | entry :: rest =>
      if entry.1 = path then (path, tableAlias) :: rest else entry :: setPath rest path tableAlias

/-- Adds the join that reading a path creates. -/
def addImplicit (context : Context) (path : NavPath) (entity : Entity) (condition : Expr) :
    Context :=
  let join : Join :=
    { kind := context.options.implicitJoin
      tableAlias := context.nextAlias
      entity := entity.name
      table := entity.table
      condition := condition
      origin := .navigation path
      rows := none }
  { context.addJoin join with paths := setPath context.paths path context.nextAlias }

/-- Adds a requested join whose condition is still to come.  With `rows`, the rows of that plan
stand in for the table of the entity. -/
def beginJoin (context : Context) (kind : JoinKind) (entity : String) (rows : Option Plan) :
    Result (Alias × Context) := do
  let target ← context.schema.resolve entity
  let join : Join :=
    { kind := kind
      tableAlias := context.nextAlias
      entity := entity
      table := target.table
      condition := .truth
      origin := .explicit
      rows := rows }
  return (context.nextAlias, context.addJoin join)

/-- Gives the join of an alias its condition. -/
def completeJoin (context : Context) (tableAlias : Alias) (condition : Expr) : Context :=
  { context with
    joins := context.joins.map fun join =>
      if join.tableAlias = tableAlias then { join with condition := condition } else join }

@[simp] theorem tables_completeJoin (context : Context) (tableAlias : Alias) (condition : Expr) :
    (context.completeJoin tableAlias condition).tables = context.tables := by
  simp only [completeJoin, tables, List.map_map]
  congr 2
  funext join
  simp only [Function.comp_apply]
  split <;> rfl

/-! ## Navigation -/

/-- The equation of two columns of this context. -/
def columnsEqual (left : Alias) (leftColumn : Nat) (right : Alias) (rightColumn : Nat) : Expr :=
  .equals (.column (.local left leftColumn)) (.column (.local right rightColumn))

/-- Reads a navigation from a bound table: the join of the path if there is one, else new joins.  A
many-to-many navigation joins its mapping before its target. -/
def navigate (context : Context) (source : Binding) (name : String) :
    Result (Binding × Context) := do
  let entity ← context.schema.resolve source.entity
  let navigation ← entity.resolveNavigation name
  let path := source.path.child name
  match context.aliasOf? path with
  | some tableAlias => return (⟨tableAlias, navigation.target, path⟩, context)
  | none =>
      let target ← context.schema.resolve navigation.target
      let (selfColumn, _) ← entity.resolveColumn navigation.selfProperty
      let (targetColumn, _) ← target.resolveColumn navigation.targetProperty
      match navigation.relation with
      | .manyToMany mapping =>
          let middle ← context.schema.resolve mapping.entity
          let (middleSelf, _) ← middle.resolveColumn mapping.selfProperty
          let (middleTarget, _) ← middle.resolveColumn mapping.targetProperty
          let middleAlias := context.nextAlias
          let mapped := context.addImplicit (path.child NavPath.mappingStep) middle
            (columnsEqual source.tableAlias selfColumn middleAlias middleSelf)
          let targetAlias := mapped.nextAlias
          return (⟨targetAlias, target.name, path⟩,
            mapped.addImplicit path target
              (columnsEqual middleAlias middleTarget targetAlias targetColumn))
      | .oneToOne | .oneToMany | .manyToOne =>
          let targetAlias := context.nextAlias
          return (⟨targetAlias, target.name, path⟩,
            context.addImplicit path target
              (columnsEqual source.tableAlias selfColumn targetAlias targetColumn))

end Context

end TrackedQuery
