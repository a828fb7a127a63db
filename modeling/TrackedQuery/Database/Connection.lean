import TrackedQuery.Database.Operation
import TrackedQuery.Query.Context
import TrackedQuery.Tracking.Scope

/-!
# Connections

A connection is what queries and updates keep of the database handle they were built from: the
schema, the settings of queries, and the manager of its tracking scopes.  The database behind it is
any function that answers operations.
-/

namespace TrackedQuery

/-- A handle of a database. -/
structure Connection where
  schema : Schema
  options : QueryOptions
  manager : ManagerId

/-- Registers entities in order, and answers the first failure together with what was registered. -/
def SchemaBuilder.registerAll (builder : SchemaBuilder) :
    List Entity → Option Error × SchemaBuilder
  | [] => (none, builder)
  | entity :: rest =>
      match builder.register entity with
      | .ok builder => builder.registerAll rest
      | .error error =>
          let (_, builder) := builder.registerAll rest
          (some error, builder)

/-- Opens a connection over entities.  A failed registration counts before an inconsistent
schema. -/
def Connection.open (entities : List Entity) (tableStart : Option String) (options : QueryOptions)
    (manager : ManagerId) : Result Connection :=
  match SchemaBuilder.registerAll ⟨tableStart, []⟩ entities with
  | (some error, _) => .error error
  | (none, builder) => do return ⟨← builder.build, options, manager⟩

/-! ## Databases -/

/-- A database: a state of its own, and an answer to every operation. -/
structure Database (δ : Type) where
  answer : δ → Operation → Result Answer × δ

/-- A database and the tracking scopes of its users. -/
structure World (δ : Type) where
  database : Database δ
  state : δ
  tracking : Tracking

namespace World

variable {δ : Type}

/-- Sends an operation. -/
def send (world : World δ) (operation : Operation) : Result Answer × World δ :=
  let (answer, state) := world.database.answer world.state operation
  (answer, { world with state := state })

end World

end TrackedQuery
