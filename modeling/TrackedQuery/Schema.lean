import TrackedQuery.Schema.Entity

/-!
# Schemas

A schema is the registry of entities that queries resolve names in.  It is built once: entities are
registered under distinct names, all tables may be given a common first part, and every entity is
then verified.  What verification promises is that the columns, targets and mappings that an entity
names all exist, so that later look-ups through it succeed.
-/

namespace TrackedQuery

/-- The registry of entities, in the order they were registered. -/
structure Schema where
  entities : List Entity

namespace Schema

/-- The entity of the given name, if registered. -/
def get? (schema : Schema) (name : String) : Option Entity :=
  schema.entities.find? fun entity => entity.name == name

/-- Whether an entity of the given name is registered. -/
def contains (schema : Schema) (name : String) : Bool := (schema.get? name).isSome

/-- The entity of the given name. -/
def resolve (schema : Schema) (name : String) : Result Entity :=
  match schema.get? name with
  | none => fail (.unknownEntity name)
  | some entity => .ok entity

/-- The navigations of the entity of the given name. -/
def navigationsOf (schema : Schema) (name : String) : Result (List Navigation) :=
  return (← schema.resolve name).navigations

/-! ## Verification -/

/-- An entity has a key. -/
def verifyPrimaryKey (entity : Entity) : Result Unit :=
  if entity.primaryKey.isEmpty then fail (.invalidSchema (.noPrimaryKey entity.name)) else .ok ()

/-- The first name that occurs again after it has occurred, given the names that came before. -/
def firstRepeat? (before : List String) : List String → Option String
  | [] => none
  | name :: rest => if before.contains name then some name else firstRepeat? (name :: before) rest

/-- The columns of an entity have distinct names. -/
def verifyColumnNames (entity : Entity) : Result Unit :=
  match firstRepeat? [] (entity.columns.map Column.name) with
  | none => .ok ()
  | some name => fail (.invalidSchema (.duplicateColumn name entity.name))

/-- Puts a context around the error of a result. -/
def withContext {α : Type} (result : Result α) (context : Cause) : Result α :=
  result.mapError fun error => error.context context

/-- The delete mark of an entity is a column outside the key that can carry it. -/
def verifyLogicalDelete (entity : Entity) : Result Unit :=
  match entity.logicalDelete with
  | none => .ok ()
  | some mark => do
      let (index, column) ←
        withContext (entity.resolveColumn mark.column) (.invalidSchema (.deleteMarkOf entity.name))
      if entity.isPrimaryKey index || !mark.strategy.accepts column.ty column.nullable then
        fail (.invalidSchema (.deleteMark column.name entity.name mark.strategy))
      else .ok ()

/-- The entities and columns that a navigation names exist. -/
def verifyNavigation (schema : Schema) (entity : Entity) (navigation : Navigation) :
    Result Unit := do
  let target ← schema.resolve navigation.target
  let _ ← entity.resolveColumn navigation.selfProperty
  let _ ← target.resolveColumn navigation.targetProperty
  match navigation.relation with
  | .manyToMany mapping =>
      let middle ← schema.resolve mapping.entity
      let _ ← middle.resolveColumn mapping.selfProperty
      let _ ← middle.resolveColumn mapping.targetProperty
      .ok ()
  | .oneToOne | .oneToMany | .manyToOne => .ok ()

/-- Every navigation of an entity names what exists. -/
def verifyNavigations (schema : Schema) (entity : Entity) : List Navigation → Result Unit
  | [] => .ok ()
  | navigation :: rest => do
      withContext (schema.verifyNavigation entity navigation)
        (.invalidSchema (.navigationOf navigation.name entity.name))
      verifyNavigations schema entity rest

/-- One entity is consistent. -/
def verifyEntity (schema : Schema) (entity : Entity) : Result Unit := do
  verifyPrimaryKey entity
  verifyColumnNames entity
  verifyLogicalDelete entity
  schema.verifyNavigations entity entity.navigations

/-- Each of the given entities is consistent. -/
def verifyAll (schema : Schema) : List Entity → Result Unit
  | [] => .ok ()
  | entity :: rest => do
      schema.verifyEntity entity
      verifyAll schema rest

/-- Every entity is consistent; the first failure is reported. -/
def verify (schema : Schema) : Result Unit := schema.verifyAll schema.entities

end Schema

/-! ## Building -/

/-- A schema that is still being put together. -/
structure SchemaBuilder where
  /-- What the names of all tables start with. -/
  tableStart : Option String
  entities : List Entity

namespace SchemaBuilder

/-- Nothing registered yet. -/
def empty : SchemaBuilder := ⟨none, []⟩

/-- Registers an entity under its name. -/
def register (builder : SchemaBuilder) (entity : Entity) : Result SchemaBuilder :=
  if builder.entities.any fun registered => registered.name == entity.name then
    fail (.duplicateEntity entity.name)
  else .ok { builder with entities := builder.entities ++ [entity] }

/-- The registry that the builder describes, before it is verified. -/
def schema (builder : SchemaBuilder) : Schema :=
  match builder.tableStart with
  | none => ⟨builder.entities⟩
  | some start =>
      ⟨builder.entities.map fun entity => { entity with table := start ++ entity.table }⟩

/-- The verified schema. -/
def build (builder : SchemaBuilder) : Result Schema := do
  builder.schema.verify
  return builder.schema

end SchemaBuilder

end TrackedQuery
