import TrackedQuery.Error
import TrackedQuery.Plan.Build
import TrackedQuery.Text.Capital

/-!
# Entities

An entity describes one table to the rest of the library: its columns in the order rows list them,
the navigations that lead from it to other entities, and the column that marks deleted rows.
Columns are addressed by position once their name is resolved.
-/

namespace TrackedQuery

/-! ## Columns and navigations -/

/-- A column of an entity. -/
structure Column where
  name : String
  /-- The name in storage, when it differs. -/
  storageName : Option String
  ty : Ty
  nullable : Bool
  primaryKey : Bool

namespace Column

/-- The name of the column in storage. -/
def storage (column : Column) : String := column.storageName.getD column.name

/-- The value of the column in a row that leaves it out: `NULL` if the column admits it, else the
zero value of its type. -/
def fillValue (column : Column) : Value :=
  if column.nullable then .null
  else
    match column.ty with
    | .bool => .bool false
    | .int32 => .int32 0
    | .int64 => .int64 0
    | .float => .float .zero
    | .string => .string ""
    | .list _ => .list []
    | .record fields => .record (fields.map fun _ => .null)
    | .null => .null

end Column

/-- The entity whose rows pair the two sides of a many-to-many relation. -/
structure Mapping where
  entity : String
  /-- The column matched with the side the navigation starts from. -/
  selfProperty : String
  /-- The column matched with the side the navigation leads to. -/
  targetProperty : String

/-- How many rows stand on either side of a navigation. -/
inductive Relation where
  | oneToOne
  | oneToMany
  | manyToOne
  | manyToMany (mapping : Mapping)

/-- A named way from one entity to another: two columns that must be equal, or equal to the two
columns of a mapping. -/
structure Navigation where
  name : String
  target : String
  relation : Relation
  selfProperty : String
  targetProperty : String

namespace Navigation

/-- Whether at most one row is reached. -/
def isSingle (navigation : Navigation) : Bool :=
  match navigation.relation with
  | .oneToOne | .manyToOne => true
  | .oneToMany | .manyToMany _ => false

/-- The mapping of a many-to-many navigation. -/
def mapping? (navigation : Navigation) : Option Mapping :=
  match navigation.relation with
  | .manyToMany mapping => some mapping
  | _ => none

end Navigation

/-! ## Entities -/

/-- The metadata of one entity. -/
structure Entity where
  name : String
  table : String
  columns : List Column
  navigations : List Navigation
  logicalDelete : Option LogicalDelete

/-- The small form of one letter of a name.  A capital is preceded by an underscore unless it starts
the name. -/
def snakeLetter (isFirst : Bool) (letter : Char) : List Char :=
  match Text.smallForm? letter with
  | none => [letter]
  | some small => if isFirst then small else '_' :: small

/-- A name in small letters, with underscores where words begin. -/
def snakeCase (name : String) : String :=
  match name.toList with
  | [] => ""
  | first :: rest => String.ofList (snakeLetter true first ++ rest.flatMap (snakeLetter false))

namespace Entity

/-- An entity without columns, stored in the table named after it. -/
def named (name : String) : Entity := ⟨name, snakeCase name, [], [], none⟩

/-- The positions of the key columns. -/
def primaryKey (entity : Entity) : List Nat :=
  (List.range entity.columns.length).filter fun index =>
    (entity.columns[index]?.map Column.primaryKey).getD false

/-- Whether the column at a position is part of the key. -/
def isPrimaryKey (entity : Entity) (index : Nat) : Bool := entity.primaryKey.contains index

/-- The position of the column of the given name. -/
def columnIndex? (entity : Entity) (name : String) : Option Nat :=
  entity.columns.findIdx? fun column => column.name == name

/-- The column of the given name and its position. -/
def resolveColumn (entity : Entity) (name : String) : Result (Nat × Column) :=
  match entity.columnIndex? name with
  | none => fail (.unknownColumn entity.name name)
  | some index =>
      match entity.columns[index]? with
      | none => fail (.unknownColumn entity.name name)
      | some column => .ok (index, column)

/-- The navigation of the given name. -/
def resolveNavigation (entity : Entity) (name : String) : Result Navigation :=
  match entity.navigations.find? fun navigation => navigation.name == name with
  | none => fail (.unknownNavigation entity.name name)
  | some navigation => .ok navigation

/-- The position of the column that marks deleted rows. -/
def deleteMarkIndex? (entity : Entity) : Option Nat :=
  entity.logicalDelete.bind fun mark => entity.columnIndex? mark.column

end Entity

/-- The condition that a row is not marked as deleted, for the marking column of a table. -/
def DeleteStrategy.alive (strategy : DeleteStrategy) (table : Alias) (column : Nat) : Expr :=
  match strategy with
  | .boolean => .equals (.column (.local table column)) (.value (.bool false))
  | .timestamp => .isNull (.column (.local table column)) false

namespace Entity

/-- The condition that a row of a table of this entity is not marked as deleted. -/
def alive? (entity : Entity) (table : Alias) : Option Expr :=
  entity.logicalDelete.bind fun mark =>
    (entity.columnIndex? mark.column).map fun index => mark.strategy.alive table index

/-- The types of the columns. -/
def shape (entity : Entity) : List Ty := entity.columns.map Column.ty

end Entity

end TrackedQuery
