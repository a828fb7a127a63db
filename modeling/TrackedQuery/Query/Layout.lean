import TrackedQuery.Query.Compile

/-!
# Loading projections as entities

A projection can be loaded as an entity when its rows already have the shape of the entity, or when
it lists distinct columns of the base table of that entity.  In the second case the rows are
widened: each projected value goes to its own column, and the columns left out get their fill
values.
-/

namespace TrackedQuery

/-- Where the value of a column comes from. -/
inductive ColumnOrigin where
  /-- A position in the projected row. -/
  | projected (position : Nat)
  | filled (value : Value)

/-- How projected rows become rows of an entity. -/
structure Layout where
  /-- The origin of each column, in declaration order. -/
  origins : List ColumnOrigin
  /-- The width of projected rows. -/
  width : Nat

namespace Layout

/-- Whether each type of one list accepts the type at its position in the other, and both are as
long. -/
def acceptsAll : List Ty → List Ty → Bool
  | [], [] => true
  | expected :: restExpected, found :: restFound =>
      expected.accepts found && acceptsAll restExpected restFound
  | _, _ => false

/-- The column of the base table that an item projects, if the item is nothing else. -/
def baseColumn? (item : Item) : Option Nat :=
  match item.expr with
  | .column ref => if ref.nesting = 0 ∧ ref.table = baseAlias then some ref.column else none
  | _ => none

/-- Notes for each projected item, from a position on, which column it fills: a column that no
earlier item fills and that accepts its type. -/
def place (columns : List Column) (position : Nat) (sources : List (Option Nat)) :
    List Item → Option (List (Option Nat))
  | [] => some sources
  | item :: rest =>
      match baseColumn? item with
      | none => none
      | some index =>
          match columns[index]?, sources[index]? with
          | some column, some none =>
              if column.ty.accepts item.ty then
                place columns (position + 1) (sources.set index (some position)) rest
              else none
          | _, _ => none

/-- The origin of a column: the position that fills it, or its fill value. -/
def origin (column : Column) : Option Nat → ColumnOrigin
  | some position => .projected position
  | none => .filled column.fillValue

/-- The layout by which the rows of a plan are widened to rows of an entity; none is needed when
they have its shape. -/
def forEntity (entity : Entity) (plan : Plan) : Result (Option Layout) :=
  if acceptsAll entity.shape plan.shape then .ok none
  else
    let refused : Result (Option Layout) :=
      fail (.invalidProjection (.layout plan.shape entity.name entity.shape))
    if plan.source.entity = entity.name then
      match place entity.columns 0 (List.replicate entity.columns.length none) plan.projection with
      | none => refused
      | some sources =>
          .ok (some ⟨List.zipWith origin entity.columns sources, plan.projection.length⟩)
    else refused

/-- The value of a column in a widened row. -/
def valueAt (row : Row) : ColumnOrigin → Value
  | .projected position => row[position]?.getD .null
  | .filled value => value

/-- Widens a projected row. -/
def widen (layout : Layout) (row : Row) : Result Row :=
  if row.length = layout.width then .ok (layout.origins.map (valueAt row))
  else fail (.database (.projectedWidth layout.width row.length))

/-- Widens every row. -/
def widenAll (layout : Layout) : List Row → Result (List Row)
  | [] => .ok []
  | row :: rest => do
      let row ← layout.widen row
      let rest ← layout.widenAll rest
      return row :: rest

end Layout

end TrackedQuery
