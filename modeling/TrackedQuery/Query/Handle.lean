import TrackedQuery.Query.Predicate
import TrackedQuery.Value.Convert

/-!
# Handles of tables and columns

A handle stands for one table of a query, or for one column of such a table.  It may be kept and
read again later: reading a column resolves it anew against the query that is being recorded at that
time, so that a column of an enclosing query becomes a reference out of the nested one.

A handle whose creation failed stands for nothing.  The failure was reported when the handle was
created, and reading such a handle yields `NULL`.
-/

namespace TrackedQuery

variable {m : Type → Type} [Monad m] [MonadStateOf Recording m]

/-! ## Columns -/

/-- Where a column is read from. -/
structure ColumnSource where
  context : ContextId
  table : Alias
  index : Nat
  ty : Ty

/-- A column of a table. -/
structure ColumnHandle where
  name : String
  source : Option ColumnSource

namespace ColumnHandle

/-- The declared type of the column, or `null` for a handle that stands for nothing. -/
def ty (column : ColumnHandle) : Ty :=
  match column.source with
  | some source => source.ty
  | none => .null

/-- What the column is called in messages. -/
def subject (column : ColumnHandle) : Subject := .column column.name

/-- The column as an expression of the query being recorded. -/
def toExpr (column : ColumnHandle) : m TypedExpr :=
  match column.source with
  | none => return .ofValue .null
  | some source => do
      match (← getThe Recording).resolveColumn source.context source.table source.index with
      | .ok ref => return ⟨.column ref, source.ty⟩
      | .error error =>
          reportError error
          return .ofValue .null

/-- The column as a projected item.  It has the declared type also when it cannot be read. -/
def toItem (column : ColumnHandle) : m Item := do
  return ⟨(← column.toExpr).expr, column.ty⟩

/-- The column lies between two bounds, as one statement. -/
def between (column : ColumnHandle) (lower upper : m TypedExpr) : m Predicate := do
  let operand := (← column.toExpr).expr
  let low ← lower
  let high ← upper
  checkOperand column.subject column.ty low.ty
  checkOperand column.subject column.ty high.ty
  Predicate.record (Expr.and (.compare .ge operand low.expr) (.compare .le operand high.expr))

/-- An item that the column is compared with. -/
def listItem (column : ColumnHandle) (item : TypedExpr) : m Expr := do
  checkOperand column.subject column.ty item.ty
  return item.expr

/-- The column has one of the given values, or none of them. -/
def inList (column : ColumnHandle) (items : List Expr) (negated : Bool) : m Predicate := do
  Predicate.record (.inList (← column.toExpr).expr items negated)

/-- The text in the column matches. -/
def matchText (column : ColumnHandle) (kind : TextMatch) (text : String) : m Predicate := do
  checkOperand column.subject column.ty .string
  Predicate.record (.textMatch (← column.toExpr).expr kind text false)

/-- An aggregate of the column. -/
def aggregate (column : ColumnHandle) (function : AggregateFunction) (distinct : Bool) :
    m Aggregate := do
  return ⟨function, some (← column.toExpr).expr, distinct, function.resultTy column.ty⟩

end ColumnHandle

/-! ## Tables -/

/-- A table of a query. -/
structure TableHandle where
  context : ContextId
  binding : Option Binding

namespace TableHandle

/-- The handle of an alias of a context. -/
def ofAlias (context : ContextId) (table : Alias) : m TableHandle := do
  return ⟨context, (← contextOf context).binding? table⟩

/-- The column of the given name, if it can be read as asked. -/
def resolveColumn (context : Context) (id : ContextId) (binding : Binding) (name : String)
    (scalar : Scalar) : Result ColumnHandle := do
  let entity ← context.schema.resolve binding.entity
  let (index, column) ← entity.resolveColumn name
  if scalar.ty.isNull || column.ty.accepts scalar.ty then
    return ⟨name, some ⟨id, binding.tableAlias, index, column.ty⟩⟩
  else fail (.typeMismatch (entity.name ++ "." ++ name) column.ty scalar.ty)

/-- The column of the given name, to be read at the given type. -/
def column (table : TableHandle) (name : String) (scalar : Scalar) : m ColumnHandle :=
  match table.binding with
  | none => return ⟨name, none⟩
  | some binding => do
      match resolveColumn (← contextOf table.context) table.context binding name scalar with
      | .ok column => return column
      | .error error =>
          reportError error
          return ⟨name, none⟩

/-- The table that a navigation leads to, which must be one of the given entity.  The join of the
navigation is added to the query also when the entity is another one. -/
def navigate (table : TableHandle) (name : String) (expected : String) : m TableHandle :=
  match table.binding with
  | none => return table
  | some binding => do
      match (← contextOf table.context).navigate binding name with
      | .error error =>
          reportError error
          return ⟨table.context, none⟩
      | .ok (target, context) =>
          modifyThe Recording (·.setContext table.context context)
          if target.entity = expected then return ⟨table.context, some target⟩
          else
            reportError
              (Cause.invalidStatement
                (.navigationTarget binding.entity name target.entity expected))
            return ⟨table.context, none⟩

/-- The items of the columns of a table from a position on. -/
def itemsFrom (recording : Recording) (context : ContextId) (table : Alias) (index : Nat) :
    List Column → Result (List Item)
  | [] => .ok []
  | column :: rest => do
      let ref ← recording.resolveColumn context table index
      let items ← itemsFrom recording context table (index + 1) rest
      return ⟨.column ref, column.ty⟩ :: items

/-- Every column of the table, in declaration order. -/
def allColumns (table : TableHandle) : m (List Item) :=
  match table.binding with
  | none => return []
  | some binding => do
      let recording ← getThe Recording
      let resolved := do
        let entity ← (recording.contextAt table.context).schema.resolve binding.entity
        itemsFrom recording table.context binding.tableAlias 0 entity.columns
      match resolved with
      | .ok items => return items
      | .error error =>
          reportError error
          return []

end TableHandle

end TrackedQuery
