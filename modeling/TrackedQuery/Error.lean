import TrackedQuery.Schema.LogicalDelete
import TrackedQuery.Value

/-!
# Errors

An error is a chain of causes, the newest first: what went wrong, and then the contexts that were
put around it on the way out.  A cause says which rule was broken and by what; its wording is in
`message` alone.

## Strategy

`Cause` groups the causes by kind, and four kinds that have several reasons carry the reason as a
value of its own.  `Cause.kind` forgets everything but the kind; callers branch on it with
`Error.kind` for the newest cause and `Error.hasKind` for the whole chain.
-/

namespace TrackedQuery

/-! ## Reasons -/

/-- Why a statement cannot be built or run. -/
inductive StatementFault where
  /-- A sort key was recorded outside an ordering clause. -/
  | orderingOutsideOrderBy
  /-- A column was read in a query that its own query does not enclose. -/
  | columnOutOfScope (entity : String)
  /-- A navigation leads to another entity than the caller asked for. -/
  | navigationTarget (entity navigation target expected : String)
  /-- Membership in a query was asked with no query around it. -/
  | membershipOutsideClause
  /-- A key value does not have one part per key column. -/
  | keyArity (entity : String) (columns : Nat) (value : Value)
  /-- The rows of a combined query were to be counted. -/
  | countOfUnion
  /-- A nested query was to be run by itself. -/
  | detachedQuery
  /-- A column belongs to a table that the query does not have. -/
  | foreignAlias (tableAlias : Nat) (entity : String)
  /-- A row ends before one of its key columns. -/
  | missingKeyField (entity : String) (width field : Nat)
  /-- A row does not have one value per column. -/
  | recordWidth (entity : String) (width expected : Nat)
  | other (text : String)

/-- Why a projection is refused. -/
inductive ProjectionFault where
  | empty
  /-- A projected item varies within a group. -/
  | ungroupedItem (position : Nat) (entity : String)
  /-- A query asked for membership does not project one comparable column. -/
  | membershipShape (column : String) (expected : Ty) (shape : List Ty)
  /-- Projected rows do not determine the columns of an entity. -/
  | layout (shape : List Ty) (entity : String) (expected : List Ty)
  | other (text : String)

/-- Why entity metadata is inconsistent. -/
inductive SchemaFault where
  | noPrimaryKey (entity : String)
  | duplicateColumn (column entity : String)
  /-- A column cannot carry the delete mark asked of it. -/
  | deleteMark (column entity : String) (strategy : DeleteStrategy)
  /-- Context: the delete mark of an entity was being checked. -/
  | deleteMarkOf (entity : String)
  /-- Context: a navigation of an entity was being checked. -/
  | navigationOf (navigation entity : String)
  | other (text : String)

/-- What a database reported, or how its answer does not fit the operation it answers. -/
inductive DatabaseFault where
  /-- An error of the database, followed by the errors it stems from. -/
  | reported (text : String) (sources : List String)
  /-- A count answered a request for rows. -/
  | rowsExpected
  | negativeCount (count : Int)
  | rowWidth (expected : Nat) (entity : String) (found : Nat)
  | projectedWidth (expected found : Nat)

/-- One thing that went wrong. -/
inductive Cause where
  /-- Free text. -/
  | adhoc (text : String)
  /-- An error of another library, by its text. -/
  | foreign (text : String)
  /-- A failure of input or output, by its text. -/
  | inputOutput (text : String)
  | database (fault : DatabaseFault)
  | duplicateEntity (entity : String)
  | entityNotFound (text : Option String)
  | incompatibleUnion (left right : List Ty)
  | invalidPageRequest (index size : Int)
  | invalidProjection (fault : ProjectionFault)
  | invalidSchema (fault : SchemaFault)
  | invalidStatement (fault : StatementFault)
  | trackingNotActive (operation : String)
  | typeMismatch (subject : String) (expected found : Ty)
  | unknownColumn (entity column : String)
  | unknownEntity (entity : String)
  | unknownNavigation (entity navigation : String)

/-- A cause, and the causes it was put around, newest first. -/
structure Error where
  cause : Cause
  earlier : List Cause

/-- An error with no context. -/
instance : Coe Cause Error := ⟨fun cause => ⟨cause, []⟩⟩

/-! ## Messages -/

/-- A name between backticks. -/
def named (name : String) : String := "`" ++ name ++ "`"

/-- The text of a table alias. -/
def aliasText (tableAlias : Nat) : String := "t" ++ toString tableAlias

/-- The wording of a statement fault. -/
def StatementFault.message : StatementFault → String
  | .orderingOutsideOrderBy => "`asc` and `desc` can only be used inside `order_by`"
  | .columnOutOfScope entity =>
      "a column of " ++ named entity ++ " was used outside of the query that bound it"
  | .navigationTarget entity navigation target expected =>
      "navigation " ++ named (entity ++ "." ++ navigation) ++ " leads to " ++ named target
        ++ ", not " ++ named expected
  | .membershipOutsideClause => "`in_query` used outside of a query clause"
  | .keyArity entity columns value =>
      named entity ++ " has a " ++ toString columns
        ++ "-column primary key; `where_by_id` received " ++ value.describe
  | .countOfUnion => "counting a query combined with `union` is not supported"
  | .detachedQuery => "subqueries cannot be executed on their own"
  | .foreignAlias tableAlias entity =>
      "table alias " ++ aliasText tableAlias ++ " is not part of the query on " ++ named entity
  | .missingKeyField entity width field =>
      "record of " ++ named entity ++ " has " ++ toString width
        ++ " fields; the primary key needs field " ++ toString field
  | .recordWidth entity width expected =>
      "record of " ++ named entity ++ " has " ++ toString width ++ " fields, expected "
        ++ toString expected
  | .other text => text

/-- The wording of a projection fault. -/
def ProjectionFault.message : ProjectionFault → String
  | .empty => "a projection needs at least one item"
  | .ungroupedItem position entity =>
      "projection item " ++ toString position ++ " of the grouped query on " ++ named entity
        ++ " is neither a grouping key nor an aggregate"
  | .membershipShape column expected shape =>
      "`in_query` on " ++ named column ++ " requires a single " ++ expected.describe
        ++ " column, found " ++ Ty.describeAll shape
  | .layout shape entity expected =>
      "projection " ++ Ty.describeAll shape ++ " cannot be loaded as " ++ named entity ++ " ("
        ++ Ty.describeAll expected ++ ")"
  | .other text => text

/-- The wording of a schema fault. -/
def SchemaFault.message : SchemaFault → String
  | .noPrimaryKey entity => "entity " ++ named entity ++ " has no primary key"
  | .duplicateColumn column entity =>
      "duplicate column " ++ named column ++ " on entity " ++ named entity
  | .deleteMark column entity strategy =>
      "column " ++ named column ++ " on entity " ++ named entity ++ " cannot carry a "
        ++ strategy.describe ++ " logical delete marker"
  | .deleteMarkOf entity => "logical delete marker on entity " ++ named entity
  | .navigationOf navigation entity =>
      "navigation " ++ named navigation ++ " on entity " ++ named entity
  | .other text => text

/-- The wording of a database fault. -/
def DatabaseFault.message : DatabaseFault → String
  | .reported text sources => ": ".intercalate (text :: sources)
  | .rowsExpected => "expected rows, received a count"
  | .negativeCount count => "driver returned a negative count: " ++ toString count
  | .rowWidth expected entity found =>
      "expected " ++ toString expected ++ " columns for " ++ named entity ++ ", driver returned "
        ++ toString found
  | .projectedWidth expected found =>
      "expected " ++ toString expected ++ " projected columns, driver returned " ++ toString found

/-- The wording of a cause. -/
def Cause.message : Cause → String
  | .adhoc text | .foreign text | .inputOutput text => text
  | .database fault => fault.message
  | .duplicateEntity entity => "entity " ++ named entity ++ " is already registered"
  | .entityNotFound none => "entity not found"
  | .entityNotFound (some text) => "entity not found: " ++ text
  | .incompatibleUnion left right =>
      "incompatible union: left projection " ++ Ty.describeAll left
        ++ " does not match right projection " ++ Ty.describeAll right
  | .invalidPageRequest index size =>
      if index < 1 || size < 1 then
        "invalid page request: page index " ++ toString index ++ " and page size " ++ toString size
          ++ " must both be at least 1"
      else
        "invalid page request: page " ++ toString index ++ " of size " ++ toString size
          ++ " starts past the last addressable row"
  | .invalidProjection fault => "invalid projection: " ++ fault.message
  | .invalidSchema fault => "invalid schema: " ++ fault.message
  | .invalidStatement fault => "invalid statement: " ++ fault.message
  | .trackingNotActive operation =>
      "tracking is not active: " ++ operation ++ " requires an active tracking scope"
  | .typeMismatch subject expected found =>
      "type mismatch on " ++ named subject ++ ": expected " ++ expected.describe ++ ", found "
        ++ found.describe
  | .unknownColumn entity column =>
      "unknown column " ++ named column ++ " on entity " ++ named entity
  | .unknownEntity entity => "unknown entity " ++ named entity
  | .unknownNavigation entity navigation =>
      "unknown navigation " ++ named navigation ++ " on entity " ++ named entity

/-! ## Kinds -/

/-- What callers branch on. -/
inductive ErrorKind where
  | database
  | duplicateEntity
  | entityNotFound
  | incompatibleUnion
  | invalidPageRequest
  | invalidProjection
  | invalidSchema
  | invalidStatement
  | trackingNotActive
  | typeMismatch
  | unknownColumn
  | unknownEntity
  | unknownNavigation
deriving DecidableEq

/-- The kind of a cause.  Free text and the errors of other components have none. -/
def Cause.kind? : Cause → Option ErrorKind
  | .adhoc _ | .foreign _ | .inputOutput _ => none
  | .database _ => some .database
  | .duplicateEntity _ => some .duplicateEntity
  | .entityNotFound _ => some .entityNotFound
  | .incompatibleUnion _ _ => some .incompatibleUnion
  | .invalidPageRequest _ _ => some .invalidPageRequest
  | .invalidProjection _ => some .invalidProjection
  | .invalidSchema _ => some .invalidSchema
  | .invalidStatement _ => some .invalidStatement
  | .trackingNotActive _ => some .trackingNotActive
  | .typeMismatch _ _ _ => some .typeMismatch
  | .unknownColumn _ _ => some .unknownColumn
  | .unknownEntity _ => some .unknownEntity
  | .unknownNavigation _ _ => some .unknownNavigation

namespace Error

/-- Every cause of the chain, newest first. -/
def chain (error : Error) : List Cause := error.cause :: error.earlier

/-- The kind of the newest cause. -/
def kind? (error : Error) : Option ErrorKind := error.cause.kind?

/-- Whether some cause of the chain passes a test. -/
def anyCause (error : Error) (test : Cause → Bool) : Bool := error.chain.any test

/-- Whether some cause of the chain has the given kind. -/
def hasKind (error : Error) (kind : ErrorKind) : Bool :=
  error.anyCause fun cause => cause.kind? == some kind

/-- The wording of an error: its causes, newest first. -/
def message (error : Error) : String := ": ".intercalate (error.chain.map Cause.message)

/-- The wording of the error of another component that the newest cause wraps. -/
def source? (error : Error) : Option String :=
  match error.cause with
  | .database fault => some fault.message
  | .foreign text | .inputOutput text => some text
  | _ => none

/-- Puts the newest cause of `consequent` around an error.  Its earlier causes are not kept. -/
def context (error consequent : Error) : Error := ⟨consequent.cause, error.chain⟩

@[simp] theorem chain_context (error consequent : Error) :
    (error.context consequent).chain = consequent.cause :: error.chain := rfl

/-- Puts a context around an error that someone else still holds.  The context cannot be taken apart
then, so only its wording is kept. -/
def contextShared (error consequent : Error) : Error :=
  ⟨.adhoc consequent.cause.message, error.chain⟩

end Error

/-- What an operation that may fail answers. -/
abbrev Result (α : Type) := Except Error α

/-- Fails with a cause and no context. -/
def fail {α : Type} (cause : Cause) : Result α := .error cause

end TrackedQuery
