import TrackedQuery.Query.Terminal
import TrackedQuery.Query.Subquery

/-!
# Query programs

A query program is a query written down: an entity to start from, and steps to take one after the
other.  The bodies of clauses are lists of forms.  A form yields a value (a table, a column, a
predicate and so on) and may record a statement on the way, as the functions it stands for do.

Bodies nest.  Inside a body, the tables of its clause come first, and those of the clauses around it
follow, counted outwards.
-/

namespace TrackedQuery

/-- What is asked of a query, whatever kind of query it is. -/
inductive Question where
  | plan
  | pagePlans (index size : Int)
  /-- The types of the projected items. -/
  | shape
  | list
  | first?
  | first (text : Option String)
  | count
  | any
  | page (index size : Int)
  /-- All rows, as instances of the named entity. -/
  | entities (entity : String)

/-- A question, and what becomes of the answer. -/
structure Ending where
  question : Question
  /-- What the names start with under which instances are kept. -/
  saveAs : Option String
  /-- The name under which a query is kept that is only started. -/
  startAs : Option String

/-- Where a program begins. -/
inductive Beginning where
  /-- The table of an entity, on a named connection. -/
  | entity (connection : Option String) (name : String)
  /-- A query that was kept under a name. -/
  | kept (name : String)

mutual

/-- A part of a clause body. -/
inductive Form where
  /-- A table of the clause that lies the given number of clauses further out. -/
  | table (index outwards : Nat)
  /-- The table of the named entity that a navigation leads to. -/
  | navigate (table : Form) (name entity : String)
  /-- A column, to be read at the given type. -/
  | column (table : Form) (name : String) (scalar : Scalar)
  | allColumns (table : Form)
  /-- A key of the grouped query that the clause belongs to, counted from 0. -/
  | key (index : Nat)
  | literal (value : Value)
  | typed (expr : TypedExpr)
  /-- A value as an expression. -/
  | toExpr (form : Form)
  /-- A value by reference: a predicate remains a statement of its own. -/
  | byReference (form : Form)
  | compare (op : CompareOp) (lhs rhs : Form)
  | matchText (column : Form) (kind : TextMatch) (text : String)
  | inList (column : Form) (items : List Form) (negated : Bool)
  | between (column lower upper : Form)
  /-- The column is among the rows of a projection nested over the named entity. -/
  | inQuery (column : Form) (entity : String) (steps : List Step)
  | isNull (operand : Form) (negated : Bool)
  | sortBy (operand : Form) (direction : Direction)
  | aggregate (column : Form) (function : AggregateFunction) (distinct : Bool)
  | countRows
  /-- An aggregate over the rows that satisfy the statements of a body. -/
  | restrict (aggregate : Form) (body : List Form)
  /-- A query nested over the named entity has a row, or has none. -/
  | anyRow (table : Form) (entity : String) (steps : List Step) (negated : Bool)
  | and (lhs rhs : Form)
  | or (lhs rhs : Form)
  | not (operand : Form)
  /-- Keeps a value under a name. -/
  | keep (name : String) (form : Form)
  /-- The value kept under a name. -/
  | kept (name : String)
  /-- Notes a value for the observer. -/
  | observe (form : Form)

/-- A step of a program. -/
inductive Step where
  | filterBy (body : List Form)
  /-- Adds a filter if the condition holds; else the body is not evaluated. -/
  | filterByIf (condition : Bool) (body : List Form)
  | filterByKey (id : Value)
  | orderBy (body : List Form)
  | join (kind : JoinKind) (entity : String) (body : List Form)
  | joinQuery (kind : JoinKind) (source : Program) (body : List Form)
  | asTable (table : String)
  | asTracking
  | withDeleted
  | limit (limit : Nat)
  | offset (offset : Nat)
  | stack (op : SetOperator) (other : Program)
  /-- Projects to the items of a body; the tables and keys may be counted for the observer first. -/
  | select (body : List Form) (counted : Bool)
  | groupBy (body : List Form)
  | having (body : List Form)
  /-- Asks a question on the way, and notes the answer for the observer. -/
  | ask (ending : Ending)

/-- A query written down. -/
structure Program where
  beginning : Beginning
  steps : List Step

end

/-- A program that failed: the position of the step, and the error. -/
structure StepFailure where
  position : Nat
  error : Error

/-- A query at some point of a program. -/
inductive Stage where
  | query (query : Query)
  | grouped (query : GroupedQuery)
  | projected (query : ProjectedQuery)

/-- The stage as a query without groups and projection. -/
def Stage.toQuery : Stage → Result Query
  | .query built => .ok built
  | .grouped _ | .projected _ => fail (.adhoc "the program does not end in a query")

/-- The stage as a projection. -/
def Stage.toProjected : Stage → Result ProjectedQuery
  | .projected built => .ok built
  | .query _ | .grouped _ => fail (.adhoc "the program does not end in a projection")

end TrackedQuery
