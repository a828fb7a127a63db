/-!
# Types of columns, literals and projected expressions

Two relations between types decide what may meet.  `Ty.accepts` is the lenient one, used wherever a
value is compared with a column or stored in it: numbers of any width meet, and `null` meets
everything.  `Ty.unifies` is the strict one, used to stack the rows of two queries: it differs in
that numeric types meet only themselves.
-/

namespace TrackedQuery

/-- The type of a column, a literal or a projected expression. -/
inductive Ty where
  | bool
  | int32
  | int64
  | float
  | string
  /-- A list whose items share a type. -/
  | list (item : Ty)
  /-- A tuple of fixed width, the type of a composite key. -/
  | record (fields : List Ty)
  /-- The type of the `NULL` literal. -/
  | null
deriving Inhabited

namespace Ty

/-- Whether the type is one of the three numeric types. -/
def isNumeric : Ty → Bool
  | .int32 | .int64 | .float => true
  | _ => false

/-- Whether the type is `bool`. -/
def isBool : Ty → Bool
  | .bool => true
  | _ => false

/-- Whether the type is `string`. -/
def isString : Ty → Bool
  | .string => true
  | _ => false

/-- Whether the type is `null`. -/
def isNull : Ty → Bool
  | .null => true
  | _ => false

mutual

/-- Structural equality. -/
def same : Ty → Ty → Bool
  | .bool, .bool | .int32, .int32 | .int64, .int64 | .float, .float | .string, .string
  | .null, .null => true
  | .list left, .list right => left.same right
  | .record left, .record right => sameFields left right
  | _, _ => false

/-- Structural equality, field by field. -/
def sameFields : List Ty → List Ty → Bool
  | [], [] => true
  | left :: lefts, right :: rights => left.same right && sameFields lefts rights
  | _, _ => false

end

mutual

/-- Whether a value of the second type may be compared with, or stored in, a column of the first. -/
def accepts : Ty → Ty → Bool
  | _, .null | .null, _ => true
  | .list left, .list right => left.accepts right
  | .record left, .record right => acceptsFields left right
  | left, right => left.isNumeric && right.isNumeric || left.same right

/-- `accepts`, field by field, for tuples of one width. -/
def acceptsFields : List Ty → List Ty → Bool
  | [], [] => true
  | left :: lefts, right :: rights => left.accepts right && acceptsFields lefts rights
  | _, _ => false

end

mutual

/-- Whether a column of the first type and one of the second may be stacked by a set operation. -/
def unifies : Ty → Ty → Bool
  | _, .null | .null, _ => true
  | .list left, .list right => left.unifies right
  | .record left, .record right => unifiesFields left right
  | left, right => left.same right

/-- `unifies`, field by field, for tuples of one width. -/
def unifiesFields : List Ty → List Ty → Bool
  | [], [] => true
  | left :: lefts, right :: rights => left.unifies right && unifiesFields lefts rights
  | _, _ => false

end

/-- The type of an average over arguments of the given type. -/
def averaged (ty : Ty) : Ty := if ty.isNumeric then .float else ty

/-- The type of a sum over arguments of the given type.  Integer sums widen. -/
def summed : Ty → Ty
  | .int32 | .int64 => .int64
  | ty => ty

/-! ## Text -/

/-- Items between square brackets, separated by commas. -/
def bracketed (items : List String) : String := "[" ++ ", ".intercalate items ++ "]"

mutual

/-- The name of a type in messages. -/
def describe : Ty → String
  | .bool => "Bool"
  | .int32 => "I32"
  | .int64 => "I64"
  | .float => "F64"
  | .string => "String"
  | .list item => "List(" ++ item.describe ++ ")"
  | .record fields => "Record(" ++ bracketed (describeFields fields) ++ ")"
  | .null => "Null"

/-- The names of the types of a tuple. -/
def describeFields : List Ty → List String
  | [] => []
  | field :: rest => field.describe :: describeFields rest

end

/-- A list of types in messages. -/
def describeAll (types : List Ty) : String := bracketed (describeFields types)

end Ty

end TrackedQuery
