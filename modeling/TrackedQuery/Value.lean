import TrackedQuery.Binary64.Shortest
import TrackedQuery.Text.Quoted
import TrackedQuery.Ty

/-!
# Values

The values that literals hold, that rows carry and that keys are made of.  Three notions of sameness
are kept apart, because they differ on floating-point numbers at any depth:

* `Value.equal` compares numbers as numbers, so a NaN differs from itself and the two zeros agree;
* `Value.identical` compares bits;
* `Value.hashFeed` is what a value contributes to a hash, again by bits.

A keyed store finds an entry when feed and equality both agree (`Value.foundUnder`).
-/

namespace TrackedQuery

/-- A literal, a column of a row, or a part of one. -/
inductive Value where
  | bool (value : Bool)
  | int32 (value : Int32)
  | int64 (value : Int64)
  | float (value : Binary64)
  | string (value : String)
  | list (items : List Value)
  /-- A tuple: a row, or the values of a composite key. -/
  | record (fields : List Value)
  | null
deriving Inhabited

/-- The columns of a row in declaration order. -/
abbrev Row := List Value

namespace Value

/-- Whether the value is `NULL`. -/
def isNull : Value → Bool
  | .null => true
  | _ => false

/-- Whether the value is a tuple. -/
def isRecord : Value → Bool
  | .record _ => true
  | _ => false

/-- Whether the value is a list. -/
def isList : Value → Bool
  | .list _ => true
  | _ => false

/-- The text of a string value. -/
def string? : Value → Option String
  | .string value => some value
  | _ => none

/-- The fields of a tuple. -/
def record? : Value → Option Row
  | .record fields => some fields
  | _ => none

/-! ## Types -/

mutual

/-- The type a literal is given.  A list takes the type of its first item that is not `NULL`. -/
def inferTy : Value → Ty
  | .bool _ => .bool
  | .int32 _ => .int32
  | .int64 _ => .int64
  | .float _ => .float
  | .string _ => .string
  | .list items => .list (inferItemTy items)
  | .record fields => .record (inferFieldTys fields)
  | .null => .null

/-- The type of the first item that is not `NULL`. -/
def inferItemTy : List Value → Ty
  | [] => .null
  | item :: rest => if item.isNull then inferItemTy rest else item.inferTy

/-- The type of every field. -/
def inferFieldTys : List Value → List Ty
  | [] => []
  | field :: rest => field.inferTy :: inferFieldTys rest

end

/-- Whether a value may be stored in a column of the given type, judged by its inferred type. -/
def isA (value : Value) (ty : Ty) : Bool := ty.accepts value.inferTy

/-! ## Sameness -/

mutual

/-- Equality with numbers compared as numbers. -/
def equal : Value → Value → Bool
  | .bool left, .bool right => left == right
  | .int32 left, .int32 right => left == right
  | .int64 left, .int64 right => left == right
  | .float left, .float right => left.numericEq right
  | .string left, .string right => left == right
  | .list left, .list right => equalAll left right
  | .record left, .record right => equalAll left right
  | .null, .null => true
  | _, _ => false

/-- `equal`, position by position. -/
def equalAll : List Value → List Value → Bool
  | [], [] => true
  | left :: lefts, right :: rights => left.equal right && equalAll lefts rights
  | _, _ => false

end

mutual

/-- Equality with floating-point numbers compared by their bits. -/
def identical : Value → Value → Bool
  | .bool left, .bool right => left == right
  | .int32 left, .int32 right => left == right
  | .int64 left, .int64 right => left == right
  | .float left, .float right => left.bits == right.bits
  | .string left, .string right => left == right
  | .list left, .list right => identicalAll left right
  | .record left, .record right => identicalAll left right
  | .null, .null => true
  | _, _ => false

/-- `identical`, position by position. -/
def identicalAll : List Value → List Value → Bool
  | [], [] => true
  | left :: lefts, right :: rights => left.identical right && identicalAll lefts rights
  | _, _ => false

end

/-- One item of what a value contributes to a hash. -/
inductive HashItem where
  /-- Which kind of value follows. -/
  | kind (index : Nat)
  | bool (value : Bool)
  | int (value : Int)
  | bits (value : UInt64)
  | text (value : String)
  /-- How many values follow. -/
  | count (length : Nat)
deriving DecidableEq

mutual

/-- What a value contributes to a hash: its kind, then its contents, with a length before the parts
of a list or a tuple. -/
def hashFeed : Value → List HashItem
  | .bool value => [.kind 0, .bool value]
  | .int32 value => [.kind 1, .int value.toInt]
  | .int64 value => [.kind 2, .int value.toInt]
  | .float value => [.kind 3, .bits value.bits]
  | .string value => [.kind 4, .text value]
  | .list items => .kind 5 :: .count items.length :: hashFeedAll items
  | .record fields => .kind 6 :: .count fields.length :: hashFeedAll fields
  | .null => [.kind 7]

/-- The contributions of several values, one after the other. -/
def hashFeedAll : List Value → List HashItem
  | [] => []
  | value :: rest => value.hashFeed ++ hashFeedAll rest

end

/-- Whether a keyed store that holds the first value finds it under the second: the hashes must
agree before equality is asked. -/
def foundUnder (stored probe : Value) : Bool :=
  stored.hashFeed == probe.hashFeed && stored.equal probe

/-- A value set after adding one value. -/
def insertDistinct (stored : List Value) (value : Value) : List Value :=
  if stored.any (·.foundUnder value) then stored else stored ++ [value]

/-! ## Text -/

mutual

/-- The text of a value in messages: its kind, and its contents in parentheses. -/
def describe : Value → String
  | .bool value => "Bool(" ++ (if value then "true" else "false") ++ ")"
  | .int32 value => "I32(" ++ toString value.toInt ++ ")"
  | .int64 value => "I64(" ++ toString value.toInt ++ ")"
  | .float value => "F64(" ++ value.text ++ ")"
  | .string value => "String(" ++ Text.quoted value ++ ")"
  | .list items => "List(" ++ Ty.bracketed (describeItems items) ++ ")"
  | .record fields => "Record(" ++ Ty.bracketed (describeItems fields) ++ ")"
  | .null => "Null"

/-- The text of each value. -/
def describeItems : List Value → List String
  | [] => []
  | value :: rest => value.describe :: describeItems rest

end

/-- The text of a row in messages. -/
def describeRow (row : Row) : String := Ty.bracketed (describeItems row)

end Value

end TrackedQuery
