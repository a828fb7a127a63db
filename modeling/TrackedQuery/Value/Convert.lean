import TrackedQuery.Error

/-!
# Reading values at a type

A value is read as a truth value, a number or a text when it is one.  Integers widen, narrow when
they fit, and become the nearest floating-point number; nothing else is converted.  `Reading`
bundles a type with whether absence is admitted: it describes how one column of an entity is loaded,
and what a column handle promises to read.
-/

namespace TrackedQuery

namespace Value

/-- The failure to read a value at a type. -/
def mismatch {α : Type} (value : Value) (ty : Ty) : Result α :=
  fail (.typeMismatch "value" ty value.inferTy)

/-- Reads a truth value. -/
def toBool : Value → Result Bool
  | .bool value => .ok value
  | value => value.mismatch .bool

/-- Reads a 32-bit integer. -/
def toInt32 : Value → Result Int32
  | .int32 value => .ok value
  | .int64 value =>
      if Int32.minValue.toInt ≤ value.toInt && value.toInt ≤ Int32.maxValue.toInt then
        .ok (Int32.ofInt value.toInt)
      else (Value.int64 value).mismatch .int32
  | value => value.mismatch .int32

/-- Reads a 64-bit integer. -/
def toInt64 : Value → Result Int64
  | .int32 value => .ok value.toInt64
  | .int64 value => .ok value
  | value => value.mismatch .int64

/-- Reads a floating-point number. -/
def toFloat : Value → Result Binary64
  | .float value => .ok value
  | .int32 value => .ok (.ofInt value.toInt)
  | .int64 value => .ok (.ofInt value.toInt)
  | value => value.mismatch .float

/-- Reads a text. -/
def toText : Value → Result String
  | .string value => .ok value
  | value => value.mismatch .string

end Value

/-- What a value is read as. -/
inductive Scalar where
  | bool
  | int32
  | int64
  | float
  | string
  /-- The value itself, whatever it is. -/
  | any
deriving DecidableEq

namespace Scalar

/-- The type of the values read.  `null` stands for every type. -/
def ty : Scalar → Ty
  | .bool => .bool
  | .int32 => .int32
  | .int64 => .int64
  | .float => .float
  | .string => .string
  | .any => .null

/-- The scalar that columns of a type are read as. -/
def ofTy : Ty → Scalar
  | .bool => .bool
  | .int32 => .int32
  | .int64 => .int64
  | .float => .float
  | .string => .string
  | .list _ | .record _ | .null => .any

/-- Reads a value. -/
def load (scalar : Scalar) (value : Value) : Result Value :=
  match scalar with
  | .bool => value.toBool.map .bool
  | .int32 => value.toInt32.map .int32
  | .int64 => value.toInt64.map .int64
  | .float => value.toFloat.map .float
  | .string => value.toText.map .string
  | .any => .ok value

end Scalar

/-- How a value is read, and whether it may be absent. -/
structure Reading where
  scalar : Scalar
  optional : Bool
deriving DecidableEq

/-- Reads a value; `NULL` stays `NULL` when absence is admitted. -/
def Reading.load (reading : Reading) (value : Value) : Result Value :=
  if reading.optional && value.isNull then .ok .null else reading.scalar.load value

end TrackedQuery
