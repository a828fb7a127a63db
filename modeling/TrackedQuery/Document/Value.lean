import TrackedQuery.Document
import TrackedQuery.Value

/-!
# Documents of types and values

A value is tagged with its kind, so that numbers of different widths stay apart.  A floating-point
number is written by its bits, which keeps every NaN and the sign of zero.
-/

namespace TrackedQuery

/-- The bits of a number, as sixteen hexadecimal digits. -/
def Binary64.hex (number : Binary64) : String :=
  let digits := Nat.toDigits 16 number.bits.toNat
  String.ofList (List.replicate (16 - digits.length) '0' ++ digits)

mutual

/-- The document of a type. -/
def Ty.document : Ty → Document
  | .bool => .text "bool"
  | .int32 => .text "i32"
  | .int64 => .text "i64"
  | .float => .text "f64"
  | .string => .text "str"
  | .null => .text "null"
  | .list item => .tagged "list" item.document
  | .record fields => .tagged "rec" (.list (Ty.documents fields))

/-- The documents of types. -/
def Ty.documents : List Ty → List Document
  | [] => []
  | type :: rest => type.document :: Ty.documents rest

end

/-- The document of a list of types. -/
def Ty.listDocument (types : List Ty) : Document := .list (Ty.documents types)

mutual

/-- The document of a value. -/
def Value.document : Value → Document
  | .null => .null
  | .bool content => .tagged "bool" (.truth content)
  | .int32 content => .tagged "i32" (.number content.toInt)
  | .int64 content => .tagged "i64" (.longNumber content.toInt)
  | .float content => .tagged "f64" (.text content.hex)
  | .string content => .tagged "str" (.text content)
  | .list items => .tagged "list" (.list (Value.documents items))
  | .record fields => .tagged "rec" (.list (Value.documents fields))

/-- The documents of values. -/
def Value.documents : List Value → List Document
  | [] => []
  | first :: rest => first.document :: Value.documents rest

end

/-- The document of a row. -/
def Value.rowDocument (row : Row) : Document := .list (Value.documents row)

end TrackedQuery
