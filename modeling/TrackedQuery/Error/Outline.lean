import TrackedQuery.Error

/-!
# Errors as outlines

Beside its one-line message an error can be laid out as a tree, one field to a line, which shows the
parts of every cause.
-/

namespace TrackedQuery

namespace Outline

/-- A text with every line but the first moved four columns to the right. -/
def indented (text : String) : String := text.replace "\n" "\n    "

/-- Items on lines of their own between two marks, or the bare marks when there are none. -/
def block (opening : String) (items : List String) (closing : String) : String :=
  if items.isEmpty then opening ++ closing
  else
    opening ++ "\n" ++ String.join (items.map fun item => "    " ++ indented item ++ ",\n")
      ++ closing

/-- A name with the one thing it holds. -/
def wrapper (name item : String) : String := block (name ++ "(") [item] ")"

/-- A name with its fields. -/
def fields (name : String) (items : List (String × String)) : String :=
  block (name ++ " \x7b") (items.map fun (field, text) => field ++ ": " ++ text) "\x7d"

/-- A sequence. -/
def sequence (items : List String) : String := block "[" items "]"

/-- Something that may be absent. -/
def optional : Option String → String
  | none => "None"
  | some text => wrapper "Some" text

end Outline

mutual

/-- The outline of a type. -/
def Ty.outline : Ty → String
  | .list item => Outline.wrapper "List" item.outline
  | .record fields => Outline.wrapper "Record" (Outline.sequence (Ty.outlineFields fields))
  | ty => ty.describe

/-- The outline of every type of a tuple. -/
def Ty.outlineFields : List Ty → List String
  | [] => []
  | field :: rest => field.outline :: Ty.outlineFields rest

end

open Outline in
/-- The outline of a cause: its kind around its parts. -/
def Cause.outline (cause : Cause) : String :=
  let part (name : String) (items : List (String × String)) := wrapper name (fields name items)
  let single (name field text : String) := part name [(field, Text.quoted text)]
  match cause with
  | .adhoc text => wrapper "Adhoc" (fields "AdhocError" [("message", Text.quoted text)])
  | .foreign text => wrapper "Anyhow" (Text.quoted text)
  | .inputOutput text =>
      wrapper "Anyhow" (fields "Custom" [("kind", "Other"), ("error", Text.quoted text)])
  | .database (.reported text _) =>
      wrapper "Driver" (fields "DriverError" [("inner", Text.quoted text)])
  | .database fault =>
      wrapper "Driver" (fields "DriverError" [("inner", Text.quoted fault.message)])
  | .duplicateEntity entity => single "DuplicateEntity" "entity" entity
  | .entityNotFound text => part "EntityNotFound" [("message", optional (text.map Text.quoted))]
  | .incompatibleUnion left right =>
      part "IncompatibleUnion"
        [("lhs", sequence (Ty.outlineFields left)), ("rhs", sequence (Ty.outlineFields right))]
  | .invalidPageRequest index size =>
      part "InvalidPageRequest" [("page_index", toString index), ("page_size", toString size)]
  | .invalidProjection fault => single "InvalidProjection" "message" fault.message
  | .invalidSchema fault => single "InvalidSchema" "message" fault.message
  | .invalidStatement fault => single "InvalidStatement" "message" fault.message
  | .trackingNotActive operation => single "TrackingNotActive" "operation" operation
  | .typeMismatch subject expected found =>
      part "TypeMismatch"
        [("column", Text.quoted subject), ("expected", expected.outline), ("actual", found.outline)]
  | .unknownColumn entity column =>
      part "UnknownColumn" [("entity", Text.quoted entity), ("column", Text.quoted column)]
  | .unknownEntity entity => single "UnknownEntity" "entity" entity
  | .unknownNavigation entity navigation =>
      part "UnknownNavigation"
        [("entity", Text.quoted entity), ("navigation", Text.quoted navigation)]

/-- The outline of a chain of causes, each inside the one put around it. -/
def Cause.outlineChain : List Cause → Option String
  | [] => none
  | cause :: earlier =>
      some (Outline.fields "Error"
        [("kind", cause.outline), ("cause", Outline.optional (Cause.outlineChain earlier))])

/-- The outline of an error. -/
def Error.outline (error : Error) : String := (Cause.outlineChain error.chain).getD ""

end TrackedQuery
