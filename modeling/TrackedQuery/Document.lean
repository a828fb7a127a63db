/-!
# Documents

A document is a tree of named and numbered parts.  Everything that leaves the library (values,
plans, operations, answers) has a document, and how documents are written down is up to the program
that sends them.  Numbers of more than 53 bits are written as text, because readers often keep
numbers in floating point.
-/

namespace TrackedQuery

/-- A tree of named and numbered parts. -/
inductive Document where
  | null
  | truth (value : Bool)
  | number (value : Int)
  | text (value : String)
  | list (items : List Document)
  | record (members : List (String × Document))

namespace Document

/-- A natural number. -/
def natural (value : Nat) : Document := .number value

/-- A number that may be long, as text. -/
def longNumber (value : Int) : Document := .text (toString value)

/-- A part that may be absent. -/
def option {α : Type} (document : α → Document) : Option α → Document
  | none => .null
  | some value => document value

/-- The parts of a list. -/
def all {α : Type} (document : α → Document) (values : List α) : Document :=
  .list (values.map document)

/-- A document with one named part. -/
def tagged (name : String) (part : Document) : Document := .record [(name, part)]

/-- The document of something that was asked in a form it cannot be asked in. -/
def refusal (message : String) : Document :=
  .record [("error", .text "BadInput"), ("message", .text message)]

end Document

end TrackedQuery
