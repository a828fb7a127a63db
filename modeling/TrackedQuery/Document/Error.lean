import TrackedQuery.Document
import TrackedQuery.Error

/-!
# Documents of errors

An error is written with the name of its kind, its text, and the names of the kinds of all its
causes.
-/

namespace TrackedQuery

/-- The name of a kind of error. -/
def ErrorKind.name : ErrorKind → String
  | .database => "Driver"
  | .duplicateEntity => "DuplicateEntity"
  | .entityNotFound => "EntityNotFound"
  | .incompatibleUnion => "IncompatibleUnion"
  | .invalidPageRequest => "InvalidPageRequest"
  | .invalidProjection => "InvalidProjection"
  | .invalidSchema => "InvalidSchema"
  | .invalidStatement => "InvalidStatement"
  | .trackingNotActive => "TrackingNotActive"
  | .typeMismatch => "TypeMismatch"
  | .unknownColumn => "UnknownColumn"
  | .unknownEntity => "UnknownEntity"
  | .unknownNavigation => "UnknownNavigation"

/-- Every kind of error, in the order of the names. -/
def ErrorKind.every : List ErrorKind :=
  [.database, .duplicateEntity, .entityNotFound, .incompatibleUnion, .invalidPageRequest,
    .invalidProjection, .invalidSchema, .invalidStatement, .trackingNotActive, .typeMismatch,
    .unknownColumn, .unknownEntity, .unknownNavigation]

namespace Error

/-- The name of the kind of an error. -/
def kindName (error : Error) : String :=
  match error.kind? with
  | some kind => kind.name
  | none => "Other"

/-- The members of the document of an error. -/
def members (error : Error) : List (String × Document) :=
  [("error", .text error.kindName), ("message", .text error.message),
    ("causes", .all (fun kind => .text kind.name) (ErrorKind.every.filter error.hasKind))]

/-- The document of an error. -/
def document (error : Error) : Document := .record error.members

end Error

/-- The document of a result. -/
def Result.document {α : Type} (document : α → Document) : Result α → Document
  | .ok value => document value
  | .error error => error.document

end TrackedQuery
