import TrackedQuery.Document.Error
import TrackedQuery.Document.Plan
import TrackedQuery.Session

/-!
# Documents of answers and sessions
-/

namespace TrackedQuery

/-! ## Answers of queries -/

/-- The document of an instance. -/
def Instance.document (subject : Instance) : Document :=
  .record [("entity", .text subject.entity), ("record", Value.rowDocument subject.record)]

/-- The document of a page. -/
def Page.document (page : Page) : Document :=
  .record [("total", .longNumber page.total), ("len", .natural page.items.length),
    ("empty", .truth page.items.isEmpty), ("items", .all Instance.document page.items)]

/-- The document of an outcome. -/
def Outcome.document : Outcome → Document
  | .list instances => .all Instance.document instances
  | .first? found => .option Instance.document found
  | .first found => found.document
  | .count number => .longNumber number
  | .any found => .truth found
  | .page content => content.document
  | .rows found => .all Value.rowDocument found

/-- The document of a reply. -/
def Reply.document : Reply → Document
  | .plan content => content.document
  | .pagePlans plans =>
      .record [("count", plans.count.document), ("data", plans.data.document)]
  | .shape types => Ty.listDocument types
  | .outcome content => content.document
  | .started => .text "started"

/-! ## Observations -/

/-- The document of what an observer sees of a value. -/
def View.document : View → Document
  | .table binding =>
      .tagged "table"
        (.record [("alias", .option (fun bound => .natural bound.1) binding),
          ("entity", .option (fun bound => .text bound.2) binding),
          ("poisoned", .truth binding.isNone)])
  | .column name ty content =>
      .tagged "column"
        (.record [("name", .text name), ("ty", ty.document), ("expr", content.document)])
  | .columns => .text "all"
  | .expr content => content.document
  | .aggregate content =>
      .record [("aggregate", content.expr.document), ("ty", content.ty.document)]
  | .predicate content => .tagged "predicate" content.document
  | .literal content => .tagged "lit" content.document
  | .nothing => .null

/-- The document of an observation. -/
def Observation.document : Observation → Document
  | .view content => content.document
  | .counted keys tables => .record [("keys", .natural keys), ("tables", .natural tables)]
  | .reply content => Result.document Reply.document content
  | .noKey => .null

/-- Whether the observer was told that a key was referred to where there is none. -/
def Observation.isNoKey : Observation → Bool
  | .noKey => true
  | .view _ | .counted _ _ | .reply _ => false

/-! ## Tracking -/

/-- The document of a key. -/
def EntityKey.document (key : EntityKey) : Document :=
  .record [("entity", .text key.entity), ("key", key.key.document), ("display", .text key.describe)]

/-- The document of a snapshot. -/
def Snapshot.document (snapshot : Snapshot) : Document :=
  .list [snapshot.key.document, Value.rowDocument snapshot.record]

/-- The name of a mode. -/
def ChangeMode.name : ChangeMode → String
  | .diff => "diff"
  | .full => "full"

/-- The document of a change set, with each change looked up again under its name. -/
def ChangeSet.document (changes : ChangeSet) : Document :=
  .record [("key", changes.key.document), ("mode", .text changes.mode.name),
    ("len", .natural changes.changes.length), ("empty", .truth changes.changes.isEmpty),
    ("changes", Assignments.document changes.changes),
    ("by_name", .all
      (fun change =>
        .list [.text change.name, .option Value.document (changes.get? change.name)])
      changes.changes),
    ("same", .truth true)]

/-! ## Sessions -/

mutual

/-- The document of the answer of a step. -/
def StepAnswer.document : StepAnswer → Document
  | .replies found => .all (Result.document Reply.document) found
  | .failedStep failure => .record (("at", .natural failure.position) :: failure.error.members)
  | .failed error => error.document
  | .views found => .all View.document found
  | .number content => .natural content
  | .nothing => .null
  | .done => .text "ok"
  | .tracker depth active => .record [("depth", .natural depth), ("active", .truth active)]
  | .snapshot found =>
      .record [("tracked", .truth found.isSome), ("snapshot", .option Snapshot.document found)]
  | .key found => found.document
  | .keptInstance subject => subject.document
  | .changes found => found.document
  | .update found => .option Update.document found
  | .written count => .longNumber count
  | .reply content => Result.document Reply.document content
  | .reports found => .list (StepReport.documents found)

/-- The document of a step as it is reported. -/
def StepReport.document : StepReport → Document
  | ⟨answer, operations, depth, observations⟩ =>
      .record ([("r", answer.document), ("ops", .all Operation.document operations),
        ("depth", .natural depth)]
        ++ if observations.isEmpty then []
          else [("probes", .all Observation.document observations)])

/-- The documents of steps. -/
def StepReport.documents : List StepReport → List Document
  | [] => []
  | first :: rest => first.document :: StepReport.documents rest

end

mutual

/-- Whether a key was referred to where there is none, in the step or on a thread that it ran. -/
def StepReport.lacksKey : StepReport → Bool
  | ⟨answer, _, _, observations⟩ =>
      observations.any Observation.isNoKey ||
        match answer with
        | .reports found => StepReport.anyLacksKey found
        | _ => false

/-- `StepReport.lacksKey` of some report. -/
def StepReport.anyLacksKey : List StepReport → Bool
  | [] => false
  | first :: rest => first.lacksKey || StepReport.anyLacksKey rest

end

/-- The document of a session.  A session that refers to a key where there is none is refused. -/
def StepReport.sessionDocument (reports : List StepReport) : Document :=
  if StepReport.anyLacksKey reports then .refusal "no such key"
  else .record [("steps", .list (StepReport.documents reports))]

end TrackedQuery
