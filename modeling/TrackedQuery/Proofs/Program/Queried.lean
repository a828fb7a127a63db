import TrackedQuery.Proofs.Program.Answer
import TrackedQuery.Proofs.Program.Written
import TrackedQuery.Proofs.Query.Rooted

/-!
# Sessions in which programs are run

A scheme that asks nothing (`Scheme.free`) is kept by every program, whatever the closures of the
program do.  What a sound session has apart from its rule is so had by every session that is reached
from a new one by running programs (`Session.Queried.sound`).  In particular the tables of every
query that a program ends with are roots of the context of the query (`Program.rooted`).
-/

namespace TrackedQuery

/-! ## A scheme that asks nothing -/

/-- The scheme that asks nothing of columns, plans and databases. -/
def Scheme.free : Scheme := ⟨⟨false, fun _ => True, fun _ _ => True⟩, fun _ => False⟩

private theorem Scheme.admitsCompiled_free : Scheme.free.rule.AdmitsCompiled :=
  fun _ _ _ _ _ _ => trivial

private theorem Expr.obeys_free (expr : Expr) (around : List Level) :
    expr.Obeys Scheme.free.rule around := by
  have plans : ∀ visit ∈ expr.visits 0, ∀ plan, visit.node = .plan plan →
      Scheme.free.rule.plan plan := fun _ _ _ _ => trivial
  exact (obeys_of_visits rfl).expr expr plans

private theorem Program.fits_free (program : Program) (outer : List String) :
    program.Fits .free outer :=
  program.fits_of_written rfl outer fun expr _ => expr.obeys_free []

private theorem Program.kept_free (program : Program) : program.Kept .free :=
  program.isKept fun text _ => Scheme.admitsCompiled_free.admits text

/-! ## Sessions in which programs are run -/

private theorem Session.apart_askAll (stage : Stage) (endings : List Ending) :
    SessionM.Apart (Session.askAll stage endings) := by
  induction endings with
  | nil => exact .pure _
  | cons ending rest ih => exact (apart_ask stage ending).bind fun _ => ih.bind fun _ => .pure _

/-- A query that a program has ended with may be kept. -/
theorem Session.keeps_keepStage {scheme : Scheme} {start : Recording} {stack : List Closure}
    {stage : Stage} (kept : stage.KeptAs scheme.rule start) (name : String) :
    Keeps scheme start stack
      (modifyThe Session fun session => { session with stages := session.stages.put name stage })
      stack (fun _ _ => True) := by
  rintro session rfl sound
  refine ⟨⟨sound.recording, sound.terms, fun other stage' found => ?_, sound.connections⟩, .refl _,
    trivial⟩
  change (session.stages.put name stage).get? other = some stage' at found
  by_cases same : other = name
  · subst same
    rw [Names.get?_put_self] at found
    cases found
    exact kept
  · rw [Names.get?_put_of_ne same] at found
    exact sound.stages other stage' found

/-- Running a program, asking the query that it ends with, and keeping it. -/
theorem Session.keeps_runQuery (program : Program) (endings : List Ending) (keepAs : Option String)
    (start : Recording) :
    Keeps .free start [] (runQuery program endings keepAs) [] (fun _ _ => True) := by
  have none_exist : Frame.TablesExist start [] := List.forall_mem_nil _
  refine (program.kept_free (program.fits_free _) none_exist).bind
    fun first outcome _ meets => ?_
  cases outcome with
  | error failure => exact .pure trivial
  | ok stage =>
      obtain ⟨sound, outermost, -, -⟩ := meets.holds stage rfl
      refine (Session.apart_askAll stage endings).keeps.bind fun second replies grows _ => ?_
      cases keepAs with
      | none => exact .pure trivial
      | some name =>
          have kept : stage.KeptAs Scheme.free.rule second :=
            ⟨sound.mono grows, outermost.mono sound.valid.known grows, Scheme.admitsCompiled_free⟩
          exact (keeps_keepStage kept name).bind fun _ _ _ _ => .pure trivial

/-- A session that is reached from a new one by running programs. -/
inductive Session.Queried : Session → Prop
  | start (connection : Connection) (types : List EntityType) :
      Queried (.start connection types)
  | query {session : Session} (before : session.Queried) (program : Program)
      (endings : List Ending) (keepAs : Option String) :
      Queried (runQuery program endings keepAs session).2

/-- Whatever holds of every sound session holds of one in which programs were run. -/
theorem Session.Queried.sound {session : Session} (queried : session.Queried) :
    session.Sound .free [] := by
  induction queried with
  | start connection types => exact Session.sound_start types trivial
  | query _ program endings keepAs ih =>
      exact (Session.keeps_runQuery program endings keepAs _ _ rfl ih).1

/-- The tables of a sound query are roots of its context. -/
theorem Stage.Sound.rooted {rule : Rule} {recording : Recording} {stage : Stage}
    (sound : stage.Sound rule recording) (contexts : recording.ContextsSound rule) :
    stage.Rooted recording := by
  obtain ⟨valid, roots⟩ := sound
  have led := (contexts stage.context valid.known).context.paths
  cases stage with
  | query built => exact ⟨valid.known, led, roots⟩
  | grouped built => exact ⟨valid.known, led, roots⟩
  | projected built => trivial

/-- The tables of every query that a program ends with are roots. -/
theorem Program.rooted (program : Program) {session after : Session} (queried : session.Queried)
    {stage : Stage} (reached : program.evaluate [] session = (.ok stage, after)) :
    stage.Rooted after.recording := by
  have none_exist : Frame.TablesExist session.recording [] := List.forall_mem_nil _
  have kept := program.kept_free (program.fits_free (Closure.namesOf [])) none_exist
  obtain ⟨after_sound, -, meets⟩ := kept session rfl queried.sound
  rw [reached] at after_sound meets
  exact (meets.holds stage rfl).sound.rooted after_sound.recording.contexts

end TrackedQuery
