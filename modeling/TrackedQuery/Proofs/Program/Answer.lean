import TrackedQuery.Proofs.Program.Evaluate
import TrackedQuery.Session

/-!
# Programs asked for their plans

What a new session answers to a program that is asked for the plan of its query
(`Program.planAnswer`).  If the closures of the program keep to themselves, then the plan is as the
rule asks, and under a strict rule nothing fails for a foreign alias (`Program.meets_planAnswer`).
-/

namespace TrackedQuery

/-- The question for the plan of a query. -/
def Ending.plan : Ending := ⟨.plan, none, none⟩

/-- What a new session answers to a program that is asked for the plan of its query. -/
def Program.planAnswer (connection : Connection) (types : List EntityType) (program : Program) :
    StepAnswer :=
  ((SessionStep.query program [.plan] none).run (Session.start connection types)).1

/-- The plan in an answer to the question for it. -/
def StepAnswer.plan? : StepAnswer → Option Plan
  | .replies [.ok (.plan plan)] => some plan
  | _ => none

theorem StepAnswer.eq_of_plan? {answer : StepAnswer} {plan : Plan}
    (found : answer.plan? = some plan) : answer = .replies [.ok (.plan plan)] := by
  unfold plan? at found
  split at found
  · cases found
    rfl
  · cases found

/-- The plan in an answer is as a condition asks, and a failure is not for a foreign alias. -/
structure StepAnswer.Meets (rule : Rule) (condition : Plan → Prop) (answer : StepAnswer) :
    Prop where
  failures : ∀ failure, answer = .failedStep failure → failure.error.IsTame rule
  errors : ∀ error, answer = .replies [.error error] → error.IsTame rule
  plans : ∀ plan, answer = .replies [.ok (.plan plan)] → condition plan

variable {scheme : Scheme} {start : Recording} {stack : List Closure}

/-- A session in which nothing was done is sound. -/
theorem Session.sound_start {connection : Connection} (types : List EntityType)
    (database : scheme.rule.database connection.schema connection.options) :
    (Session.start connection types).Sound scheme [] where
  recording := Recording.sound_empty scheme.rule
  terms name term found := by cases found
  stages name stage found := by cases found
  connections name other found := by
    cases List.mem_singleton.mp (Names.mem_of_get? found)
    exact database

/-- The answer to the question for the plan of a query. -/
theorem Stage.request_plan_eq_iff {stage : Stage} {session : Session} {plan : Plan} :
    stage.request session .plan = .ready (.ok (.plan plan)) ↔
      stage.Compiles session.recording plan := by
  have ready : ∀ compiled : Result Plan,
      Request.ready (compiled.map .plan) = .ready (.ok (.plan plan)) ↔ compiled = .ok plan := by
    intro compiled
    rw [Request.ready.injEq, Result.map_eq_ok]
    simp
  cases stage with
  | query built => exact ready _
  | projected built => exact ready _
  | grouped built => exact ⟨nofun, False.elim⟩

/-- What is known of the plan of a program: everything in it is as the rule asks, and it is the plan
of the query that the program writes down. -/
structure Program.Plans (rule : Rule) (program : Program) (plan : Plan) : Prop where
  obeys : plan.Obeys rule []
  own : ∀ text ∈ program.text?, ∃ recording stage,
    text.Reaches rule recording stage ∧ stage.Compiles recording plan

section Request

variable {program : Program} {stage : Stage}

private theorem Program.EndsWith.requestPlan {session : Session}
    (sound : session.Sound scheme stack)
    (ends : program.EndsWith scheme.rule session.recording stage) :
    ∃ reply, stage.request session .plan = .ready reply ∧
      Result.Meets scheme.rule
        (fun reply => ∀ plan, reply = .plan plan → program.Plans scheme.rule plan) reply := by
  have contexts := sound.recording.contexts
  have planned : ∀ {compiled : Result Plan},
      compiled.Meets scheme.rule (fun plan => scheme.rule.plan plan →
        plan.Obeys scheme.rule (session.recording.around stage.context)) →
      (∀ plan, compiled = .ok plan → stage.Compiles session.recording plan) →
      Result.Meets scheme.rule
        (fun reply => ∀ plan, reply = .plan plan → program.Plans scheme.rule plan)
        (compiled.map Reply.plan) := by
    refine fun meets compiles => ⟨meets.tame.map _, fun reply replied plan same => ?_⟩
    subst same
    obtain ⟨other, compiled, same⟩ := Result.map_eq_ok.mp replied
    cases same
    have obeys := meets.holds plan compiled (ends.admitted plan (compiles plan compiled))
    -- the query is nested in no other one, so there is nothing around its plan
    have outermost : session.recording.around stage.context = [] := by
      rw [Recording.around, ends.outermost]
      rfl
    rw [outermost] at obeys
    exact ⟨obeys, fun text own => ⟨_, stage, ends.reached text own, compiles plan compiled⟩⟩
  cases stage with
  | query built =>
      have valid : built.Valid scheme.rule session.recording := ends.sound.valid
      refine ⟨_, rfl, planned ?_ fun _ compiled => compiled⟩
      exact contexts.compile valid.known valid.clauses (by simp) (by simp)
  | grouped built =>
      -- a grouped query has no plan before it is projected
      refine ⟨_, rfl, Result.isTame_fail (by simp), fun _ same => ?_⟩
      cases same
  | projected built =>
      have valid : built.Valid scheme.rule session.recording := ends.sound.valid
      refine ⟨_, rfl, planned ?_ fun _ compiled => compiled⟩
      refine contexts.compile valid.known valid.clauses (fun items mem => ?_) valid.grouping
      cases mem
      exact valid.items

private theorem Session.keeps_askPlan (ends : program.EndsWith scheme.rule start stage) :
    Keeps scheme start stack (ask stage .plan) stack
      (fun _ reply => Result.Meets scheme.rule
        (fun reply => ∀ plan, reply = .plan plan → program.Plans scheme.rule plan) reply) := by
  refine .readSession fun session here sound => ?_
  subst here
  obtain ⟨reply, ready, meets⟩ := ends.requestPlan sound
  rw [show Ending.plan.question = .plan from rfl, ready]
  exact .pure meets

end Request

/-- A program whose closures keep to themselves has a plan that is as the rule asks, if the rule
admits every query that is written down in it. -/
theorem Program.meets_planAnswer {program : Program}
    (admits : ∀ text ∈ program.texts, scheme.rule.Admits text) (fits : program.Fits scheme [])
    {connection : Connection}
    (database : scheme.rule.database connection.schema connection.options)
    (types : List EntityType) :
    (program.planAnswer connection types).Meets scheme.rule (program.Plans scheme.rule) := by
  have answered : Keeps scheme .empty [] (Session.runQuery program [.plan] none) []
      (fun _ answer => answer.Meets scheme.rule (program.Plans scheme.rule)) := by
    have fits : program.Fits scheme (Closure.namesOf []) := fits
    have none_exist : Frame.TablesExist .empty [] := List.forall_mem_nil _
    refine (program.isKept admits fits none_exist).bind fun recording outcome _ meets => ?_
    -- a program that fails answers its failure, and else the plan of the query it ends with
    cases outcome with
    | error failure =>
        refine .pure ⟨fun other same => ?_, fun _ same => ?_, fun _ same => ?_⟩
        · cases same
          exact meets.tame failure.error rfl
        · cases same
        · cases same
    | ok stage =>
        have ends := meets.holds stage rfl
        have asked : Keeps scheme recording [] (Session.askAll stage [.plan]) []
            (fun _ replies => ∃ reply, replies = [reply] ∧ Result.Meets scheme.rule
              (fun reply => ∀ plan, reply = .plan plan → program.Plans scheme.rule plan) reply) :=
          (Session.keeps_askPlan ends).bind fun _ reply _ replied => .pure ⟨reply, rfl, replied⟩
        refine asked.bind fun later replies _ ⟨reply, single, replied⟩ => ?_
        subst single
        refine .pure ⟨fun _ same => ?_, fun error same => ?_, fun plan same => ?_⟩
        · cases same
        · cases same
          exact replied.tame error rfl
        · cases same
          exact replied.holds _ rfl plan rfl
  exact (answered _ rfl (Session.sound_start types database)).2.2

end TrackedQuery
