import TrackedQuery.Proofs.Splitting.Clause

/-!
# Splitting the last clause of a program

The last clause of a program may be split wherever programs are run, and whatever the steps before
it do (`Program.splitsInto`).  Nothing is asked of the tables of the query: those of every query
that the steps before can reach are roots (`Program.rooted`).

A step that fails ends the program at once, so the whole and the parts fail alike.  Otherwise the
steps before the clause reach one query in one session for both, and there the clause is split
(`RecordingClause.splitsInto`).
-/

namespace TrackedQuery

section Steps

variable {frames : List Frame} {steps : List Step} {stage : Stage} {session after : Session}
  {position : Nat}

/-- Steps that fail are followed by no others. -/
theorem Step.evaluateAll_append_of_error {failure : StepFailure}
    (failed : Step.evaluateAll frames position stage steps session = (.error failure, after))
    (rest : List Step) :
    Step.evaluateAll frames position stage (steps ++ rest) session = (.error failure, after) := by
  induction steps generalizing position stage session with
  | nil => cases failed
  | cons step others ih =>
      generalize ran : step.evaluate frames stage session = answered
      obtain ⟨outcome, middle⟩ := answered
      cases outcome with
      | error error =>
          rw [Step.evaluateAll_cons_of_error ran] at failed
          rw [List.cons_append, Step.evaluateAll_cons_of_error ran, failed]
      | ok next =>
          rw [Step.evaluateAll_cons_of_ok ran] at failed
          rw [List.cons_append, Step.evaluateAll_cons_of_ok ran]
          exact ih failed

/-- Steps that succeed are followed by the others, on the query that they reach. -/
theorem Step.evaluateAll_append_of_ok {next : Stage}
    (reached : Step.evaluateAll frames position stage steps session = (.ok next, after))
    (rest : List Step) :
    Step.evaluateAll frames position stage (steps ++ rest) session =
      Step.evaluateAll frames (position + steps.length) next rest after := by
  induction steps generalizing position stage session with
  | nil =>
      cases reached
      rfl
  | cons step others ih =>
      generalize ran : step.evaluate frames stage session = answered
      obtain ⟨outcome, middle⟩ := answered
      cases outcome with
      | error error =>
          rw [Step.evaluateAll_cons_of_error ran] at reached
          cases reached
      | ok refined =>
          rw [Step.evaluateAll_cons_of_ok ran] at reached
          rw [List.cons_append, Step.evaluateAll_cons_of_ok ran, ih reached, List.length_cons,
            Nat.add_right_comm, Nat.add_assoc]

private theorem Step.session_evaluateAll_singleton (step : Step) :
    (Step.evaluateAll frames position stage [step] session).2 =
      (step.evaluate frames stage session).2 := by
  generalize ran : step.evaluate frames stage session = answered
  obtain ⟨outcome, middle⟩ := answered
  cases outcome with
  | error error => rw [Step.evaluateAll_cons_of_error ran]
  | ok next => rw [Step.evaluateAll_cons_of_ok ran, Step.evaluateAll_nil]

end Steps

section Programs

variable {frames : List Frame} {beginning : Beginning} {steps : List Step}
  {session after : Session}

private theorem Program.evaluate_append_of_error {failure : StepFailure}
    (failed : Program.evaluate frames ⟨beginning, steps⟩ session = (.error failure, after))
    (rest : List Step) :
    Program.evaluate frames ⟨beginning, steps ++ rest⟩ session = (.error failure, after) := by
  rw [Program.evaluate, SessionM.bind_apply] at failed ⊢
  generalize Session.begin beginning session = begun at failed ⊢
  obtain ⟨outcome, middle⟩ := begun
  cases outcome with
  | error error => exact failed
  | ok stage => exact Step.evaluateAll_append_of_error failed rest

private theorem Program.evaluate_append_of_ok {stage : Stage}
    (reached : Program.evaluate frames ⟨beginning, steps⟩ session = (.ok stage, after))
    (rest : List Step) :
    Program.evaluate frames ⟨beginning, steps ++ rest⟩ session =
      Step.evaluateAll frames steps.length stage rest after := by
  rw [Program.evaluate, SessionM.bind_apply] at reached ⊢
  generalize Session.begin beginning session = begun at reached ⊢
  obtain ⟨outcome, middle⟩ := begun
  cases outcome with
  | error error => cases reached
  | ok first =>
      refine (Step.evaluateAll_append_of_ok reached rest).trans ?_
      rw [Nat.zero_add]

/-- The last clause of a program can be split, in every session in which programs were run. -/
theorem Program.splitsInto (clause : RecordingClause) (queried : session.Queried)
    {naming : Naming} {first second : List Form}
    (fresh : naming.Fresh
      (Program.evaluate [] ⟨beginning, steps ++ [clause.step first]⟩ session).2.terms)
    (minds : Form.AllMind naming false second) :
    SplitsInto naming
      (Program.evaluate [] ⟨beginning, steps ++ [clause.step (first ++ second)]⟩ session)
      (Program.evaluate [] ⟨beginning, steps ++ [clause.step first, clause.step second]⟩
        session) := by
  generalize ran : Program.evaluate [] ⟨beginning, steps⟩ session = evaluated
  obtain ⟨outcome, after⟩ := evaluated
  cases outcome with
  | error failure =>
      rw [Program.evaluate_append_of_error ran, Program.evaluate_append_of_error ran]
      exact ⟨rfl, fun next answered => nomatch answered⟩
  | ok stage =>
      -- both go on with the query that the steps before the clause have reached
      rw [Program.evaluate_append_of_ok ran, Step.session_evaluateAll_singleton] at fresh
      rw [Program.evaluate_append_of_ok ran, Program.evaluate_append_of_ok ran]
      exact clause.splitsInto [] steps.length (Program.rooted _ queried ran) fresh minds

end Programs

end TrackedQuery
