import TrackedQuery.Query.Predicate

/-!
# What the body of a clause does

Seen from the recording, the body of a clause is a finite sequence of moves: it records statements,
combines, negates and detaches the predicates that it has got, opens filters of aggregates, reports
errors, and runs bodies of nested clauses in between.  Each move is the function of that name, and
the predicates are numbered in the order they are made, so that later moves can refer to them.  What
expressions the statements are made of does not matter here: a move that records may record any.

Sequences of moves may also run through clauses one after the other (`Move.performAll`).  The moves
of one body open and close in pairs (`Move.Body`).
-/

namespace TrackedQuery

/-- What a clause records. -/
inductive ClauseKind where
  | predicates
  | order
  /-- Nothing: the body answers with its result. -/
  | values

/-- The sink that a clause begins with. -/
def ClauseKind.sink : ClauseKind → Sink
  | .predicates => .predicates []
  | .order => .order []
  | .values => .values

/-- Whether statements are recorded. -/
def ClauseKind.takesPredicates : ClauseKind → Bool
  | .predicates => true
  | .order | .values => false

/-- How two predicates become one. -/
inductive Connective where
  | and
  | or

/-- The statement that two statements become. -/
def Connective.expr : Connective → Expr → Expr → Expr
  | .and => Expr.and
  | .or => Expr.or

/-- A step of a body.  Predicates are referred to by their numbers. -/
inductive Move where
  | beginClause (context : ContextId) (kind : ClauseKind)
  | endClause
  /-- The filter of an aggregate begins. -/
  | openSink
  | closeSink
  | record (expr : Expr)
  | combine (connective : Connective) (lhs rhs : Nat)
  | not (operand : Nat)
  /-- A predicate becomes an operand of something else. -/
  | detach (operand : Nat)
  | report (error : Error)

/-- The predicates that a move takes apart. -/
def Move.operands : Move → List Nat
  | .combine _ lhs rhs => [lhs, rhs]
  | .not operand | .detach operand => [operand]
  | .beginClause _ _ | .endClause | .openSink | .closeSink | .record _ | .report _ => []

/-- A recording, and the predicates that were made, by their numbers. -/
structure Bench where
  recording : Recording
  made : List Predicate

/-- Computations that record. -/
abbrev BenchM := StateM Bench

instance : MonadStateOf Recording BenchM where
  get := fun bench => (bench.recording, bench)
  set recording := fun bench => (⟨⟩, { bench with recording := recording })
  modifyGet change := fun bench =>
    let (answer, recording) := change bench.recording
    (answer, { bench with recording := recording })

/-- Gives the predicate that is made the next number. -/
def Bench.make (build : BenchM Predicate) : BenchM Unit := do
  let predicate ← build
  modifyThe Bench fun bench => { bench with made := bench.made ++ [predicate] }

/-- Does something with the predicate of a number, if the number was given. -/
def Bench.use (number : Nat) (action : Predicate → BenchM Unit) : BenchM Unit := do
  let bench ← getThe Bench
  match bench.made[number]? with
  | some predicate => action predicate
  | none => return

/-- Combines two predicates. -/
def Connective.combine (connective : Connective) (lhs rhs : Predicate) : BenchM Predicate :=
  match connective with
  | .and => lhs.and rhs
  | .or => lhs.or rhs

/-- Makes a move. -/
def Move.perform : Move → BenchM Unit
  | .beginClause context kind => modifyThe Recording (·.beginClause context kind.sink)
  | .endClause => do
      let _ ← modifyGetThe Recording (·.endClause)
  | .openSink => modifyThe Recording (·.openSink (.predicates []))
  | .closeSink => do
      let _ ← modifyGetThe Recording (·.closeSink)
  | .record expr => Bench.make (Predicate.record expr)
  | .combine connective lhs rhs =>
      Bench.use lhs fun lhs => Bench.use rhs fun rhs => Bench.make (connective.combine lhs rhs)
  | .not operand => Bench.use operand fun operand => Bench.make operand.not
  | .detach operand =>
      Bench.use operand fun operand => do
        let _ ← operand.detach
  | .report error => reportError error

/-- Makes moves, in order. -/
def Move.performAll : List Move → BenchM Unit
  | [] => return
  | move :: rest => do
      move.perform
      performAll rest

/-- Whether a move begins or ends a clause or a filter. -/
def Move.isBracket : Move → Bool
  | .beginClause _ _ | .endClause | .openSink | .closeSink => true
  | .record _ | .combine _ _ _ | .not _ | .detach _ | .report _ => false

/-- The moves of a body: every clause and every filter that begins in it also ends in it. -/
inductive Move.Body : List Move → Prop where
  | nil : Body []
  | plain (move : Move) {rest : List Move} (whole : move.isBracket = false) (later : Body rest) :
      Body (move :: rest)
  | filter {inner rest : List Move} (inside : Body inner) (later : Body rest) :
      Body (.openSink :: (inner ++ .closeSink :: rest))
  | clause (context : ContextId) (kind : ClauseKind) {inner rest : List Move} (inside : Body inner)
      (later : Body rest) : Body (.beginClause context kind :: (inner ++ .endClause :: rest))

/-! ## Moves one after the other -/

namespace Bench

/-- The bench after a move. -/
def after (bench : Bench) (move : Move) : Bench := (move.perform bench).2

/-- The bench after moves. -/
def afterAll (bench : Bench) (moves : List Move) : Bench := (Move.performAll moves bench).2

@[simp] theorem afterAll_nil (bench : Bench) : bench.afterAll [] = bench := rfl

@[simp] theorem afterAll_cons (bench : Bench) (move : Move) (rest : List Move) :
    bench.afterAll (move :: rest) = (bench.after move).afterAll rest := rfl

theorem afterAll_append (bench : Bench) (moves rest : List Move) :
    bench.afterAll (moves ++ rest) = (bench.afterAll moves).afterAll rest := by
  induction moves generalizing bench with
  | nil => rfl
  | cons move moves ih => rw [List.cons_append, afterAll_cons, afterAll_cons, ih]

end Bench

private theorem Move.performAll_append (moves rest : List Move) :
    performAll (moves ++ rest) = performAll moves >>= fun _ => performAll rest := by
  funext bench
  exact congrArg (Prod.mk ()) (bench.afterAll_append moves rest)

/-- The filter of an aggregate runs its body between two moves. -/
theorem Move.performAll_filter (body : List Move) :
    performAll (.openSink :: (body ++ [.closeSink])) =
      recordInside (.predicates []) (performAll body) >>= fun _ => pure () := by
  show (Move.openSink.perform >>= fun _ => performAll (body ++ [.closeSink])) = _
  rw [performAll_append]
  rfl

/-- So does a clause. -/
theorem Move.performAll_clause (context : ContextId) (kind : ClauseKind) (body : List Move) :
    performAll (.beginClause context kind :: (body ++ [.endClause])) =
      recordClause context kind.sink (performAll body) >>= fun _ => pure () := by
  show ((Move.beginClause context kind).perform >>= fun _ =>
    performAll (body ++ [.endClause])) = _
  rw [performAll_append]
  rfl

/-! ## What a move does -/

/-- Changes what stands in a slot, if there is one. -/
def Recording.write (recording : Recording) (slot : Option Slot) (content : Option Expr) :
    Recording :=
  match slot with
  | some slot => recording.setSlot slot content
  | none => recording

namespace Bench

/-- A statement is recorded. -/
def record (bench : Bench) (expr : Expr) : Bench :=
  { recording := (bench.recording.recordPredicate expr).2
    made := bench.made ++ [⟨(bench.recording.recordPredicate expr).1, expr⟩] }

/-- The statement of a predicate leaves its place. -/
def withdraw (bench : Bench) (predicate : Predicate) : Bench :=
  { bench with recording := bench.recording.write predicate.slot none }

/-- Another statement takes the place of a predicate. -/
def become (bench : Bench) (predicate : Predicate) (expr : Expr) : Bench :=
  match predicate.slot with
  | some slot =>
      { recording := bench.recording.setSlot slot (some expr)
        made := bench.made ++ [⟨some slot, expr⟩] }
  | none => bench.record expr

variable {bench : Bench} {operand lhs rhs : Nat} {predicate left right : Predicate}

private theorem withdraw_eq (bench : Bench) (predicate : Predicate) :
    (predicate.withdraw : BenchM Unit) bench = ((), bench.withdraw predicate) := by
  obtain ⟨slot, expr⟩ := predicate
  cases slot <;> rfl

private theorem make_become (bench : Bench) (predicate : Predicate) (expr : Expr) :
    Bench.make (predicate.become expr) bench = ((), bench.become predicate expr) := by
  obtain ⟨slot, old⟩ := predicate
  cases slot <;> rfl

private theorem combine_eq (connective : Connective) (lhs rhs : Predicate) :
    connective.combine lhs rhs =
      rhs.withdraw >>= fun _ => lhs.become (connective.expr lhs.expr rhs.expr) := by
  cases connective <;> rfl

theorem use_eq (found : bench.made[operand]? = some predicate)
    (action : Predicate → BenchM Unit) :
    Bench.use operand action bench = action predicate bench := by
  show (match bench.made[operand]? with
    | some predicate => action predicate
    | none => pure () : BenchM Unit) bench = _
  rw [found]

theorem use_of_missing (missing : bench.made[operand]? = none) (action : Predicate → BenchM Unit) :
    Bench.use operand action bench = ((), bench) := by
  show (match bench.made[operand]? with
    | some predicate => action predicate
    | none => pure () : BenchM Unit) bench = _
  rw [missing]
  rfl

theorem after_detach (found : bench.made[operand]? = some predicate) :
    bench.after (.detach operand) = bench.withdraw predicate := by
  rw [after, Move.perform, use_eq found]
  exact congrArg Prod.snd (bench.withdraw_eq predicate)

theorem after_not (found : bench.made[operand]? = some predicate) :
    bench.after (.not operand) = bench.become predicate (.neg predicate.expr) := by
  rw [after, Move.perform, use_eq found]
  exact congrArg Prod.snd (bench.make_become predicate _)

theorem after_combine (connective : Connective) (left_found : bench.made[lhs]? = some left)
    (right_found : bench.made[rhs]? = some right) :
    bench.after (.combine connective lhs rhs) =
      (bench.withdraw right).become left (connective.expr left.expr right.expr) := by
  rw [after, Move.perform, use_eq left_found, use_eq right_found, combine_eq]
  show (Bench.make (left.become (connective.expr left.expr right.expr))
    ((right.withdraw : BenchM Unit) bench).2).2 = _
  rw [withdraw_eq, make_become]

/-! Uses of numbers that were not given do nothing. -/

theorem after_detach_of_missing (missing : bench.made[operand]? = none) :
    bench.after (.detach operand) = bench := by
  rw [after, Move.perform, use_of_missing missing]

theorem after_not_of_missing (missing : bench.made[operand]? = none) :
    bench.after (.not operand) = bench := by
  rw [after, Move.perform, use_of_missing missing]

theorem after_combine_of_left_missing (connective : Connective)
    (missing : bench.made[lhs]? = none) : bench.after (.combine connective lhs rhs) = bench := by
  rw [after, Move.perform, use_of_missing missing]

theorem after_combine_of_right_missing (connective : Connective)
    (missing : bench.made[rhs]? = none) : bench.after (.combine connective lhs rhs) = bench := by
  cases left : bench.made[lhs]? with
  | none => exact after_combine_of_left_missing connective left
  | some predicate => rw [after, Move.perform, use_eq left, use_of_missing missing]

private theorem contexts_withdraw (bench : Bench) (predicate : Predicate) :
    (bench.withdraw predicate).recording.contexts = bench.recording.contexts := by
  obtain ⟨_ | slot, expr⟩ := predicate
  · rfl
  · exact Recording.contexts_modifyActive ..

private theorem contexts_become (bench : Bench) (predicate : Predicate) (expr : Expr) :
    (bench.become predicate expr).recording.contexts = bench.recording.contexts := by
  obtain ⟨_ | slot, old⟩ := predicate
  · exact Recording.contexts_recordPredicate ..
  · exact Recording.contexts_modifyActive ..

/-- No move changes a context. -/
theorem contexts_after (bench : Bench) (move : Move) :
    (bench.after move).recording.contexts = bench.recording.contexts := by
  cases move with
  | beginClause context kind => rfl
  | endClause => exact Recording.contexts_endClause ..
  | openSink | report _ => exact Recording.contexts_modifyActive ..
  | closeSink => exact Recording.contexts_closeSink ..
  | record expr => exact Recording.contexts_recordPredicate ..
  | combine connective lhs rhs =>
      cases left : bench.made[lhs]? with
      | none => rw [after_combine_of_left_missing connective left]
      | some first =>
          cases right : bench.made[rhs]? with
          | none => rw [after_combine_of_right_missing connective right]
          | some second =>
              rw [after_combine connective left right, contexts_become, contexts_withdraw]
  | not operand =>
      cases found : bench.made[operand]? with
      | none => rw [after_not_of_missing found]
      | some predicate => rw [after_not found, contexts_become]
  | detach operand =>
      cases found : bench.made[operand]? with
      | none => rw [after_detach_of_missing found]
      | some predicate => rw [after_detach found, contexts_withdraw]

theorem contexts_afterAll (bench : Bench) (moves : List Move) :
    (bench.afterAll moves).recording.contexts = bench.recording.contexts := by
  induction moves generalizing bench with
  | nil => rfl
  | cons move rest ih => rw [afterAll_cons, ih, contexts_after]

end Bench

end TrackedQuery
