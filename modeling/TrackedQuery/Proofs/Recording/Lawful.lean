import TrackedQuery.Proofs.Recording.Standing

/-!
# Lawful moves keep what stands

Every lawful move keeps the agreement of a recording with a ledger (`Agrees.after`), and so does
every lawful sequence of moves: one that starts with nothing under construction (`Agrees.afterAll`),
and the body of a clause that is being built inside of others (`Agrees.afterBody`).

The move that begins a clause puts a recorder on the stack, and the one that ends it takes it off.
Where the ledger knows of no clause, the recorders around it would be reached instead: the agreement
is kept only if there are none (`anchored`), or if the moves stay inside the clause they start in.
-/

namespace TrackedQuery

namespace Agrees

variable {outer : List Recorder} {ledger : Ledger} {bench : Bench}

/-! ## Statements -/

/-- A statement that is recorded in an open sink. -/
theorem record_here (agrees : Agrees outer ledger bench) {clause : ClauseEntry}
    {clauses : List ClauseEntry} (building : ledger.clauses = clause :: clauses) {sink : SinkEntry}
    (innermost : clause.sinks.head?.filter SinkEntry.takesPredicates = some sink) (expr : Expr) :
    Agrees outer (ledger.record expr) (bench.record expr) := by
  obtain ⟨recorder, inner, recorders, agreed, others⟩ := agrees.innermost building
  obtain ⟨index, later, recorded, error, opened, shape, behind⟩ :=
    recorder.recordPredicate_of_taken (agreed.shape ▸ innermost) expr
  have home : ledger.here? = some ⟨clause.serial, sink.number⟩ := by
    simp [Ledger.here?, building, innermost]
  have whole : bench.recording.recordPredicate expr = (some ⟨sink.number, index⟩,
      { bench.recording with recorders := later :: (inner ++ outer) }) := by
    rw [Recording.recordPredicate, recorders]
    simp only [recorded]
  rw [Ledger.record, Bench.record, home, whole]
  have mem := List.mem_of_head? (Option.filter_eq_some_iff.mp innermost).1
  have isOpen : sink.number ∈ clause.sinks.map SinkEntry.number := List.mem_map_of_mem mem
  -- what stands in the sink is before the new position and has earlier leaves
  have before : ∀ number index' tree',
      ledger.Stands bench.made number ⟨clause.serial, sink.number⟩ index' tree' →
        index' < index ∧ tree'.firstLeaf < ledger.entries.length := by
    intro number index' tree' stands
    have there := agreed.stands number ⟨sink.number, index'⟩ tree' stands isOpen
    refine ⟨behind index' (by simp [there]), ?_⟩
    exact Nat.lt_of_le_of_lt (agrees.sound.leaves number _ stands.1)
      (List.getElem?_eq_some_iff.mp stands.1).1
  have now := Recorder.at?_recordPredicate recorded
  refine agrees.put building others ⟨sink.number, index⟩ (.leaf ledger.entries.length expr)
    (Nat.le_refl _)
    ((agrees.sound.sinks clause (by simp [building])).2 sink mem) ?_ ?_
  · intro number index' tree' stands
    obtain ⟨lt, earlier⟩ := before number index' tree' stands
    exact ⟨Nat.ne_of_lt lt, fun _ => earlier, fun gt => absurd lt (Nat.lt_asymm gt)⟩
  · refine agreed.put agrees.lengths error opened shape (fun other ne => ?_) (fun expr' found => ?_)
      (fun _ => ?_) fun number tree' stands => ?_
    · rw [now, if_neg ne]
    · rw [now, if_pos rfl] at found
      cases found
      rfl
    · rw [now, if_pos rfl]
      rfl
    · exact Nat.lt_irrefl _ (before number index tree' stands).1

/-- A statement that is recorded nowhere. -/
theorem record_nowhere (agrees : Agrees outer ledger bench) (nowhere : ledger.here? = none)
    {expr : Expr} (nothing : bench.recording.recordPredicate expr = (none, bench.recording)) :
    Agrees outer (ledger.record expr) (bench.record expr) := by
  rw [Ledger.record, Bench.record, nowhere, nothing]
  exact agrees.push_nowhere (Nat.le_refl _)

private theorem record (agrees : Agrees outer ledger bench)
    (anchored : ledger.clauses = [] → outer = []) (expr : Expr) :
    Agrees outer (ledger.record expr) (bench.record expr) := by
  cases building : ledger.clauses with
  | nil =>
      obtain rfl := anchored building
      obtain ⟨inner, recorders, each⟩ := agrees.recorders
      rw [building] at each
      cases each
      refine agrees.record_nowhere (by simp [Ledger.here?, building]) ?_
      rw [Recording.recordPredicate, recorders]
      rfl
  | cons clause clauses =>
      cases innermost : clause.sinks.head?.filter SinkEntry.takesPredicates with
      | none =>
          obtain ⟨recorder, inner, recorders, agreed, others⟩ := agrees.innermost building
          refine agrees.record_nowhere (by simp [Ledger.here?, building, innermost]) ?_
          rw [Recording.recordPredicate, recorders]
          simp only [recorder.recordPredicate_of_refused (agreed.shape ▸ innermost)]
          rw [← recorders]
      | some sink => exact agrees.record_here building innermost expr

/-- Another statement, with the same first leaf, takes the place of one that may be used. -/
theorem become (agrees : Agrees outer ledger bench) (anchored : ledger.clauses = [] → outer = [])
    {number : Nat} {entry : Entry} {predicate : Predicate} (usable : ledger.mayUse number = true)
    (noted : ledger.entries[number]? = some entry)
    (found : bench.made[number]? = some predicate) (tree : Tree)
    (leaf : tree.firstLeaf = entry.tree.firstLeaf) :
    Agrees outer (ledger.become number entry.home tree) (bench.become predicate tree.expr) := by
  -- the operand leaves its slot, and then the new statement is put there
  have withdrawn := agrees.withdraw usable found
  obtain ⟨slot, expr⟩ := predicate
  cases slot with
  | none =>
      obtain ⟨old, nowhere⟩ := agrees.nowhere usable found
      cases noted.symm.trans nowhere
      exact withdrawn.record anchored tree.expr
  | some slot =>
      obtain ⟨clause, clauses, old, building, stood⟩ := agrees.standing usable found
      cases noted.symm.trans stood.1
      obtain ⟨recorder, inner, recorders, agreed, others⟩ := agrees.innermost building
      obtain ⟨emptied, inner', recorders', agreed', others'⟩ :=
        withdrawn.innermost (show (ledger.absorb number).clauses = clause :: clauses from building)
      have same :
          recorder.setSlot slot none :: (inner ++ outer) = emptied :: (inner' ++ outer) := by
        rw [← recorders']
        simp [Bench.withdraw, Recording.write, Recording.setSlot, Recording.modifyActive, recorders]
      obtain ⟨rfl, rest⟩ := List.cons.inj same
      obtain rfl := List.append_cancel_right rest
      have becomes : bench.become ⟨some slot, expr⟩ tree.expr =
          ⟨{ (bench.withdraw ⟨some slot, expr⟩).recording with
              recorders := recorder.setSlot slot (some tree.expr) :: (inner ++ outer) },
            bench.made ++ [⟨some slot, tree.expr⟩]⟩ := by
        simp [Bench.become, Bench.withdraw, Recording.write, Recording.setSlot,
          Recording.modifyActive, recorders]
      rw [becomes]
      have inside := (List.getElem?_eq_some_iff.mp noted).1
      have known := agrees.sound.homes _ (List.mem_of_getElem? noted) _ rfl
      refine withdrawn.put building others' slot tree ?_
        (known.2 clause (by simp [building]) rfl) (fun other index tree' stands => ?_) ?_
      · have older := agrees.sound.leaves number _ noted
        rw [Ledger.absorb, List.length_modify, leaf]
        omega
      · obtain ⟨different, stands⟩ := Ledger.stands_absorb.mp stands
        refine ⟨fun same => ?_, ?_⟩
        · subst same
          exact different (agrees.distinct stands stood)
        · rw [leaf]
          exact ⟨agrees.order stands stood, agrees.order stood stands⟩
      · refine agreed'.put withdrawn.lengths rfl rfl ?_ (fun other ne => ?_) (fun expr' here => ?_)
          (fun isOpen => ?_) fun other tree' stands => ?_
        · rw [Recorder.shape_setSlot, Recorder.shape_setSlot]
        · rw [Recorder.at?_setSlot, if_neg ne, Recorder.at?_setSlot, if_neg ne]
        · rw [Recorder.at?_setSlot, if_pos rfl] at here
          obtain ⟨_, _, same⟩ := Option.map_eq_some_iff.mp here
          exact (Option.some.inj same).symm
        · rw [Recorder.at?_setSlot, if_pos rfl, agreed.stands number slot old stood isOpen]
          rfl
        · obtain ⟨different, stands⟩ := Ledger.stands_absorb.mp stands
          exact different (agrees.distinct stands stood)

/-- What may be used was made. -/
theorem found (agrees : Agrees outer ledger bench) {number : Nat}
    (usable : ledger.mayUse number = true) : ∃ entry predicate,
      ledger.entries[number]? = some entry ∧ bench.made[number]? = some predicate ∧
        predicate.expr = entry.tree.expr := by
  obtain ⟨tree, home, noted, -⟩ := Ledger.mayUse_iff.mp usable
  have inside := (List.getElem?_eq_some_iff.mp noted).1
  have made := List.getElem?_eq_getElem (agrees.lengths ▸ inside)
  exact ⟨_, _, noted, made, (agrees.made number _ _ noted made).1⟩

private theorem combine (agrees : Agrees outer ledger bench)
    (anchored : ledger.clauses = [] → outer = []) (connective : Connective) {lhs rhs : Nat}
    (different : rhs ≠ lhs) (left : ledger.mayUse lhs = true) (right : ledger.mayUse rhs = true) :
    Agrees outer (ledger.after (.combine connective lhs rhs))
      (bench.after (.combine connective lhs rhs)) := by
  obtain ⟨leftEntry, leftPredicate, leftNoted, leftMade, leftExpr⟩ := agrees.found left
  obtain ⟨rightEntry, rightPredicate, rightNoted, rightMade, rightExpr⟩ := agrees.found right
  have noted : (ledger.absorb rhs).entries[lhs]? = some leftEntry := by
    rw [Ledger.getElem?_absorb, leftNoted, Option.map_some, if_neg different]
  have usable : (ledger.absorb rhs).mayUse lhs = true := by
    unfold Ledger.mayUse
    rw [noted, ← leftNoted]
    exact left
  rw [Bench.after_combine connective leftMade rightMade, leftExpr, rightExpr]
  simp only [Ledger.after, leftNoted, rightNoted]
  exact (agrees.withdraw right rightMade).become anchored usable noted leftMade
    (.combine connective leftEntry.tree rightEntry.tree) rfl

private theorem not (agrees : Agrees outer ledger bench)
    (anchored : ledger.clauses = [] → outer = []) {operand : Nat}
    (usable : ledger.mayUse operand = true) :
    Agrees outer (ledger.after (.not operand)) (bench.after (.not operand)) := by
  obtain ⟨entry, predicate, noted, made, expr⟩ := agrees.found usable
  rw [Bench.after_not made, expr]
  simp only [Ledger.after, noted]
  exact agrees.become anchored usable noted made (.not entry.tree) rfl

private theorem detach (agrees : Agrees outer ledger bench) {operand : Nat}
    (usable : ledger.mayUse operand = true) :
    Agrees outer (ledger.after (.detach operand)) (bench.after (.detach operand)) := by
  obtain ⟨entry, predicate, noted, made, expr⟩ := agrees.found usable
  rw [Bench.after_detach made]
  exact agrees.withdraw usable made

/-! ## Clauses and sinks -/

theorem beginClause (agrees : Agrees outer ledger bench) (context : ContextId)
    (kind : ClauseKind) : Agrees outer (ledger.after (.beginClause context kind))
      (bench.after (.beginClause context kind)) := by
  obtain ⟨inner, recorders, each⟩ := agrees.recorders
  refine ⟨agrees.sound.beginClause kind context, agrees.lengths, agrees.made,
    ⟨.start context kind.sink :: inner, congrArg _ recorders, .cons ?_ ?_⟩,
    agrees.distinct, agrees.order⟩
  · refine ⟨rfl, rfl, by cases kind <;> rfl, fun slot expr found => ?_,
      fun number slot tree stands => ?_⟩
    · rw [Recorder.start, Recorder.at?_cons] at found
      split at found
      · cases kind <;> cases found
      · cases found
    · -- no statement can be of a clause that only begins now
      obtain ⟨older, -⟩ :=
        agrees.sound.homes _ (List.mem_of_getElem? stands.1) _ rfl
      exact absurd older (Nat.lt_irrefl _)
  · exact each.imp fun _ _ agreed => agreed.transport fun _ _ _ _ => Iff.rfl

theorem endClause (agrees : Agrees outer ledger bench)
    (anchored : ledger.clauses = [] → outer = []) :
    Agrees outer (ledger.after .endClause) (bench.after .endClause) := by
  refine ⟨agrees.sound.endClause, agrees.lengths, agrees.made, ?_, agrees.distinct, agrees.order⟩
  obtain ⟨inner, recorders, each⟩ := agrees.recorders
  have popped : (bench.after .endClause).recording.recorders = bench.recording.recorders.tail := by
    show (bench.recording.endClause).2.recorders = _
    unfold Recording.endClause
    split
    · next none => rw [none]; rfl
    · next some => rw [some]; rfl
  rw [popped, recorders]
  show ∃ inner, _ ∧ List.Forall₂ _ ledger.clauses.tail inner
  cases building : ledger.clauses with
  | nil =>
      rw [building] at each
      cases each
      rw [anchored building]
      exact ⟨[], rfl, .nil⟩
  | cons clause clauses =>
      rw [building] at each
      obtain ⟨recorder, inner, -, others, rfl⟩ := List.forall₂_cons_left_iff.mp each
      exact ⟨inner, rfl, others.imp fun _ _ agreed => agreed.transport fun _ _ _ _ => Iff.rfl⟩

/-- Changes of the recorder of the clause that is being built, which no predicate notices. -/
theorem modify (agrees : Agrees outer ledger bench) (anchored : ledger.clauses = [] → outer = [])
    {change : ClauseEntry → ClauseEntry} (move : Recorder → Recorder)
    (sound : (ledger.modifyClause change).Sound)
    (each : ∀ clause clauses recorder, ledger.clauses = clause :: clauses →
      ClauseAgrees ledger bench.made clause recorder →
        ClauseAgrees ledger bench.made (change clause) (move recorder)) :
    Agrees outer (ledger.modifyClause change)
      { bench with recording := bench.recording.modifyActive move } := by
  obtain ⟨entries, clauses, begun⟩ := ledger
  cases clauses with
  | nil =>
      obtain rfl := anchored rfl
      obtain ⟨inner, recorders, none⟩ := agrees.recorders
      cases none
      refine ⟨sound, agrees.lengths, agrees.made, ⟨[], ?_, .nil⟩, agrees.distinct, agrees.order⟩
      rw [Recording.modifyActive, recorders]
      exact recorders
  | cons clause clauses =>
      obtain ⟨recorder, inner, recorders, agreed, others⟩ := agrees.innermost rfl
      refine ⟨sound, agrees.lengths, agrees.made, ⟨move recorder :: inner, ?_, ?_⟩,
        agrees.distinct, agrees.order⟩
      · rw [Recording.modifyActive, recorders]
        rfl
      · exact .cons ((each clause clauses recorder rfl agreed).transport fun _ _ _ _ => Iff.rfl)
          (others.imp fun _ _ agreed => agreed.transport fun _ _ _ _ => Iff.rfl)

theorem openSink (agrees : Agrees outer ledger bench)
    (anchored : ledger.clauses = [] → outer = []) :
    Agrees outer (ledger.after .openSink) (bench.after .openSink) := by
  refine agrees.modify anchored (·.openSink (.predicates []))
    (agrees.sound.after .openSink) fun clause clauses recorder building agreed => ?_
  have known : ∀ sink ∈ clause.sinks, sink.number < clause.opened :=
    (agrees.sound.sinks clause (by simp [building])).2
  have fresh : ∀ entry ∈ recorder.sinks, entry.number < recorder.nextSink := by
    intro entry mem
    rw [agreed.opened]
    refine known ⟨entry.number, entry.sink.takesPredicates⟩ ?_
    rw [← agreed.shape]
    exact List.mem_map_of_mem (f := fun entry : OpenSink =>
      (⟨entry.number, entry.sink.takesPredicates⟩ : SinkEntry)) mem
  refine ⟨agreed.error, congrArg (· + 1) agreed.opened, ?_, fun slot expr found => ?_,
    fun number slot tree stands isOpen => ?_⟩
  · exact congrArg₂ List.cons (congrArg (SinkEntry.mk · true) agreed.opened) agreed.shape
  · rw [Recorder.at?_openSink fresh] at found
    exact agreed.owned slot expr found
  · rw [Recorder.at?_openSink fresh]
    refine agreed.stands number slot tree stands ((List.mem_cons.mp isOpen).resolve_left ?_)
    -- no statement can be in a sink that is only opened now
    have homes := (agrees.sound.homes _ (List.mem_of_getElem? stands.1) _ rfl).2
    exact Nat.ne_of_lt (homes clause (by simp [building]) rfl)

private theorem closeSink (agrees : Agrees outer ledger bench)
    (anchored : ledger.clauses = [] → outer = []) :
    Agrees outer (ledger.after .closeSink) (bench.after .closeSink) := by
  have closes : bench.after .closeSink =
      { bench with recording := bench.recording.modifyActive (·.closeSink.2) } := by
    show ({ bench with recording := bench.recording.closeSink.2 } : Bench) = _
    unfold Recording.closeSink Recording.modifyActive
    split <;> rfl
  rw [closes]
  refine agrees.modify anchored (·.closeSink.2) (agrees.sound.after .closeSink)
    fun clause clauses recorder building agreed => ?_
  obtain ⟨context, sinks, nextSink, error⟩ := recorder
  cases sinks with
  | nil =>
      have none : clause.sinks = [] := agreed.shape.symm
      refine ⟨agreed.error, agreed.opened, ?_, agreed.owned,
        fun number slot tree stands isOpen => ?_⟩
      · rw [none]
        rfl
      · rw [none] at isOpen
        cases isOpen
  | cons entry rest =>
      have shape : ⟨entry.number, entry.sink.takesPredicates⟩ ::
          Recorder.shape ⟨context, rest, nextSink, error⟩ = clause.sinks := agreed.shape
      have different := (agrees.sound.sinks clause (by simp [building])).1
      rw [← shape] at different
      have distinct := (List.pairwise_cons.mp different).1
      have sinks : Recorder.sinks ⟨context, entry :: rest, nextSink, error⟩ = entry :: rest := rfl
      have gone := Recorder.at?_closeSink sinks
        fun other mem => (distinct _ (List.mem_map_of_mem mem)).symm
      refine ⟨agreed.error, agreed.opened, congrArg List.tail shape, fun slot expr found => ?_,
        fun number slot tree stands isOpen => ?_⟩
      · rw [gone] at found
        split at found
        · cases found
        · exact agreed.owned slot expr found
      · obtain ⟨sink, mem, number_eq⟩ := List.mem_map.mp isOpen
        rw [← shape] at mem
        rw [gone, if_neg fun same => distinct sink mem (same.trans number_eq.symm)]
        refine agreed.stands number slot tree stands ?_
        rw [← shape]
        exact List.mem_cons_of_mem _ (List.mem_map.mpr ⟨sink, mem, number_eq⟩)

private theorem report (agrees : Agrees outer ledger bench)
    (anchored : ledger.clauses = [] → outer = []) (error : Error) :
    Agrees outer (ledger.after (.report error)) (bench.after (.report error)) := by
  refine agrees.modify anchored (·.report error) (agrees.sound.after (.report error))
    fun clause clauses recorder building agreed =>
      ⟨?_, agreed.opened, agreed.shape, agreed.owned, agreed.stands⟩
  show (recorder.error <|> some error) = (clause.errors ++ [error]).head?
  rw [agreed.error, List.head?_append]
  cases clause.errors.head? <;> rfl

/-! ## All moves -/

/-- Every lawful move keeps the agreement. -/
theorem after (agrees : Agrees outer ledger bench) (anchored : ledger.clauses = [] → outer = [])
    {move : Move} (lawful : ledger.allows move = true) :
    Agrees outer (ledger.after move) (bench.after move) := by
  cases move with
  | beginClause context kind => exact agrees.beginClause context kind
  | endClause => exact agrees.endClause anchored
  | openSink => exact agrees.openSink anchored
  | closeSink => exact agrees.closeSink anchored
  | record expr => exact agrees.record anchored expr
  | combine connective lhs rhs =>
      simp only [Ledger.allows, Move.operands, List.all_cons, List.all_nil, Bool.and_true,
        Bool.and_eq_true, List.nodup_cons, List.mem_singleton, decide_eq_true_eq] at lawful
      exact agrees.combine anchored connective (Ne.symm lawful.2.1) lawful.1.1 lawful.1.2
  | not operand =>
      simp only [Ledger.allows, Move.operands, List.all_cons, List.all_nil, Bool.and_true,
        Bool.and_eq_true] at lawful
      exact agrees.not anchored lawful.1
  | detach operand =>
      simp only [Ledger.allows, Move.operands, List.all_cons, List.all_nil, Bool.and_true,
        Bool.and_eq_true] at lawful
      exact agrees.detach lawful.1
  | report error => exact agrees.report anchored error

/-- And so do lawful moves, where no clauses are around those of the ledger. -/
theorem afterAll (agrees : Agrees [] ledger bench) {moves : List Move}
    (lawful : ledger.lawful moves = true) :
    Agrees [] (ledger.afterAll moves) (bench.afterAll moves) := by
  induction moves generalizing ledger bench with
  | nil => exact agrees
  | cons move rest ih =>
      rw [Ledger.lawful, Bool.and_eq_true] at lawful
      exact ih (agrees.after (fun _ => rfl) lawful.1) lawful.2

/-- Lawful moves of a body keep the agreement too: they stay inside the clause. -/
theorem afterBody {moves : List Move} (body : Move.Body moves) (agrees : Agrees outer ledger bench)
    {clause : ClauseEntry} {clauses : List ClauseEntry}
    (building : ledger.clauses = clause :: clauses) (lawful : ledger.lawful moves = true) :
    Agrees outer (ledger.afterAll moves) (bench.afterAll moves) := by
  have inside {ledger : Ledger} {clause : ClauseEntry} {clauses : List ClauseEntry}
      (building : ledger.clauses = clause :: clauses) : ledger.clauses = [] → outer = [] :=
    fun none => by rw [building] at none; cases none
  -- induction on how the brackets nest: what is inside of one runs in a clause too
  induction body generalizing ledger bench clause clauses with
  | nil => exact agrees
  | plain move whole later ih =>
      rw [Ledger.lawful, Bool.and_eq_true] at lawful
      obtain ⟨errors, stays⟩ := Ledger.clauses_after whole building
      exact ih (agrees.after (inside building) lawful.1) stays lawful.2
  | filter inner later ihInner ihLater =>
      rw [Ledger.lawful, Bool.and_eq_true, Ledger.lawful_append, Ledger.lawful,
        Bool.and_eq_true] at lawful
      have opened := agrees.openSink (inside building)
      have first := Ledger.clauses_openSink building
      have ran := ihInner opened first lawful.2.1
      obtain ⟨count, errors, stays⟩ := inner.clauses_afterAll first
      have closed := ran.closeSink (inside stays)
      rw [Ledger.afterAll, Ledger.afterAll_append, Bench.afterAll_cons, Bench.afterAll_append]
      exact ihLater closed (Ledger.clauses_closeSink stays) lawful.2.2.2
  | clause context kind inner later ihInner ihLater =>
      rw [Ledger.lawful, Bool.and_eq_true, Ledger.lawful_append, Ledger.lawful,
        Bool.and_eq_true] at lawful
      have begun := agrees.beginClause context kind
      have ran := ihInner begun rfl lawful.2.1
      obtain ⟨count, errors, stays⟩ :=
        inner.clauses_afterAll (ledger.clauses_beginClause context kind)
      have ended := ran.endClause (inside stays)
      rw [Ledger.afterAll, Ledger.afterAll_append, Bench.afterAll_cons, Bench.afterAll_append]
      exact ihLater ended ((congrArg List.tail stays).trans building) lawful.2.2.2

end Agrees

/-- Before any move. -/
theorem agrees_empty (recording : Recording) :
    Agrees recording.recorders .empty ⟨recording, []⟩ where
  sound := Ledger.sound_empty
  lengths := rfl
  made _ _ _ noted := by cases noted
  recorders := ⟨[], rfl, .nil⟩
  distinct _ _ _ _ _ _ stands := by cases stands.1
  order stands := by cases stands.1

end TrackedQuery
