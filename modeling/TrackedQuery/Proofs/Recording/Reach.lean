import TrackedQuery.Proofs.Recording.Lawful

/-!
# What the use of a predicate reaches

A predicate that is combined, negated or detached is looked for by its slot, in the recorder of the
clause that is being built now, whichever clause recorded it.  So the use of a predicate reaches
exactly the positions of that clause that the slots of its operands name, and leaves all others
alone (`Bench.at?_after_of_some`).

After lawful moves each recorded statement is that of one predicate (`Agrees.owner`).  If the
operands were recorded by the clause that is being built, the positions they name hold their own
statements, and those of other predicates are left alone.  An operand of another clause takes away,
or replaces, whatever statement has the same slot in the clause that is being built
(`statements_after_use`).
-/

namespace TrackedQuery

/-! ## Positions of a recording -/

namespace Recording

/-- What stands in a slot of the recorder at a depth, if there is such a position. -/
def at? (recording : Recording) (depth : Nat) (slot : Slot) : Option (Option Expr) :=
  recording.recorders[depth]?.bind fun recorder => recorder.at? slot

/-- What is written reaches one position of the innermost recorder, if it is there. -/
theorem at?_write (recording : Recording) (slot : Option Slot) (content : Option Expr)
    (depth : Nat) (other : Slot) :
    (recording.write slot content).at? depth other =
      if depth = 0 ∧ slot = some other then (recording.at? depth other).map fun _ => content
      else recording.at? depth other := by
  cases slot with
  | none => simp [write]
  | some slot =>
      obtain ⟨contexts, recorders⟩ := recording
      cases recorders with
      | nil => simp [write, setSlot, modifyActive, at?]
      | cons recorder outer =>
          cases depth with
          | zero =>
              show (recorder.setSlot slot content).at? other = _
              rw [Recorder.at?_setSlot]
              by_cases same : other = slot
              · simp [same, at?]
              · simp [same, Ne.symm same, at?]
          | succ depth => simp [write, setSlot, modifyActive, at?]

private theorem at?_report (recording : Recording) (error : Error) (depth : Nat) (other : Slot) :
    (recording.report error).at? depth other = recording.at? depth other := by
  obtain ⟨contexts, recorders⟩ := recording
  cases recorders with
  | nil => rfl
  | cons recorder outer => cases depth <;> rfl

/-- A statement that is recorded gets a position that was not there before. -/
theorem at?_recordPredicate (recording : Recording) (statement : Expr) (depth : Nat)
    (other : Slot) :
    (recording.recordPredicate statement).2.at? depth other =
        (if depth = 0 ∧ (recording.recordPredicate statement).1 = some other then
          some (some statement)
        else recording.at? depth other) ∧
      (depth = 0 ∧ (recording.recordPredicate statement).1 = some other →
        recording.at? depth other = none) := by
  generalize recorded : recording.recordPredicate statement = result
  obtain ⟨place, later⟩ := result
  obtain ⟨contexts, recorders⟩ := recording
  cases recorders with
  | nil =>
      cases recorded
      simp
  | cons recorder outer =>
      obtain ⟨first, result, rfl⟩ : ∃ first, recorder.recordPredicate statement = (place, first) ∧
          later = ⟨contexts, first :: outer⟩ := by
        cases recorded
        exact ⟨_, rfl, rfl⟩
      cases depth with
      | succ depth => simp [at?]
      | zero =>
          show first.at? other = (if _ then _ else recorder.at? other) ∧
            (_ → recorder.at? other = none)
          -- a statement that is recorded nowhere changes no slot, any other one a slot that was new
          cases place with
          | none =>
              rw [Recorder.eq_of_recordPredicate result]
              simp
          | some place =>
              rw [Recorder.at?_recordPredicate result]
              by_cases same : other = place
              · subst same
                simp [Recorder.at?_of_recordPredicate result]
              · simp [same, Ne.symm same]

end Recording

/-! ## What a use leaves -/

/-- What a move leaves in a slot, if that is the slot of an operand.  Of two operands with one slot
the left one counts. -/
def Move.leaves (made : List Predicate) (slot : Slot) : Move → Option (Option Expr)
  | .combine connective lhs rhs =>
      match made[lhs]?, made[rhs]? with
      | some left, some right =>
          if left.slot = some slot then some (some (connective.expr left.expr right.expr))
          else if right.slot = some slot then some none
          else none
      | _, _ => none
  | .not operand =>
      match made[operand]? with
      | some predicate =>
          if predicate.slot = some slot then some (some (.neg predicate.expr)) else none
      | none => none
  | .detach operand =>
      match made[operand]? with
      | some predicate => if predicate.slot = some slot then some none else none
      | none => none
  | .beginClause _ _ | .endClause | .openSink | .closeSink | .record _ | .report _ => none

/-- Only slots of operands are left with something. -/
theorem Move.leaves_eq_some {made : List Predicate} {slot : Slot} {move : Move}
    {content : Option Expr} (left : move.leaves made slot = some content) :
    ∃ operand ∈ move.operands, ∃ expr, made[operand]? = some ⟨some slot, expr⟩ := by
  have named {operand : Nat} {predicate : Predicate} (found : made[operand]? = some predicate)
      (same : predicate.slot = some slot) : made[operand]? = some ⟨some slot, predicate.expr⟩ := by
    rw [found, ← same]
  cases move with
  | beginClause _ _ | endClause | openSink | closeSink | record _ | report _ => cases left
  | combine connective lhs rhs =>
      rw [leaves] at left
      split at left
      · next first second leftMade rightMade =>
          split at left
          · next same => exact ⟨lhs, by simp [operands], _, named leftMade same⟩
          · split at left
            · next same => exact ⟨rhs, by simp [operands], _, named rightMade same⟩
            · cases left
      · cases left
  | not operand | detach operand =>
      rw [leaves] at left
      split at left
      · next predicate made =>
          split at left
          · next same => exact ⟨operand, by simp [operands], _, named made same⟩
          · cases left
      · cases left

namespace Bench

variable {bench : Bench} {depth : Nat} {slot : Slot} {content : Option Expr}

private theorem at?_withdraw (predicate : Predicate)
    (here : bench.recording.at? depth slot = some content) :
    (bench.withdraw predicate).recording.at? depth slot =
      some (if depth = 0 ∧ predicate.slot = some slot then none else content) := by
  rw [withdraw, Recording.at?_write, here]
  split <;> rfl

private theorem at?_become (predicate : Predicate) (expr : Expr)
    (here : bench.recording.at? depth slot = some content) :
    (bench.become predicate expr).recording.at? depth slot =
      some (if depth = 0 ∧ predicate.slot = some slot then some expr else content) := by
  obtain ⟨place, old⟩ := predicate
  cases place with
  | none =>
      obtain ⟨now, fresh⟩ :=
        bench.recording.at?_recordPredicate expr depth slot
      -- a statement that is recorded anew gets no position that was there
      have old : ¬ (depth = 0 ∧ (bench.recording.recordPredicate expr).1 = some slot) := by
        intro new
        cases (fresh new).symm.trans here
      show (bench.recording.recordPredicate expr).2.at? depth slot = _
      rw [now, if_neg old, here]
      simp
  | some place =>
      show (bench.recording.write (some place) (some expr)).at? depth slot = _
      rw [Recording.at?_write, here]
      split <;> rfl

/-- A move within a clause reaches the positions that the slots of its operands name, and no
others. -/
theorem at?_after_of_some {move : Move} (whole : move.isBracket = false)
    (here : bench.recording.at? depth slot = some content) :
    (bench.after move).recording.at? depth slot =
      some (if depth = 0 then (move.leaves bench.made slot).getD content else content) := by
  cases move with
  | beginClause _ _ | endClause | openSink | closeSink => cases whole
  | record expr =>
      have recorded := at?_become ⟨none, expr⟩ expr here
      simp only [reduceCtorEq, and_false, if_false] at recorded
      rw [Move.leaves, Option.getD_none, ite_self]
      exact recorded
  | combine connective lhs rhs =>
      cases left : bench.made[lhs]? with
      | none => simp [after_combine_of_left_missing connective left, Move.leaves, left, here]
      | some first =>
          cases right : bench.made[rhs]? with
          | none => simp [after_combine_of_right_missing connective right, Move.leaves, right, here]
          | some second =>
              -- the slot of the left operand is written last
              rw [after_combine connective left right, at?_become _ _ (at?_withdraw second here)]
              by_cases innermost : depth = 0
              · by_cases same : first.slot = some slot <;>
                  by_cases same' : second.slot = some slot <;>
                    simp [Move.leaves, left, right, same, same', innermost]
              · simp [innermost]
  | not operand =>
      cases found : bench.made[operand]? with
      | none => simp [after_not_of_missing found, Move.leaves, found, here]
      | some predicate =>
          rw [after_not found, at?_become _ _ here]
          by_cases innermost : depth = 0
          · by_cases same : predicate.slot = some slot <;>
              simp [Move.leaves, found, same, innermost]
          · simp [innermost]
  | detach operand =>
      cases found : bench.made[operand]? with
      | none => simp [after_detach_of_missing found, Move.leaves, found, here]
      | some predicate =>
          rw [after_detach found, at?_withdraw _ here]
          by_cases innermost : depth = 0
          · by_cases same : predicate.slot = some slot <;>
              simp [Move.leaves, found, same, innermost]
          · simp [innermost]
  | report error =>
      rw [Move.leaves, Option.getD_none, ite_self, ← here]
      exact bench.recording.at?_report error depth slot

/-- A slot in which nothing stood is the one of the predicate that was made last, and its statement
stands in it. -/
def IsNew (bench later : Bench) (depth : Nat) (slot : Slot) : Prop :=
  depth = 0 ∧ ∃ expr, later.recording.at? depth slot = some (some expr) ∧
    later.made = bench.made ++ [⟨some slot, expr⟩]

private theorem at?_withdraw_of_none (predicate : Predicate)
    (here : bench.recording.at? depth slot = none) :
    (bench.withdraw predicate).recording.at? depth slot = none := by
  rw [withdraw, Recording.at?_write, here]
  split <;> rfl

private theorem at?_record_of_none (expr : Expr) (here : bench.recording.at? depth slot = none) :
    (bench.record expr).recording.at? depth slot = none ∨
      bench.IsNew (bench.record expr) depth slot := by
  obtain ⟨now, -⟩ := bench.recording.at?_recordPredicate expr depth slot
  by_cases new : depth = 0 ∧ (bench.recording.recordPredicate expr).1 = some slot
  · rw [if_pos new] at now
    exact .inr ⟨new.1, expr, now, by rw [record, new.2]⟩
  · rw [if_neg new, here] at now
    exact .inl now

private theorem at?_become_of_none (predicate : Predicate) (expr : Expr)
    (here : bench.recording.at? depth slot = none) :
    (bench.become predicate expr).recording.at? depth slot = none ∨
      bench.IsNew (bench.become predicate expr) depth slot := by
  obtain ⟨place, old⟩ := predicate
  cases place with
  | none => exact at?_record_of_none expr here
  | some place =>
      refine .inl ?_
      show (bench.recording.write (some place) (some expr)).at? depth slot = none
      rw [Recording.at?_write, here]
      split <;> rfl

/-- A move within a clause adds no position but the one of the predicate that it makes. -/
theorem at?_after_of_none {move : Move} (whole : move.isBracket = false)
    (here : bench.recording.at? depth slot = none) :
    (bench.after move).recording.at? depth slot = none ∨
      bench.IsNew (bench.after move) depth slot := by
  cases move with
  | beginClause _ _ | endClause | openSink | closeSink => cases whole
  | record expr => exact at?_record_of_none expr here
  | combine connective lhs rhs =>
      cases left : bench.made[lhs]? with
      | none => exact .inl (by rw [after_combine_of_left_missing connective left, here])
      | some first =>
          cases right : bench.made[rhs]? with
          | none => exact .inl (by rw [after_combine_of_right_missing connective right, here])
          | some second =>
              rw [after_combine connective left right]
              -- giving up the second operand fills no slot, and so only the first one is left
              exact at?_become_of_none first _ (at?_withdraw_of_none second here)
  | not operand =>
      cases found : bench.made[operand]? with
      | none => exact .inl (by rw [after_not_of_missing found, here])
      | some predicate =>
          rw [after_not found]
          exact at?_become_of_none predicate _ here
  | detach operand =>
      cases found : bench.made[operand]? with
      | none => exact .inl (by rw [after_detach_of_missing found, here])
      | some predicate =>
          rw [after_detach found]
          exact .inl (at?_withdraw_of_none predicate here)
  | report error =>
      refine .inl ?_
      rw [← here]
      exact bench.recording.at?_report error depth slot

end Bench

/-! ## Whose statement stands where -/

/-- By the ledger, the statement of a predicate stands in a slot of the clause at a depth. -/
def Ledger.StandsAt (ledger : Ledger) (made : List Predicate) (number depth : Nat) (slot : Slot)
    (tree : Tree) : Prop :=
  ∃ clause, ledger.clauses[depth]? = some clause ∧
    ledger.Stands made number ⟨clause.serial, slot.sink⟩ slot.index tree

/-- Each recorded statement is that of one predicate. -/
theorem Agrees.owner {ledger : Ledger} {bench : Bench} (agrees : Agrees [] ledger bench)
    {depth : Nat} {slot : Slot} {expr : Expr}
    (here : bench.recording.at? depth slot = some (some expr)) :
    ∃ number tree, ledger.StandsAt bench.made number depth slot tree ∧ tree.expr = expr ∧
      ∀ other tree', ledger.StandsAt bench.made other depth slot tree' → other = number := by
  obtain ⟨inner, recorders, each⟩ := agrees.recorders
  rw [List.append_nil] at recorders
  obtain ⟨recorder, found, stands⟩ := Option.bind_eq_some_iff.mp here
  rw [recorders] at found
  obtain ⟨inside, rfl⟩ := List.getElem?_eq_some_iff.mp found
  have inside' : depth < ledger.clauses.length := each.length_eq ▸ inside
  have agreed := each.get inside' inside
  obtain ⟨number, tree, owned, same⟩ := agreed.owned slot expr stands
  refine ⟨number, tree, ⟨_, List.getElem?_eq_getElem inside', owned⟩, same, ?_⟩
  rintro other tree' ⟨clause, there, stands'⟩
  cases (List.getElem?_eq_getElem inside').symm.trans there
  exact agrees.distinct stands' owned

/-- A lawful use leaves nothing in the slot of another predicate's statement. -/
theorem Agrees.leaves_eq_none {ledger : Ledger} {bench : Bench} (agrees : Agrees [] ledger bench)
    {move : Move} (allowed : ledger.allows move = true) {number : Nat} {slot : Slot}
    (other : number ∉ move.operands)
    (owner : ∀ operand tree, ledger.StandsAt bench.made operand 0 slot tree → operand = number) :
    move.leaves bench.made slot = none := by
  rw [Option.eq_none_iff_forall_ne_some]
  intro content left
  obtain ⟨operand, mem, expr, made⟩ := Move.leaves_eq_some left
  have usable : ledger.mayUse operand = true :=
    List.all_eq_true.mp (Bool.and_eq_true_iff.mp allowed).1 operand mem
  -- the operand was recorded by the clause that is being built, so the slot is its own
  obtain ⟨clause, clauses, tree, building, stands⟩ := agrees.standing usable made
  have same := owner operand tree ⟨clause, by rw [building]; rfl, stands⟩
  exact other (same ▸ mem)

/-- After any moves, a move within a clause changes the positions of that clause which the slots of
its operands name, whoever's statements stand there, adds the position of the predicate that it
makes, and leaves all other positions alone.  After lawful moves each recorded statement is that of
one predicate, and a lawful move takes away or replaces only those of its operands. -/
theorem statements_after_use (before : List Move) (move : Move) (whole : move.isBracket = false) :
    let bench := Bench.afterAll ⟨.empty, []⟩ before
    let ledger := Ledger.empty.afterAll before
    (∀ depth slot content, bench.recording.at? depth slot = some content →
      (bench.after move).recording.at? depth slot =
        some (if depth = 0 then (move.leaves bench.made slot).getD content else content)) ∧
    (∀ depth slot, bench.recording.at? depth slot = none →
      (bench.after move).recording.at? depth slot = none ∨
        bench.IsNew (bench.after move) depth slot) ∧
    (Ledger.empty.lawful before = true → ∀ depth slot expr,
      bench.recording.at? depth slot = some (some expr) →
        ∃ number tree, ledger.StandsAt bench.made number depth slot tree ∧ tree.expr = expr ∧
          (∀ other tree', ledger.StandsAt bench.made other depth slot tree' → other = number) ∧
          (ledger.allows move = true → number ∉ move.operands →
            (bench.after move).recording.at? depth slot = some (some expr))) := by
  intro bench ledger
  refine ⟨fun depth slot content here => Bench.at?_after_of_some whole here,
    fun depth slot here => Bench.at?_after_of_none whole here,
    fun lawful depth slot expr here => ?_⟩
  have agrees : Agrees [] ledger bench := (agrees_empty .empty).afterAll lawful
  obtain ⟨number, tree, stands, same, unique⟩ := agrees.owner here
  refine ⟨number, tree, stands, same, unique, fun allowed other => ?_⟩
  rw [Bench.at?_after_of_some whole here]
  cases depth with
  | zero => rw [if_pos rfl, agrees.leaves_eq_none allowed other unique, Option.getD_none]
  | succ depth => rfl

namespace Example

/-- One clause records that the weight is one.  The next clause records which blog it is. -/
def weightThenBlog : List Move :=
  [.beginClause 0 .predicates,
    .record (.compare .eq (.column (.local baseAlias 2)) (.value (.int32 1))), .endClause,
    .beginClause 0 .predicates,
    .record (.compare .eq (.column (.local baseAlias 0)) (.value (.string "b1")))]

/-- When the next clause uses the predicate of the first one as an operand, it loses its own
statement: both have the first slot of their clauses. -/
theorem statements_after_use_weightThenBlog :
    let bench := Bench.afterAll ⟨.empty, []⟩ weightThenBlog
    let ledger := Ledger.empty.afterAll weightThenBlog
    Ledger.empty.lawful weightThenBlog = true ∧
      (∃ tree, ledger.StandsAt bench.made 1 0 ⟨0, 0⟩ tree) ∧
      (bench.after (.detach 0)).recording.at? 0 ⟨0, 0⟩ = some none := by
  intro bench ledger
  have lawful : Ledger.empty.lawful weightThenBlog = true := by decide
  obtain ⟨reached, -, owners⟩ := statements_after_use weightThenBlog (.detach 0) rfl
  refine ⟨lawful, ?_, reached 0 ⟨0, 0⟩ _ rfl⟩
  obtain ⟨number, tree, stands, -, unique, -⟩ := owners lawful 0 ⟨0, 0⟩ _ rfl
  obtain rfl : 1 = number := unique 1 _ ⟨_, rfl, rfl, rfl⟩
  exact ⟨tree, stands⟩

end Example

end TrackedQuery
