import Mathlib.Data.List.Nodup
import TrackedQuery.Example
import TrackedQuery.Proofs.Recording.Lookup

/-!
# Where the placeholders of a clause come from

A handle that could not be looked up reads as `NULL`.  The failure was reported where the handle was
looked up, but a handle can be kept and read in another clause, which is told nothing.  So a clause
can succeed with a `NULL` in it that stands for a failure.  A `Chronicle` follows a program of
clauses, and notes of each handle, and of each operand that is read through it, where it failed.

A failure is never lost on its clause: the clause that was being built when something failed does
not succeed.  Hence the placeholders of a clause that succeeds are those of failures elsewhere, in
other clauses, which do not succeed, or outside of all clauses (`placeholder_fails_elsewhere`).

## Strategy

* Clauses are numbered as they begin.  `Chronicle.Spoiled` says that an error was reported to a
  clause, whether it is being built still or has ended.  What is spoiled stays so inside of a clause
  (`Same.spoiled`) and when one begins or ends (`Sound.beginClause`, `Sound.endClause`), and a
  clause that succeeded is not spoiled (`Numbered.not_spoiled`).
* `Chronicle.Told` says that wherever something failed, the clause is spoiled.  This is true of what
  has just failed, because an attempt that fails reports (`Bench.Attempt.accused`), and of what is
  looked up on a handle that stands for nothing, because it failed where the handle did.
-/

namespace TrackedQuery

/-! ## Programs of clauses -/

/-- Where something happens: in the clause of a number, or outside of all clauses. -/
abbrev Spot := Option Nat

/-- A handle, and where it failed to be looked up, if it did. -/
structure Found (α : Type) where
  handle : α
  failed : Option Spot

/-- What was read through a column, and where that failed, if it did. -/
structure Operand where
  handle : ColumnHandle
  expr : Expr
  failed : Option Spot

/-- The operand is a reference to the column that its handle stands for. -/
def Operand.IsBound (operand : Operand) : Prop :=
  ∃ ref source, operand.expr = .column ref ∧ operand.handle.source = some source ∧
    ref.bound = some ⟨source.context, source.table, source.index⟩

/-- What a clause makes of operands. -/
inductive Purpose where
  | statement (build : List Expr → Expr)
  | sortKey (build : List Expr → SortKey)
  /-- The clause answers with them. -/
  | answer

/-- A step of a program.  Handles and operands are referred to by their numbers. -/
inductive Act where
  /-- A clause begins or ends, or does something that needs no handle. -/
  | move (move : Move)
  /-- Queries begin and tables are joined: any change of the contexts. -/
  | contexts (change : List Context → List Context)
  | table (context : ContextId) (table : Alias)
  | navigate (table : Nat) (name expected : String)
  | column (table : Nat) (name : String) (scalar : Scalar)
  | read (column : Nat)
  | record (operands : List Nat) (purpose : Purpose)

/-- A recording, and what is noted of the program that made it. -/
structure Chronicle where
  bench : Bench
  /-- The clauses that are being built, innermost first. -/
  building : List Nat
  /-- How many clauses were begun. -/
  begun : Nat
  /-- The clauses that ended, and what they answered. -/
  ended : List (Nat × Result Sink)
  tables : List (Found TableHandle)
  columns : List (Found ColumnHandle)
  operands : List Operand
  /-- The operands that were recorded, and where. -/
  recorded : List (Spot × Operand)
  /-- The errors that were reported by a move, and where. -/
  reported : List (Spot × Error)

namespace Chronicle

/-- The beginning of a program. -/
def start : Chronicle := ⟨⟨.empty, []⟩, [], 0, [], [], [], [], [], []⟩

/-- Where the program is. -/
def spot (chronicle : Chronicle) : Spot := chronicle.building.head?

/-- Where something failed that was looked up on something else: where that failed, or here. -/
def failure (earlier : Option Spot) (here : Spot) (bound : Bool) : Option Spot :=
  if bound then none else some (earlier.getD here)

variable (chronicle : Chronicle)

/-- After a move. -/
def moved (move : Move) : Chronicle :=
  let after := { chronicle with bench := chronicle.bench.after move }
  match move with
  | .beginClause _ _ =>
      { after with building := chronicle.begun :: chronicle.building, begun := chronicle.begun + 1 }
  | .endClause =>
      match chronicle.building with
      | [] => after
      | number :: outer =>
          { after with
            building := outer
            ended := (number, chronicle.bench.recording.endClause.1) :: chronicle.ended }
  | .report error => { after with reported := (chronicle.spot, error) :: chronicle.reported }
  | .openSink | .closeSink | .record _ | .combine _ _ _ | .not _ | .detach _ => after

/-- With a handle of a table, if there is such a table. -/
def withTable (context : ContextId) (table : Alias) : Chronicle :=
  let answer := (TableHandle.ofAlias context table : BenchM TableHandle) chronicle.bench
  if answer.1.binding.isSome then
    { chronicle with bench := answer.2, tables := chronicle.tables ++ [⟨answer.1, none⟩] }
  else chronicle

/-- With the table that a navigation leads to. -/
def navigated (name expected : String) (table : Found TableHandle) : Chronicle :=
  let answer := (table.handle.navigate name expected : BenchM TableHandle) chronicle.bench
  { chronicle with
    bench := answer.2
    tables := chronicle.tables ++
      [⟨answer.1, failure table.failed chronicle.spot answer.1.binding.isSome⟩] }

/-- With a column of a table. -/
def withColumn (name : String) (scalar : Scalar) (table : Found TableHandle) : Chronicle :=
  let answer := (table.handle.column name scalar : BenchM ColumnHandle) chronicle.bench
  { chronicle with
    bench := answer.2
    columns := chronicle.columns ++
      [⟨answer.1, failure table.failed chronicle.spot answer.1.source.isSome⟩] }

/-- With what is read through a column. -/
def withOperand (column : Found ColumnHandle) : Chronicle :=
  let answer := (column.handle.toExpr : BenchM TypedExpr) chronicle.bench
  { chronicle with
    bench := answer.2
    operands := chronicle.operands ++
      [⟨column.handle, answer.1.expr,
        failure column.failed chronicle.spot answer.1.expr.isColumn⟩] }

/-- After something was made of operands. -/
def withRecord (operands : List Operand) (purpose : Purpose) : Chronicle :=
  let exprs := operands.map Operand.expr
  { chronicle with
    bench :=
      match purpose with
      | .statement build => chronicle.bench.after (.record (build exprs))
      | .sortKey build =>
          { chronicle.bench with
            recording := chronicle.bench.recording.recordSortKey (build exprs) }
      | .answer => chronicle.bench
    recorded := operands.map (chronicle.spot, ·) ++ chronicle.recorded }

/-- After a step.  A step that refers to what is not there does nothing. -/
def after : Act → Chronicle
  | .move move => chronicle.moved move
  | .contexts change =>
      { chronicle with
        bench := { chronicle.bench with
          recording := ⟨change chronicle.bench.recording.contexts,
            chronicle.bench.recording.recorders⟩ } }
  | .table context table => chronicle.withTable context table
  | .navigate table name expected =>
      chronicle.tables[table]?.elim chronicle (chronicle.navigated name expected)
  | .column table name scalar =>
      chronicle.tables[table]?.elim chronicle (chronicle.withColumn name scalar)
  | .read column => chronicle.columns[column]?.elim chronicle chronicle.withOperand
  | .record operands purpose =>
      chronicle.withRecord (operands.filterMap fun operand => chronicle.operands[operand]?) purpose

/-- The chronicle of a program. -/
def of (acts : List Act) : Chronicle := acts.foldl after start

/-- The numbers of all clauses. -/
def numbers : List Nat := chronicle.building ++ chronicle.ended.map Prod.fst

/-- An error was reported to a clause. -/
def Spoiled (number : Nat) : Prop :=
  (∃ (depth : Nat) (recorder : Recorder), chronicle.building[depth]? = some number ∧
    chronicle.bench.recording.recorders[depth]? = some recorder ∧ recorder.error.isSome = true) ∨
  ∃ error, (number, .error error) ∈ chronicle.ended

/-- Something failed unless it is bound, and the clause where it failed is spoiled. -/
structure Blames (bound : Bool) (failed : Option Spot) : Prop where
  unbound : failed = none ↔ bound = true
  spoiled : ∀ number, failed = some (some number) → chronicle.Spoiled number

/-- An operand is a column, or else a placeholder of a failure. -/
structure Explains (operand : Operand) : Prop where
  blames : chronicle.Blames operand.expr.isColumn operand.failed
  value : operand.expr = .value .null ∨ operand.IsBound

/-- Every open clause has its recorder, and every clause a number of its own. -/
structure Numbered : Prop where
  levels : chronicle.bench.recording.recorders.length = chronicle.building.length
  given : ∀ number ∈ chronicle.numbers, number < chronicle.begun
  distinct : chronicle.numbers.Nodup

/-- Whatever failed, or was reported, in a clause has spoiled it. -/
structure Told : Prop where
  tables : ∀ table ∈ chronicle.tables, chronicle.Blames table.handle.binding.isSome table.failed
  columns : ∀ column ∈ chronicle.columns,
    chronicle.Blames column.handle.source.isSome column.failed
  operands : ∀ operand ∈ chronicle.operands, chronicle.Explains operand
  recorded : ∀ entry ∈ chronicle.recorded, chronicle.Explains entry.2
  reported : ∀ entry ∈ chronicle.reported, ∀ number, entry.1 = some number →
    chronicle.Spoiled number

variable {chronicle}

/-! ## What is spoiled stays spoiled -/

/-- The same clauses are being built, and no error was forgotten. -/
structure Same (before after : Chronicle) : Prop where
  building : after.building = before.building
  begun : after.begun = before.begun
  ended : after.ended = before.ended
  continues : before.bench.recording.Continues after.bench.recording

variable {before later : Chronicle} {number : Nat}

theorem Same.spoiled (same : Same before later) (spoiled : before.Spoiled number) :
    later.Spoiled number := by
  rcases spoiled with ⟨depth, recorder, here, found, reported⟩ | ⟨error, ended⟩
  · -- its recorder is the one of the same depth, and keeps the first error that it was told
    obtain ⟨next, found, kept⟩ := same.continues.kept depth recorder found
    obtain ⟨error, first⟩ := Option.isSome_iff_exists.mp reported
    refine .inl ⟨depth, next, same.building ▸ here, found, ?_⟩
    rw [kept error first]
    rfl
  · exact .inr ⟨error, same.ended ▸ ended⟩

theorem Same.numbered (same : Same before later) (numbered : before.Numbered) :
    later.Numbered := by
  have numbers : later.numbers = before.numbers := by
    rw [Chronicle.numbers, same.building, same.ended, Chronicle.numbers]
  refine ⟨?_, ?_, ?_⟩
  · rw [same.continues.length, same.building]
    exact numbered.levels
  · rw [numbers, same.begun]
    exact numbered.given
  · rw [numbers]
    exact numbered.distinct

/-- The clause that is told of an error is spoiled. -/
theorem Numbered.spoiled_of_accused (numbered : chronicle.Numbered)
    (accused : chronicle.bench.recording.Accused) (here : chronicle.spot = some number) :
    chronicle.Spoiled number := by
  rw [spot, List.head?_eq_getElem?] at here
  have inside : 0 < chronicle.bench.recording.recorders.length := by
    rw [numbered.levels]
    exact (List.getElem?_eq_some_iff.mp here).1
  have found := List.getElem?_eq_getElem inside
  exact .inl ⟨0, _, here, found, accused _ found⟩

/-- A clause that succeeded was never told of an error. -/
theorem Numbered.not_spoiled (numbered : chronicle.Numbered) {sink : Sink}
    (succeeded : (number, .ok sink) ∈ chronicle.ended) : ¬ chronicle.Spoiled number := by
  -- a number is of one clause, which is still being built or has ended with one answer
  have distinct := List.nodup_append.mp numbered.distinct
  rintro (⟨depth, -, built, -⟩ | ⟨error, failed⟩)
  · exact distinct.2.2 number (List.mem_of_getElem? built) number
      (List.mem_map_of_mem succeeded) rfl
  · cases List.inj_on_of_nodup_map distinct.2.1 succeeded failed rfl

/-- What is told stays told, if the new notes are right as well. -/
theorem Told.grow (told : before.Told)
    (spoiled : ∀ number, before.Spoiled number → later.Spoiled number)
    (tables : ∀ table ∈ later.tables, table ∈ before.tables ∨
      later.Blames table.handle.binding.isSome table.failed)
    (columns : ∀ column ∈ later.columns, column ∈ before.columns ∨
      later.Blames column.handle.source.isSome column.failed)
    (operands : ∀ operand ∈ later.operands, operand ∈ before.operands ∨ later.Explains operand)
    (recorded : ∀ entry ∈ later.recorded, entry ∈ before.recorded ∨
      entry.2 ∈ before.operands)
    (reported : ∀ entry ∈ later.reported, entry ∈ before.reported ∨
      ∀ number, entry.1 = some number → later.Spoiled number) :
    later.Told := by
  have blames : ∀ {bound failed}, before.Blames bound failed → later.Blames bound failed :=
    fun old => ⟨old.unbound, fun number here => spoiled number (old.spoiled number here)⟩
  have explains : ∀ {operand}, before.Explains operand → later.Explains operand :=
    fun old => ⟨blames old.blames, old.value⟩
  refine ⟨fun table mem => ?_, fun column mem => ?_, fun operand mem => ?_, fun entry mem => ?_,
    fun entry mem => ?_⟩
  · exact (tables table mem).elim (fun old => blames (told.tables table old)) id
  · exact (columns column mem).elim (fun old => blames (told.columns column old)) id
  · exact (operands operand mem).elim (fun old => explains (told.operands operand old)) id
  · exact (recorded entry mem).elim (fun old => explains (told.recorded entry old))
      fun read => explains (told.operands entry.2 read)
  · exact (reported entry mem).elim
      (fun old number here => spoiled number (told.reported entry old number here)) id

/-! ## One step -/

/-- A chronicle whose clauses have numbers and whose failures were told. -/
structure Sound (chronicle : Chronicle) : Prop where
  numbered : chronicle.Numbered
  told : chronicle.Told

/-- What is looked up on something that failed, failed there.  What fails now spoils the clause. -/
theorem Blames.failure {known bound : Bool} {earlier : Option Spot}
    (old : before.Blames known earlier) (same : Same before later) (numbered : later.Numbered)
    (attempt : before.bench.Attempt later.bench known bound) :
    later.Blames bound (failure earlier before.spot bound) := by
  cases bound with
  | true => exact ⟨by simp [Chronicle.failure], by simp [Chronicle.failure]⟩
  | false =>
      refine ⟨by simp [Chronicle.failure], fun number here => ?_⟩
      replace here : earlier.getD before.spot = some number := Option.some.inj here
      -- an older failure was told where it happened, a new one to the clause that is innermost now
      cases earlier with
      | some spot => exact same.spoiled (old.spoiled number (congrArg some here))
      | none =>
          have accused := attempt.accused (old.unbound.mp rfl) rfl
          refine numbered.spoiled_of_accused accused ?_
          rw [spot, same.building]
          exact here

/-- A clause begins. -/
theorem Sound.beginClause (sound : chronicle.Sound) (context : ContextId) (kind : ClauseKind) :
    (chronicle.moved (.beginClause context kind)).Sound := by
  obtain ⟨⟨levels, given, distinct⟩, told⟩ := sound
  refine ⟨⟨congrArg (· + 1) levels, ?_, ?_⟩, ?_⟩
  · intro number mem
    rcases List.mem_cons.mp mem with rfl | mem
    · exact Nat.lt_succ_self _
    · exact Nat.lt_succ_of_lt (given number mem)
  · refine List.nodup_cons.mpr ⟨fun mem => ?_, distinct⟩
    exact Nat.lt_irrefl _ (given _ mem)
  · refine told.grow (fun number => ?_) (fun _ => .inl) (fun _ => .inl) (fun _ => .inl)
      (fun _ => .inl) (fun _ => .inl)
    rintro (⟨depth, recorder, here, found, reported⟩ | ended)
    · -- the clauses around the new one are one level further out
      exact .inl ⟨depth + 1, recorder, here, found, reported⟩
    · exact .inr ended

/-- A clause ends, and answers the error that was reported to it, if there is one. -/
theorem Sound.endClause (sound : chronicle.Sound) : (chronicle.moved .endClause).Sound := by
  obtain ⟨⟨⟨contexts, recorders⟩, made⟩, building, begun, ended, tables, columns, operands,
    recorded, reported⟩ := chronicle
  obtain ⟨⟨levels, given, distinct⟩, told⟩ := sound
  match building, recorders, levels with
  | [], [], levels =>
      exact ⟨⟨levels, given, distinct⟩, told.grow (fun _ => id) (fun _ => .inl) (fun _ => .inl)
        (fun _ => .inl) (fun _ => .inl) (fun _ => .inl)⟩
  | number :: outer, recorder :: others, levels =>
      refine ⟨⟨Nat.succ.inj levels, ?_, ?_⟩, ?_⟩
      · -- the numbers are those of before; one of them has left the open clauses
        intro other mem
        exact given other (List.perm_middle.mem_iff.mp mem)
      · exact List.perm_middle.nodup_iff.mpr distinct
      · refine told.grow (fun other => ?_) (fun _ => .inl) (fun _ => .inl) (fun _ => .inl)
          (fun _ => .inl) (fun _ => .inl)
        rintro (⟨_ | depth, found, here, stands, accused⟩ | ⟨error, ended⟩)
        · -- the error of the innermost clause is what it answers
          cases here
          cases stands
          obtain ⟨error, first⟩ := Option.isSome_iff_exists.mp accused
          have answered : recorder.finish = .error error := by rw [Recorder.finish, first]
          exact .inr ⟨error, List.mem_cons.mpr (.inl (congrArg (Prod.mk number) answered.symm))⟩
        · exact .inl ⟨depth, found, here, stands, accused⟩
        · exact .inr ⟨error, List.mem_cons_of_mem _ ended⟩

/-- The other moves leave the clauses that are being built. -/
theorem Sound.plain (sound : chronicle.Sound) {move : Move} (inside : move.isClause = false) :
    Sound { chronicle with bench := chronicle.bench.after move } := by
  have same : Same chronicle { chronicle with bench := chronicle.bench.after move } :=
    ⟨rfl, rfl, rfl, chronicle.bench.continues_after inside⟩
  exact ⟨same.numbered sound.numbered, sound.told.grow (fun _ => same.spoiled) (fun _ => .inl)
    (fun _ => .inl) (fun _ => .inl) (fun _ => .inl) (fun _ => .inl)⟩

/-- An error that is reported spoils the clause. -/
theorem Sound.report (sound : chronicle.Sound) (error : Error) :
    (chronicle.moved (.report error)).Sound := by
  have same : Same chronicle (chronicle.moved (.report error)) :=
    ⟨rfl, rfl, rfl, chronicle.bench.recording.continues_report error⟩
  have numbered := same.numbered sound.numbered
  refine ⟨numbered, sound.told.grow (fun _ => same.spoiled) (fun _ => .inl) (fun _ => .inl)
    (fun _ => .inl) (fun _ => .inl) fun entry mem => ?_⟩
  rcases List.mem_cons.mp mem with rfl | old
  · exact .inr fun number here =>
      numbered.spoiled_of_accused (chronicle.bench.recording.accused_report error) here
  · exact .inl old

private theorem Sound.moved (sound : chronicle.Sound) (move : Move) :
    (chronicle.moved move).Sound := by
  cases move with
  | beginClause context kind => exact sound.beginClause context kind
  | endClause => exact sound.endClause
  | report error => exact sound.report error
  | openSink | closeSink | record _ | combine _ _ _ | not _ | detach _ => exact sound.plain rfl

private theorem Sound.withTable (sound : chronicle.Sound) (context : ContextId) (table : Alias) :
    (chronicle.withTable context table).Sound := by
  simp only [Chronicle.withTable]
  split
  · next bound =>
      have same : ∀ tables, Same chronicle { chronicle with
          bench := ((TableHandle.ofAlias context table : BenchM TableHandle) chronicle.bench).2
          tables := tables } := fun _ => ⟨rfl, rfl, rfl, .refl _⟩
      refine ⟨(same _).numbered sound.numbered, sound.told.grow (fun _ => (same _).spoiled)
        (fun entry mem => ?_) (fun _ => .inl) (fun _ => .inl) (fun _ => .inl) (fun _ => .inl)⟩
      refine (List.mem_append.mp mem).imp_right fun new => ?_
      rw [List.mem_singleton.mp new]
      exact ⟨by simpa using bound, nofun⟩
  · exact sound

private theorem Sound.navigated (sound : chronicle.Sound) (name expected : String)
    {table : Found TableHandle} (known : table ∈ chronicle.tables) :
    (chronicle.navigated name expected table).Sound := by
  have attempt := table.handle.attempt_navigate name chronicle.bench expected
  have same : Same chronicle (chronicle.navigated name expected table) :=
    ⟨rfl, rfl, rfl, attempt.continues⟩
  have numbered := same.numbered sound.numbered
  refine ⟨numbered, sound.told.grow (fun _ => same.spoiled) (fun entry mem => ?_) (fun _ => .inl)
    (fun _ => .inl) (fun _ => .inl) (fun _ => .inl)⟩
  refine (List.mem_append.mp mem).imp_right fun new => ?_
  rw [List.mem_singleton.mp new]
  exact (sound.told.tables table known).failure same numbered attempt

private theorem Sound.withColumn (sound : chronicle.Sound) (name : String) (scalar : Scalar)
    {table : Found TableHandle} (known : table ∈ chronicle.tables) :
    (chronicle.withColumn name scalar table).Sound := by
  have attempt := table.handle.attempt_column name chronicle.bench scalar
  have same : Same chronicle (chronicle.withColumn name scalar table) :=
    ⟨rfl, rfl, rfl, attempt.continues⟩
  have numbered := same.numbered sound.numbered
  refine ⟨numbered, sound.told.grow (fun _ => same.spoiled) (fun _ => .inl) (fun entry mem => ?_)
    (fun _ => .inl) (fun _ => .inl) (fun _ => .inl)⟩
  refine (List.mem_append.mp mem).imp_right fun new => ?_
  rw [List.mem_singleton.mp new]
  exact (sound.told.tables table known).failure same numbered attempt

private theorem Sound.withOperand (sound : chronicle.Sound) {column : Found ColumnHandle}
    (known : column ∈ chronicle.columns) : (chronicle.withOperand column).Sound := by
  obtain ⟨attempt, value⟩ := column.handle.toExpr_attempt chronicle.bench
  have same : Same chronicle (chronicle.withOperand column) :=
    ⟨rfl, rfl, rfl, attempt.continues⟩
  have numbered := same.numbered sound.numbered
  refine ⟨numbered, sound.told.grow (fun _ => same.spoiled) (fun _ => .inl) (fun _ => .inl)
    (fun entry mem => ?_) (fun _ => .inl) (fun _ => .inl)⟩
  refine (List.mem_append.mp mem).imp_right fun new => ?_
  rw [List.mem_singleton.mp new]
  exact ⟨(sound.told.columns column known).failure same numbered attempt, value⟩

private theorem Sound.withRecord (sound : chronicle.Sound) {operands : List Operand}
    (read : operands ⊆ chronicle.operands) (purpose : Purpose) :
    (chronicle.withRecord operands purpose).Sound := by
  have continues : chronicle.bench.recording.Continues
      (chronicle.withRecord operands purpose).bench.recording := by
    cases purpose with
    | statement build => exact chronicle.bench.continues_after rfl
    | sortKey build => exact chronicle.bench.recording.continues_recordSortKey _
    | answer => exact .refl _
  have same : Same chronicle (chronicle.withRecord operands purpose) := ⟨rfl, rfl, rfl, continues⟩
  refine ⟨same.numbered sound.numbered, sound.told.grow (fun _ => same.spoiled) (fun _ => .inl)
    (fun _ => .inl) (fun _ => .inl) (fun entry mem => ?_) (fun _ => .inl)⟩
  rcases List.mem_append.mp mem with new | old
  · obtain ⟨operand, taken, rfl⟩ := List.mem_map.mp new
    exact .inr (read taken)
  · exact .inl old

/-- A step that refers to what is not there does nothing. -/
theorem Sound.elim {α : Type} (sound : chronicle.Sound) {found : Option α} {step : α → Chronicle}
    (each : ∀ value, found = some value → (step value).Sound) :
    (found.elim chronicle step).Sound := by
  cases found with
  | none => exact sound
  | some value => exact each value rfl

/-- What holds of a chronicle still holds after a step. -/
theorem Sound.after (sound : chronicle.Sound) (act : Act) : (chronicle.after act).Sound := by
  cases act with
  | move move => exact sound.moved move
  | contexts change =>
      have same : Same chronicle (chronicle.after (.contexts change)) :=
        ⟨rfl, rfl, rfl, .of_recorders_eq rfl⟩
      exact ⟨same.numbered sound.numbered, sound.told.grow (fun _ => same.spoiled) (fun _ => .inl)
        (fun _ => .inl) (fun _ => .inl) (fun _ => .inl) (fun _ => .inl)⟩
  | table context table => exact sound.withTable context table
  | navigate table name expected =>
      exact sound.elim fun _ found => sound.navigated name expected (List.mem_of_getElem? found)
  | column table name scalar =>
      exact sound.elim fun _ found => sound.withColumn name scalar (List.mem_of_getElem? found)
  | read column => exact sound.elim fun _ found => sound.withOperand (List.mem_of_getElem? found)
  | record operands purpose =>
      -- numbers of operands that were never read are dropped
      refine sound.withRecord (fun operand mem => ?_) purpose
      obtain ⟨number, -, found⟩ := List.mem_filterMap.mp mem
      exact List.mem_of_getElem? found

/-! ## Whole programs -/

private theorem sound_start : start.Sound :=
  ⟨⟨rfl, nofun, .nil⟩, ⟨nofun, nofun, nofun, nofun, nofun⟩⟩

private theorem sound_of (acts : List Act) : (of acts).Sound := by
  have onward : ∀ chronicle : Chronicle, chronicle.Sound → (acts.foldl after chronicle).Sound := by
    induction acts with
    | nil => exact fun _ sound => sound
    | cons act rest ih => exact fun chronicle sound => ih _ (sound.after act)
  exact onward start sound_start

/-- The placeholders of a clause that succeeds are those of failures elsewhere.  While the clause
was the innermost one, nothing failed to be looked up or read, and no error was reported.  Each
operand that it recorded is the column that its handle stands for, or else a `NULL` of something
that failed outside of all clauses, or in another clause, which was told of an error and does not
succeed. -/
theorem placeholder_fails_elsewhere {acts : List Act} {number : Nat} {sink : Sink}
    (succeeded : (number, .ok sink) ∈ (of acts).ended) :
    (∀ entry ∈ (of acts).reported, entry.1 ≠ some number) ∧
      (∀ table ∈ (of acts).tables, table.failed ≠ some (some number)) ∧
      (∀ column ∈ (of acts).columns, column.failed ≠ some (some number)) ∧
      (∀ operand ∈ (of acts).operands, operand.failed ≠ some (some number)) ∧
      ∀ operand, (some number, operand) ∈ (of acts).recorded →
        operand.failed = none ∧ operand.IsBound ∨
        operand.expr = .value .null ∧ ∃ spot, operand.failed = some spot ∧
          ∀ other, spot = some other → other ≠ number ∧ (of acts).Spoiled other ∧
            ∀ answer, (other, .ok answer) ∉ (of acts).ended := by
  obtain ⟨numbered, told⟩ := sound_of acts
  have unspoiled := numbered.not_spoiled succeeded
  refine ⟨?_, ?_, ?_, ?_, ?_⟩
  · exact fun entry mem here => unspoiled (told.reported entry mem number here)
  · exact fun table mem here => unspoiled ((told.tables table mem).spoiled number here)
  · exact fun column mem here => unspoiled ((told.columns column mem).spoiled number here)
  · exact fun operand mem here => unspoiled ((told.operands operand mem).blames.spoiled number here)
  · intro operand mem
    obtain ⟨blames, value⟩ := told.recorded _ mem
    rcases value with null | bound
    · -- a `NULL` is no column, so something failed
      refine .inr ⟨null, ?_⟩
      cases failed : operand.failed with
      | none =>
          have column := blames.unbound.mp failed
          rw [null] at column
          cases column
      | some spot =>
          refine ⟨spot, rfl, fun other here => ?_⟩
          have spoiled := blames.spoiled other (failed.trans (congrArg some here))
          refine ⟨?_, spoiled, fun _ ended => numbered.not_spoiled ended spoiled⟩
          rintro rfl
          exact unspoiled spoiled
    · refine .inl ⟨blames.unbound.mpr ?_, bound⟩
      obtain ⟨ref, -, column, -⟩ := bound
      rw [column]
      rfl

end Chronicle

namespace Example

/-- The context of a query of blogs. -/
def blogContext : Context := .start connection.schema connection.options [] "Blog"

/-- A clause that asks a blog for a column that blogs do not have, and a clause of another query
that asks whether this column is `NULL`. -/
def strayColumn : List Act :=
  [.contexts fun _ => [blogContext, { blogContext with id := 1 }],
    .move (.beginClause 0 .predicates), .table 0 baseAlias, .column 0 "subtitle" .string,
    .move .endClause,
    .move (.beginClause 1 .predicates), .read 0,
    .record [0] (.statement fun operands => .isNull (operands.headD .truth) false),
    .move .endClause]

/-- What the second clause reads. -/
def strayOperand : Operand := ⟨⟨"subtitle", none⟩, .value .null, some (some 0)⟩

/-- The second clause succeeds with a placeholder, and the first one, where it failed, does not. -/
theorem placeholder_fails_elsewhere_stray :
    (1, .ok (.predicates [some (.isNull (.value .null) false)])) ∈
        (Chronicle.of strayColumn).ended ∧
      (some 1, strayOperand) ∈ (Chronicle.of strayColumn).recorded ∧
      (Chronicle.of strayColumn).Spoiled 0 := by
  have succeeded : (1, .ok (.predicates [some (.isNull (.value .null) false)])) ∈
      (Chronicle.of strayColumn).ended := List.mem_cons_self
  have recorded : (some 1, strayOperand) ∈ (Chronicle.of strayColumn).recorded :=
    List.mem_cons_self
  refine ⟨succeeded, recorded, ?_⟩
  obtain ⟨-, -, -, -, origins⟩ := Chronicle.placeholder_fails_elsewhere succeeded
  obtain ⟨bound, -⟩ | ⟨-, spot, failed, elsewhere⟩ := origins strayOperand recorded
  · cases bound
  · cases failed
    exact (elsewhere 0 rfl).2.1

/-- It is not true that all operands of a clause that succeeds are columns of handles that were
looked up. -/
theorem not_placeholder_free : ¬ ∀ (acts : List Act) (number : Nat) (sink : Sink)
    (operand : Operand), (number, .ok sink) ∈ (Chronicle.of acts).ended →
      (some number, operand) ∈ (Chronicle.of acts).recorded → operand.failed = none := by
  intro free
  have bound := free strayColumn 1 (.predicates [some (.isNull (.value .null) false)]) strayOperand
    List.mem_cons_self List.mem_cons_self
  cases bound

end Example

end TrackedQuery
