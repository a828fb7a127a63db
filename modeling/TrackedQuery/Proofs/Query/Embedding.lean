import TrackedQuery.Proofs.Plan.Walk
import TrackedQuery.Proofs.Program.Key
import TrackedQuery.Proofs.Query.Stacking

/-!
# Nested queries as arms and as sources of joins

A query that is made in a clause of another one may read its columns, and those of all queries
around it.  Each such column counts how far away the query of its handle is among the queries
around.  When the rows of the nested query are stacked on another query or joined to it, the plan is
copied as it is: its columns now lead as far through the plans around that place.  Both ways lead to
one query exactly if it is as far away in both (`embedded_columns`).  That is so where the query was
made.  In a query that was made beside it, the column leads to a plan in between, and in a query
that is nested in no other one, it may lead out of the whole plan.

## Strategy

* `Plan.Takes.placed`: a walk enters the rows one plan deeper than the plan that takes them, and
  `Plan.visits_inside` finds their columns there.
* `Plan.OfValid.nesting_eq`: where a column is found inside of the rows and how far it counts beyond
  that, differ by the distance of its query in the context.
* `Query.stack_uses`, `ProjectedQuery.stack_uses`, `Query.joinQuery_uses`: these calls give a query
  the rows of another one, and `Clauses.Uses.takes` follows them into the plan.  So the columns of
  what is stacked or joined stand in the plan of the query that it is stacked on or joined to
  (`Query.stack_embeds`, `ProjectedQuery.stack_embeds`, `Query.joinQuery_embeds`).
-/

namespace TrackedQuery

/-! ## Plans that take the rows of a plan -/

/-- The rows of a plan are stacked in another plan, or joined there. -/
def Plan.Takes (outer rows : Plan) : Prop :=
  (∃ arm ∈ outer.arms, arm.plan = rows) ∨ ∃ join ∈ outer.joins, join.rows = some rows

/-- A walk enters the rows that a plan takes one plan deeper. -/
theorem Plan.Takes.placed {top outer rows : Plan} (takes : outer.Takes rows) {entered : Nat}
    (placed : ⟨entered, .plan outer⟩ ∈ top.visits 0) :
    ⟨entered + 1, .plan rows⟩ ∈ top.visits 0 := by
  obtain ⟨-, -, -, -, parts⟩ :=
    Plan.forall_visits.mp fun visit (mem : visit ∈ outer.visits 0) => mem
  obtain ⟨here, -⟩ := Plan.forall_visits.mp fun visit (mem : visit ∈ rows.visits 1) => mem
  have inside : ⟨1, .plan rows⟩ ∈ outer.visits 0 := by
    rcases takes with ⟨arm, mem, rfl⟩ | ⟨join, mem, nested⟩
    · exact parts.arms arm mem _ here
    · exact parts.rows join mem rows nested _ here
  have found := Plan.visits_inside placed inside
  rwa [Visit.lower, Nat.add_comm] at found

/-- A query uses the rows of a plan: they are stacked on its own, or joined. -/
def Clauses.Uses (clauses : Clauses) (context : Context) (rows : Plan) : Prop :=
  (∃ arm ∈ clauses.arms, arm.plan = rows) ∨ ∃ join ∈ context.joins, join.rows = some rows

/-- Joins of nested rows are left as they are. -/
theorem Join.mem_keepAllAlive {schema : Schema} {joins kept : List Join} {join : Join}
    (alive : keepAllAlive schema joins = .ok kept) (mem : join ∈ joins)
    (nested : join.isNested = true) : join ∈ kept := by
  induction joins generalizing kept with
  | nil => cases mem
  | cons first rest ih =>
      obtain ⟨first', hfirst, alive⟩ := Result.bind_eq_ok.mp alive
      obtain ⟨rest', hrest, alive⟩ := Result.bind_eq_ok.mp alive
      cases alive
      rcases List.mem_cons.mp mem with rfl | mem
      · rw [keepAlive, if_pos nested] at hfirst
        cases hfirst
        exact List.mem_cons_self ..
      · exact List.mem_cons_of_mem _ (ih hrest mem)

/-- The plan of a query takes the rows that the query uses. -/
theorem Clauses.Uses.takes {clauses : Clauses} {context : Context} {rows outer : Plan}
    (uses : clauses.Uses context rows) {projection : Option (List Item)}
    {grouping : Option Grouping}
    (compiled : clauses.compile context projection grouping = .ok outer) : outer.Takes rows := by
  obtain ⟨entity, items, joins, -, -, hjoins, rfl⟩ := Clauses.compile_eq_ok compiled
  refine uses.imp_right fun ⟨join, mem, nested⟩ => ⟨join, ?_, nested⟩
  unfold planJoins at hjoins
  split at hjoins
  · exact Join.mem_keepAllAlive hjoins mem (by rw [Join.isNested, nested]; rfl)
  · cases hjoins
    exact mem

theorem Query.stack_uses {recording : Recording} {query source stacked : Query} {op : SetOperator}
    (called : Answers recording (query.stack op source) (.ok stacked)) (context : Context) :
    ∃ rows, Answers recording source.compile (.ok rows) ∧ stacked.clauses.Uses context rows := by
  obtain ⟨_, rows, -, compiled, -, rfl⟩ := stack_eq_ok called
  exact ⟨rows, compiled, .inl ⟨_, List.mem_append_right _ (List.mem_singleton_self _), rfl⟩⟩

theorem ProjectedQuery.stack_uses {recording : Recording} {query source stacked : ProjectedQuery}
    {op : SetOperator} (called : Answers recording (query.stack op source) (.ok stacked))
    (context : Context) :
    ∃ rows, Answers recording source.compile (.ok rows) ∧ stacked.clauses.Uses context rows := by
  obtain ⟨_, rows, -, compiled, -, rfl⟩ := stack_eq_ok called
  exact ⟨rows, compiled, .inl ⟨_, List.mem_append_right _ (List.mem_singleton_self _), rfl⟩⟩

/-! ## Joining the rows of a query -/

private theorem Recording.run_bind {α β : Type} {action : StateM Recording α}
    {next : α → StateM Recording β} {before later : Recording} {answer : α}
    (ran : action.run before = (answer, later)) :
    (action >>= next).run before = (next answer).run later := by
  show next (action before).1 (action before).2 = _
  rw [show action before = (answer, later) from ran]
  rfl

private theorem Query.joinRows_run {recording after : Recording} {query joined : Query}
    {kind : JoinKind} {entity : String} {rows : Option Plan}
    {body : List TableHandle → StateM Recording Unit}
    (called : (query.joinRows kind entity rows body).run recording = (.ok joined, after)) :
    ∃ table context tables recorded,
      (recording.contextAt query.context).beginJoin kind entity rows = .ok (table, context) ∧
      let later := ((body tables).run ((recording.setContext query.context context).beginClause
        query.context (.predicates []))).2.endClause
      later.1 = .ok recorded ∧
        after = later.2.setContext query.context
          ((later.2.contextAt query.context).completeJoin table (.all recorded.statements)) ∧
        joined = { query with tables := query.tables ++ [table] } := by
  have read : (contextOf query.context : StateM Recording Context).run recording =
      (recording.contextAt query.context, recording) := rfl
  rw [joinRows, Recording.run_bind read] at called
  cases begun : (recording.contextAt query.context).beginJoin kind entity rows with
  | error error =>
      rw [begun] at called
      cases called
  | ok begun' =>
      obtain ⟨table, context⟩ := begun'
      let handles : List TableHandle := (query.tables ++ [table]).map fun table =>
        ⟨query.context,
          ((recording.setContext query.context context).contextAt query.context).binding? table⟩
      let later := ((body handles).run ((recording.setContext query.context context).beginClause
          query.context (.predicates []))).2.endClause
      have added :
          (modifyThe Recording (·.setContext query.context context) : StateM Recording PUnit).run
            recording = (⟨⟩, recording.setContext query.context context) := rfl
      have handled : (tableHandles { query with tables := query.tables ++ [table] } :
          StateM Recording (List TableHandle)).run (recording.setContext query.context context) =
            (handles, recording.setContext query.context context) := rfl
      have clause : (recordClause query.context (.predicates []) (body handles)).run
          (recording.setContext query.context context) =
            (later.1.map fun recorded => ((), recorded), later.2) := rfl
      rw [begun] at called
      dsimp only at called
      rw [Recording.run_bind added, Recording.run_bind handled, Recording.run_bind clause] at called
      cases ended : later.1 with
      | error error =>
          rw [ended] at called
          cases called
      | ok recorded =>
          rw [ended] at called
          cases called
          exact ⟨table, context, handles, recorded, rfl, ended, rfl, rfl⟩

private theorem Query.joinQuery_run {recording after : Recording} {query source joined : Query}
    {kind : JoinKind} {body : List TableHandle → StateM Recording Unit}
    (called : (query.joinQuery kind source body).run recording = (.ok joined, after)) :
    ∃ rows, Answers recording source.compile (.ok rows) ∧
      (query.joinRows kind source.base.name (some rows) body).run recording =
        (.ok joined, after) := by
  have compiled : (source.compile : StateM Recording (Result Plan)).run recording =
      (source.clauses.compile (recording.contextAt source.context) none none, recording) := rfl
  rw [joinQuery, Recording.run_bind compiled] at called
  cases found : source.clauses.compile (recording.contextAt source.context) none none with
  | error error =>
      rw [found] at called
      cases called
  | ok rows =>
      rw [found] at called
      exact ⟨rows, congrArg (·, recording) found, called⟩

/-- The joins of a context have the rows that they had, and no context is gone. -/
structure Recording.KeepsRows (id : ContextId) (before after : Recording) : Prop where
  length : before.contexts.length ≤ after.contexts.length
  rows : ∀ join ∈ (before.contextAt id).joins, ∃ kept ∈ (after.contextAt id).joins,
    kept.rows = join.rows

private theorem Context.mem_beginJoin {context after : Context} {kind : JoinKind} {entity : String}
    {rows : Option Plan} {table : Alias}
    (begun : context.beginJoin kind entity rows = .ok (table, after)) :
    ∃ join ∈ after.joins, join.rows = rows := by
  obtain ⟨target, -, begun⟩ := Result.bind_eq_ok.mp begun
  cases begun
  exact ⟨_, List.mem_append_right _ (List.mem_singleton_self _), rfl⟩

private theorem Context.mem_completeJoin {context : Context} {join : Join}
    (mem : join ∈ context.joins) (table : Alias) (condition : Expr) :
    ∃ kept ∈ (context.completeJoin table condition).joins, kept.rows = join.rows := by
  refine ⟨_, List.mem_map_of_mem mem, ?_⟩
  split <;> rfl

/-- A query whose join of another one succeeds uses the rows of that one, provided that the body
takes no join away. -/
theorem Query.joinQuery_uses {recording after : Recording} {query source joined : Query}
    {kind : JoinKind} {body : List TableHandle → StateM Recording Unit}
    (known : query.context < recording.contexts.length)
    (keeps : ∀ (tables : List TableHandle) (before : Recording),
      Recording.KeepsRows query.context before ((body tables).run before).2)
    (called : (query.joinQuery kind source body).run recording = (.ok joined, after)) :
    ∃ rows, Answers recording source.compile (.ok rows) ∧
      joined.clauses.Uses (after.contextAt query.context) rows := by
  obtain ⟨rows, compiled, called⟩ := joinQuery_run called
  obtain ⟨table, context, tables, recorded, begun, -, rfl, rfl⟩ := joinRows_run called
  refine ⟨rows, compiled, .inr ?_⟩
  let opened := (recording.setContext query.context context).beginClause query.context
    (.predicates [])
  have kept : Recording.KeepsRows query.context opened ((body tables).run opened).2 :=
    keeps tables opened
  -- the clause is closed with the contexts that the body left
  let later := ((body tables).run opened).2
  have same : ∀ id, later.endClause.2.contextAt id = later.contextAt id := by
    intro id
    rw [Recording.contextAt, Recording.contextAt, later.contexts_endClause]
  have known_later : query.context < later.endClause.2.contexts.length := by
    have longer : opened.contexts.length ≤ later.contexts.length := kept.length
    rw [later.contexts_endClause]
    refine Nat.lt_of_lt_of_le known (Nat.le_trans ?_ longer)
    exact Nat.le_of_eq List.length_set.symm
  obtain ⟨join, mem, nested⟩ := Context.mem_beginJoin begun
  have mem_opened : join ∈ (opened.contextAt query.context).joins := by
    have here := Recording.contextAt_setContext_self known context
    exact (congrArg Context.joins here).symm ▸ mem
  obtain ⟨still, mem_still, same_rows⟩ := kept.rows join mem_opened
  obtain ⟨final, mem_final, final_rows⟩ :=
    Context.mem_completeJoin mem_still table (.all recorded.statements)
  refine ⟨final, ?_, (final_rows.trans same_rows).trans nested⟩
  rw [Recording.contextAt_setContext_self known_later, same]
  exact mem_final

/-! ## Columns of queries around a nested one -/

/-- The plan of a valid query or projection of a context. -/
def Plan.OfValid (recording : Recording) (id : ContextId) (plan : Plan) : Prop :=
  (∃ query : Query, query.context = id ∧ query.Valid .scoping recording ∧
      Answers recording query.compile (.ok plan)) ∨
    ∃ query : ProjectedQuery, query.context = id ∧ query.Valid .scoping recording ∧
      Answers recording query.compile (.ok plan)

section Columns

variable {recording : Recording} {id : ContextId} {rows : Plan}

private theorem Plan.OfValid.obeys (sound : recording.ContextsSound .scoping)
    (planned : rows.OfValid recording id) :
    rows.source.query = some id ∧ rows.Obeys .scoping (recording.around id) := by
  have named : ∀ {clauses : Clauses} {projection : Option (List Item)}
      {grouping : Option Grouping}, id < recording.contexts.length →
        clauses.compile (recording.contextAt id) projection grouping = .ok rows →
          rows.source.query = some id := by
    intro clauses projection grouping known compiled
    obtain ⟨_, _, _, -, -, -, rfl⟩ := Clauses.compile_eq_ok compiled
    exact congrArg some (sound id known).named
  rcases planned with ⟨query, rfl, valid, compiled⟩ | ⟨query, rfl, valid, compiled⟩
  · have compiled := congrArg Prod.fst compiled
    refine ⟨named valid.known compiled, ?_⟩
    exact (sound.compile valid.known valid.clauses (by simp) (by simp)).holds rows compiled trivial
  · have compiled := congrArg Prod.fst compiled
    refine ⟨named valid.known compiled, ?_⟩
    refine (sound.compile valid.known valid.clauses ?_ valid.grouping).holds rows compiled trivial
    intro items mem
    cases mem
    exact valid.items

/-- A column that leads out of the plan of a query leads as far as the query of its handle is
away. -/
theorem Plan.OfValid.nesting_eq (sound : recording.ContextsSound .scoping)
    (planned : rows.OfValid recording id) {depth : Nat} {ref : ColumnRef} {bound : BoundColumn}
    (visited : ⟨depth, .expr (.column ref)⟩ ∈ rows.visits 0) (read : ref.bound = some bound)
    (leaves : depth < ref.nesting) : ∃ distance,
      (recording.contextAt id).enclosing[distance]? = some bound.context ∧
        ref.nesting = depth + (distance + 1) := by
  obtain ⟨query, obeys⟩ := planned.obeys sound
  -- the column as it is written outside of the plans that were entered
  let outside : ColumnRef := { ref with nesting := ref.nesting - depth }
  have free : Visit.freeColumn? ⟨depth, .expr (.column ref)⟩ = some outside :=
    if_pos (Nat.le_of_lt leaves)
  have resolves := (obeys_visits.plans rows obeys _ visited).freeColumn rfl free
  have read_outside : outside.bound = some bound := read
  have leads := Recording.queryOf_of_planned query read_outside resolves
  have split : ref.nesting - depth = (ref.nesting - depth - 1) + 1 := by omega
  refine ⟨ref.nesting - depth - 1, ?_, by omega⟩
  rwa [Recording.queryOf, show outside.nesting = _ from split, Recording.scope,
    List.getElem?_cons_succ] at leads

/-- The columns that lead out of the rows of a query are found in another plan, as many plans deep
as the plan that takes the rows is, one more, and as many as they were found inside.  A column
counts that many plans exactly if the query of its handle is around the nested one at the position
that has as many queries before it as the taking plan has plans around it. -/
def Plan.EmbeddedIn (recording : Recording) (id : ContextId) (rows top : Plan) (entered : Nat) :
    Prop :=
  ∀ depth ref bound, ⟨depth, .expr (.column ref)⟩ ∈ rows.visits 0 → ref.bound = some bound →
    depth < ref.nesting → ⟨entered + 1 + depth, .expr (.column ref)⟩ ∈ top.visits 0 ∧
      (ref.nesting = entered + 1 + depth ↔
        (recording.contextAt id).enclosing[entered]? = some bound.context)

/-- No query is twice around another one. -/
theorem Plan.OfValid.enclosing_nodup (sound : recording.ContextsSound .scoping)
    (planned : rows.OfValid recording id) : (recording.contextAt id).enclosing.Nodup := by
  have known : id < recording.contexts.length := by
    rcases planned with ⟨_, rfl, valid, -⟩ | ⟨_, rfl, valid, -⟩
    · exact valid.known
    · exact valid.known
  exact (List.nodup_cons.mp (sound id known).scope_nodup).2

theorem Plan.OfValid.embeddedIn (sound : recording.ContextsSound .scoping)
    (planned : rows.OfValid recording id) {top outer : Plan} {entered : Nat}
    (placed : ⟨entered, .plan outer⟩ ∈ top.visits 0) (takes : outer.Takes rows) :
    rows.EmbeddedIn recording id top entered := by
  intro depth ref bound visited read leaves
  obtain ⟨distance, found, nesting⟩ := planned.nesting_eq sound visited read leaves
  -- a query is at one distance around the rows, since none encloses itself
  constructor
  · have inside := Plan.visits_inside (takes.placed placed) visited
    rwa [Visit.lower, Nat.add_comm] at inside
  · constructor
    · intro same
      obtain rfl : distance = entered := by omega
      exact found
    · intro here
      have inside := (List.getElem?_eq_some_iff.mp found).1
      have same := (List.getElem?_inj inside (planned.enclosing_nodup sound)).mp
        (found.trans here.symm)
      omega

/-- Queries around a query that was made beside the nested one are around both, and one further away
from that query itself. -/
theorem Recording.ContextsSound.eq_of_beside (sound : recording.ContextsSound .scoping)
    {taker query : ContextId} {distance entered : Nat}
    (found : (recording.contextAt id).enclosing[distance]? = some query)
    (beside : (recording.contextAt id).enclosing = (recording.contextAt taker).enclosing)
    (nested : recording.Nested query entered taker) : entered = distance + 1 := by
  rw [beside] at found
  have known : taker < recording.contexts.length := by
    by_contra unknown
    rw [Recording.enclosing_of_unknown unknown] at found
    cases found
  have here := nested.scope_getElem? 0
  rw [Nat.zero_add] at here
  have there : (recording.scope taker)[distance + 1]? = some query := found
  have inside := (List.getElem?_eq_some_iff.mp there).1
  exact ((List.getElem?_inj inside (sound taker known).scope_nodup).mp
    (there.trans here.symm)).symm

end Columns

/-! ## Stacked and joined queries -/

section Calls

variable {recording : Recording} (sound : recording.ContextsSound .scoping)

include sound

/-- The plan of a query that uses the rows of a nested one, wherever that plan is. -/
theorem Clauses.Uses.embeddedIn {id : ContextId} {rows : Plan}
    (planned : rows.OfValid recording id) {clauses : Clauses} {context : Context}
    (uses : clauses.Uses context rows) {projection : Option (List Item)}
    {grouping : Option Grouping} {outer : Plan}
    (compiled : clauses.compile context projection grouping = .ok outer) {top : Plan}
    {entered : Nat} (placed : ⟨entered, .plan outer⟩ ∈ top.visits 0) :
    rows.EmbeddedIn recording id top entered :=
  planned.embeddedIn sound placed (uses.takes compiled)

/-- The columns of a query that is stacked on another one. -/
theorem Query.stack_embeds {query source stacked : Query} {op : SetOperator}
    (valid : source.Valid .scoping recording)
    (called : Answers recording (query.stack op source) (.ok stacked)) {context : Context}
    {projection : Option (List Item)} {grouping : Option Grouping} {outer : Plan}
    (compiled : stacked.clauses.compile context projection grouping = .ok outer) {top : Plan}
    {entered : Nat} (placed : ⟨entered, .plan outer⟩ ∈ top.visits 0) :
    ∃ rows, Answers recording source.compile (.ok rows) ∧
      rows.EmbeddedIn recording source.context top entered := by
  obtain ⟨rows, answered, uses⟩ := stack_uses called context
  have planned : rows.OfValid recording source.context := .inl ⟨source, rfl, valid, answered⟩
  exact ⟨rows, answered, uses.embeddedIn sound planned compiled placed⟩

/-- The columns of a projection that is stacked on another one. -/
theorem ProjectedQuery.stack_embeds {query source stacked : ProjectedQuery} {op : SetOperator}
    (valid : source.Valid .scoping recording)
    (called : Answers recording (query.stack op source) (.ok stacked)) {context : Context}
    {projection : Option (List Item)} {grouping : Option Grouping} {outer : Plan}
    (compiled : stacked.clauses.compile context projection grouping = .ok outer) {top : Plan}
    {entered : Nat} (placed : ⟨entered, .plan outer⟩ ∈ top.visits 0) :
    ∃ rows, Answers recording source.compile (.ok rows) ∧
      rows.EmbeddedIn recording source.context top entered := by
  obtain ⟨rows, answered, uses⟩ := stack_uses called context
  have planned : rows.OfValid recording source.context := .inr ⟨source, rfl, valid, answered⟩
  exact ⟨rows, answered, uses.embeddedIn sound planned compiled placed⟩

/-- The columns of a query whose rows are joined, in the plan of the query as it is when the clause
has ended. -/
theorem Query.joinQuery_embeds {after : Recording} {query source joined : Query} {kind : JoinKind}
    {body : List TableHandle → StateM Recording Unit} (valid : source.Valid .scoping recording)
    (known : query.context < recording.contexts.length)
    (keeps : ∀ (tables : List TableHandle) (before : Recording),
      Recording.KeepsRows query.context before ((body tables).run before).2)
    (called : (query.joinQuery kind source body).run recording = (.ok joined, after))
    {projection : Option (List Item)} {grouping : Option Grouping} {outer : Plan}
    (compiled : joined.clauses.compile (after.contextAt query.context) projection grouping =
      .ok outer) {top : Plan} {entered : Nat} (placed : ⟨entered, .plan outer⟩ ∈ top.visits 0) :
    ∃ rows, Answers recording source.compile (.ok rows) ∧
      rows.EmbeddedIn recording source.context top entered := by
  obtain ⟨rows, answered, uses⟩ := joinQuery_uses known keeps called
  have planned : rows.OfValid recording source.context := .inl ⟨source, rfl, valid, answered⟩
  exact ⟨rows, answered, uses.embeddedIn sound planned compiled placed⟩

end Calls

/-- In a list without repetition, what stands at a position is among the first ones exactly if the
position is. -/
theorem mem_take_iff_of_nodup {α : Type} [DecidableEq α] {items : List α} (nodup : items.Nodup)
    {position count : Nat} {item : α} (found : items[position]? = some item) :
    item ∈ items.take count ↔ position < count := by
  obtain ⟨inside, rfl⟩ := List.getElem?_eq_some_iff.mp found
  rw [List.mem_take_iff_idxOf_lt (List.getElem_mem inside), nodup.idxOf_getElem]

/-- The columns of a nested query in the plans that take its rows.  A column that leads out of the
nested query is found as many plans deep as the plan that takes the rows is, one more, and as many
as it was found inside.  This is what the column counts exactly if the query of its handle is around
the nested one at the position that has as many queries before it as the taking plan has plans
around it.  So the columns are right in the plan of the query whose clause the nested query was made
in, and count one plan too few in that of a query that was made beside it.  They lead out of the
whole plan exactly if the query of the handle is further out than that position.  In the plan of a
query that is nested in no other one, no column leads out of the whole plan. -/
theorem embedded_columns {recording : Recording} (sound : recording.ContextsSound .scoping)
    {id : ContextId} {rows : Plan} (planned : rows.OfValid recording id) :
    (∀ (top outer : Plan) (entered : Nat), ⟨entered, .plan outer⟩ ∈ top.visits 0 →
      outer.Takes rows → ∀ depth ref bound, ⟨depth, .expr (.column ref)⟩ ∈ rows.visits 0 →
        ref.bound = some bound → depth < ref.nesting →
          ⟨entered + 1 + depth, .expr (.column ref)⟩ ∈ top.visits 0 ∧
          (ref.nesting = entered + 1 + depth ↔
            (recording.contextAt id).enclosing[entered]? = some bound.context) ∧
          (∀ taker, recording.Nested bound.context entered taker →
            ((recording.contextAt id).enclosing = recording.scope taker →
              ref.nesting = entered + 1 + depth) ∧
            ((recording.contextAt id).enclosing = (recording.contextAt taker).enclosing →
              ref.nesting = entered + depth)) ∧
          (ref.nesting ≤ entered + 1 + depth ↔
            bound.context ∈ (recording.contextAt id).enclosing.take (entered + 1))) ∧
    ((recording.contextAt id).enclosing = [] → ∀ depth ref,
      ⟨depth, .expr (.column ref)⟩ ∈ rows.visits 0 → ref.nesting ≤ depth) := by
  constructor
  · intro top outer entered placed takes depth ref bound visited read leaves
    obtain ⟨distance, found, nesting⟩ := planned.nesting_eq sound visited read leaves
    obtain ⟨there, right_iff⟩ :=
      planned.embeddedIn sound placed takes depth ref bound visited read leaves
    -- columns of rows compiled inside the taker count its level; of rows beside it, they do not
    refine ⟨there, right_iff, fun taker nested => ⟨fun within => ?_, fun beside => ?_⟩, ?_⟩
    · refine right_iff.mpr ?_
      have here := nested.scope_getElem? 0
      rwa [Nat.zero_add, ← within] at here
    · have same := sound.eq_of_beside found beside nested
      omega
    · rw [mem_take_iff_of_nodup (planned.enclosing_nodup sound) found]
      omega
  · intro outermost depth ref visited
    obtain ⟨-, obeys⟩ := planned.obeys sound
    rw [Recording.around, outermost] at obeys
    exact Plan.Scoped.nesting_le obeys visited

namespace Example

/-- A context that is not yet in its place. -/
def contextIn (enclosing : List ContextId) (base : String) : Context :=
  .start connection.schema connection.options enclosing base

/-- In a clause of a query of blogs one of comments is made, in a clause of that one a query of
topics, and apart from them another query of topics. -/
def nestedRecording : Recording :=
  let blogs := (Recording.empty.addContext (contextIn [] "Blog")).2
  let comments := (blogs.addContext (contextIn [0] "Comment")).2
  let topics := (comments.addContext (contextIn [1, 0] "Topic")).2
  (topics.addContext (contextIn [] "Topic")).2

private theorem nestedRecording_sound : nestedRecording.ContextsSound .scoping := by
  have empty : Recording.empty.ContextsSound .scoping :=
    fun _ known => absurd known (Nat.not_lt_zero _)
  have blogs :=
    empty.addContext (rfl : (contextIn [] "Blog").joins = []) rfl trivial (by decide)
  have comments :=
    blogs.addContext (rfl : (contextIn [0] "Comment").joins = []) rfl trivial (by decide)
  have topics :=
    comments.addContext (rfl : (contextIn [1, 0] "Topic").joins = []) rfl trivial (by decide)
  exact topics.addContext (rfl : (contextIn [] "Topic").joins = []) rfl trivial (by decide)

/-- The topic is that of the blog. -/
def ofBlog : Expr :=
  .compare .eq (.column ⟨0, 0, 0, some ⟨2, 0, 0⟩⟩) (.column ⟨2, 0, 6, some ⟨0, 0, 6⟩⟩)

/-- The nested query of topics. -/
def blogTopics : Query :=
  { topicQuery with
    context := 2
    home := none
    clauses := { Clauses.initial with filter := [ofBlog] } }

/-- Its plan. -/
def blogTopicsPlan : Plan :=
  { topicPlan with source := { topicPlan.source with query := some 2 }, filter := some ofBlog }

/-- The other query of topics, with arms. -/
def otherTopics (arms : List Arm) : Query :=
  { topicQuery with context := 3, clauses := { Clauses.initial with arms := arms } }

/-- Its plan, with the nested one stacked on it. -/
def stackedTopicsPlan : Plan :=
  { topicPlan with
    source := { topicPlan.source with query := some 3 }
    arms := [⟨.union, blogTopicsPlan⟩] }

private theorem blogTopics_valid : blogTopics.Valid .scoping nestedRecording := by
  refine ⟨by decide, ⟨List.forall_mem_singleton.mpr ⟨?_, ?_⟩, by simp [blogTopics, Clauses.initial],
    by simp [blogTopics, Clauses.initial]⟩⟩
  · refine fun _ => ⟨nestedRecording.level 2, rfl, Nat.zero_lt_succ _, fun bound read => ?_⟩
    cases read
    exact ⟨rfl, rfl, rfl⟩
  · refine fun _ => ⟨nestedRecording.level 0, rfl, Nat.zero_lt_succ _, fun bound read => ?_⟩
    cases read
    exact ⟨rfl, rfl, rfl⟩

/-- The nested query of topics is stacked on the other one, which can be run.  The column of the
blog counts two plans, and one plan is around it. -/
theorem embedded_columns_topics :
    Answers nestedRecording ((otherTopics []).stack .union blogTopics)
      (.ok (otherTopics [⟨.union, blogTopicsPlan⟩])) ∧
    (∃ finish, (otherTopics [⟨.union, blogTopicsPlan⟩]).start (nestedRecording.contextAt 3) .empty 0
      .list = .ok (.load connection.schema topicQuery.base stackedTopicsPlan none finish)) ∧
    ∃ depth ref, ⟨depth, .expr (.column ref)⟩ ∈ stackedTopicsPlan.visits 0 ∧
      ref.nesting ≠ depth ∧ ¬ ref.nesting ≤ depth := by
  have planned : blogTopicsPlan.OfValid nestedRecording 2 :=
    .inl ⟨blogTopics, rfl, blogTopics_valid, rfl⟩
  have placed : ⟨0, .plan stackedTopicsPlan⟩ ∈ stackedTopicsPlan.visits 0 := List.mem_cons_self ..
  have takes : stackedTopicsPlan.Takes blogTopicsPlan :=
    .inl ⟨_, List.mem_singleton_self _, rfl⟩
  have visited : ⟨0, .expr (.column ⟨2, 0, 6, some ⟨0, 0, 6⟩⟩)⟩ ∈ blogTopicsPlan.visits 0 := by
    simp [blogTopicsPlan, topicPlan, ofBlog, Plan.visits, Expr.visitsOption, Expr.visits]
  obtain ⟨there, right_iff, -, inside_iff⟩ :=
    (embedded_columns nestedRecording_sound planned).1 _ _ _ placed takes _ _ ⟨0, 0, 6⟩ visited rfl
      (Nat.zero_lt_succ 1)
  refine ⟨rfl, ⟨_, rfl⟩, _, _, there, fun right => ?_, fun inside => ?_⟩
  · cases right_iff.mp right
  · exact absurd (inside_iff.mp inside) (by decide)

end Example

end TrackedQuery
