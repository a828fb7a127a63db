import TrackedQuery.Proofs.Program.Scoping

/-!
# Keys in nested queries

A key of a grouped query is an expression that was built where the query was grouped, and every
clause that uses it gets this expression as it is.  In a clause of the grouped query its columns
lead to the tables of that query.  A query that is nested in such a clause has no keys, but may use
a key that the clause has kept.  There its columns lead to other tables, because the nested queries
are not counted, whereas the handle of a column, which is read anew, leads out of them
(`Form.key_nested`).  So a key may be used in a nested query exactly when it reads no column of a
query around it.

## Strategy

* `Recording.Nested.scope_getElem?`, `Recording.Nested.outwards`: the scope of a nested query begins
  with the queries in between and goes on as the scope of the outer one.
* `Recording.ContextSound.ordered`: no query is twice in a scope, so a column that leads to one of
  them from one place leads to another one from a place that is deeper.
* `Clauses.visits_of_compile`: what a filter reads, its plan reads.
-/

namespace TrackedQuery

/-! ## Columns of queries around an expression -/

/-- The column as it is written the given number of nested queries further inside. -/
def ColumnRef.raise (ref : ColumnRef) (depth : Nat) : ColumnRef :=
  { ref with nesting := ref.nesting + depth }

/-- The column that a walk stops at, if it leads out of every plan that the walk has entered, as it
is written where the walk started. -/
def Visit.freeColumn? (visit : Visit) : Option ColumnRef :=
  visit.column?.bind fun ref =>
    if visit.depth ≤ ref.nesting then some { ref with nesting := ref.nesting - visit.depth }
    else none

/-- The columns that an expression reads of the queries around it, as they are written at its
place. -/
def Expr.freeColumns (expr : Expr) : List ColumnRef := (expr.visits 0).filterMap Visit.freeColumn?

private theorem Visit.column?_eq_some {visit : Visit} {ref : ColumnRef} :
    visit.column? = some ref ↔ visit.node = .expr (.column ref) := by
  unfold Visit.column?
  split
  · next expr hnode =>
      rw [hnode]
      unfold Expr.column?
      split <;> simp_all
  · next other =>
      constructor
      · intro found
        cases found
      · exact fun here => (other _ here).elim

/-- What resolves inside the plans that a walk has entered resolves where the walk started. -/
theorem Visit.Obeys.freeColumn {rule : Rule} (strict : rule.strict = true) {around : List Level}
    {visit : Visit} (obeys : visit.Obeys rule 0 around) {ref : ColumnRef}
    (free : visit.freeColumn? = some ref) : ref.Resolves around := by
  obtain ⟨depth, node⟩ := visit
  obtain ⟨inside, found, free⟩ := Option.bind_eq_some_iff.mp free
  obtain rfl : node = .expr (.column inside) := Visit.column?_eq_some.mp found
  split at free
  · next leaves =>
      cases free
      obtain ⟨inner, hdepth, level, hlevel, has, reads⟩ := obeys strict
      have entered : depth = inner.length := by simpa using hdepth
      refine ⟨level, ?_, has, reads⟩
      rw [List.getElem?_append_right (by omega), ← entered] at hlevel
      exact hlevel
  · cases free

private theorem Expr.Obeys.freeColumns {rule : Rule} (strict : rule.strict = true)
    {around : List Level} {expr : Expr} (obeys : expr.Obeys rule around) :
    ∀ ref ∈ expr.freeColumns, ref.Resolves around := by
  intro ref mem
  obtain ⟨visit, visited, free⟩ := List.mem_filterMap.mp mem
  exact (obeys_visits.expr expr obeys visit visited).freeColumn strict free

/-! ## Nested queries -/

namespace Recording

/-- The query of a context is nested in that of another one, the given number of queries deep. -/
inductive Nested (recording : Recording) (outermost : ContextId) : Nat → ContextId → Prop where
  | itself : Nested recording outermost 0 outermost
  | inside {depth : Nat} {parent id : ContextId} (further : Nested recording outermost depth parent)
      (enclosing : (recording.contextAt id).enclosing = recording.scope parent) :
      Nested recording outermost (depth + 1) id

/-- The query that a column leads to from the clauses of a query. -/
def queryOf (recording : Recording) (id : ContextId) (ref : ColumnRef) : Option ContextId :=
  (recording.scope id)[ref.nesting]?

variable {recording : Recording} {outermost nested : ContextId} {depth : Nat}

theorem Nested.scope_getElem? (inside : recording.Nested outermost depth nested) (nesting : Nat) :
    (recording.scope nested)[nesting + depth]? = (recording.scope outermost)[nesting]? := by
  induction inside with
  | itself => rfl
  | @inside depth parent id further enclosing ih =>
      calc (recording.scope id)[nesting + (depth + 1)]?
          = (recording.scope parent)[nesting + depth]? := by
            rw [scope, enclosing, ← Nat.add_assoc, List.getElem?_cons_succ]
        _ = (recording.scope outermost)[nesting]? := ih

/-- Fewer steps outwards than would lead out of the nested queries end in one of them. -/
theorem Nested.outwards (inside : recording.Nested outermost depth nested) {steps : Nat}
    (few : steps ≤ depth) : ∃ query, (recording.scope nested)[steps]? = some query ∧
      recording.Nested outermost (depth - steps) query := by
  induction inside generalizing steps with
  | itself =>
      obtain rfl := Nat.le_zero.mp few
      exact ⟨outermost, rfl, .itself⟩
  | @inside depth parent id further enclosing ih =>
      cases steps with
      | zero => exact ⟨id, rfl, further.inside enclosing⟩
      | succ steps =>
          obtain ⟨query, found, between⟩ := ih (Nat.le_of_succ_le_succ few)
          refine ⟨query, ?_, by rwa [Nat.add_sub_add_right]⟩
          rw [scope, enclosing, List.getElem?_cons_succ, found]

theorem Nested.mono {rule : Rule} {later : Recording}
    (inside : recording.Nested outermost depth nested) (sound : recording.ContextsSound rule)
    (grows : recording.Grows later) (known : nested < recording.contexts.length) :
    later.Nested outermost depth nested := by
  induction inside with
  | itself => exact .itself
  | @inside depth parent id further enclosing ih =>
      have parent_known : parent < recording.contexts.length := by
        have older := (List.pairwise_cons.mp (sound id known).ordered).1
        rw [enclosing] at older
        exact Nat.lt_trans (older parent (List.mem_cons_self ..)) known
      refine (ih parent_known).inside ?_
      rw [grows.enclosing known, enclosing, grows.scope parent_known]

theorem ContextSound.scope_nodup {rule : Rule} {id : ContextId}
    (sound : recording.ContextSound rule id) : (recording.scope id).Nodup :=
  sound.ordered.imp fun older => Nat.ne_of_gt older

/-- From inside nested queries, a column leads to the query that it led to from outside of them only
if it counts them. -/
theorem Nested.queryOf_raise (inside : recording.Nested outermost depth nested) (ref : ColumnRef) :
    recording.queryOf nested (ref.raise depth) = recording.queryOf outermost ref :=
  inside.scope_getElem? ref.nesting

private theorem Nested.queryOf_eq_iff {rule : Rule}
    (inside : recording.Nested outermost depth nested) (sound : recording.ContextSound rule nested)
    {ref : ColumnRef} {query : ContextId} (leads : recording.queryOf outermost ref = some query) :
    recording.queryOf nested ref = some query ↔ depth = 0 := by
  rw [← inside.queryOf_raise] at leads
  have within := (List.getElem?_eq_some_iff.mp leads).1
  constructor
  · intro same
    -- the query would stand at two places of one scope
    have equal : ref.nesting + depth = ref.nesting :=
      (List.getElem?_inj within sound.scope_nodup).mp (leads.trans same.symm)
    omega
  · rintro rfl
    exact leads

/-- The columns of an expression lead to the same queries from inside nested queries as from outside
of them exactly if no query lies between or there is no column. -/
theorem Nested.forall_queryOf_eq_iff {rule : Rule}
    (inside : recording.Nested outermost depth nested)
    (sound : recording.ContextSound rule nested) {refs : List ColumnRef}
    (lead : ∀ ref ∈ refs, ∃ query, recording.queryOf outermost ref = some query) :
    (∀ ref ∈ refs, recording.queryOf nested ref = recording.queryOf outermost ref) ↔
      depth = 0 ∨ refs = [] := by
  constructor
  · intro same
    by_cases outside : depth = 0
    · exact .inl outside
    · refine .inr (List.eq_nil_iff_forall_not_mem.mpr fun ref mem => ?_)
      obtain ⟨query, leads⟩ := lead ref mem
      have here := (same ref mem).trans leads
      exact outside ((inside.queryOf_eq_iff sound leads).mp here)
  · rintro (outside | none) ref mem
    · obtain ⟨query, leads⟩ := lead ref mem
      rw [leads]
      exact (inside.queryOf_eq_iff sound leads).mpr outside
    · rw [none] at mem
      cases mem

/-- A column that resolves in a clause leads to a query, and if a handle was read, to the one of the
handle. -/
theorem queryOf_of_resolves {id : ContextId} {ref : ColumnRef}
    (resolves : ref.Resolves (recording.levels id)) :
    ∃ query, recording.queryOf id ref = some query ∧ ∀ bound ∈ ref.bound,
      query = bound.context ∧ ref.table = bound.table ∧ ref.column = bound.column := by
  obtain ⟨level, found, -, reads⟩ := resolves
  rw [levels, List.getElem?_map] at found
  obtain ⟨query, leads, rfl⟩ := Option.map_eq_some_iff.mp found
  refine ⟨query, leads, fun bound read => ?_⟩
  obtain ⟨same, table, column⟩ := reads bound read
  exact ⟨Option.some.inj same, table, column⟩

end Recording

/-- The body of a nested query builds a query that is nested one deeper. -/
theorem Query.keeps_nestedIn_deeper {scheme : Scheme} {start : Recording} {stack : List Closure}
    {outermost parent : ContextId} {depth : Nat} (inside : start.Nested outermost depth parent)
    (known : parent < start.contexts.length) (base : EntityType) :
    Keeps scheme start stack (nestedIn parent base) stack
      (fun recording query => recording.Nested outermost (depth + 1) query.context) := by
  rintro session rfl sound
  obtain ⟨later_sound, grows, made⟩ := keeps_nestedIn known base session rfl sound
  have still := inside.mono sound.recording.contexts grows known
  exact ⟨later_sound, grows, still.inside (made.enclosing.trans (grows.scope known).symm)⟩

/-! ## Plans of nested queries -/

private theorem Expr.mem_visitsAll {exprs : List Expr} {expr : Expr} {depth : Nat} {visit : Visit}
    (mem : expr ∈ exprs) (visited : visit ∈ expr.visits depth) :
    visit ∈ Expr.visitsAll depth exprs :=
  Expr.forall_visitsAll.mp (fun _ stops => stops) expr mem visit visited

private theorem mem_visits_condition? {statements : List Expr} {statement : Expr} {depth : Nat}
    {ref : ColumnRef} (mem : statement ∈ statements)
    (visited : ⟨depth, .expr (.column ref)⟩ ∈ statement.visits 0) :
    ∃ condition ∈ condition? statements, ⟨depth, .expr (.column ref)⟩ ∈ condition.visits 0 := by
  have conjoined : ⟨depth, .expr (.column ref)⟩ ∈ (Expr.all statements).visits 0 := by
    match statements with
    | [] => cases mem
    | [single] => rwa [List.mem_singleton.mp mem] at visited
    | _ :: _ :: _ => exact List.mem_cons_of_mem _ (Expr.mem_visitsAll mem visited)
  unfold condition?
  dsimp only
  split
  · next literal =>
      rw [Expr.eq_truth_of_isTrue literal] at conjoined
      simp [Expr.truth, Expr.visits] at conjoined
  · exact ⟨_, rfl, conjoined⟩

/-- A plan reads the columns that a statement of its filter reads, as they are. -/
theorem Clauses.visits_of_compile {clauses : Clauses} {context : Context}
    {projection : Option (List Item)} {grouping : Option Grouping} {plan : Plan}
    (compiled : clauses.compile context projection grouping = .ok plan) {statement : Expr}
    (mem : statement ∈ clauses.filter) {depth : Nat} {ref : ColumnRef}
    (visited : ⟨depth, .expr (.column ref)⟩ ∈ statement.visits 0) :
    ⟨depth, .expr (.column ref)⟩ ∈ plan.visits 0 := by
  obtain ⟨entity, items, joins, -, -, -, rfl⟩ := Clauses.compile_eq_ok compiled
  obtain ⟨-, -, -, -, parts⟩ := Plan.forall_visits.mp fun _ stops => stops
  have planned : statement ∈ clauses.planStatements context entity := by
    unfold Clauses.planStatements
    split
    · exact List.mem_append_left _ mem
    · exact mem
  obtain ⟨condition, filter, stops⟩ := mem_visits_condition? planned visited
  exact parts.filter condition filter _ stops

/-- In the plan of a query, a column that resolves leads to the query of its handle. -/
theorem Recording.queryOf_of_planned {recording : Recording} {id : ContextId} {plan : Plan}
    (compiled : plan.source.query = some id) {ref : ColumnRef} {bound : BoundColumn}
    (read : ref.bound = some bound)
    (resolves : ref.Resolves (plan.level :: recording.around id)) :
    recording.queryOf id ref = some bound.context := by
  obtain ⟨level, found, -, reads⟩ := resolves
  have query := (reads bound read).1
  unfold Recording.queryOf Recording.scope
  cases nesting : ref.nesting with
  | zero =>
      rw [nesting] at found
      cases found
      exact compiled.symm.trans query
  | succ nesting =>
      rw [nesting, List.getElem?_cons_succ, Recording.around, List.getElem?_map] at found
      obtain ⟨other, hother, rfl⟩ := Option.map_eq_some_iff.mp found
      exact hother.trans query

/-- If the plan of a query is scoped, then what its filter reads leads to the queries of the
handles. -/
theorem Clauses.queryOf_of_scoped {recording : Recording} {id : ContextId} {clauses : Clauses}
    {projection : Option (List Item)} {grouping : Option Grouping} {plan : Plan}
    (named : (recording.contextAt id).id = id)
    (compiled : clauses.compile (recording.contextAt id) projection grouping = .ok plan)
    {statement expr : Expr} (mem : statement ∈ clauses.filter)
    (inside : ∀ visit ∈ expr.visits 0, visit ∈ statement.visits 0)
    (obeys : plan.Obeys .scoping (recording.around id)) {ref : ColumnRef}
    (free : ref ∈ expr.freeColumns) {bound : BoundColumn} (read : ref.bound = some bound) :
    recording.queryOf id ref = some bound.context := by
  obtain ⟨⟨depth, node⟩, visited, free⟩ := List.mem_filterMap.mp free
  obtain ⟨column, found, -⟩ := Option.bind_eq_some_iff.mp free
  obtain rfl : node = .expr (.column column) := Visit.column?_eq_some.mp found
  have planned := clauses.visits_of_compile compiled mem (inside _ visited)
  have resolves := (obeys_visits.plans plan obeys _ planned).freeColumn rfl free
  have query : plan.source.query = some id := by
    obtain ⟨_, _, _, -, -, -, rfl⟩ := Clauses.compile_eq_ok compiled
    exact congrArg some named
  exact Recording.queryOf_of_planned query read resolves

/-! ## Keys -/

/-- A column of a query that is being built around the innermost clause, read anew. -/
theorem Recording.Sound.resolveColumn_eq {rule : Rule} {recording : Recording}
    {context : ContextId} {stack : List ContextId} (sound : recording.Sound rule (context :: stack))
    {ref : ColumnRef} {bound : BoundColumn} (read : ref.bound = some bound)
    (same : ref.table = bound.table ∧ ref.column = bound.column)
    (leads : recording.queryOf context ref = some bound.context) :
    recording.resolveColumn bound.context bound.table bound.column = .ok ref := by
  obtain ⟨recorder, outer, hrecorders, rfl, -⟩ := sound.innermost
  have known := sound.known recorder.context (List.mem_cons_self ..)
  have distinct := (sound.contexts _ known).scope_nodup
  obtain ⟨within, here⟩ := List.getElem?_eq_some_iff.mp leads
  have found : (recording.scope recorder.context).idxOf? bound.context = some ref.nesting := by
    refine List.idxOf?_eq_some_iff.mpr ⟨within, here, fun earlier before equal => ?_⟩
    have index := (List.getElem_inj distinct).mp (equal.trans here.symm)
    omega
  unfold Recording.resolveColumn Recording.active?
  rw [hrecorders]
  simp only [List.head?_cons, found]
  obtain ⟨nesting, table, column, bound?⟩ := ref
  cases read
  obtain ⟨rfl, rfl⟩ := same
  rfl

/-- A clause of a grouped query keeps a key as the expression that it is.  In a query that is nested
in the clause, what was kept is still that expression.  To lead to the query that it led to, each of
its columns would have to be raised by the number of nested queries, as the column is when its
handle is read there.  As it is, a column leads to one of the nested queries if it counts fewer
queries than lie between.  So the columns of the key lead to the right queries exactly if there are
none, or no query lies between.  The plan of the nested query reads them as they are, and so it is
not scoped. -/
theorem Form.key_nested {scheme : Scheme} {session : Session} {closure : Closure}
    {stack : List Closure} (sound : session.Sound scheme (closure :: stack))
    {grouped : ContextId} {depth : Nat}
    (nested : session.recording.Nested grouped depth closure.context) {keys : List Item}
    (resolve : Item.ValidIn .scoping session.recording grouped keys) {name : String} {index : Nat}
    (held : session.terms.get? name = some (.expr (GroupedQuery.keyAt keys index))) :
    ∃ key : TypedExpr,
      (∀ (tables : List TableHandle) (outer : List Frame) (before : Session),
        ((Form.keep name (.key index)).evaluate (⟨tables, some keys⟩ :: outer) before).2.terms.get?
          name = some (.expr key)) ∧
      (∀ frames : List Frame, (Form.kept name).evaluate frames session = (.expr key, session)) ∧
      key = GroupedQuery.keyAt keys index ∧
      (∀ ref ∈ key.expr.freeColumns, ∃ query,
        session.recording.queryOf grouped ref = some query ∧
        session.recording.queryOf closure.context (ref.raise depth) = some query ∧
        (∀ bound ∈ ref.bound, session.recording.resolveColumn bound.context bound.table
          bound.column = .ok (ref.raise depth)) ∧
        (ref.nesting < depth → ∃ other,
          session.recording.queryOf closure.context ref = some other ∧
          session.recording.Nested grouped (depth - ref.nesting) other)) ∧
      ((∀ ref ∈ key.expr.freeColumns, session.recording.queryOf closure.context ref =
          session.recording.queryOf grouped ref) ↔ depth = 0 ∨ key.expr.freeColumns = []) ∧
      ∀ (clauses : Clauses) (projection : Option (List Item)) (grouping : Option Grouping)
        (plan : Plan), clauses.compile (session.recording.contextAt closure.context) projection
            grouping = .ok plan →
          ∀ statement ∈ clauses.filter,
            (∀ visit ∈ key.expr.visits 0, visit ∈ statement.visits 0) →
              (∀ entered ref, ⟨entered, .expr (.column ref)⟩ ∈ key.expr.visits 0 →
                ⟨entered, .expr (.column ref)⟩ ∈ plan.visits 0) ∧
              (plan.Obeys .scoping (session.recording.around closure.context) →
                depth = 0 ∨ ∀ ref ∈ key.expr.freeColumns, ref.bound = none) := by
  have known := sound.recording.known closure.context (List.mem_cons_self ..)
  have context_sound := sound.recording.contexts _ known
  -- what the columns of the key are where the query was grouped
  have leads : ∀ ref ∈ (GroupedQuery.keyAt keys index).expr.freeColumns, ∃ query,
      session.recording.queryOf grouped ref = some query ∧ ∀ bound ∈ ref.bound,
        query = bound.context ∧ ref.table = bound.table ∧ ref.column = bound.column := by
    intro ref mem
    have valid := GroupedQuery.valid_keyAt resolve index
    exact Recording.queryOf_of_resolves (Expr.Obeys.freeColumns rfl valid ref mem)
  refine ⟨GroupedQuery.keyAt keys index, fun tables outer before => ?_, fun frames => ?_, rfl,
    fun ref mem => ?_, ?_, ?_⟩
  · exact Names.get?_put_self before.terms name (.expr (GroupedQuery.keyAt keys index))
  · -- an expression is not moved when it is used, so it stays kept
    exact Session.takeTerm_of_get? held rfl
  · obtain ⟨query, hquery, reads⟩ := leads ref mem
    have raised := (nested.queryOf_raise ref).trans hquery
    refine ⟨query, hquery, raised, fun bound read => ?_, fun short => ?_⟩
    · obtain ⟨rfl, same⟩ := reads bound read
      exact sound.recording.resolveColumn_eq read same raised
    · exact nested.outwards (Nat.le_of_lt short)
  · refine nested.forall_queryOf_eq_iff context_sound fun ref mem => ?_
    obtain ⟨query, hquery, -⟩ := leads ref mem
    exact ⟨query, hquery⟩
  · intro clauses projection grouping plan compiled statement mem inside
    refine ⟨fun _ _ visited => clauses.visits_of_compile compiled mem (inside _ visited), ?_⟩
    refine fun obeys => or_iff_not_imp_left.mpr fun deeper ref free => ?_
    obtain ⟨query, hquery, reads⟩ := leads ref free
    by_contra handle
    obtain ⟨bound, read⟩ := Option.ne_none_iff_exists'.mp handle
    obtain ⟨rfl, -⟩ := reads bound read
    have here := clauses.queryOf_of_scoped context_sound.named compiled mem inside obeys free read
    exact deeper ((nested.queryOf_eq_iff context_sound hquery).mp here)

namespace Example

/-- The topics that blogs have, if each is compared with those that there are, in a nested query
that uses the key of the group. -/
def knownTopics : Program :=
  { beginning := .entity none "Blog"
    steps :=
      [.groupBy [.column (.table 0 0) "topic_id" .string],
        .having
          [.keep "topic" (.key 0),
            .anyRow (.table 0 0) "Topic"
              [.filterBy [.compare .eq (.column (.table 0 0) "id" .string) (.kept "topic")]]
              false],
        .select [.key 0] false] }

/-- The key is the column of the blogs that refers to the topic. -/
def topicKey : List Item := [⟨.column ⟨0, 0, 6, some ⟨0, 0, 6⟩⟩, .string⟩]

/-- A clause of a query over blogs that keeps a key, and in it a clause of a query over topics. -/
def nestedClause : SessionM Unit := do
  let blogs ← Query.ofConnection connection (.ofEntity "Blog" blog)
  modifyThe Recording (·.beginClause blogs.context (.predicates []))
  let _ ← (Form.keep "topic" (.key 0)).evaluate [⟨[], some topicKey⟩]
  let topics ← Query.nestedIn blogs.context (.ofEntity "Topic" topic)
  modifyThe Recording (·.beginClause topics.context (.predicates []))

/-- The session in which the inner clause is being built. -/
def insideClause : Session := (nestedClause (Session.start connection types)).2

private theorem topicKey_valid {recording : Recording} :
    Item.ValidIn .scoping recording 0 topicKey := by
  refine List.forall_mem_singleton.mpr fun _ => ⟨recording.level 0, rfl, Nat.succ_pos _, ?_⟩
  intro bound read
  cases read
  exact ⟨rfl, rfl, rfl⟩

private theorem insideClause_sound :
    insideClause.Sound ⟨.scoping, fun _ => False⟩ [⟨1, []⟩, ⟨0, ["topic"]⟩] ∧
      insideClause.recording.Nested 0 1 1 := by
  have database : Rule.scoping.database connection.schema connection.options := trivial
  have started : (Session.start connection types).Sound ⟨.scoping, fun _ => False⟩ [] :=
    Session.sound_start types database
  obtain ⟨made, -, -⟩ :=
    Query.keeps_ofConnection database (.ofEntity "Blog" blog) _ rfl started
  obtain ⟨begun, -, -⟩ :=
    Keeps.beginClause (Nat.zero_lt_succ 0) obeys_noPredicates _ rfl made
  -- the name of the key is used by no closure around the clause
  have fits : (Form.keep "topic" (.key 0)).Fits ⟨.scoping, fun _ => False⟩ [] [] :=
    ⟨trivial, fun _ => False.elim, fun _ _ => List.not_mem_nil⟩
  have frame : ∀ recording : Recording,
      Frame.Sound ⟨.scoping, fun _ => False⟩ recording 0 [⟨[], some topicKey⟩] := by
    refine fun recording => ⟨by simp [Frame.TablesExist], fun keys own => ?_⟩
    cases own
    exact topicKey_valid
  obtain ⟨kept, -, -⟩ := Form.Kept.keep "topic" (Form.Kept.key 0) fits (frame _) _ rfl begun
  obtain ⟨nested, -, deeper⟩ :=
    Query.keeps_nestedIn_deeper .itself (Nat.zero_lt_succ 0) (.ofEntity "Topic" topic) _ rfl kept
  obtain ⟨inside, grows, -⟩ :=
    Keeps.beginClause (Nat.lt_succ_self 1) obeys_noPredicates _ rfl nested
  exact ⟨inside, deeper.mono nested.recording.contexts grows (Nat.lt_succ_self 1)⟩

/-- In the clause of the topics the key that was kept leads to the topics and not to the blogs, and
in the plan of the program it is read as a column of the nested query. -/
theorem key_nested_topics :
    (∃ key : TypedExpr, (∀ frames : List Frame,
        (Form.kept "topic").evaluate frames insideClause = (.expr key, insideClause)) ∧
      ¬ ∀ ref ∈ key.expr.freeColumns,
        insideClause.recording.queryOf 1 ref = insideClause.recording.queryOf 0 ref) ∧
    ∃ plan, knownTopics.planAnswer connection types = .replies [.ok (.plan plan)] ∧
      ∃ visit ∈ plan.visits 0, visit.depth = 1 ∧
        visit.column? = some ⟨0, 0, 6, some ⟨0, 0, 6⟩⟩ := by
  obtain ⟨sound, nested⟩ := insideClause_sound
  have held : insideClause.terms.get? "topic" =
      some (.expr (GroupedQuery.keyAt topicKey 0)) := rfl
  constructor
  · obtain ⟨key, -, taken, same, -, right_iff, -⟩ :=
      Form.key_nested sound nested topicKey_valid held
    refine ⟨key, taken, fun right => ?_⟩
    subst same
    rcases right_iff.mp right with outside | none
    · cases outside
    · cases none
  · have reads : ((knownTopics.planAnswer connection types).plan?.any fun plan =>
        (plan.visits 0).any fun visit => visit.depth == 1 &&
          visit.column? == some ⟨0, 0, 6, some ⟨0, 0, 6⟩⟩) = true := by
      decide +kernel
    obtain ⟨plan, found, read⟩ := (Option.any_eq_true ..).mp reads
    obtain ⟨visit, visited, read⟩ := List.any_eq_true.mp read
    simp only [Bool.and_eq_true, beq_iff_eq] at read
    exact ⟨plan, StepAnswer.eq_of_plan? found, visit, visited, read⟩

end Example

end TrackedQuery
