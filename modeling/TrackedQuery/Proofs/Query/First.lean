import TrackedQuery.Proofs.Query.Pages

/-!
# The first instance

The first instance of a query is asked for with a plan of its own: the plan of the query, whose
limit is replaced by one row.  A limit of the query is meant to bound what it answers, so the first
instance should be the first one of the list.  It is, with one exception: a query that is limited to
no row has an empty list, and its first instance is that of the query without the limit
(`Query.first_eq_head_iff`).

## Strategy

* The plans of both requests differ in their windows only (`Clauses.compile_windowed`), so a
  database that cuts windows from one sequence of rows cuts both from the same one.
* `Window.head?_cut`: a window begins with the row that it skips to, unless it keeps none.
-/

namespace TrackedQuery

/-! ## Windows -/

namespace Window

variable {α : Type}

/-- The part of a sequence that a window keeps.  A bound that is absent does not bound. -/
def cut (window : Window) (items : List α) : List α :=
  let rest := items.drop (window.offset.getD 0)
  window.limit.elim rest rest.take

/-- A window begins with what it skips to, unless it keeps nothing. -/
theorem head?_cut (window : Window) (items : List α) :
    (window.cut items).head? =
      if window.limit = some 0 then none else (items.drop (window.offset.getD 0)).head? := by
  obtain ⟨offset, _ | _ | limit⟩ := window
  · rfl
  · rfl
  · rw [if_neg (by simp)]
    exact List.head?_take.trans (if_neg (Nat.succ_ne_zero limit))

private theorem cut_one (offset : Option Nat) (items : List α) :
    (cut ⟨offset, some 1⟩ items).head? = (items.drop (offset.getD 0)).head? := by
  rw [head?_cut, if_neg (by simp)]

end Window

/-- The window of clauses is the one of their offset and their limit. -/
theorem Clauses.window?_getD (clauses : Clauses) :
    clauses.window?.getD .all = ⟨clauses.offset, clauses.limit⟩ := by
  unfold window? Window.isAll
  cases clauses.offset <;> cases clauses.limit <;> rfl

/-! ## Databases with one sequence of rows for a plan -/

section Running

variable {δ : Type} {schema : Schema} {type : EntityType} {entity : Entity} {plan : Plan}
  {rows : List Row} {instances : List Instance} {world : World δ}

/-- The database has one sequence of rows for a plan, and answers it with the part that is in its
window, whatever the window is. -/
def Database.Cuts (database : Database δ) (plan : Plan) (rows : List Row) : Prop :=
  ∀ (state : δ) (window : Option Window),
    (database.answer state (.query { plan with window := window })).1 =
      .ok (.rows ((window.getD .all).cut rows))

private theorem Entity.LoadsAll.cut (loads : entity.LoadsAll type rows instances)
    (window : Window) :
    entity.LoadsAll type (window.cut rows) (window.cut instances) := by
  have skipped := List.forall₂_drop (window.offset.getD 0) loads
  unfold Window.cut
  cases window.limit with
  | none => exact skipped
  | some limit => exact List.forall₂_take limit skipped

/-- Loading a plan with a window makes something of the instances in the window. -/
theorem Task.run_cut (registered : schema.resolve type.name = .ok entity)
    (loads : entity.LoadsAll type rows instances) (cuts : world.database.Cuts plan rows)
    (window : Option Window) (finish : List Instance → Result Outcome) :
    ((Task.load schema type { plan with window := window } none finish).run world).1 =
      finish ((window.getD .all).cut instances) := by
  have loaded := loadPlan_of_loadsAll registered (cuts world.state window) (loads.cut _)
  exact congrArg Prod.fst (bind_eq loaded)

end Running

/-! ## The list and its first instance -/

/-- Loading a query that is not tracked starts with its plan, in the window of the clauses. -/
theorem Query.startLoad_of_compile {query : Query} {connection : Connection} {context : Context}
    {clauses : Clauses} {plan : Plan} (home : query.home = some connection)
    (untracked : query.clauses.tracking = false)
    (compiled : clauses.compile context none none = .ok plan) (tracking : Tracking)
    (thread : ThreadId) (finish : List Instance → Result Outcome) :
    query.startLoad clauses context tracking thread finish =
      .ok (.load connection.schema query.base plan none finish) := by
  have noted : query.trackingScope connection tracking thread = .ok none := by
    rw [trackingScope, if_neg (by simp [untracked])]
  simp only [startLoad, homeOf, home, noted, compiled, bind, Except.bind, pure, Except.pure]

/-- The list of a query has the instances in its window, and its first instance is the one that the
window begins with.  The two agree, also on there being none, except when the query is limited to no
row although there is one after its offset. -/
theorem Query.first_eq_head_iff {δ : Type} {query : Query} {connection : Connection}
    {context : Context} {plan : Plan} {entity : Entity} {database : Database δ} {rows : List Row}
    {instances : List Instance} (home : query.home = some connection)
    (untracked : query.clauses.tracking = false)
    (compiled : query.clauses.compile context none none = .ok plan)
    (registered : connection.schema.resolve query.base.name = .ok entity)
    (loads : entity.LoadsAll query.base rows instances) (cuts : database.Cuts plan rows) :
    ∃ listed found,
      (∀ (tracking : Tracking) (thread : ThreadId), ∃ list first,
        query.start context tracking thread .list = .ok list ∧
        query.start context tracking thread .first? = .ok first ∧
        ∀ world : World δ, world.database = database →
          (list.run world).1 = .ok (.list listed) ∧ (first.run world).1 = .ok (.first? found)) ∧
      listed = Window.cut ⟨query.clauses.offset, query.clauses.limit⟩ instances ∧
      found = (instances.drop (query.clauses.offset.getD 0)).head? ∧
      ((found = listed.head? ∧ (found = none ↔ listed = [])) ↔
        (query.clauses.limit = some 0 → rows.length ≤ query.clauses.offset.getD 0)) := by
  have windowed := Clauses.compile_windowed compiled
  refine ⟨_, _, ?_, rfl, rfl, ?_⟩
  · intro tracking thread
    have list := startLoad_of_compile home untracked
      (windowed query.clauses.offset query.clauses.limit) tracking thread (.ok ∘ Outcome.list)
    have first := startLoad_of_compile home untracked (windowed query.clauses.offset (some 1))
      tracking thread (fun instances => .ok (.first? instances.head?))
    refine ⟨_, _, list, first, ?_⟩
    rintro world rfl
    rw [Task.run_cut registered loads cuts, Task.run_cut registered loads cuts,
      Clauses.window?_getD, Clauses.window?_getD, Window.cut_one]
    exact ⟨rfl, rfl⟩
  · have length : rows.length = instances.length := loads.length_eq
    rw [← List.head?_eq_none_iff, Window.head?_cut, length, ← List.drop_eq_nil_iff,
      ← List.head?_eq_none_iff]
    by_cases bounded : query.clauses.limit = some 0
    · -- the list is empty, so there must not be a first instance
      rw [if_pos bounded]
      exact ⟨fun agree _ => agree.1, fun none => ⟨none bounded, by simp [none bounded]⟩⟩
    · rw [if_neg bounded]
      exact ⟨fun _ limited => absurd limited bounded, fun _ => ⟨rfl, Iff.rfl⟩⟩

namespace Example

/-- A database that has three topics for every plan. -/
def topicsDatabase : Database Unit where
  answer _ operation :=
    match operation with
    | .query plan => (.ok (.rows ((plan.window.getD .all).cut pagedRows)), ())
    | _ => (.ok (.count 0), ())

/-- A query of topics with an offset and a limit. -/
def windowedQuery (offset limit : Option Nat) : Query :=
  { pagedQuery with clauses := { Clauses.initial with offset := offset, limit := limit } }

/-- Two topics after the first one begin with the second topic.  No topics at all have a first one
nevertheless. -/
theorem first_eq_head_iff_topics :
    (∃ list first,
      (windowedQuery (some 1) (some 2)).start topicContext .empty 0 .list = .ok list ∧
        (windowedQuery (some 1) (some 2)).start topicContext .empty 0 .first? = .ok first ∧
        (list.run ⟨topicsDatabase, (), .empty⟩).1 =
          .ok (.list ((pagedRows.drop 1).map (Instance.mk "Topic"))) ∧
        (first.run ⟨topicsDatabase, (), .empty⟩).1 =
          .ok (.first? (some ⟨"Topic", pagedRows[1]⟩))) ∧
    ∃ list first,
      (windowedQuery none (some 0)).start topicContext .empty 0 .list = .ok list ∧
        (windowedQuery none (some 0)).start topicContext .empty 0 .first? = .ok first ∧
        (list.run ⟨topicsDatabase, (), .empty⟩).1 = .ok (.list []) ∧
        (first.run ⟨topicsDatabase, (), .empty⟩).1 =
          .ok (.first? (some ⟨"Topic", pagedRows[0]⟩)) := by
  have loads : topic.LoadsAll (.ofEntity "Topic" topic) pagedRows
      (pagedRows.map (Instance.mk "Topic")) :=
    .cons ⟨rfl, rfl⟩ (.cons ⟨rfl, rfl⟩ (.cons ⟨rfl, rfl⟩ .nil))
  have compiled : ∀ offset limit, (windowedQuery offset limit).clauses.compile topicContext none
      none = .ok { topicPlan with
        window := (windowedQuery offset limit).clauses.window? } := fun _ _ => rfl
  have answers : ∀ offset limit, topicsDatabase.Cuts { topicPlan with
      window := (windowedQuery offset limit).clauses.window? } pagedRows := fun _ _ _ _ => rfl
  -- the window is what differs between the two halves; registration and loading do not
  have agrees : ∀ offset limit, ∃ list first,
      (windowedQuery offset limit).start topicContext .empty 0 .list = .ok list ∧
        (windowedQuery offset limit).start topicContext .empty 0 .first? = .ok first ∧
        (list.run ⟨topicsDatabase, (), .empty⟩).1 =
          .ok (.list (Window.cut ⟨offset, limit⟩ (pagedRows.map (Instance.mk "Topic")))) ∧
        (first.run ⟨topicsDatabase, (), .empty⟩).1 =
          .ok (.first? ((pagedRows.map (Instance.mk "Topic")).drop (offset.getD 0)).head?) := by
    intro offset limit
    have home : (windowedQuery offset limit).home = some connection := rfl
    have registered :
        connection.schema.resolve (windowedQuery offset limit).base.name = .ok topic := rfl
    obtain ⟨_, _, runs, rfl, rfl, -⟩ := Query.first_eq_head_iff home rfl (compiled offset limit)
      registered loads (answers offset limit)
    obtain ⟨list, first, starts, startsFirst, answered⟩ := runs .empty 0
    exact ⟨list, first, starts, startsFirst, answered _ rfl⟩
  exact ⟨agrees (some 1) (some 2), agrees none (some 0)⟩

end Example

end TrackedQuery
