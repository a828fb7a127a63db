import Mathlib.Data.List.Forall2
import TrackedQuery.Proofs.Query.Layout
import TrackedQuery.Proofs.Tracking.Load

/-!
# Pages

A page is loaded with two plans: one counts all rows of a query, the other loads the rows of the
page.  Both belong to the query, and differ from its own plan only in the ways that make them a
count and a window (`Clauses.compileCount_of_compile`, `Clauses.compile_within`).  So a database
that counts and cuts the same rows answers pages that lie side by side: put together they are all
rows in their order (`Query.pages_tile`).

## Strategy

* `Clauses.compile_eq_ok_iff`: clauses compile exactly to a plan that passes the two checks.  What
  is counted and what a window is cut from pass them because the plan of the query does.
* `Task.run_page`: what a page answers, in terms of the two answers of the database.
* `flatten_windows`: windows of one size, one after the other, have everything up to the end of the
  last one.
-/

namespace TrackedQuery

/-! ## The plans of a page -/

/-- The plan that counts the rows of a plan. -/
def Plan.counting (plan : Plan) : Plan :=
  { plan with projection := [⟨.countRows, .int64⟩], orderBy := [], window := none }

/-- The plan without any rows skipped or left out, apart from those outside of a window. -/
def Plan.within (plan : Plan) (offset limit : Nat) : Plan :=
  { plan with window := some ⟨some offset, some limit⟩ }

private theorem Plan.checkAliases_eq_ok {plan : Plan} :
    plan.checkAliases = .ok () ↔ plan.foreignAlias? = none := by
  unfold checkAliases
  cases plan.foreignAlias? with
  | none => simp
  | some table => simp [fail]

private theorem Plan.foreignAlias?_eq_none_iff {plan : Plan} :
    plan.foreignAlias? = none ↔
      ∀ visit ∈ plan.ownVisits, ∀ ref ∈ visit.ownColumn?, plan.hasAlias ref.table = true := by
  unfold foreignAlias?
  rw [Option.map_eq_none_iff, List.find?_eq_none]
  constructor
  · intro none_foreign visit visited ref own
    simpa using none_foreign ref (List.mem_filterMap.mpr ⟨visit, visited, own⟩)
  · intro all ref mem
    obtain ⟨visit, visited, own⟩ := List.mem_filterMap.mp mem
    simp [all visit visited ref own]

/-- A count of rows reads no column, so counting asks for no table that the plan does not have. -/
theorem Plan.checkAliases_counting {plan : Plan} (checked : plan.checkAliases = .ok ()) :
    plan.counting.checkAliases = .ok () := by
  rw [checkAliases_eq_ok, foreignAlias?_eq_none_iff] at checked ⊢
  intro visit visited ref own
  refine checked visit ?_ ref own
  simp only [ownVisits, counting, List.mem_append, Item.visitsAll, Item.visits, Expr.countRows,
    Expr.visits, Expr.visitsOption, SortKey.visitsAll, List.append_nil, List.mem_singleton]
    at visited ⊢
  rcases visited with (((joins | filter) | rfl) | groupBy) | having
  · exact .inl (.inl (.inl (.inl (.inl joins))))
  · exact .inl (.inl (.inl (.inl (.inr filter))))
  · cases own
  · exact .inl (.inl (.inr groupBy))
  · exact .inl (.inr having)

namespace Clauses

variable {clauses : Clauses} {context : Context} {projection : Option (List Item)}
  {grouping : Option Grouping} {plan : Plan}

/-- The plan of clauses before their stacked plans are added, with the given projection and
joins. -/
def draft (clauses : Clauses) (context : Context) (grouping : Option Grouping) (entity : Entity)
    (items : List Item) (joins : List Join) : Plan :=
  { source := ⟨entity.name, clauses.tableName.getD entity.table, baseAlias, some context.id⟩
    joins := joins
    filter := condition? (clauses.planStatements context entity)
    projection := items
    groupBy := (grouping.map Grouping.keys).getD []
    having := grouping.bind fun grouping => condition? grouping.having
    orderBy := clauses.orderBy
    window := clauses.window?
    arms := [] }

/-- Clauses compile exactly to a plan that passes both checks. -/
theorem compile_eq_ok_iff :
    clauses.compile context projection grouping = .ok plan ↔
      ∃ entity items joins, context.schema.resolve context.base = .ok entity ∧
        projectionOf entity projection = .ok items ∧ clauses.planJoins context = .ok joins ∧
        (clauses.draft context grouping entity items joins).checkAliases = .ok () ∧
        (clauses.draft context grouping entity items joins).checkGrouping = .ok () ∧
        plan = { clauses.draft context grouping entity items joins with arms := clauses.arms } := by
  constructor
  · intro compiled
    obtain ⟨entity, hentity, compiled⟩ := Result.bind_eq_ok.mp compiled
    obtain ⟨items, hitems, compiled⟩ := Result.bind_eq_ok.mp compiled
    obtain ⟨joins, hjoins, compiled⟩ := Result.bind_eq_ok.mp compiled
    obtain ⟨_, aliases, compiled⟩ := Result.bind_eq_ok.mp compiled
    obtain ⟨_, grouped, compiled⟩ := Result.bind_eq_ok.mp compiled
    cases compiled
    exact ⟨entity, items, joins, hentity, hitems, hjoins, aliases, grouped, rfl⟩
  · rintro ⟨entity, items, joins, hentity, hitems, hjoins, aliases, grouped, rfl⟩
    refine Result.bind_eq_ok.mpr ⟨entity, hentity, ?_⟩
    refine Result.bind_eq_ok.mpr ⟨items, hitems, ?_⟩
    refine Result.bind_eq_ok.mpr ⟨joins, hjoins, ?_⟩
    refine Result.bind_eq_ok.mpr ⟨(), aliases, ?_⟩
    exact Result.bind_eq_ok.mpr ⟨(), grouped, rfl⟩

/-- Under another offset and another limit, clauses compile to the same plan with another window. -/
theorem compile_windowed (compiled : clauses.compile context projection grouping = .ok plan)
    (offset limit : Option Nat) :
    { clauses with offset := offset, limit := limit }.compile context projection grouping =
      .ok { plan with
        window := { clauses with offset := offset, limit := limit }.window? } := by
  obtain ⟨entity, items, joins, hentity, hitems, hjoins, aliases, grouped, rfl⟩ :=
    compile_eq_ok_iff.mp compiled
  exact compile_eq_ok_iff.mpr
    ⟨entity, items, joins, hentity, hitems, hjoins, aliases, grouped, rfl⟩

theorem compile_within (compiled : clauses.compile context projection grouping = .ok plan)
    (offset limit : Nat) :
    { clauses with offset := some offset, limit := some limit }.compile context projection
      grouping = .ok (plan.within offset limit) :=
  compile_windowed compiled (some offset) (some limit)

/-- Clauses that compile can be counted, unless plans are stacked. -/
theorem compileCount_of_compile (compiled : clauses.compile context none none = .ok plan)
    (unstacked : clauses.arms = []) : clauses.compileCount context = .ok plan.counting := by
  obtain ⟨entity, items, joins, hentity, hitems, hjoins, aliases, grouped, rfl⟩ :=
    compile_eq_ok_iff.mp compiled
  unfold compileCount
  rw [if_pos (by simp [unstacked])]
  exact compile_eq_ok_iff.mpr ⟨entity, [⟨.countRows, .int64⟩], joins, hentity, rfl, hjoins,
    Plan.checkAliases_counting aliases, rfl, rfl⟩

/-- The plans of a page of a query that compiles. -/
theorem compilePage_of_compile (compiled : clauses.compile context none none = .ok plan)
    (unstacked : clauses.arms = []) {index size : Nat} (first : 1 ≤ index) (positive : 1 ≤ size)
    (addressable : (index - 1) * size < UInt64.size) :
    clauses.compilePage context index size =
      .ok ⟨plan.counting, plan.within ((index - 1) * size) size, size⟩ := by
  have offset : pageOffset? index size = some ((index - 1) * size) := by
    unfold pageOffset?
    rw [if_neg (by simp; omega)]
    simp [addressable]
  unfold compilePage
  rw [offset]
  simp only [compileCount_of_compile compiled unstacked, Int.toNat_natCast,
    compile_within compiled, bind, Except.bind, pure, Except.pure]

end Clauses

/-! ## Databases that cut windows -/

section Running

variable {δ : Type}

/-- The database has a sequence of rows for a plan: it knows how many there are, and shows those in
a window. -/
structure Database.Shows (database : Database δ) (plan : Plan) (rows : List Row) : Prop where
  counts : ∀ state, ∃ answer, (database.answer state (.query plan.counting)).1 = .ok answer ∧
    answer.counted = .ok rows.length
  cuts : ∀ state offset limit, (database.answer state (.query (plan.within offset limit))).1 =
    .ok (.rows ((rows.drop offset).take limit))

/-- Every row is as wide as the entity, and is loaded as the instance at its position. -/
def Entity.LoadsAll (entity : Entity) (type : EntityType) (rows : List Row)
    (instances : List Instance) : Prop :=
  List.Forall₂ (fun row loaded => row.length = entity.columns.length ∧ type.load row = .ok loaded)
    rows instances

variable {schema : Schema} {type : EntityType} {entity : Entity} {plan : Plan} {rows : List Row}
  {instances : List Instance} {world : World δ}

private theorem Entity.LoadsAll.window (loads : entity.LoadsAll type rows instances)
    (offset limit : Nat) :
    entity.LoadsAll type ((rows.drop offset).take limit) ((instances.drop offset).take limit) :=
  List.forall₂_take limit (List.forall₂_drop offset loads)

private theorem Entity.LoadsAll.mapM (loads : entity.LoadsAll type rows instances) :
    rows.mapM type.load = .ok instances := by
  induction loads with
  | nil => rfl
  | cons first _ ih =>
      rw [List.mapM_cons, first.2, ih]
      rfl

private theorem Entity.LoadsAll.wide (loads : entity.LoadsAll type rows instances) :
    ∀ row ∈ rows, row.length = entity.columns.length :=
  ((List.forall₂_and_left rows instances).mp loads).1

/-- The instances in the rows of an answer. -/
theorem loadPlan_of_loadsAll (registered : schema.resolve type.name = .ok entity)
    (answered : (world.send (.query plan)).1 = .ok (.rows rows))
    (loads : entity.LoadsAll type rows instances) :
    loadPlan schema type plan none world = (.ok instances, (world.send (.query plan)).2) := by
  have sent : world.send (.query plan) = (.ok (.rows rows), (world.send (.query plan)).2) := by
    rw [← answered]
  rw [← loads.mapM]
  exact (bind_eq (fetchRows_eq sent)).trans (loadRows_none registered loads.wide)

/-- A page of a query that is not tracked has the number of all rows and the instances of its
window. -/
theorem Task.run_page (registered : schema.resolve type.name = .ok entity)
    (loads : entity.LoadsAll type rows instances) (shows : world.database.Shows plan rows)
    (offset size : Nat) :
    ∃ after, (Task.page schema type ⟨plan.counting, plan.within offset size, size⟩ none).run world =
        (.ok (.page ⟨rows.length, (instances.drop offset).take size⟩), after) ∧
      after.database = world.database := by
  obtain ⟨answer, answered, counted⟩ := shows.counts world.state
  have count : fetchCount plan.counting world =
      (.ok rows.length, (world.send (.query plan.counting)).2) := by
    have sent : sendOperation (.query plan.counting) world =
        (.ok answer, (world.send (.query plan.counting)).2) := by
      rw [← answered]
      rfl
    refine (bind_eq sent).trans ?_
    rw [← counted]
    rfl
  cases rows with
  | nil =>
      -- without rows the second plan is not sent
      cases loads
      rw [List.drop_nil, List.take_nil]
      exact ⟨_, bind_eq count, rfl⟩
  | cons row rest =>
      let counted := (world.send (.query plan.counting)).2
      have cut : (counted.send (.query (plan.within offset size))).1 =
          .ok (.rows (((row :: rest).drop offset).take size)) :=
        shows.cuts counted.state offset size
      have loaded := loadPlan_of_loadsAll registered cut (loads.window offset size)
      have whole : ((instances.drop offset).take size).take size =
          (instances.drop offset).take size := by rw [List.take_take, Nat.min_self]
      rw [← whole]
      exact ⟨_, (bind_eq count).trans (bind_eq loaded), rfl⟩

end Running

/-! ## All pages -/

/-- Windows of one size, one after the other, have everything up to the end of the last one. -/
theorem flatten_windows {α : Type} (items : List α) (size count : Nat) :
    ((List.range count).flatMap fun index => (items.drop (index * size)).take size) =
      items.take (count * size) := by
  induction count with
  | zero => simp
  | succ count ih =>
      rw [List.range_succ, List.flatMap_append, ih, List.flatMap_singleton, Nat.succ_mul,
        List.take_add]

/-- The pages of a query lie side by side.  If the database counts and cuts one sequence of rows,
each page answers the number of all rows and no more instances than fit on it, the pages put
together are the instances of all rows in their order, and pages past the end are empty. -/
theorem Query.pages_tile {δ : Type} {query : Query} {connection : Connection} {context : Context}
    {plan : Plan} {entity : Entity} {database : Database δ} {rows : List Row}
    {instances : List Instance} {size last : Nat} (home : query.home = some connection)
    (untracked : query.clauses.tracking = false) (unstacked : query.clauses.arms = [])
    (compiled : query.clauses.compile context none none = .ok plan)
    (registered : connection.schema.resolve query.base.name = .ok entity)
    (loads : entity.LoadsAll query.base rows instances) (shows : database.Shows plan rows)
    (positive : 1 ≤ size) (covered : rows.length ≤ last * size)
    (addressable : (last - 1) * size < UInt64.size) :
    ∃ page : Nat → Page,
      (∀ index, index < last → ∀ (tracking : Tracking) (thread : ThreadId),
        ∃ task, query.start context tracking thread (.page (index + 1 : Nat) size) = .ok task ∧
          ∀ world : World δ, world.database = database → ∃ after,
            task.run world = (.ok (.page (page index)), after) ∧ after.database = database) ∧
      (List.range last).flatMap (fun index => (page index).items) = instances ∧
      ∀ index, (page index).total = rows.length ∧ (page index).items.length ≤ size ∧
        (rows.length ≤ index * size → (page index).items = []) := by
  have length : rows.length = instances.length := loads.length_eq
  refine ⟨fun index => ⟨rows.length, (instances.drop (index * size)).take size⟩, ?_, ?_, ?_⟩
  · intro index inside tracking thread
    -- the last offset is the largest, so all of them are addressable once it is
    have offset : index * size ≤ (last - 1) * size := Nat.mul_le_mul_right size (by omega)
    have plans := Clauses.compilePage_of_compile compiled unstacked (Nat.le_add_left 1 index)
      positive (by rw [Nat.add_sub_cancel]; omega)
    rw [Nat.add_sub_cancel] at plans
    have started : query.start context tracking thread (.page (index + 1 : Nat) size) =
        .ok (.page connection.schema query.base
          ⟨plan.counting, plan.within (index * size) size, size⟩ none) := by
      have noted : query.trackingScope connection tracking thread = .ok none := by
        rw [trackingScope, if_neg (by simp [untracked])]
      simp only [start, homeOf, home, noted, plans, bind, Except.bind, pure, Except.pure]
    refine ⟨_, started, fun world same => ?_⟩
    rw [← same]
    exact Task.run_page registered loads (same ▸ shows) _ _
  · rw [flatten_windows, List.take_of_length_le (length ▸ covered)]
  · refine fun index => ⟨rfl, List.length_take_le _ _, fun past => ?_⟩
    change (instances.drop (index * size)).take size = []
    rw [List.drop_eq_nil_of_le (length ▸ past), List.take_nil]

namespace Example

/-- A query of all topics. -/
def pagedQuery : Query := { topicQuery with clauses := .initial }

/-- Three rows of topics. -/
def pagedRows : List Row :=
  [[.string "a", .string "Proofs", .int32 5, .null], [.string "b", .string "Lean", .int32 4, .null],
    [.string "c", .string "Types", .int32 3, .int64 1]]

/-- A database that counts these rows, and cuts windows from them. -/
def pagedDatabase : Database Unit where
  answer _ operation :=
    match operation with
    | .query plan =>
        match plan.window with
        | none => (.ok (.rows [[.int64 3]]), ())
        | some window =>
            (.ok (.rows ((pagedRows.drop (window.offset.getD 0)).take
              (window.limit.getD pagedRows.length))), ())
    | _ => (.ok (.count 0), ())

/-- Two pages of two topics each: the second one has the third topic alone. -/
theorem pages_tile_topics :
    ∃ page : Nat → Page,
      (∀ index, index < 2 → ∀ (tracking : Tracking) (thread : ThreadId),
        ∃ task, pagedQuery.start topicContext tracking thread (.page (index + 1 : Nat) 2) =
          .ok task ∧
            ∀ world : World Unit, world.database = pagedDatabase → ∃ after,
              task.run world = (.ok (.page (page index)), after) ∧
                after.database = pagedDatabase) ∧
      (List.range 2).flatMap (fun index => (page index).items) =
        pagedRows.map (Instance.mk "Topic") ∧
      ∀ index, (page index).total = 3 ∧ (page index).items.length ≤ 2 ∧
        (3 ≤ index * 2 → (page index).items = []) := by
  have loads : topic.LoadsAll (.ofEntity "Topic" topic) pagedRows
      (pagedRows.map (Instance.mk "Topic")) :=
    .cons ⟨rfl, rfl⟩ (.cons ⟨rfl, rfl⟩ (.cons ⟨rfl, rfl⟩ .nil))
  have shows : pagedDatabase.Shows topicPlan pagedRows :=
    ⟨fun _ => ⟨.rows [[.int64 3]], rfl, rfl⟩, fun _ _ _ => rfl⟩
  have home : pagedQuery.home = some connection := rfl
  have compiled : pagedQuery.clauses.compile topicContext none none = .ok topicPlan := rfl
  exact Query.pages_tile home rfl rfl compiled rfl loads shows (by decide) (by decide) (by decide)

end Example

end TrackedQuery
