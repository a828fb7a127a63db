import TrackedQuery.Proofs.Plan.Levels
import TrackedQuery.Proofs.Query.Meaning

/-!
# Compiling what resolves

If every column in the clauses of a query resolves at the level of its context, then every column of
the plan resolves at the level of the plan (`Clauses.compile_obeys`), and the check of aliases has
nothing to complain about (`Clauses.isTame_compile`).  What compilation adds reads the tables of the
plan itself: the projection of the base table, and the conditions that keep deleted rows out.

## Strategy

* `Context.Sound` is the invariant of a context whose plan will be compiled: its joins are numbered
  from 1, and their conditions are as the rule asks at the level of the context.  Keeping deleted
  rows out preserves it join by join (`Join.obeys_keepAlive`, `Context.Sound.planJoins`).
* The parts of the plan are as the rule asks at the level of the context (`Clauses.parts_obey`), and
  this level grows into that of the plan, which has the same tables (`Context.Sound.level_grows`).
* Compilation is a sequence of steps that may fail, and all but the check of aliases fail for
  another reason (`Result.IsTame`).  The check does not fail, since a plan whose parts resolve has
  every table that its columns ask for (`Plan.foreignAlias?_eq_none`).
-/

namespace TrackedQuery

/-! ## Building expressions -/

section Building

variable {rule : Rule} {around : List Level}

theorem Expr.obeys_value (value : Value) : (Expr.value value).Obeys rule around := trivial

private theorem Expr.obeys_conj {operands : List Expr}
    (obeys : ∀ operand ∈ operands, operand.Obeys rule around) :
    (Expr.conj operands).Obeys rule around :=
  Expr.allObey_iff.mpr obeys

private theorem Expr.obeys_disj {operands : List Expr}
    (obeys : ∀ operand ∈ operands, operand.Obeys rule around) :
    (Expr.disj operands).Obeys rule around :=
  Expr.allObey_iff.mpr obeys

theorem Expr.Obeys.and {lhs rhs : Expr} (left : lhs.Obeys rule around)
    (right : rhs.Obeys rule around) : (lhs.and rhs).Obeys rule around := by
  unfold Expr.and
  -- neutral operands disappear and conjunctions are flattened, so each operand is asked in turn
  split
  · exact right
  · split
    · exact left
    · split
      · refine Expr.obeys_conj fun operand mem => ?_
        rcases List.mem_append.mp mem with mem | mem
        · exact Expr.allObey_iff.mp left operand mem
        · exact Expr.allObey_iff.mp right operand mem
      · refine Expr.obeys_conj fun operand mem => ?_
        rcases List.mem_append.mp mem with mem | mem
        · exact Expr.allObey_iff.mp left operand mem
        · rwa [List.mem_singleton.mp mem]
      · exact Expr.obeys_conj (List.forall_mem_cons.mpr ⟨left, List.forall_mem_singleton.mpr right⟩)

theorem Expr.Obeys.or {lhs rhs : Expr} (left : lhs.Obeys rule around)
    (right : rhs.Obeys rule around) : (lhs.or rhs).Obeys rule around := by
  unfold Expr.or
  split
  · refine Expr.obeys_disj fun operand mem => ?_
    rcases List.mem_append.mp mem with mem | mem
    · exact Expr.allObey_iff.mp left operand mem
    · exact Expr.allObey_iff.mp right operand mem
  · refine Expr.obeys_disj fun operand mem => ?_
    rcases List.mem_append.mp mem with mem | mem
    · exact Expr.allObey_iff.mp left operand mem
    · rwa [List.mem_singleton.mp mem]
  · exact Expr.obeys_disj (List.forall_mem_cons.mpr ⟨left, List.forall_mem_singleton.mpr right⟩)

theorem Expr.obeys_all {operands : List Expr}
    (obeys : ∀ operand ∈ operands, operand.Obeys rule around) :
    (Expr.all operands).Obeys rule around := by
  match operands with
  | [] => exact Expr.obeys_value _
  | [operand] => exact obeys operand (List.mem_singleton_self operand)
  | _ :: _ :: _ => exact Expr.obeys_conj obeys

theorem Expr.obeys_local {level : Level} {table : Alias} (has : level.has table) (column : Nat) :
    (Expr.column (.local table column)).Obeys rule (level :: around) := by
  intro _
  refine ⟨level, rfl, has, fun bound hbound => ?_⟩
  cases hbound

private theorem obeys_condition? {statements : List Expr}
    (obeys : ∀ statement ∈ statements, statement.Obeys rule around) :
    ∀ condition ∈ condition? statements, condition.Obeys rule around := by
  intro condition mem
  unfold condition? at mem
  dsimp only at mem
  split at mem
  · cases mem
  · cases mem
    exact Expr.obeys_all obeys

end Building

/-! ## Contexts as levels -/

namespace Context

/-- The level that a query under construction adds to those around it. -/
def level (context : Context) : Level := ⟨some context.id, fun table => table < context.nextAlias⟩

/-- The joins of a context have the aliases after the base table, in order, and what they are joined
under is as the rule asks; every path leads to a table of the context, and the context reads a
database as the rule asks. -/
structure Sound (rule : Rule) (outer : List Level) (context : Context) : Prop where
  aliases : ∀ (index : Nat) (join : Join), context.joins[index]? = some join →
    join.tableAlias = index + 1
  joins : ∀ join ∈ context.joins, join.Obeys rule (context.level :: outer)
  paths : ∀ entry ∈ context.paths, entry.2 < context.nextAlias
  database : rule.database context.schema context.options

private theorem level_has_base (context : Context) : context.level.has baseAlias :=
  Nat.succ_pos context.joins.length

end Context

/-! ## Rows marked as deleted -/

private theorem Entity.obeys_alive {rule : Rule} {outer : List Level} {level : Level}
    {table : Alias} (has : level.has table) {entity : Entity} :
    ∀ alive ∈ entity.alive? table, alive.Obeys rule (level :: outer) := by
  intro alive mem
  unfold alive? at mem
  obtain ⟨mark, -, mem⟩ := Option.bind_eq_some_iff.mp mem
  obtain ⟨index, -, rfl⟩ := Option.map_eq_some_iff.mp mem
  unfold DeleteStrategy.alive
  split
  · exact ⟨Expr.obeys_local has index, trivial⟩
  · exact Expr.obeys_local has index

/-- A join that keeps deleted rows out is the same join under another condition. -/
theorem Join.obeys_keepAlive {rule : Rule} {outer : List Level} {level : Level} {schema : Schema}
    {join kept : Join} (obeys : join.Obeys rule (level :: outer)) (has : level.has join.tableAlias)
    (alive : join.keepAlive schema = .ok kept) :
    kept.tableAlias = join.tableAlias ∧ kept.Obeys rule (level :: outer) := by
  unfold keepAlive at alive
  split at alive
  · cases alive
    exact ⟨rfl, obeys⟩
  · obtain ⟨target, -, alive⟩ := Result.bind_eq_ok.mp alive
    cases hcondition : target.alive? join.tableAlias with
    | none =>
        rw [hcondition] at alive
        cases alive
        exact ⟨rfl, obeys⟩
    | some condition =>
        rw [hcondition] at alive
        cases alive
        -- the condition on the deletion mark reads the joined table and nothing else
        obtain ⟨recorded, rows⟩ := Join.obeys_iff.mp obeys
        refine ⟨rfl, Join.obeys_iff.mpr ⟨?_, rows⟩⟩
        exact recorded.and (Entity.obeys_alive has condition hcondition)

private theorem Join.obeys_keepAllAlive {rule : Rule} {outer : List Level} {level : Level}
    {schema : Schema} {joins kept : List Join}
    (obeys : ∀ join ∈ joins, join.Obeys rule (level :: outer))
    (has : ∀ join ∈ joins, level.has join.tableAlias)
    (alive : keepAllAlive schema joins = .ok kept) :
    kept.map Join.tableAlias = joins.map Join.tableAlias ∧
      ∀ join ∈ kept, join.Obeys rule (level :: outer) := by
  induction joins generalizing kept with
  | nil =>
      cases alive
      simp
  | cons join rest ih =>
      obtain ⟨first, hfirst, alive⟩ := Result.bind_eq_ok.mp alive
      obtain ⟨others, hothers, alive⟩ := Result.bind_eq_ok.mp alive
      cases alive
      rw [List.forall_mem_cons] at obeys has
      obtain ⟨sameAlias, first_obeys⟩ := obeys_keepAlive obeys.1 has.1 hfirst
      obtain ⟨sameAliases, others_obey⟩ := ih obeys.2 has.2 hothers
      refine ⟨by simp [sameAlias, sameAliases], List.forall_mem_cons.mpr ⟨first_obeys, others_obey⟩⟩

namespace Context

variable {rule : Rule} {outer : List Level} {context : Context}

private theorem Sound.has_alias (sound : context.Sound rule outer) :
    ∀ join ∈ context.joins, context.level.has join.tableAlias := by
  intro join mem
  obtain ⟨index, hindex⟩ := List.getElem?_of_mem mem
  have inside := (List.getElem?_eq_some_iff.mp hindex).1
  show join.tableAlias < context.joins.length + 1
  rw [sound.aliases index join hindex]
  exact Nat.succ_lt_succ inside

theorem Sound.planJoins (sound : context.Sound rule outer) {clauses : Clauses} {joins : List Join}
    (planned : clauses.planJoins context = .ok joins) :
    joins.map Join.tableAlias = context.joins.map Join.tableAlias ∧
      ∀ join ∈ joins, join.Obeys rule (context.level :: outer) := by
  unfold Clauses.planJoins at planned
  split at planned
  · exact Join.obeys_keepAllAlive sound.joins sound.has_alias planned
  · cases planned
    exact ⟨rfl, sound.joins⟩

/-- A plan with the joins of a context has all of its tables. -/
theorem Sound.hasAlias (sound : context.Sound rule outer) {plan : Plan}
    (base : plan.source.tableAlias = baseAlias)
    (joins : plan.joins.map Join.tableAlias = context.joins.map Join.tableAlias) {table : Alias}
    (has : context.level.has table) : plan.hasAlias table = true := by
  unfold Plan.hasAlias Plan.entityOf?
  split
  · rfl
  · next other =>
      rw [base] at other
      obtain ⟨index, rfl⟩ : ∃ index, table = index + 1 :=
        Nat.exists_eq_succ_of_ne_zero fun zero => other zero.symm
      have inside : index < context.joins.length := Nat.lt_of_succ_lt_succ has
      -- the joins of a context are numbered from 1 in the order of their making
      have recorded := sound.aliases index _ (List.getElem?_eq_getElem inside)
      have mem : index + 1 ∈ plan.joins.map Join.tableAlias := by
        rw [joins, ← recorded]
        exact List.mem_map_of_mem (List.getElem_mem inside)
      obtain ⟨join, hjoin, sameAlias⟩ := List.mem_map.mp mem
      rw [Option.isSome_map, List.find?_isSome]
      exact ⟨join, hjoin, by simpa using sameAlias⟩

end Context

/-! ## Errors -/

/-- The error that the check of aliases reports. -/
def Error.IsForeignAlias (error : Error) : Prop :=
  ∃ table entity, error.cause = .invalidStatement (.foreignAlias table entity)

/-- Under a strict rule the check of aliases has nothing to complain about. -/
def Error.IsTame (rule : Rule) (error : Error) : Prop :=
  rule.strict = true → ¬ error.IsForeignAlias

/-- If a computation fails, then not for a foreign alias. -/
def Result.IsTame {α : Type} (rule : Rule) (result : Result α) : Prop :=
  ∀ error, result = .error error → error.IsTame rule

theorem Result.isTame_ok {α : Type} {rule : Rule} (value : α) :
    Result.IsTame rule (.ok value) := by
  intro error failed
  cases failed

theorem Result.isTame_fail {α : Type} {rule : Rule} {cause : Cause}
    (other : ∀ table entity, cause ≠ .invalidStatement (.foreignAlias table entity)) :
    Result.IsTame rule (fail cause : Result α) := by
  intro error failed _ ⟨table, entity, foreign⟩
  cases failed
  exact other table entity foreign

theorem Result.IsTame.bind {α β : Type} {rule : Rule} {result : Result α} {next : α → Result β}
    (first : result.IsTame rule) (rest : ∀ value, result = .ok value → (next value).IsTame rule) :
    Result.IsTame rule (result >>= next) := by
  intro error failed
  rcases Result.bind_eq_error.mp failed with failed | ⟨value, hvalue, failed⟩
  · exact first error failed
  · exact rest value hvalue error failed

theorem Result.IsTame.map {α β : Type} {rule : Rule} {result : Result α} (tame : result.IsTame rule)
    (change : α → β) : Result.IsTame rule (result.map change) := by
  intro error failed
  exact tame error (Result.map_eq_error.mp failed)

/-- A value is as a condition asks, and an error is not for a foreign alias. -/
structure Result.Meets {α : Type} (rule : Rule) (condition : α → Prop) (result : Result α) :
    Prop where
  tame : Result.IsTame rule result
  holds : ∀ value, result = .ok value → condition value

section Meets

variable {α β : Type} {rule : Rule} {condition : α → Prop} {result : Result α}

theorem Result.meets_ok {value : α} (holds : condition value) :
    Result.Meets rule condition (.ok value) := by
  refine ⟨Result.isTame_ok value, fun other same => ?_⟩
  cases same
  exact holds

theorem Result.meets_error {error : Error} (tame : error.IsTame rule) :
    Result.Meets rule condition (.error error) := by
  refine ⟨fun other same => ?_, fun value same => ?_⟩
  · cases same
    exact tame
  · cases same

theorem Result.Meets.mono {condition' : α → Prop} (meets : result.Meets rule condition)
    (implied : ∀ value, condition value → condition' value) : result.Meets rule condition' :=
  ⟨meets.tame, fun value here => implied value (meets.holds value here)⟩

theorem Result.Meets.map {condition' : β → Prop} (meets : result.Meets rule condition)
    {change : α → β} (implied : ∀ value, condition value → condition' (change value)) :
    Result.Meets rule condition' (result.map change) := by
  refine ⟨meets.tame.map change, fun value here => ?_⟩
  obtain ⟨first, hfirst, rfl⟩ := Result.map_eq_ok.mp here
  exact implied first (meets.holds first hfirst)

theorem Result.Meets.bind {condition' : β → Prop} {next : α → Result β}
    (meets : result.Meets rule condition)
    (rest : ∀ value, condition value → (next value).Meets rule condition') :
    Result.Meets rule condition' (result >>= next) := by
  refine ⟨meets.tame.bind fun value here => (rest value (meets.holds value here)).tame, ?_⟩
  intro value here
  obtain ⟨first, hfirst, hvalue⟩ := Result.bind_eq_ok.mp here
  exact (rest first (meets.holds first hfirst)).holds value hvalue

end Meets

section Tame

variable {rule : Rule}

theorem Schema.isTame_resolve (schema : Schema) (name : String) :
    Result.IsTame rule (schema.resolve name) := by
  unfold Schema.resolve
  split
  · exact Result.isTame_fail (by simp)
  · exact Result.isTame_ok _

private theorem isTame_projectionOf (entity : Entity) (projection : Option (List Item)) :
    Result.IsTame rule (projectionOf entity projection) := by
  unfold projectionOf
  split
  · exact Result.isTame_ok _
  · exact Result.isTame_fail (by simp)
  · exact Result.isTame_ok _

private theorem Join.isTame_keepAllAlive (schema : Schema) (joins : List Join) :
    Result.IsTame rule (Join.keepAllAlive schema joins) := by
  induction joins with
  | nil => exact Result.isTame_ok _
  | cons join rest ih =>
      refine Result.IsTame.bind ?_ fun first _ => ih.bind fun others _ => Result.isTame_ok _
      unfold keepAlive
      split
      · exact Result.isTame_ok _
      · refine (schema.isTame_resolve _).bind fun target _ => ?_
        split <;> exact Result.isTame_ok _

private theorem Plan.isTame_checkGrouping (plan : Plan) :
    Result.IsTame rule plan.checkGrouping := by
  unfold checkGrouping
  split
  · split
    · exact Result.isTame_fail (by simp)
    · exact Result.isTame_ok _
  · exact Result.isTame_ok _

end Tame

/-! ## Compilation -/

/-- What the clauses of a query have collected is as the rule asks. -/
structure Clauses.Obey (rule : Rule) (around : List Level) (clauses : Clauses) : Prop where
  filter : ∀ statement ∈ clauses.filter, statement.Obeys rule around
  orderBy : ∀ key ∈ clauses.orderBy, key.expr.Obeys rule around
  arms : ∀ arm ∈ clauses.arms, arm.plan.Obeys rule around

/-- The keys and the statements of a grouping are as the rule asks. -/
structure Grouping.Obey (rule : Rule) (around : List Level) (grouping : Grouping) : Prop where
  keys : ∀ key ∈ grouping.keys, key.Obeys rule around
  having : ∀ statement ∈ grouping.having, statement.Obeys rule around

/-- The rule asks nothing of plans that a compiled plan does not satisfy. -/
def Rule.AdmitsCompiled (rule : Rule) : Prop :=
  ∀ (clauses : Clauses) (context : Context) (projection : Option (List Item))
    (grouping : Option Grouping) (plan : Plan),
    clauses.compile context projection grouping = .ok plan → rule.plan plan

private theorem Entity.obeys_baseItems {rule : Rule} {outer : List Level} {level : Level}
    (has : level.has baseAlias) (entity : Entity) :
    ∀ item ∈ entity.baseItems, item.expr.Obeys rule (level :: outer) := by
  have from_index : ∀ (columns : List Column) (index : Nat),
      ∀ item ∈ baseItemsFrom index columns, item.expr.Obeys rule (level :: outer) := by
    intro columns
    induction columns with
    | nil => simp [baseItemsFrom]
    | cons column rest ih =>
        intro index
        rw [baseItemsFrom, List.forall_mem_cons]
        exact ⟨Expr.obeys_local has index, ih (index + 1)⟩
  exact from_index entity.columns 0

private theorem obeys_projectionOf {rule : Rule} {outer : List Level} {level : Level}
    (has : level.has baseAlias) {entity : Entity} {projection : Option (List Item)}
    (obeys : ∀ items ∈ projection, ∀ item ∈ items, item.expr.Obeys rule (level :: outer))
    {items : List Item} (projected : projectionOf entity projection = .ok items) :
    ∀ item ∈ items, item.expr.Obeys rule (level :: outer) := by
  unfold projectionOf at projected
  split at projected
  · cases projected
    exact entity.obeys_baseItems has
  · cases projected
  · cases projected
    exact obeys _ rfl

section Compile

variable {rule : Rule} {outer : List Level} {clauses : Clauses} {context : Context}
  {projection : Option (List Item)} {grouping : Option Grouping}

/-- The parts of a plan that compilation puts together are as the rule asks, at the level of the
context. -/
theorem Clauses.parts_obey (sound : context.Sound rule outer)
    (obey : clauses.Obey rule (context.level :: outer))
    (projected : ∀ items ∈ projection, ∀ item ∈ items,
      item.expr.Obeys rule (context.level :: outer))
    (grouped : ∀ grouping' ∈ grouping, grouping'.Obey rule (context.level :: outer))
    {entity : Entity} {items : List Item} {joins : List Join}
    (hitems : projectionOf entity projection = .ok items)
    (hjoins : clauses.planJoins context = .ok joins) (source : Source) (window : Option Window)
    {arms : List Arm} (harms : arms ⊆ clauses.arms) :
    Plan.Parts (Expr.Obeys rule (context.level :: outer)) (Plan.Obeys rule (context.level :: outer))
      { source := source
        joins := joins
        filter := condition? (clauses.planStatements context entity)
        projection := items
        groupBy := (grouping.map Grouping.keys).getD []
        having := grouping.bind fun grouping => condition? grouping.having
        orderBy := clauses.orderBy
        window := window
        arms := arms } := by
  have recorded := (sound.planJoins hjoins).2
  refine ⟨fun join mem => (Join.obeys_iff.mp (recorded join mem)).1,
    fun join mem => (Join.obeys_iff.mp (recorded join mem)).2, ?_, ?_, ?_, ?_, obey.orderBy,
    fun arm mem => obey.arms arm (harms mem)⟩
  · -- besides what was recorded, the filter has at most the condition on the base table
    refine obeys_condition? fun statement mem => ?_
    unfold planStatements at mem
    split at mem
    · rcases List.mem_append.mp mem with mem | mem
      · exact obey.filter statement mem
      · exact Entity.obeys_alive context.level_has_base statement (by simpa using mem)
    · exact obey.filter statement mem
  · exact obeys_projectionOf context.level_has_base projected hitems
  · cases grouping with
    | none => simp
    | some grouping => exact (grouped grouping rfl).keys
  · cases grouping with
    | none => simp
    | some grouping => exact obeys_condition? (grouped grouping rfl).having

/-- The level of a context grows into the level of a plan with its joins. -/
theorem Context.Sound.level_grows (sound : context.Sound rule outer) {plan : Plan}
    (query : plan.source.query = some context.id) (base : plan.source.tableAlias = baseAlias)
    (joins : plan.joins.map Join.tableAlias = context.joins.map Join.tableAlias) :
    context.level.Grows plan.level :=
  ⟨query.symm, fun _ has => sound.hasAlias base joins has⟩

theorem Plan.Parts.mono {plan : Plan} {around wider : List Level}
    (parts : plan.Parts (Expr.Obeys rule around) (Plan.Obeys rule around))
    (grow : rule.strict = true → LevelsGrow around wider) :
    plan.Parts (Expr.Obeys rule wider) (Plan.Obeys rule wider) :=
  parts.combine parts (fun _ obeys _ => obeys.mono grow) (fun _ obeys _ => obeys.mono grow)

/-- If what the clauses have collected is as the rule asks at the level of the context, and the plan
is as it asks of plans, then everything in the plan is as it asks. -/
theorem Clauses.compile_obeys (sound : context.Sound rule outer)
    (obey : clauses.Obey rule (context.level :: outer))
    (projected : ∀ items ∈ projection, ∀ item ∈ items,
      item.expr.Obeys rule (context.level :: outer))
    (grouped : ∀ grouping' ∈ grouping, grouping'.Obey rule (context.level :: outer))
    {plan : Plan} (compiled : clauses.compile context projection grouping = .ok plan)
    (own : rule.plan plan) : plan.Obeys rule outer := by
  obtain ⟨entity, items, joins, -, hitems, hjoins, made⟩ := Clauses.compile_eq_ok compiled
  have parts : plan.Parts (Expr.Obeys rule (context.level :: outer))
      (Plan.Obeys rule (context.level :: outer)) := by
    rw [made]
    exact clauses.parts_obey sound obey projected grouped hitems hjoins _ _ (List.Subset.refl _)
  have grows : context.level.Grows plan.level := by
    rw [made]
    exact sound.level_grows rfl rfl (sound.planJoins hjoins).1
  exact Plan.obeys_iff.mpr ⟨own, parts.mono fun _ => .cons grows (.refl outer)⟩

/-- A plan whose parts resolve has all the tables that its columns ask for. -/
theorem Plan.foreignAlias?_eq_none (strict : rule.strict = true) {plan : Plan}
    (parts : plan.Parts (Expr.Obeys rule (plan.level :: outer))
      (Plan.Obeys rule (plan.level :: outer))) : plan.foreignAlias? = none := by
  have visits : ∀ visit ∈ plan.ownVisits, visit.Obeys rule 0 (plan.level :: outer) := by
    unfold ownVisits
    simp only [List.forall_mem_append, Join.forall_visitsAll, Expr.forall_visitsOption,
      Item.forall_visitsAll, Expr.forall_visitsAll, SortKey.forall_visitsAll]
    have of_expr : ∀ expr : Expr, expr.Obeys rule (plan.level :: outer) →
        ∀ visit ∈ expr.visits 0, visit.Obeys rule 0 (plan.level :: outer) :=
      fun expr obeys => obeys_visits.expr expr obeys
    refine ⟨⟨⟨⟨⟨fun join mem => ⟨trivial, ?_, ?_⟩, ?_⟩, ?_⟩, ?_⟩, ?_⟩,
      fun key mem => ⟨trivial, of_expr _ (parts.orderBy key mem)⟩⟩
    · -- the rows of a join are one plan deeper than the columns that are checked
      intro rows hrows visit visited
      exact (obeys_visits.plans rows (parts.rows join mem rows hrows) visit visited).enter
    · exact of_expr _ (parts.conditions join mem)
    · exact fun filter mem => of_expr _ (parts.filter filter mem)
    · exact fun item mem => of_expr _ (parts.projection item mem)
    · exact fun key mem => of_expr _ (parts.groupBy key mem)
    · exact fun having mem => of_expr _ (parts.having having mem)
  unfold foreignAlias?
  rw [Option.map_eq_none_iff, List.find?_eq_none]
  intro ref mem
  obtain ⟨visit, visited, own⟩ := List.mem_filterMap.mp mem
  have has : plan.hasAlias ref.table = true := (visits visit visited).ownColumn strict own
  simp [has]

theorem Clauses.isTame_compile (sound : context.Sound rule outer)
    (obey : clauses.Obey rule (context.level :: outer))
    (projected : ∀ items ∈ projection, ∀ item ∈ items,
      item.expr.Obeys rule (context.level :: outer))
    (grouped : ∀ grouping' ∈ grouping, grouping'.Obey rule (context.level :: outer)) :
    Result.IsTame rule (clauses.compile context projection grouping) := by
  unfold compile
  refine (context.schema.isTame_resolve _).bind fun entity _ => ?_
  refine (isTame_projectionOf entity projection).bind fun items hitems => ?_
  refine Result.IsTame.bind ?_ fun joins hjoins => ?_
  · unfold planJoins
    split
    · exact Join.isTame_keepAllAlive _ _
    · exact Result.isTame_ok _
  · -- of the two checks only the one of aliases reports a foreign alias
    refine Result.IsTame.bind ?_ fun _ _ =>
      (Plan.isTame_checkGrouping _).bind fun _ _ => Result.isTame_ok _
    intro error failed strict
    have parts := clauses.parts_obey sound obey projected grouped hitems hjoins
      ⟨entity.name, clauses.tableName.getD entity.table, baseAlias, some context.id⟩
      clauses.window? (List.nil_subset _)
    have joined := (sound.planJoins hjoins).1
    have absent := Plan.foreignAlias?_eq_none strict
      (parts.mono fun _ => .cons (sound.level_grows rfl rfl joined) (.refl outer))
    unfold Plan.checkAliases at failed
    split at failed
    · next table foreign =>
        rw [absent] at foreign
        cases foreign
    · cases failed

end Compile

end TrackedQuery
