import TrackedQuery.Proofs.Query.Recording

/-!
# The tables of a context

A context grows by navigations and by requested joins (`Context.Grows`), and each way it stays
sound: a navigation reads two tables that the context has, and a requested join gets its condition
once the table can be read.
-/

namespace TrackedQuery

variable {rule : Rule} {outer : List Level} {context : Context}

namespace Context

theorem Grows.level {before after : Context} (grows : before.Grows after) :
    before.level.Grows after.level :=
  ⟨congrArg some grows.id.symm, fun _ has => Nat.lt_of_lt_of_le has grows.nextAlias⟩

/-! ## Joins -/

private theorem has_nextAlias (context : Context) (join : Join) :
    (context.addJoin join).level.has context.nextAlias := by
  show context.nextAlias < (context.addJoin join).nextAlias
  simp

private theorem Sound.addJoin (sound : context.Sound rule outer) {join : Join}
    (condition : join.condition.Obeys rule ((context.addJoin join).level :: outer))
    (rows : ∀ rows ∈ join.rows, rows.Obeys rule ((context.addJoin join).level :: outer)) :
    (context.addJoin join).Sound rule outer where
  aliases index other found := by
    rw [Context.addJoin, List.getElem?_append] at found
    split at found
    · exact sound.aliases index other found
    · next outside =>
        -- the added join has the alias that was next
        obtain ⟨position, rfl⟩ := List.getElem?_eq_some_iff.mp found
        rw [List.length_singleton] at position
        have last : index = context.joins.length := by omega
        simp only [last, List.getElem_singleton]
        rfl
  joins other mem := by
    have grow : rule.strict = true →
        LevelsGrow (context.level :: outer) ((context.addJoin join).level :: outer) :=
      fun _ => .cons (context.grows_addJoin join).level (.refl outer)
    rcases List.mem_append.mp mem with mem | mem
    · obtain ⟨earlier, nested⟩ := Join.obeys_iff.mp (sound.joins other mem)
      exact Join.obeys_iff.mpr ⟨earlier.mono grow, fun rows mem => (nested rows mem).mono grow⟩
    · cases List.mem_singleton.mp mem
      exact Join.obeys_iff.mpr ⟨condition, rows⟩
  paths := (context.grows_addJoin join).led sound.paths
  database := sound.database

theorem Sound.completeJoin (sound : context.Sound rule outer) (table : Alias) {condition : Expr}
    (obeys : condition.Obeys rule (context.level :: outer)) :
    (context.completeJoin table condition).Sound rule outer where
  aliases index join found := by
    rw [Context.completeJoin, List.getElem?_map, Option.map_eq_some_iff] at found
    obtain ⟨earlier, hearlier, rfl⟩ := found
    rw [← sound.aliases index earlier hearlier]
    split <;> rfl
  joins join mem := by
    obtain ⟨earlier, hearlier, rfl⟩ := List.mem_map.mp mem
    have grow : rule.strict = true → LevelsGrow (context.level :: outer)
        ((context.completeJoin table condition).level :: outer) :=
      fun _ => .cons (context.grows_completeJoin table condition).level (.refl outer)
    obtain ⟨own, nested⟩ := Join.obeys_iff.mp (sound.joins earlier hearlier)
    refine Join.obeys_iff.mpr ⟨?_, fun rows mem => (nested rows ?_).mono grow⟩
    · split
      · exact obeys.mono grow
      · exact own.mono grow
    · split at mem <;> exact mem
  paths := (context.grows_completeJoin table condition).led sound.paths
  database := sound.database

theorem Sound.beginJoin (sound : context.Sound rule outer) {kind : JoinKind} {entity : String}
    {rows : Option Plan} (nested : ∀ plan ∈ rows, plan.Obeys rule []) {table : Alias}
    {after : Context} (begun : context.beginJoin kind entity rows = .ok (table, after)) :
    after.Sound rule outer := by
  obtain ⟨target, -, begun⟩ := Result.bind_eq_ok.mp begun
  cases begun
  refine sound.addJoin (Expr.obeys_value _) fun plan mem => ?_
  exact (nested plan mem).mono fun _ => .nil _

theorem isTame_beginJoin (context : Context) (kind : JoinKind) (entity : String)
    (rows : Option Plan) : Result.IsTame rule (context.beginJoin kind entity rows) :=
  (context.schema.isTame_resolve entity).bind fun _ _ => Result.isTame_ok _

/-! ## Navigations -/

private theorem lt_nextAlias_addImplicit (context : Context) (path : NavPath) (entity : Entity)
    (condition : Expr) :
    context.nextAlias < (context.addImplicit path entity condition).nextAlias :=
  context.has_nextAlias _

/-- A navigation adds a join of two tables that the context then has. -/
theorem Sound.addImplicit (sound : context.Sound rule outer) (path : NavPath) (entity : Entity)
    {left : Alias} (inside : left < context.nextAlias) (leftColumn rightColumn : Nat) :
    (context.addImplicit path entity
      (columnsEqual left leftColumn context.nextAlias rightColumn)).Sound rule outer := by
  have added : (context.addJoin
      { kind := context.options.implicitJoin
        tableAlias := context.nextAlias
        entity := entity.name
        table := entity.table
        condition := columnsEqual left leftColumn context.nextAlias rightColumn
        origin := .navigation path
        rows := none }).Sound rule outer := by
    -- the left column is of a table that was there, the right one of the table just added
    refine sound.addJoin ⟨Expr.obeys_local ?_ _, Expr.obeys_local (context.has_nextAlias _) _⟩ ?_
    · exact (context.grows_addJoin _).level.2 left inside
    · simp
  exact ⟨added.aliases, added.joins, (context.grows_addImplicit path entity _).led sound.paths,
    sound.database⟩

/-- A navigation from a table of a context leads to a table of the context. -/
theorem Sound.navigate (sound : context.Sound rule outer) {source target : Binding} {name : String}
    {after : Context} (inside : source.tableAlias < context.nextAlias)
    (navigated : context.navigate source name = .ok (target, after)) :
    after.Sound rule outer ∧ target.tableAlias < after.nextAlias := by
  cases navigated_of_navigate navigated with
  | again _ _ known => exact ⟨sound, sound.paths _ (mem_of_aliasOf? known)⟩
  | single =>
      exact ⟨sound.addImplicit _ _ inside _ _, context.lt_nextAlias_addImplicit _ _ _⟩
  | @mapped navigation reached middle own other first second =>
      -- the table of the mapping is joined first, and the target to it
      let path := source.path.child name
      have mapped := sound.addImplicit (path.child NavPath.mappingStep) middle inside own first
      have both := mapped.addImplicit path reached (context.lt_nextAlias_addImplicit _ _ _)
        second other
      rw [nextAlias_addImplicit] at both
      exact ⟨both, by simp⟩

end Context

/-! ## Errors -/

theorem Entity.isTame_resolveColumn (entity : Entity) (name : String) :
    Result.IsTame rule (entity.resolveColumn name) := by
  unfold resolveColumn
  split
  · exact Result.isTame_fail (by simp)
  · split
    · exact Result.isTame_fail (by simp)
    · exact Result.isTame_ok _

private theorem Entity.isTame_resolveNavigation (entity : Entity) (name : String) :
    Result.IsTame rule (entity.resolveNavigation name) := by
  unfold resolveNavigation
  split
  · exact Result.isTame_fail (by simp)
  · exact Result.isTame_ok _

theorem Context.isTame_navigate (context : Context) (source : Binding) (name : String) :
    Result.IsTame rule (context.navigate source name) := by
  refine (context.schema.isTame_resolve _).bind fun entity _ => ?_
  refine (entity.isTame_resolveNavigation name).bind fun navigation _ => ?_
  dsimp only
  split
  · exact Result.isTame_ok _
  · refine (context.schema.isTame_resolve _).bind fun target _ => ?_
    refine (entity.isTame_resolveColumn _).bind fun _ _ => ?_
    refine (target.isTame_resolveColumn _).bind fun _ _ => ?_
    split
    · refine (context.schema.isTame_resolve _).bind fun middle _ => ?_
      refine (middle.isTame_resolveColumn _).bind fun _ _ => ?_
      exact (middle.isTame_resolveColumn _).bind fun _ _ => Result.isTame_ok _
    all_goals exact Result.isTame_ok _

/-! ## Contexts of a recording -/

namespace Recording

variable {recording : Recording} {stack : List ContextId}

/-- A context of a recording may be replaced by one that it has grown to. -/
theorem Sound.growContext (sound : recording.Sound rule stack) {id : ContextId} {after : Context}
    (grows : (recording.contextAt id).Grows after)
    (replaced : after.Sound rule ((recording.contextAt id).enclosing.map recording.level)) :
    (recording.setContext id after).Sound rule stack ∧
      recording.Grows (recording.setContext id after) := by
  have recording_grows := grows_setContext grows
  exact ⟨sound.changeContexts recording_grows rfl (sound.contexts.setContext grows replaced),
    recording_grows⟩

end Recording

end TrackedQuery
