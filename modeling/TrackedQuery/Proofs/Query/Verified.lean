import TrackedQuery.Example
import TrackedQuery.Proofs.Query.Markers
import TrackedQuery.Proofs.Schema.Verification

/-!
# Queries over a verified schema

Joining, navigating and compiling resolve names again, long after the schema was verified.  What
verification promises is enough for all of them: a registered entity can be joined, a navigation
that exists can be read, and compiling a query fails neither for an entity nor for a column that is
missing (`build_covers`).

## Strategy

An operation resolves either a name that an entity mentions, which verification has covered
(`Schema.Verified`), or the name of a table that the context has already.  The second needs an
invariant of the calls, `Context.Registered`: the base is registered at the start, a requested join
resolves its entity before it is added, and a navigation resolves its target and its mapping.
-/

namespace TrackedQuery

/-! ## Verified schemas -/

/-- What verification leaves: distinct names, and entities that need nothing that is missing. -/
structure Schema.Verified (schema : Schema) : Prop where
  distinct : (schema.entities.map Entity.name).Nodup
  consistent : ∀ entity ∈ schema.entities, entity.Consistent schema.entities

/-- The name is that of a registered entity. -/
def Schema.Has (schema : Schema) (name : String) : Prop :=
  ∃ entity, schema.resolve name = .ok entity

namespace Schema

variable {schema : Schema} {name : String} {entity : Entity}

private theorem has_of_resolve (resolved : schema.resolve name = .ok entity) :
    schema.Has entity.name :=
  ⟨entity, name_of_resolve resolved ▸ resolved⟩

end Schema

namespace SchemaBuilder

variable {tableStart : Option String} {entities : List Entity} {schema : Schema}

private theorem verified_of_build (distinct : (entities.map Entity.name).Nodup)
    (built : build ⟨tableStart, entities⟩ = .ok schema) : schema.Verified := by
  obtain ⟨rfl, consistent⟩ := (build_eq_ok_iff distinct).mp built
  refine ⟨?_, ?_⟩
  · rw [entities_schema, Entity.names_storedUnder]
    exact distinct
  · rw [entities_schema, List.forall_mem_map]
    exact fun entity mem => Entity.consistent_storedUnder_iff.mpr (consistent entity mem)

/-- The schema that is built has the entities that were registered. -/
theorem has_of_build (distinct : (entities.map Entity.name).Nodup)
    (built : build ⟨tableStart, entities⟩ = .ok schema) {entity : Entity}
    (registered : entity ∈ entities) : schema.Has entity.name := by
  obtain ⟨rfl, -⟩ := (build_eq_ok_iff distinct).mp built
  have stored : entity.storedUnder tableStart ∈
      (SchemaBuilder.schema ⟨tableStart, entities⟩).entities := by
    rw [entities_schema]
    exact List.mem_map_of_mem registered
  have resolved := Schema.resolve_of_mem stored
  rwa [Entity.name_storedUnder] at resolved

end SchemaBuilder

/-! ## Joining and navigating -/

namespace Context

variable {context after : Context} {source target : Binding} {name : String}

private theorem beginJoin_of_has {entity : String} (has : context.schema.Has entity)
    (kind : JoinKind) (rows : Option Plan) :
    ∃ begun, context.beginJoin kind entity rows = .ok begun := by
  obtain ⟨target, resolved⟩ := has
  exact ⟨_, Result.bind_eq_ok.mpr ⟨target, resolved, rfl⟩⟩

/-- A navigation whose sides exist can be read. -/
theorem navigate_of_complete (verified : context.schema.Verified) {entity : Entity}
    {navigation : Navigation} (resolved : context.schema.resolve source.entity = .ok entity)
    (named : entity.resolveNavigation name = .ok navigation)
    (complete : navigation.Complete context.schema.entities entity) :
    ∃ read, context.navigate source name = .ok read := by
  -- verification found every entity and column that the joins could ask for
  obtain ⟨own, ⟨target, registered, targetNamed, other⟩, middle⟩ := complete
  obtain ⟨own, hown⟩ := Entity.hasColumn_iff.mp own
  obtain ⟨other, hother⟩ := Entity.hasColumn_iff.mp other
  have htarget : context.schema.resolve navigation.target = .ok target :=
    (Schema.resolve_eq_ok_iff verified.distinct).mpr ⟨registered, targetNamed⟩
  cases known : context.aliasOf? (source.path.child name) with
  | some table =>
      exact ⟨_, by simp only [navigate, resolved, named, known, bind, Except.bind]; rfl⟩
  | none =>
      cases relation : navigation.relation with
      | manyToMany mapping =>
          obtain ⟨mid, midRegistered, midNamed, first, second⟩ :=
            middle mapping (by simp [Navigation.mapping?, relation])
          obtain ⟨first, hfirst⟩ := Entity.hasColumn_iff.mp first
          obtain ⟨second, hsecond⟩ := Entity.hasColumn_iff.mp second
          have hmiddle : context.schema.resolve mapping.entity = .ok mid :=
            (Schema.resolve_eq_ok_iff verified.distinct).mpr ⟨midRegistered, midNamed⟩
          exact ⟨_, by
            simp only [navigate, resolved, named, known, htarget, hown, hother, relation, hmiddle,
              hfirst, hsecond, bind, Except.bind]
            rfl⟩
      | oneToOne | oneToMany | manyToOne =>
          exact ⟨_, by
            simp only [navigate, resolved, named, known, htarget, hown, hother, relation, bind,
              Except.bind]
            rfl⟩

/-- Reading a navigation from a registered entity fails only if the entity has no such
navigation. -/
theorem navigate_eq_error (verified : context.schema.Verified)
    (has : context.schema.Has source.entity) {error : Error}
    (failed : context.navigate source name = .error error) :
    error = ⟨.unknownNavigation source.entity name, []⟩ := by
  obtain ⟨entity, resolved⟩ := has
  cases named : entity.resolveNavigation name with
  | ok navigation =>
      have registered := ((Schema.resolve_eq_ok_iff verified.distinct).mp resolved).1
      have declared := (Entity.of_resolveNavigation named).1
      obtain ⟨read, succeeded⟩ := navigate_of_complete verified resolved named
        ((verified.consistent entity registered).navigations navigation declared)
      rw [succeeded] at failed
      cases failed
  | error other =>
      have unknown : other = ⟨.unknownNavigation source.entity name, []⟩ := by
        unfold Entity.resolveNavigation at named
        split at named
        · cases named
          rw [Schema.name_of_resolve resolved]
        · cases named
      rw [navigate, resolved] at failed
      simp only [bind, Except.bind, named] at failed
      cases failed
      exact unknown

/-! ## The tables of a context -/

/-- The entity of every table is registered. -/
def Registered (context : Context) : Prop := ∀ name ∈ context.tables, context.schema.Has name

/-- A context is one of a query on the named entity, after any calls. -/
def OfQuery (schema : Schema) (base : String) (context : Context) : Prop :=
  ∃ id options enclosing calls,
    context = { ((Building.start schema options enclosing base).run calls).context with id := id }

/-- A table that is added keeps the tables registered if its entity is. -/
theorem Registered.append (registered : context.Registered) (schema : after.schema = context.schema)
    {added : List String} (tables : after.tables = context.tables ++ added)
    (has : ∀ name ∈ added, context.schema.Has name) : after.Registered := by
  intro name mem
  rw [tables, List.mem_append] at mem
  rw [schema]
  exact mem.elim (registered name) (has name)

private theorem Registered.addImplicit (registered : context.Registered) {entity : Entity}
    (has : context.schema.Has entity.name) (path : NavPath) (condition : Expr) :
    (context.addImplicit path entity condition).Registered :=
  registered.append rfl (context.tables_addJoin _) (List.forall_mem_singleton.mpr has)

private theorem Registered.navigated (registered : context.Registered)
    (navigated : context.Navigated source name target after) : after.Registered := by
  cases navigated with
  | again => exact registered
  | single link =>
      obtain ⟨column, resolved, -⟩ := link.target
      exact registered.addImplicit (Schema.has_of_resolve resolved) _ _
  | mapped link between =>
      obtain ⟨column, resolved, -⟩ := link.target
      obtain ⟨mapping, first, second, -, middle, -⟩ := between.resolved
      have joined := registered.addImplicit (Schema.has_of_resolve middle)
      exact (joined _ _).addImplicit (Schema.has_of_resolve resolved) _ _

private theorem Registered.beginJoin (registered : context.Registered) {kind : JoinKind}
    {entity : String} {rows : Option Plan} {table : Alias}
    (begun : context.beginJoin kind entity rows = .ok (table, after)) : after.Registered := by
  obtain ⟨target, resolved, begun⟩ := Result.bind_eq_ok.mp begun
  cases begun
  exact registered.append rfl (tables_addJoin _ _)
    (List.forall_mem_singleton.mpr ⟨target, resolved⟩)

end Context

namespace Building

variable {building : Building}

/-- Every call keeps the schema. -/
theorem schema_answer (call : Call) :
    (building.answer call).context.schema = building.context.schema := by
  have answered := building.answered call
  generalize building.answer call = later at answered ⊢
  cases answered with
  | unbound | refused | unknown | failed | missing | bound | completed => rfl
  | begun begun =>
      obtain ⟨join, -, -, rfl⟩ := Context.beginJoin_eq_ok begun
      rfl
  | navigated _ read => cases read <;> rfl

private theorem registered_answer (registered : building.context.Registered) (call : Call) :
    (building.answer call).context.Registered := by
  have answered := building.answered call
  generalize building.answer call = later at answered ⊢
  cases answered with
  | unbound | refused | unknown | failed | missing | bound => exact registered
  | begun begun => exact registered.beginJoin begun
  | completed condition =>
      exact registered.append rfl
        ((Context.tables_completeJoin _ _ _).trans (List.append_nil _).symm) (by simp)
  | navigated _ read => exact registered.navigated read

private theorem registered_run (registered : building.context.Registered) (calls : List Call) :
    (building.run calls).context.Registered ∧
      (building.run calls).context.schema = building.context.schema := by
  induction calls generalizing building with
  | nil => exact ⟨registered, rfl⟩
  | cons call rest ih =>
      obtain ⟨kept, same⟩ := ih (registered_answer registered call)
      exact ⟨kept, same.trans (schema_answer call)⟩

end Building

private theorem Context.OfQuery.registered {schema : Schema} {base : String} {context : Context}
    (ofQuery : context.OfQuery schema base) (has : schema.Has base) : context.Registered := by
  obtain ⟨id, options, enclosing, calls, rfl⟩ := ofQuery
  have start : (Building.start schema options enclosing base).context.Registered := by
    intro name mem
    obtain rfl := List.mem_singleton.mp mem
    exact has
  exact (Building.registered_run start calls).1

/-! ## Compiling -/

/-- The error is about the query itself, not about a name that it mentions. -/
def Error.IsOwn (error : Error) : Prop :=
  error.hasKind .unknownEntity = false ∧ error.hasKind .unknownColumn = false

private theorem Error.isOwn_invalidProjection (fault : ProjectionFault) :
    Error.IsOwn ⟨.invalidProjection fault, []⟩ := ⟨rfl, rfl⟩

private theorem Error.isOwn_invalidStatement (fault : StatementFault) :
    Error.IsOwn ⟨.invalidStatement fault, []⟩ := ⟨rfl, rfl⟩

private theorem Error.isOwn_invalidPageRequest (index size : Int) :
    Error.IsOwn ⟨.invalidPageRequest index size, []⟩ := ⟨rfl, rfl⟩

private theorem Join.keepAlive_of_has {schema : Schema} {join : Join}
    (has : schema.Has join.entity) :
    ∃ kept, join.keepAlive schema = .ok kept := by
  obtain ⟨target, resolved⟩ := has
  unfold keepAlive
  split
  · exact ⟨join, rfl⟩
  · cases condition : target.alive? join.tableAlias with
    | none => exact ⟨join, Result.bind_eq_ok.mpr ⟨target, resolved, by simp only [condition]; rfl⟩⟩
    | some alive =>
        exact ⟨_, Result.bind_eq_ok.mpr ⟨target, resolved, by simp only [condition]; rfl⟩⟩

private theorem Join.keepAllAlive_of_has {schema : Schema} {joins : List Join}
    (has : ∀ join ∈ joins, schema.Has join.entity) :
    ∃ kept, Join.keepAllAlive schema joins = .ok kept := by
  induction joins with
  | nil => exact ⟨[], rfl⟩
  | cons join rest ih =>
      obtain ⟨first, hfirst⟩ := join.keepAlive_of_has (has join List.mem_cons_self)
      obtain ⟨others, hothers⟩ := ih fun other mem => has other (List.mem_cons_of_mem _ mem)
      exact ⟨first :: others,
        Result.bind_eq_ok.mpr ⟨first, hfirst, Result.bind_eq_ok.mpr ⟨others, hothers, rfl⟩⟩⟩

private theorem isOwn_of_projectionOf {entity : Entity} {projection : Option (List Item)}
    {error : Error} (failed : projectionOf entity projection = .error error) : error.IsOwn := by
  unfold projectionOf at failed
  split at failed
  · cases failed
  · cases failed
    exact Error.isOwn_invalidProjection _
  · cases failed

private theorem Plan.isOwn_of_checkAliases {plan : Plan} {error : Error}
    (failed : plan.checkAliases = .error error) : error.IsOwn := by
  unfold checkAliases at failed
  split at failed
  · cases failed
    exact Error.isOwn_invalidStatement _
  · cases failed

private theorem Plan.isOwn_of_checkGrouping {plan : Plan} {error : Error}
    (failed : plan.checkGrouping = .error error) : error.IsOwn := by
  unfold checkGrouping at failed
  split at failed
  · split at failed
    · cases failed
      exact Error.isOwn_invalidProjection _
    · cases failed
  · cases failed

namespace Clauses

variable {clauses : Clauses} {context : Context} {error : Error}

private theorem planJoins_of_registered (clauses : Clauses) (registered : context.Registered) :
    ∃ joins, clauses.planJoins context = .ok joins := by
  unfold planJoins
  split
  · exact Join.keepAllAlive_of_has fun join mem =>
      registered join.entity (List.mem_cons_of_mem _ (List.mem_map_of_mem mem))
  · exact ⟨context.joins, rfl⟩

theorem isOwn_of_compile (registered : context.Registered) {projection : Option (List Item)}
    {grouping : Option Grouping}
    (failed : clauses.compile context projection grouping = .error error) : error.IsOwn := by
  obtain ⟨entity, resolved⟩ := registered context.base List.mem_cons_self
  obtain ⟨joins, hjoins⟩ := clauses.planJoins_of_registered registered
  -- compiling has five steps, of which resolving the base and the joins read the schema
  rcases Result.bind_eq_error.mp failed with failed | ⟨_, -, failed⟩
  · rw [resolved] at failed
    cases failed
  rcases Result.bind_eq_error.mp failed with failed | ⟨items, -, failed⟩
  · exact isOwn_of_projectionOf failed
  rcases Result.bind_eq_error.mp failed with failed | ⟨_, -, failed⟩
  · rw [hjoins] at failed
    cases failed
  rcases Result.bind_eq_error.mp failed with failed | ⟨_, -, failed⟩
  · exact Plan.isOwn_of_checkAliases failed
  rcases Result.bind_eq_error.mp failed with failed | ⟨_, -, failed⟩
  · exact Plan.isOwn_of_checkGrouping failed
  · cases failed

private theorem isOwn_of_compileCount (registered : context.Registered)
    (failed : clauses.compileCount context = .error error) : error.IsOwn := by
  unfold compileCount at failed
  split at failed
  · exact isOwn_of_compile registered failed
  · cases failed
    exact Error.isOwn_invalidStatement _

private theorem isOwn_of_compilePage (registered : context.Registered) {index size : Int}
    (failed : clauses.compilePage context index size = .error error) : error.IsOwn := by
  unfold compilePage at failed
  split at failed
  · cases failed
    exact Error.isOwn_invalidPageRequest _ _
  · rcases Result.bind_eq_error.mp failed with failed | ⟨_, -, failed⟩
    · exact isOwn_of_compileCount registered failed
    rcases Result.bind_eq_error.mp failed with failed | ⟨_, -, failed⟩
    · exact isOwn_of_compile registered failed
    · cases failed

end Clauses

/-! ## What verification covers -/

/-- Building a schema of entities with distinct names succeeds exactly if every entity is
consistent, and a schema that is built covers what queries resolve later: a registered entity can be
joined, reading a navigation from one fails only if it has no such navigation, and compiling a query
on one never fails for an entity or a column that is missing. -/
theorem build_covers (tableStart : Option String) (entities : List Entity)
    (distinct : (entities.map Entity.name).Nodup) :
    entities.foldlM SchemaBuilder.register ⟨tableStart, []⟩ = .ok ⟨tableStart, entities⟩ ∧
      ((∃ schema, SchemaBuilder.build ⟨tableStart, entities⟩ = .ok schema) ↔
        ∀ entity ∈ entities, entity.Consistent entities) ∧
      ∀ schema, SchemaBuilder.build ⟨tableStart, entities⟩ = .ok schema → ∀ entity ∈ entities,
        (∀ context : Context, context.schema = schema → ∀ kind rows,
          ∃ begun, context.beginJoin kind entity.name rows = .ok begun) ∧
        (∀ context : Context, context.schema = schema → ∀ table path name error,
          context.navigate ⟨table, entity.name, path⟩ name = .error error →
            error = ⟨.unknownNavigation entity.name name, []⟩) ∧
        ∀ context : Context, context.OfQuery schema entity.name →
          ∀ (clauses : Clauses) (projection : Option (List Item)) (grouping : Option Grouping)
            (index size : Int) (error : Error),
            clauses.compile context projection grouping = .error error ∨
                clauses.compileCount context = .error error ∨
                clauses.compilePage context index size = .error error →
              error.hasKind .unknownEntity = false ∧ error.hasKind .unknownColumn = false := by
  refine ⟨SchemaBuilder.register_all [] distinct, ?_, ?_⟩
  · simp only [SchemaBuilder.build_eq_ok_iff distinct, exists_eq_left]
  intro schema built entity registered
  have verified := SchemaBuilder.verified_of_build distinct built
  have has := SchemaBuilder.has_of_build distinct built registered
  refine ⟨?_, ?_, ?_⟩
  · rintro context rfl kind rows
    exact Context.beginJoin_of_has has kind rows
  · rintro context rfl table path name error failed
    exact Context.navigate_eq_error verified has failed
  · intro context ofQuery clauses projection grouping index size error failed
    -- the tables of a query of this schema are all registered, at whatever point it is compiled
    have tables := ofQuery.registered has
    rcases failed with failed | failed | failed
    · exact Clauses.isOwn_of_compile tables failed
    · exact Clauses.isOwn_of_compileCount tables failed
    · exact Clauses.isOwn_of_compilePage tables failed

namespace Example

/-- The entities of the example are consistent, and so a query on one of them compiles unless the
query itself is at fault. -/
theorem build_covers_blogs :
    (∀ entity ∈ entities, entity.Consistent entities) ∧
      ∃ schema, SchemaBuilder.build ⟨some "app_", entities⟩ = .ok schema ∧
        ∀ context : Context, context.OfQuery schema blog.name → ∀ error : Error,
          Clauses.initial.compile context none none = .error error →
            error.hasKind .unknownEntity = false := by
  have covers := build_covers (some "app_") entities (by decide)
  obtain ⟨schema, built⟩ : ∃ schema, SchemaBuilder.build ⟨some "app_", entities⟩ = .ok schema :=
    ⟨_, rfl⟩
  refine ⟨covers.2.1.mp ⟨schema, built⟩, schema, built, fun context ofQuery error failed => ?_⟩
  have own := (covers.2.2 schema built blog List.mem_cons_self).2.2 context ofQuery
    .initial none none 1 1 error (.inl failed)
  exact own.1

end Example

end TrackedQuery
