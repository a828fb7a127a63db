import Mathlib.Data.List.Nodup
import TrackedQuery.Proofs.Result
import TrackedQuery.Query.Context

/-!
# Reading navigations

A context has three views of its tables: the joins, which are numbered by their aliases, the
entities of the aliases, and the paths that led to aliases.  `Context.Indexed` says that they fit
together, and every change of a context keeps it.

What reading a navigation does is said once, by `Context.Navigated`: the path is known already, or
it gets one join, or two joins if there is a mapping between the two sides.

## Strategy

A path is registered when its join is added, so a path that is not known is fresh, and registering
it appends it (`setPath_of_fresh`).  The path of a mapping is fresh along with the path it belongs
to, because whatever leads to the mapping has led to the target before.
-/

namespace TrackedQuery

/-! ## Paths and entities -/

namespace NavPath

theorem child_inj {left right : NavPath} {step other : String} :
    left.child step = right.child other ↔ left = right ∧ step = other := by
  obtain ⟨leftOrigin, leftSteps⟩ := left
  obtain ⟨rightOrigin, rightSteps⟩ := right
  simp only [child, mk.injEq]
  constructor
  · rintro ⟨rfl, steps⟩
    obtain ⟨rfl, last⟩ := List.append_inj' steps rfl
    exact ⟨⟨rfl, rfl⟩, List.singleton_inj.mp last⟩
  · rintro ⟨⟨rfl, rfl⟩, rfl⟩
    exact ⟨rfl, rfl⟩

theorem child_ne_root (path : NavPath) (step : String) (origin : Alias) :
    path.child step ≠ root origin := by
  intro same
  have steps := congrArg NavPath.steps same
  exact List.append_ne_nil_of_right_ne_nil _ (List.cons_ne_nil step []) steps

theorem child_ne_self (path : NavPath) (step : String) : path.child step ≠ path := by
  intro same
  have length := congrArg (fun path : NavPath => path.steps.length) same
  simp [child] at length

end NavPath

theorem Schema.get?_of_resolve {schema : Schema} {name : String} {entity : Entity}
    (resolved : schema.resolve name = .ok entity) : schema.get? name = some entity := by
  unfold resolve at resolved
  split at resolved
  · cases resolved
  · next found =>
      cases resolved
      exact found

/-- An entity is found under its own name. -/
theorem Schema.name_of_resolve {schema : Schema} {name : String} {entity : Entity}
    (resolved : schema.resolve name = .ok entity) : entity.name = name := by
  have own := List.find?_some (get?_of_resolve resolved)
  exact beq_iff_eq.mp own

namespace Context

variable {context : Context} {path : NavPath} {table : Alias}

/-! ## Registered paths -/

theorem setPath_of_fresh {paths : List (NavPath × Alias)} (fresh : path ∉ paths.map Prod.fst)
    (table : Alias) : setPath paths path table = paths ++ [(path, table)] := by
  induction paths with
  | nil => rfl
  | cons entry rest ih =>
      rw [List.map_cons, List.mem_cons, not_or] at fresh
      rw [setPath, if_neg (Ne.symm fresh.1), ih fresh.2]
      rfl

theorem aliasOf?_eq_none_iff :
    context.aliasOf? path = none ↔ path ∉ context.paths.map Prod.fst := by
  unfold aliasOf?
  rw [Option.map_eq_none_iff, List.find?_eq_none]
  constructor
  · intro absent mem
    obtain ⟨entry, here, rfl⟩ := List.mem_map.mp mem
    exact absent entry here (beq_self_eq_true _)
  · intro fresh entry mem same
    obtain rfl := beq_iff_eq.mp same
    exact fresh (List.mem_map_of_mem mem)

theorem mem_of_aliasOf? (found : context.aliasOf? path = some table) :
    (path, table) ∈ context.paths := by
  obtain ⟨entry, hentry, rfl⟩ := Option.map_eq_some_iff.mp found
  have own := List.find?_some hentry
  obtain rfl := beq_iff_eq.mp own
  exact List.mem_of_find?_eq_some hentry

/-! ## The three views of the tables -/

/-- The joins are numbered by their aliases, and the paths are those of the joins that navigations
created. -/
structure Indexed (context : Context) : Prop where
  aliases : ∀ (index : Nat) (join : Join), context.joins[index]? = some join →
    join.tableAlias = index + 1
  /-- A path leads to one alias. -/
  paths : (context.paths.map Prod.fst).Nodup
  /-- No two paths lead to the same alias. -/
  ends : (context.paths.map Prod.snd).Nodup
  registered : ∀ path table, (path, table) ∈ context.paths ↔
    ∃ join ∈ context.joins, join.origin = .navigation path ∧ join.tableAlias = table

namespace Indexed

theorem start (schema : Schema) (options : QueryOptions) (enclosing : List ContextId)
    (base : String) : (Context.start schema options enclosing base).Indexed where
  aliases index join found := by simp [Context.start] at found
  paths := List.nodup_nil
  ends := List.nodup_nil
  registered path table := by simp [Context.start]

theorem lt_nextAlias (indexed : context.Indexed) {join : Join} (mem : join ∈ context.joins) :
    0 < join.tableAlias ∧ join.tableAlias < context.nextAlias := by
  obtain ⟨index, found⟩ := List.getElem?_of_mem mem
  have inside := (List.getElem?_eq_some_iff.mp found).1
  rw [indexed.aliases index join found]
  exact ⟨Nat.succ_pos index, Nat.succ_lt_succ inside⟩

/-- No two joins have the same alias. -/
theorem join_unique (indexed : context.Indexed) {left right : Join}
    (hleft : left ∈ context.joins) (hright : right ∈ context.joins)
    (same : left.tableAlias = right.tableAlias) : left = right := by
  obtain ⟨first, hfirst⟩ := List.getElem?_of_mem hleft
  obtain ⟨second, hsecond⟩ := List.getElem?_of_mem hright
  rw [indexed.aliases first left hfirst, indexed.aliases second right hsecond] at same
  obtain rfl : first = second := Nat.succ.inj same
  exact Option.some.inj (hfirst.symm.trans hsecond)

/-- The entity of an alias is that of its join. -/
theorem tables_of_mem (indexed : context.Indexed) {join : Join} (mem : join ∈ context.joins) :
    context.tables[join.tableAlias]? = some join.entity := by
  obtain ⟨index, found⟩ := List.getElem?_of_mem mem
  rw [indexed.aliases index join found]
  simp [tables, found]

/-- A path leads to one alias only. -/
theorem end_unique (indexed : context.Indexed) {other : Alias}
    (first : (path, table) ∈ context.paths) (second : (path, other) ∈ context.paths) :
    table = other :=
  congrArg Prod.snd (List.inj_on_of_nodup_map indexed.paths first second rfl)

theorem lt_of_registered (indexed : context.Indexed) (mem : (path, table) ∈ context.paths) :
    table < context.nextAlias := by
  obtain ⟨join, here, -, rfl⟩ := (indexed.registered path table).mp mem
  exact (indexed.lt_nextAlias here).2

/-- A join that is added has the next alias. -/
theorem aliases_addJoin (indexed : context.Indexed) (join : Join) (index : Nat) (other : Join)
    (found : (context.addJoin join).joins[index]? = some other) : other.tableAlias = index + 1 := by
  rw [Context.addJoin, List.getElem?_append] at found
  split at found
  · exact indexed.aliases index other found
  · obtain ⟨position, rfl⟩ := List.getElem?_eq_some_iff.mp found
    rw [List.length_singleton] at position
    have last : index = context.joins.length := by omega
    simp only [last, List.getElem_singleton]
    rfl

/-- A join that is requested leads to no path. -/
theorem addJoin (indexed : context.Indexed) {join : Join} (requested : join.origin = .explicit) :
    (context.addJoin join).Indexed where
  aliases := indexed.aliases_addJoin join
  paths := indexed.paths
  ends := indexed.ends
  registered path table := by
    rw [show (context.addJoin join).paths = context.paths from rfl, indexed.registered path table]
    constructor
    · rintro ⟨other, mem, leads⟩
      exact ⟨other, List.mem_append_left _ mem, leads⟩
    · rintro ⟨other, mem, origin, named⟩
      rcases List.mem_append.mp mem with mem | mem
      · exact ⟨other, mem, origin, named⟩
      · obtain rfl := List.mem_singleton.mp mem
        rw [requested] at origin
        cases origin

/-- A condition changes no view. -/
theorem completeJoin (indexed : context.Indexed) (table : Alias) (condition : Expr) :
    (context.completeJoin table condition).Indexed where
  aliases index join found := by
    rw [Context.completeJoin, List.getElem?_map, Option.map_eq_some_iff] at found
    obtain ⟨earlier, hearlier, rfl⟩ := found
    rw [← indexed.aliases index earlier hearlier]
    split <;> rfl
  paths := indexed.paths
  ends := indexed.ends
  registered path other := by
    have kept : ∀ join : Join,
        (if join.tableAlias = table then { join with condition := condition } else join).origin =
            join.origin ∧
          (if join.tableAlias = table then { join with condition := condition }
            else join).tableAlias = join.tableAlias := by
      intro join
      split <;> exact ⟨rfl, rfl⟩
    rw [show (context.completeJoin table condition).paths = context.paths from rfl,
      indexed.registered path other]
    simp only [Context.completeJoin, List.mem_map, exists_exists_and_eq_and, kept]

/-- A navigation registers its path under the alias of its join. -/
theorem addImplicit (indexed : context.Indexed) (fresh : path ∉ context.paths.map Prod.fst)
    (entity : Entity) (condition : Expr) :
    (context.addImplicit path entity condition).Indexed := by
  have appended := setPath_of_fresh fresh context.nextAlias
  -- the alias to come is above every alias that a path is registered with
  have below : ∀ table ∈ context.paths.map Prod.snd, table < context.nextAlias := by
    intro table mem
    obtain ⟨⟨path, table⟩, here, rfl⟩ := List.mem_map.mp mem
    exact indexed.lt_of_registered here
  refine ⟨?_, ?_, ?_, ?_⟩
  · exact indexed.aliases_addJoin _
  · show ((setPath context.paths path context.nextAlias).map Prod.fst).Nodup
    rw [appended, List.map_append, List.nodup_append]
    refine ⟨indexed.paths, List.nodup_singleton _, ?_⟩
    intro known mem last new same
    obtain rfl := List.mem_singleton.mp new
    exact fresh (same ▸ mem)
  · show ((setPath context.paths path context.nextAlias).map Prod.snd).Nodup
    rw [appended, List.map_append, List.nodup_append]
    refine ⟨indexed.ends, List.nodup_singleton _, ?_⟩
    intro known mem last new same
    obtain rfl := List.mem_singleton.mp new
    exact absurd same (Nat.ne_of_lt (below known mem))
  · intro other table
    show (other, table) ∈ setPath context.paths path context.nextAlias ↔ _
    rw [appended, List.mem_append, List.mem_singleton, indexed.registered other table]
    constructor
    · rintro (⟨join, mem, leads⟩ | new)
      · exact ⟨join, List.mem_append_left _ mem, leads⟩
      · cases new
        exact ⟨_, List.mem_append_right _ (List.mem_singleton_self _), rfl, rfl⟩
    · rintro ⟨join, mem, origin, named⟩
      rcases List.mem_append.mp mem with mem | mem
      · exact .inl ⟨join, mem, origin, named⟩
      · obtain rfl := List.mem_singleton.mp mem
        cases origin
        exact .inr (Prod.ext rfl named.symm)

end Indexed

@[simp] theorem nextAlias_addImplicit (context : Context) (path : NavPath) (entity : Entity)
    (condition : Expr) :
    (context.addImplicit path entity condition).nextAlias = context.nextAlias + 1 := by
  simp [addImplicit, Context.addJoin, nextAlias]

/-! ## What reading a navigation does -/

/-- A navigation of the entity that a binding names, the entity it leads to, and the columns of the
two that it compares. -/
structure Link (schema : Schema) (source : Binding) (name : String) (navigation : Navigation)
    (target : Entity) (own other : Nat) : Prop where
  source : ∃ entity column, schema.resolve source.entity = .ok entity ∧
    entity.resolveNavigation name = .ok navigation ∧
    entity.resolveColumn navigation.selfProperty = .ok (own, column)
  target : ∃ column, schema.resolve navigation.target = .ok target ∧
    target.resolveColumn navigation.targetProperty = .ok (other, column)

theorem Link.name_eq {schema : Schema} {source : Binding} {name : String}
    {navigation : Navigation} {target : Entity} {own other : Nat}
    (link : Link schema source name navigation target own other) :
    target.name = navigation.target := by
  obtain ⟨column, resolved, -⟩ := link.target
  exact Schema.name_of_resolve resolved

/-- The entity between the two sides of a many-to-many navigation, and its columns for the side the
navigation starts from and the side it leads to. -/
structure Between (schema : Schema) (navigation : Navigation) (middle : Entity)
    (first second : Nat) : Prop where
  resolved : ∃ mapping firstColumn secondColumn, navigation.mapping? = some mapping ∧
    schema.resolve mapping.entity = .ok middle ∧
    middle.resolveColumn mapping.selfProperty = .ok (first, firstColumn) ∧
    middle.resolveColumn mapping.targetProperty = .ok (second, secondColumn)

/-- What reading a navigation from a binding answers, and what it makes of the context. -/
inductive Navigated (context : Context) (source : Binding) (name : String) :
    Binding → Context → Prop where
  /-- The path was read before, and nothing is joined. -/
  | again {entity : Entity} {navigation : Navigation} {table : Alias}
      (resolved : context.schema.resolve source.entity = .ok entity)
      (named : entity.resolveNavigation name = .ok navigation)
      (known : context.aliasOf? (source.path.child name) = some table) :
      Navigated context source name ⟨table, navigation.target, source.path.child name⟩ context
  /-- The target is joined. -/
  | single {navigation : Navigation} {target : Entity} {own other : Nat}
      (link : Link context.schema source name navigation target own other)
      (direct : navigation.mapping? = none)
      (fresh : context.aliasOf? (source.path.child name) = none) :
      Navigated context source name
        ⟨context.nextAlias, navigation.target, source.path.child name⟩
        (context.addImplicit (source.path.child name) target
          (columnsEqual source.tableAlias own context.nextAlias other))
  /-- The mapping is joined, and then the target to it. -/
  | mapped {navigation : Navigation} {target middle : Entity} {own other first second : Nat}
      (link : Link context.schema source name navigation target own other)
      (between : Between context.schema navigation middle first second)
      (fresh : context.aliasOf? (source.path.child name) = none) :
      Navigated context source name
        ⟨context.nextAlias + 1, navigation.target, source.path.child name⟩
        ((context.addImplicit ((source.path.child name).child NavPath.mappingStep) middle
            (columnsEqual source.tableAlias own context.nextAlias first)).addImplicit
          (source.path.child name) target
          (columnsEqual context.nextAlias second (context.nextAlias + 1) other))

theorem navigated_of_navigate {source target : Binding} {name : String} {after : Context}
    (navigated : context.navigate source name = .ok (target, after)) :
    context.Navigated source name target after := by
  obtain ⟨entity, hentity, navigated⟩ := Result.bind_eq_ok.mp navigated
  obtain ⟨navigation, hnavigation, navigated⟩ := Result.bind_eq_ok.mp navigated
  dsimp only at navigated
  -- the path is known, or the joins it takes are added: one, or two through a mapping
  split at navigated
  · next table known =>
      cases navigated
      exact .again hentity hnavigation known
  · next fresh =>
      obtain ⟨reached, hreached, navigated⟩ := Result.bind_eq_ok.mp navigated
      obtain ⟨⟨own, ownColumn⟩, hown, navigated⟩ := Result.bind_eq_ok.mp navigated
      obtain ⟨⟨other, otherColumn⟩, hother, navigated⟩ := Result.bind_eq_ok.mp navigated
      have link : Link context.schema source name navigation reached own other :=
        ⟨⟨entity, ownColumn, hentity, hnavigation, hown⟩, otherColumn, hreached, hother⟩
      have named := Schema.name_of_resolve hreached
      dsimp only at navigated
      split at navigated
      · next mapping relation =>
          obtain ⟨middle, hmiddle, navigated⟩ := Result.bind_eq_ok.mp navigated
          obtain ⟨⟨first, firstColumn⟩, hfirst, navigated⟩ := Result.bind_eq_ok.mp navigated
          obtain ⟨⟨second, secondColumn⟩, hsecond, navigated⟩ := Result.bind_eq_ok.mp navigated
          have through : navigation.mapping? = some mapping := by
            simp [Navigation.mapping?, relation]
          cases navigated
          rw [named, nextAlias_addImplicit]
          exact .mapped link ⟨mapping, firstColumn, secondColumn, through, hmiddle, hfirst, hsecond⟩
            fresh
      all_goals
        next relation =>
          have direct : navigation.mapping? = none := by simp [Navigation.mapping?, relation]
          cases navigated
          rw [named]
          exact .single link direct fresh

end Context

end TrackedQuery
