import TrackedQuery.Proofs.Query.Navigation

/-!
# The bindings of a context

A context is used by calls: an alias is bound, a join is begun and completed, a navigation is read
from a binding that was obtained before.  `Building` is a context under construction, together with
what its user obtained from it, and `Building.Wired` is the invariant of all calls.  Its idea is
that every join of a navigation is attributed to the binding the navigation was read from.

## Strategy

* A call fails, or does one of five things (`Building.Answered`), and every call is one of these
  (`Building.answered`).  What is proved of calls is proved by these cases, and no proof looks into
  the answer of a call again.
* Contexts only grow (`Context.Extends`): a table keeps its alias, and a path that is added leads to
  a table that is added.  So a binding stays in its place (`Extends.places`), and a join stays the
  one that its navigation asked for (`Extends.joined`).
* A navigation that is read for the first time adds one join, or two through a mapping.  The path of
  the mapping is as fresh as the one of the target (`Wired.fresh_mapping`), since only a navigation
  from the target could have registered it.  The new joins are attributed to the source, and nothing
  else changes (`Wired.addJoins`).
* One call keeps the invariant (`Wired.answer`), and so do all of them in turn (`Wired.run`).
-/

namespace TrackedQuery

/-! ## Calls -/

/-- A context under construction, the aliases of the joins that were begun, and the bindings that
were obtained so far. -/
structure Building where
  context : Context
  begun : List Alias
  bindings : List Binding

/-- What a context is asked for. -/
inductive Call where
  /-- What an alias stands for. -/
  | bind (table : Alias)
  | beginJoin (kind : JoinKind) (entity : String) (rows : Option Plan)
  | completeJoin (table : Alias) (condition : Expr)
  /-- Reads a navigation from the binding at a position. -/
  | navigate (position : Nat) (name : String)

namespace Building

/-- A context with a base table, of which nothing was obtained yet. -/
def start (schema : Schema) (options : QueryOptions) (enclosing : List ContextId)
    (base : String) : Building :=
  ⟨.start schema options enclosing base, [], []⟩

/-- Answers one call.  A call that fails, or that completes what was not begun or navigates from
what was not obtained, changes nothing. -/
def answer (building : Building) : Call → Building
  | .bind table =>
      { building with
        bindings := building.bindings ++ (building.context.binding? table).toList }
  | .beginJoin kind entity rows =>
      match building.context.beginJoin kind entity rows with
      | .error _ => building
      | .ok (table, context) => { building with context, begun := table :: building.begun }
  | .completeJoin table condition =>
      if table ∈ building.begun then
        { building with context := building.context.completeJoin table condition }
      else building
  | .navigate position name =>
      match building.bindings[position]? with
      | none => building
      | some source =>
          match building.context.navigate source name with
          | .error _ => building
          | .ok (target, context) =>
              { building with context, bindings := building.bindings ++ [target] }

/-- Answers several calls. -/
def run (building : Building) : List Call → Building
  | [] => building
  | call :: rest => run (building.answer call) rest

/-- What a call makes of a context under construction. -/
inductive Answered (building : Building) : Call → Building → Prop where
  | bound {table : Alias} {binding : Binding}
      (bound : building.context.binding? table = some binding) :
      Answered building (.bind table)
        { building with bindings := building.bindings ++ [binding] }
  | unbound {table : Alias} (unbound : building.context.binding? table = none) :
      Answered building (.bind table) building
  | begun {kind : JoinKind} {entity : String} {rows : Option Plan} {table : Alias}
      {after : Context}
      (begun : building.context.beginJoin kind entity rows = .ok (table, after)) :
      Answered building (.beginJoin kind entity rows)
        { building with context := after, begun := table :: building.begun }
  | refused {kind : JoinKind} {entity : String} {rows : Option Plan} {error : Error}
      (refused : building.context.beginJoin kind entity rows = .error error) :
      Answered building (.beginJoin kind entity rows) building
  | completed {table : Alias} (condition : Expr) (begun : table ∈ building.begun) :
      Answered building (.completeJoin table condition)
        { building with context := building.context.completeJoin table condition }
  | unknown {table : Alias} (condition : Expr) (unknown : table ∉ building.begun) :
      Answered building (.completeJoin table condition) building
  | navigated {position : Nat} {name : String} {source target : Binding} {after : Context}
      (obtained : building.bindings[position]? = some source)
      (read : building.context.Navigated source name target after) :
      Answered building (.navigate position name)
        { building with context := after, bindings := building.bindings ++ [target] }
  | failed {position : Nat} {name : String} {source : Binding} {error : Error}
      (obtained : building.bindings[position]? = some source)
      (failed : building.context.navigate source name = .error error) :
      Answered building (.navigate position name) building
  | missing {position : Nat} {name : String} (missing : building.bindings[position]? = none) :
      Answered building (.navigate position name) building

theorem answered (building : Building) (call : Call) :
    building.Answered call (building.answer call) := by
  cases call with
  | bind table =>
      cases bound : building.context.binding? table with
      | none => simpa [answer, bound] using Answered.unbound bound
      | some binding => simpa [answer, bound] using Answered.bound bound
  | beginJoin kind entity rows =>
      cases begun : building.context.beginJoin kind entity rows with
      | error error => simpa [answer, begun] using Answered.refused begun
      | ok made => simpa [answer, begun] using Answered.begun begun
  | completeJoin table condition =>
      by_cases begun : table ∈ building.begun
      · simpa [answer, begun] using Answered.completed condition begun
      · simpa [answer, begun] using Answered.unknown condition begun
  | navigate position name =>
      cases obtained : building.bindings[position]? with
      | none => simpa only [answer, obtained] using Answered.missing obtained
      | some source =>
          cases navigated : building.context.navigate source name with
          | error error =>
              simpa only [answer, obtained, navigated] using Answered.failed obtained navigated
          | ok reached =>
              have read := Context.navigated_of_navigate navigated
              simpa only [answer, obtained, navigated] using Answered.navigated obtained read

end Building

/-! ## The invariant of the calls -/

namespace Context

/-- A binding stands for a table of the context, and has the path that led to the table, or is the
root of its own paths. -/
structure Places (context : Context) (binding : Binding) : Prop where
  inside : binding.tableAlias < context.nextAlias
  path : (binding.path, binding.tableAlias) ∈ context.paths ∨
    binding.path = .root binding.tableAlias ∧
      ∀ path, (path, binding.tableAlias) ∉ context.paths

/-- A join is the one that reading a navigation from a binding asks for: it compares a column of
the binding, or of the join of the mapping, with a column of its own. -/
inductive Joined (context : Context) (source : Binding) (join : Join) : NavPath → Prop where
  | single {name : String} {navigation : Navigation} {target : Entity} {own other : Nat}
      (link : Link context.schema source name navigation target own other)
      (direct : navigation.mapping? = none)
      (entity : join.entity = navigation.target)
      (condition : join.condition = columnsEqual source.tableAlias own join.tableAlias other)
      (earlier : source.tableAlias < join.tableAlias) :
      Joined context source join (source.path.child name)
  | middle {name : String} {navigation : Navigation} {target middle : Entity}
      {own other first second : Nat}
      (link : Link context.schema source name navigation target own other)
      (between : Between context.schema navigation middle first second)
      (entity : join.entity = middle.name)
      (condition : join.condition = columnsEqual source.tableAlias own join.tableAlias first)
      (earlier : source.tableAlias < join.tableAlias)
      (next : (source.path.child name, join.tableAlias + 1) ∈ context.paths) :
      Joined context source join ((source.path.child name).child NavPath.mappingStep)
  | target {name : String} {navigation : Navigation} {target middle : Entity}
      {own other first second : Nat} {table : Alias}
      (link : Link context.schema source name navigation target own other)
      (between : Between context.schema navigation middle first second)
      (entity : join.entity = navigation.target)
      (before : ((source.path.child name).child NavPath.mappingStep, table) ∈ context.paths)
      (next : join.tableAlias = table + 1)
      (condition : join.condition = columnsEqual table second join.tableAlias other) :
      Joined context source join (source.path.child name)

end Context

/-- The invariant of the calls. -/
structure Building.Wired (building : Building) : Prop where
  indexed : building.context.Indexed
  begun : ∀ table ∈ building.begun, ∃ join ∈ building.context.joins,
    join.tableAlias = table ∧ join.origin = .explicit
  placed : ∀ binding ∈ building.bindings, building.context.Places binding
  joined : ∀ join ∈ building.context.joins, ∀ path, join.origin = .navigation path →
    ∃ source ∈ building.bindings, building.context.Joined source join path

namespace Context

variable {context after : Context} {source binding : Binding} {join : Join} {path : NavPath}

/-! ### Contexts that grow -/

/-- A context has the tables and paths of an earlier one, and perhaps more of both. -/
structure Extends (before after : Context) : Prop where
  schema : after.schema = before.schema
  tables : before.tables <+: after.tables
  /-- A path that is added leads to a table that is added. -/
  paths : ∃ added, after.paths = before.paths ++ added ∧
    ∀ entry ∈ added, before.nextAlias ≤ entry.2

namespace Extends

theorem refl (context : Context) : context.Extends context :=
  ⟨rfl, List.prefix_refl _, [], (List.append_nil _).symm, by simp⟩

theorem nextAlias_le (grows : context.Extends after) : context.nextAlias ≤ after.nextAlias := by
  rw [← length_tables, ← length_tables]
  exact grows.tables.length_le

theorem trans {later : Context} (first : context.Extends after) (second : after.Extends later) :
    context.Extends later := by
  obtain ⟨added, hadded, above⟩ := first.paths
  obtain ⟨more, hmore, higher⟩ := second.paths
  refine ⟨second.schema.trans first.schema, first.tables.trans second.tables, added ++ more, ?_, ?_⟩
  · rw [hmore, hadded, List.append_assoc]
  · intro entry mem
    rcases List.mem_append.mp mem with mem | mem
    · exact above entry mem
    · exact Nat.le_trans first.nextAlias_le (higher entry mem)

theorem mem_paths (grows : context.Extends after) {entry : NavPath × Alias}
    (mem : entry ∈ context.paths) : entry ∈ after.paths := by
  obtain ⟨added, hadded, -⟩ := grows.paths
  rw [hadded]
  exact List.mem_append_left _ mem

theorem places (grows : context.Extends after) (placed : context.Places binding) :
    after.Places binding := by
  refine ⟨Nat.lt_of_lt_of_le placed.inside grows.nextAlias_le, ?_⟩
  rcases placed.path with registered | ⟨root, unregistered⟩
  · exact .inl (grows.mem_paths registered)
  · refine .inr ⟨root, fun path mem => ?_⟩
    obtain ⟨added, hadded, above⟩ := grows.paths
    rw [hadded] at mem
    rcases List.mem_append.mp mem with mem | mem
    · exact unregistered path mem
    · exact absurd placed.inside (Nat.not_lt.mpr (above _ mem))

theorem joined (grows : context.Extends after) (joined : context.Joined source join path) :
    after.Joined source join path := by
  cases joined with
  | single link direct entity condition earlier =>
      rw [← grows.schema] at link
      exact .single link direct entity condition earlier
  | middle link between entity condition earlier next =>
      rw [← grows.schema] at link between
      exact .middle link between entity condition earlier (grows.mem_paths next)
  | target link between entity before next condition =>
      rw [← grows.schema] at link between
      exact .target link between entity (grows.mem_paths before) next condition

end Extends

theorem extends_addJoin (context : Context) (join : Join) :
    context.Extends (context.addJoin join) := by
  refine ⟨rfl, ?_, [], (List.append_nil _).symm, by simp⟩
  rw [tables_addJoin]
  exact List.prefix_append _ _

theorem extends_completeJoin (context : Context) (table : Alias) (condition : Expr) :
    context.Extends (context.completeJoin table condition) := by
  have same := context.tables_completeJoin table condition
  exact ⟨rfl, ⟨[], (List.append_nil _).trans same.symm⟩, [], (List.append_nil _).symm, by simp⟩

private theorem extends_addImplicit (fresh : path ∉ context.paths.map Prod.fst) (entity : Entity)
    (condition : Expr) : context.Extends (context.addImplicit path entity condition) := by
  refine ⟨rfl, ?_, [(path, context.nextAlias)], setPath_of_fresh fresh _, ?_⟩
  · exact (context.extends_addJoin _).tables
  · intro entry mem
    obtain rfl := List.mem_singleton.mp mem
    exact Nat.le_refl _

/-- The join that a navigation adds. -/
theorem joins_addImplicit (context : Context) (path : NavPath) (entity : Entity)
    (condition : Expr) :
    (context.addImplicit path entity condition).joins = context.joins ++
      [⟨context.options.implicitJoin, context.nextAlias, entity.name, entity.table, condition,
        .navigation path, none⟩] := rfl

theorem mem_paths_addImplicit (fresh : path ∉ context.paths.map Prod.fst) (entity : Entity)
    (condition : Expr) :
    (path, context.nextAlias) ∈ (context.addImplicit path entity condition).paths := by
  show (path, context.nextAlias) ∈ setPath context.paths path context.nextAlias
  rw [setPath_of_fresh fresh]
  exact List.mem_append_right _ (List.mem_singleton_self _)

/-- Registering a path leaves another one fresh. -/
theorem fresh_addImplicit {other : NavPath} (fresh : path ∉ context.paths.map Prod.fst)
    (freshOther : other ∉ context.paths.map Prod.fst) (apart : other ≠ path) (entity : Entity)
    (condition : Expr) :
    other ∉ (context.addImplicit path entity condition).paths.map Prod.fst := by
  show other ∉ (setPath context.paths path context.nextAlias).map Prod.fst
  rw [setPath_of_fresh fresh, List.map_append, List.mem_append, not_or]
  refine ⟨freshOther, fun mem => ?_⟩
  exact apart (List.mem_singleton.mp mem)

theorem beginJoin_eq_ok {kind : JoinKind} {entity : String} {rows : Option Plan} {table : Alias}
    (begun : context.beginJoin kind entity rows = .ok (table, after)) :
    ∃ join, join.origin = .explicit ∧ table = context.nextAlias ∧ after = context.addJoin join := by
  obtain ⟨target, -, begun⟩ := Result.bind_eq_ok.mp begun
  cases begun
  exact ⟨_, rfl, rfl, rfl⟩

/-- What an alias stands for is a table of the context. -/
theorem places_of_binding? {table : Alias}
    (bound : context.binding? table = some binding) : context.Places binding := by
  obtain ⟨entity, hentity, rfl⟩ := Option.map_eq_some_iff.mp bound
  have inside : table < context.nextAlias := by
    rw [← length_tables]
    exact (List.getElem?_eq_some_iff.mp hentity).1
  refine ⟨inside, ?_⟩
  show (context.pathOf table, table) ∈ context.paths ∨ context.pathOf table = .root table ∧ _
  unfold pathOf
  cases found : context.paths.find? fun entry => entry.2 == table with
  | some entry =>
      have own := List.find?_some found
      obtain rfl := beq_iff_eq.mp own
      exact .inl (List.mem_of_find?_eq_some found)
  | none =>
      refine .inr ⟨rfl, fun path mem => ?_⟩
      exact List.find?_eq_none.mp found _ mem (beq_self_eq_true _)

end Context

/-! ### One call -/

namespace Building

variable {building : Building} {source target : Binding} {name : String} {after : Context}

theorem Wired.start (schema : Schema) (options : QueryOptions) (enclosing : List ContextId)
    (base : String) : (Building.start schema options enclosing base).Wired where
  indexed := .start schema options enclosing base
  begun table mem := by cases mem
  placed binding mem := by cases mem
  joined join mem := by cases mem

/-- More bindings attribute every join that was attributed. -/
theorem Wired.bind (wired : building.Wired) {binding : Binding}
    (placed : building.context.Places binding) :
    Wired { building with bindings := building.bindings ++ [binding] } where
  indexed := wired.indexed
  begun := wired.begun
  placed other mem := by
    rcases List.mem_append.mp mem with mem | mem
    · exact wired.placed other mem
    · obtain rfl := List.mem_singleton.mp mem
      exact placed
  joined join mem path origin := by
    obtain ⟨source, here, joined⟩ := wired.joined join mem path origin
    exact ⟨source, List.mem_append_left _ here, joined⟩

private theorem Wired.beginJoin (wired : building.Wired) {kind : JoinKind} {entity : String}
    {rows : Option Plan} {table : Alias}
    (begun : building.context.beginJoin kind entity rows = .ok (table, after)) :
    Wired { building with context := after, begun := table :: building.begun } := by
  obtain ⟨join, requested, rfl, rfl⟩ := Context.beginJoin_eq_ok begun
  have grows := building.context.extends_addJoin join
  refine ⟨wired.indexed.addJoin requested, ?_, ?_, ?_⟩
  · intro table mem
    rcases List.mem_cons.mp mem with rfl | mem
    · exact ⟨_, List.mem_append_right _ (List.mem_singleton_self _), rfl, requested⟩
    · obtain ⟨earlier, here, named, origin⟩ := wired.begun table mem
      exact ⟨earlier, List.mem_append_left _ here, named, origin⟩
  · intro binding mem
    exact grows.places (wired.placed binding mem)
  · intro other mem path origin
    rcases List.mem_append.mp mem with mem | mem
    · obtain ⟨source, here, joined⟩ := wired.joined other mem path origin
      exact ⟨source, here, grows.joined joined⟩
    · obtain rfl := List.mem_singleton.mp mem
      -- a join that was asked for follows no navigation, so it has none to be attributed to
      rw [requested] at origin
      cases origin

/-- Only requested joins are completed, so those of navigations keep their conditions. -/
theorem Wired.completeJoin (wired : building.Wired) {table : Alias} (begun : table ∈ building.begun)
    (condition : Expr) :
    Wired { building with context := building.context.completeJoin table condition } := by
  have grows := building.context.extends_completeJoin table condition
  have completed : ∀ join ∈ building.context.joins, ∃ other ∈
      (building.context.completeJoin table condition).joins,
      other.tableAlias = join.tableAlias ∧ other.origin = join.origin := by
    intro join mem
    refine ⟨_, List.mem_map_of_mem mem, ?_⟩
    split <;> exact ⟨rfl, rfl⟩
  refine ⟨wired.indexed.completeJoin table condition, ?_, ?_, ?_⟩
  · intro other mem
    obtain ⟨join, here, named, origin⟩ := wired.begun other mem
    obtain ⟨after, there, same, sameOrigin⟩ := completed join here
    exact ⟨after, there, same.trans named, sameOrigin.trans origin⟩
  · intro binding mem
    exact grows.places (wired.placed binding mem)
  · intro join mem path origin
    obtain ⟨earlier, here, rfl⟩ := List.mem_map.mp mem
    obtain ⟨requested, there, named, explicit⟩ := wired.begun table begun
    by_cases own : earlier.tableAlias = table
    · -- the join of the alias was requested, so no navigation led to it
      obtain rfl := wired.indexed.join_unique here there (own.trans named.symm)
      rw [if_pos own] at origin
      rw [explicit] at origin
      cases origin
    · rw [if_neg own] at origin ⊢
      obtain ⟨source, bound, joined⟩ := wired.joined earlier here path origin
      exact ⟨source, bound, grows.joined joined⟩

/-- Completing a join that was begun changes the condition of this join and nothing else. -/
theorem Wired.completeJoin_eq (wired : building.Wired) {table : Alias}
    (begun : table ∈ building.begun) (condition : Expr) :
    building.context.completeJoin table condition =
      { building.context with
        joins := building.context.joins.modify (table - 1) fun join =>
          { join with condition := condition } } := by
  obtain ⟨requested, here, rfl, -⟩ := wired.begun table begun
  have positive := (wired.indexed.lt_nextAlias here).1
  have joins : (building.context.completeJoin requested.tableAlias condition).joins =
      building.context.joins.modify (requested.tableAlias - 1) fun join =>
        { join with condition := condition } := by
    apply List.ext_getElem?
    intro index
    rw [Context.completeJoin, List.getElem?_map, List.getElem?_modify]
    cases found : building.context.joins[index]? with
    | none => rfl
    | some join =>
        have named := wired.indexed.aliases index join found
        -- aliases count the joins from 1, so completing by alias reaches one position
        have position : join.tableAlias = requested.tableAlias ↔
            requested.tableAlias - 1 = index := by
          rw [named, eq_comm]
          exact (Nat.sub_eq_iff_eq_add positive).symm
        simp only [Option.map_some, Option.map_eq_map, position]
  rw [← joins]
  rfl

/-- The path of a mapping is fresh along with the path that the mapping belongs to. -/
theorem Wired.fresh_mapping (wired : building.Wired) {parent : NavPath}
    (fresh : parent.child name ∉ building.context.paths.map Prod.fst) :
    (parent.child name).child NavPath.mappingStep ∉ building.context.paths.map Prod.fst := by
  intro known
  obtain ⟨⟨path, table⟩, mem, same⟩ := List.mem_map.mp known
  obtain ⟨join, here, origin, -⟩ := (wired.indexed.registered path table).mp mem
  obtain ⟨source, bound, joined⟩ := wired.joined join here path origin
  -- no table is at the end of the fresh path: reaching it would have registered the path
  have passed : source.path = parent.child name → False := by
    intro led
    rcases (wired.placed source bound).path with registered | ⟨root, -⟩
    · exact fresh (led ▸ List.mem_map_of_mem registered)
    · exact NavPath.child_ne_root parent name _ (led.symm.trans root)
  cases joined with
  | single | target => exact passed (NavPath.child_inj.mp same).1
  | middle _ _ _ _ _ next =>
      rw [(NavPath.child_inj.mp same).1] at next
      exact fresh (List.mem_map_of_mem next)

/-- Joins that are added for a binding are attributed to it. -/
theorem Wired.addJoins (wired : building.Wired) (bound : source ∈ building.bindings)
    (indexed : after.Indexed) (grows : building.context.Extends after) {added : List Join}
    (joins : after.joins = building.context.joins ++ added)
    (attributed : ∀ join ∈ added, ∀ path, join.origin = .navigation path →
      after.Joined source join path) (placed : after.Places target) :
    Wired { building with context := after, bindings := building.bindings ++ [target] } := by
  refine ⟨indexed, ?_, ?_, ?_⟩
  · intro table mem
    obtain ⟨join, here, requested⟩ := wired.begun table mem
    refine ⟨join, ?_, requested⟩
    show join ∈ after.joins
    rw [joins]
    exact List.mem_append_left _ here
  · intro binding mem
    rcases List.mem_append.mp mem with mem | mem
    · exact grows.places (wired.placed binding mem)
    · obtain rfl := List.mem_singleton.mp mem
      exact placed
  · intro join mem path origin
    have mem : join ∈ building.context.joins ++ added := joins ▸ mem
    rcases List.mem_append.mp mem with mem | mem
    · -- old joins keep the source they had, and what was added belongs to the one just read
      obtain ⟨earlier, here, joined⟩ := wired.joined join mem path origin
      exact ⟨earlier, List.mem_append_left _ here, grows.joined joined⟩
    · exact ⟨source, List.mem_append_left _ bound, attributed join mem path origin⟩

/-- The path of a target is fresh still when the mapping was joined. -/
theorem Wired.fresh_target (wired : building.Wired) {parent : NavPath}
    (fresh : parent.child name ∉ building.context.paths.map Prod.fst) (middle : Entity)
    (condition : Expr) :
    parent.child name ∉ (building.context.addImplicit
      ((parent.child name).child NavPath.mappingStep) middle condition).paths.map Prod.fst :=
  Context.fresh_addImplicit (wired.fresh_mapping fresh) fresh (NavPath.child_ne_self _ _).symm
    middle condition

theorem Wired.extends_navigated (wired : building.Wired)
    (navigated : building.context.Navigated source name target after) :
    building.context.Extends after := by
  cases navigated with
  | again => exact .refl _
  | single _ _ fresh =>
      exact Context.extends_addImplicit (Context.aliasOf?_eq_none_iff.mp fresh) _ _
  | mapped _ _ fresh =>
      have fresh := Context.aliasOf?_eq_none_iff.mp fresh
      exact (Context.extends_addImplicit (wired.fresh_mapping fresh) _ _).trans
        (Context.extends_addImplicit (wired.fresh_target fresh _ _) _ _)

theorem Wired.navigate (wired : building.Wired) (bound : source ∈ building.bindings)
    (navigated : building.context.Navigated source name target after) :
    Wired { building with context := after, bindings := building.bindings ++ [target] } := by
  have inside := (wired.placed source bound).inside
  have grows := wired.extends_navigated navigated
  cases navigated with
  | again _ _ known =>
      have mem := Context.mem_of_aliasOf? known
      exact wired.bind ⟨wired.indexed.lt_of_registered mem, .inl mem⟩
  | @single navigation reached own other link direct fresh =>
      have fresh := Context.aliasOf?_eq_none_iff.mp fresh
      generalize hcondition : Context.columnsEqual source.tableAlias own building.context.nextAlias
        other = condition at grows
      have mem := Context.mem_paths_addImplicit fresh reached condition
      have indexed := wired.indexed.addImplicit fresh reached condition
      have joins := building.context.joins_addImplicit (source.path.child name) reached condition
      refine wired.addJoins bound indexed grows joins ?_
        ⟨indexed.lt_of_registered mem, .inl mem⟩
      intro join new path origin
      obtain rfl := List.mem_singleton.mp new
      cases origin
      exact .single link direct link.name_eq hcondition.symm inside
  | @mapped navigation reached middle own other first second link between fresh =>
      have fresh := Context.aliasOf?_eq_none_iff.mp fresh
      generalize hfirst : Context.columnsEqual source.tableAlias own building.context.nextAlias
        first = firstCondition at grows
      generalize hsecond : Context.columnsEqual building.context.nextAlias second
        (building.context.nextAlias + 1) other = secondCondition at grows
      -- the path of the mapping is registered first, and then that of the target
      have freshMiddle := wired.fresh_mapping fresh
      have freshTarget := wired.fresh_target fresh middle firstCondition
      have indexed := (wired.indexed.addImplicit freshMiddle middle firstCondition).addImplicit
        freshTarget reached secondCondition
      have middleMem := (Context.extends_addImplicit freshTarget reached secondCondition).mem_paths
        (Context.mem_paths_addImplicit freshMiddle middle firstCondition)
      have targetMem := Context.mem_paths_addImplicit freshTarget reached secondCondition
      rw [Context.nextAlias_addImplicit] at targetMem
      have named := link.name_eq
      rw [← grows.schema] at link between
      refine wired.addJoins bound indexed grows (List.append_assoc _ _ _) ?_
        ⟨indexed.lt_of_registered targetMem, .inl targetMem⟩
      intro join new path origin
      rcases List.mem_cons.mp new with rfl | new
      · cases origin
        exact .middle link between rfl hfirst.symm inside targetMem
      · obtain rfl := List.mem_singleton.mp new
        cases origin
        exact .target link between named middleMem (Context.nextAlias_addImplicit _ _ _ _)
          (by rw [Context.nextAlias_addImplicit]; exact hsecond.symm)

/-- Every call keeps the invariant. -/
theorem Wired.answer (wired : building.Wired) (call : Call) : (building.answer call).Wired := by
  have answered := building.answered call
  generalize building.answer call = later at answered ⊢
  cases answered with
  | unbound | refused | unknown | failed | missing => exact wired
  | bound bound => exact wired.bind (Context.places_of_binding? bound)
  | begun begun => exact wired.beginJoin begun
  | completed condition begun => exact wired.completeJoin begun condition
  | navigated obtained read => exact wired.navigate (List.mem_of_getElem? obtained) read

/-- And so does every sequence of calls. -/
theorem Wired.run (wired : building.Wired) (calls : List Call) : (building.run calls).Wired := by
  induction calls generalizing building with
  | nil => exact wired
  | cons call rest ih => exact ih (wired.answer call)

end Building

end TrackedQuery
