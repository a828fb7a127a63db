import TrackedQuery.Example
import TrackedQuery.Proofs.Query.Bindings
import TrackedQuery.Proofs.Query.Meaning
import TrackedQuery.Session.State

/-!
# Navigations that are taken for a mapping

A binding names an entity, and through this name its columns and navigations are found.  It is
honest when the table of its alias is of this entity.

The join of a mapping is registered under the path of its target with one more step,
`NavPath.mappingStep`.  A navigation may have this very name.  Read from the target, it has the path
of the mapping, and the alias of the mapping is answered under the name of the entity that the
navigation leads to (`Context.Misleads`).  From then on columns of this entity are taken from the
table of the mapping.

## Strategy

* Reading a navigation from an honest binding, when all bindings are, answers an honest one exactly
  when the navigation does not mislead (`Wired.honest_navigate_iff`): the path that is known
  already was registered for a navigation of the same name from the same table, or for a mapping.
* So all bindings are honest exactly if no call misleads (`Wired.honest_run_iff`), in particular if
  no entity has a navigation of this name (`Wired.neverMisled_of_unmarked`).
* A compiled plan has the entities of its context (`Context.Indexed.entityOf?_of_compile`).
-/

namespace TrackedQuery

/-! ## Entities of a plan -/

private theorem Schema.mem_of_resolve {schema : Schema} {name : String} {entity : Entity}
    (resolved : schema.resolve name = .ok entity) : entity ∈ schema.entities :=
  List.mem_of_find?_eq_some (get?_of_resolve resolved)

theorem Entity.of_resolveNavigation {entity : Entity} {name : String} {navigation : Navigation}
    (named : entity.resolveNavigation name = .ok navigation) :
    navigation ∈ entity.navigations ∧ navigation.name = name := by
  unfold resolveNavigation at named
  split at named
  · cases named
  · next found =>
      cases named
      have own := List.find?_some found
      exact ⟨List.mem_of_find?_eq_some found, beq_iff_eq.mp own⟩

private theorem Entity.getElem?_of_resolveColumn {entity : Entity} {name : String} {index : Nat}
    {column : Column} (resolved : entity.resolveColumn name = .ok (index, column)) :
    entity.columns[index]? = some column := by
  unfold resolveColumn at resolved
  split at resolved
  · cases resolved
  · split at resolved
    · cases resolved
    · next found =>
        cases resolved
        exact found

/-- A join that keeps deleted rows out is one of the same table. -/
theorem Join.same_keepAlive {schema : Schema} {join kept : Join}
    (alive : join.keepAlive schema = .ok kept) :
    kept.tableAlias = join.tableAlias ∧ kept.entity = join.entity := by
  unfold keepAlive at alive
  split at alive
  · cases alive
    exact ⟨rfl, rfl⟩
  · obtain ⟨target, -, alive⟩ := Result.bind_eq_ok.mp alive
    cases hcondition : target.alive? join.tableAlias with
    | none =>
        rw [hcondition] at alive
        cases alive
        exact ⟨rfl, rfl⟩
    | some condition =>
        rw [hcondition] at alive
        cases alive
        exact ⟨rfl, rfl⟩

/-- The alias of a join and its entity. -/
def Join.place (join : Join) : Alias × String := (join.tableAlias, join.entity)

private theorem Join.places_keepAllAlive {schema : Schema} {joins kept : List Join}
    (alive : keepAllAlive schema joins = .ok kept) : kept.map place = joins.map place := by
  induction joins generalizing kept with
  | nil =>
      cases alive
      rfl
  | cons join rest ih =>
      obtain ⟨first, hfirst, alive⟩ := Result.bind_eq_ok.mp alive
      obtain ⟨others, hothers, alive⟩ := Result.bind_eq_ok.mp alive
      cases alive
      obtain ⟨named, entity⟩ := same_keepAlive hfirst
      have same : first.place = join.place := Prod.ext named entity
      rw [List.map_cons, List.map_cons, same, ih hothers]

private theorem Clauses.places_planJoins {clauses : Clauses} {context : Context} {joins : List Join}
    (planned : clauses.planJoins context = .ok joins) :
    joins.map Join.place = context.joins.map Join.place := by
  unfold planJoins at planned
  split at planned
  · exact Join.places_keepAllAlive planned
  · cases planned
    rfl

/-- The entity of an alias other than that of the base table. -/
theorem Plan.entityOf?_succ {plan : Plan} (base : plan.source.tableAlias = baseAlias)
    (index : Nat) :
    plan.entityOf? (index + 1) =
      ((plan.joins.map Join.place).find? fun place => place.1 == index + 1).map Prod.snd := by
  have other : plan.source.tableAlias ≠ index + 1 := by
    rw [base]
    exact (Nat.succ_ne_zero index).symm
  rw [entityOf?, if_neg other, List.find?_map, Option.map_map]
  rfl

namespace Context

variable {context after : Context} {source target binding : Binding} {name : String}

/-- The joins of a context are found under their aliases. -/
theorem Indexed.find?_place (indexed : context.Indexed) (index : Nat) :
    ((context.joins.map Join.place).find? fun place => place.1 == index + 1).map Prod.snd =
      context.joins[index]?.map Join.entity := by
  rw [List.find?_map, Option.map_map]
  cases found : context.joins[index]? with
  | some join =>
      have named := indexed.aliases index join found
      have here := List.mem_of_getElem? found
      obtain ⟨other, hother⟩ : ∃ other, context.joins.find?
          ((fun place : Alias × String => place.1 == index + 1) ∘ Join.place) = some other := by
        apply Option.isSome_iff_exists.mp
        exact List.find?_isSome.mpr ⟨join, here, beq_iff_eq.mpr named⟩
      have own := List.find?_some hother
      have same : other.tableAlias = join.tableAlias := (beq_iff_eq.mp own).trans named.symm
      rw [hother, indexed.join_unique (List.mem_of_find?_eq_some hother) here same]
      rfl
  -- no join has the alias either: it would stand at the position that its alias names
  | none =>
      rw [Option.map_none, Option.map_eq_none_iff, List.find?_eq_none]
      intro join here same
      obtain ⟨position, hposition⟩ := List.getElem?_of_mem here
      have named := indexed.aliases position join hposition
      have own : join.tableAlias = index + 1 := beq_iff_eq.mp same
      obtain rfl : position = index := Nat.succ.inj (named.symm.trans own)
      rw [found] at hposition
      cases hposition

/-- A compiled plan has the entity of the context at every alias. -/
theorem Indexed.entityOf?_of_compile (indexed : context.Indexed) {clauses : Clauses}
    {projection : Option (List Item)} {grouping : Option Grouping} {plan : Plan}
    (compiled : clauses.compile context projection grouping = .ok plan) (table : Alias) :
    plan.entityOf? table = context.tables[table]? := by
  obtain ⟨entity, items, joins, resolved, -, planned, rfl⟩ := Clauses.compile_eq_ok compiled
  have places := Clauses.places_planJoins planned
  cases table with
  | zero => exact congrArg some (Schema.name_of_resolve resolved)
  | succ index =>
      rw [Plan.entityOf?_succ rfl, places, indexed.find?_place index, tables,
        List.getElem?_cons_succ, List.getElem?_map]

/-! ## Honest bindings -/

/-- The table of a binding is of the entity that the binding names. -/
def Honest (context : Context) (binding : Binding) : Prop :=
  context.tables[binding.tableAlias]? = some binding.entity

/-- A join of a mapping stands directly in front of the join that a path led to. -/
structure Maps (context : Context) (path : NavPath) (middle : Alias) : Prop where
  mapping : (path.child NavPath.mappingStep, middle) ∈ context.paths
  target : (path, middle + 1) ∈ context.paths

/-- A navigation is taken for the mapping through which the table of the binding was reached, and
leads to another entity. -/
def Misleads (context : Context) (source : Binding) (name : String) : Prop :=
  name = NavPath.mappingStep ∧ ∃ entity navigation middle,
    context.schema.resolve source.entity = .ok entity ∧
    entity.resolveNavigation name = .ok navigation ∧ context.Maps source.path middle ∧
    context.tables[middle]? ≠ some navigation.target

/-- Whether a binding is honest is settled when it is obtained. -/
theorem Extends.honest_iff (grows : context.Extends after) (placed : context.Places binding) :
    after.Honest binding ↔ context.Honest binding := by
  obtain ⟨more, tables⟩ := grows.tables
  have inside : binding.tableAlias < context.tables.length := by
    rw [length_tables]
    exact placed.inside
  unfold Honest
  rw [← tables, List.getElem?_append_left inside]

/-- What misleads has a path that is known. -/
theorem Misleads.known (misleads : context.Misleads source name) :
    ∃ table, context.aliasOf? (source.path.child name) = some table := by
  obtain ⟨rfl, entity, navigation, middle, -, -, maps, -⟩ := misleads
  cases known : context.aliasOf? (source.path.child NavPath.mappingStep) with
  | none => exact absurd (List.mem_map_of_mem maps.mapping) (aliasOf?_eq_none_iff.mp known)
  | some table => exact ⟨table, rfl⟩

/-- What misleads is answered. -/
theorem Misleads.navigate (misleads : context.Misleads source name) :
    ∃ target, context.navigate source name = .ok (target, context) := by
  obtain ⟨table, known⟩ := misleads.known
  obtain ⟨-, entity, navigation, -, resolved, named, -⟩ := misleads
  refine ⟨⟨table, navigation.target, source.path.child name⟩, ?_⟩
  refine Result.bind_eq_ok.mpr ⟨entity, resolved, Result.bind_eq_ok.mpr ⟨navigation, named, ?_⟩⟩
  simp only [known]
  rfl

private theorem honest_of_binding? {table : Alias} (bound : context.binding? table = some binding) :
    context.Honest binding := by
  obtain ⟨entity, hentity, rfl⟩ := Option.map_eq_some_iff.mp bound
  exact hentity

@[simp] theorem tables_addImplicit (context : Context) (path : NavPath) (entity : Entity)
    (condition : Expr) :
    (context.addImplicit path entity condition).tables = context.tables ++ [entity.name] :=
  context.tables_addJoin _

/-- The table that a navigation adds is of its entity. -/
theorem honest_addImplicit (context : Context) (path : NavPath) (entity : Entity)
    (condition : Expr) (inside : binding.tableAlias = context.nextAlias)
    (named : binding.entity = entity.name) :
    (context.addImplicit path entity condition).Honest binding := by
  unfold Honest
  rw [tables_addImplicit, inside, ← length_tables, List.getElem?_concat_length, named]

/-- The handle is one of a column of the entity at an alias. -/
def IsColumnAt (context : Context) (table : Alias) (column : ColumnHandle) : Prop :=
  ∃ name entity source declared, context.tables[table]? = some name ∧
    context.schema.resolve name = .ok entity ∧ column.source = some source ∧
    source.table = table ∧ entity.columns[source.index]? = some declared ∧ source.ty = declared.ty

/-- An honest binding reads columns of its own table. -/
theorem Honest.isColumnAt (honest : context.Honest binding) {id : ContextId} {scalar : Scalar}
    {column : ColumnHandle}
    (resolved : TableHandle.resolveColumn context id binding name scalar = .ok column) :
    context.IsColumnAt binding.tableAlias column := by
  obtain ⟨entity, hentity, resolved⟩ := Result.bind_eq_ok.mp resolved
  obtain ⟨⟨index, declared⟩, hcolumn, resolved⟩ := Result.bind_eq_ok.mp resolved
  dsimp only at resolved
  split at resolved
  · cases resolved
    exact ⟨_, entity, _, declared, honest, hentity, rfl, rfl,
      Entity.getElem?_of_resolveColumn hcolumn, rfl⟩
  · cases resolved

/-- A binding and its alias stand for the same entity: in the context, in every plan that is
compiled from it, and for the columns that are read through the binding. -/
structure Agrees (context : Context) (binding : Binding) : Prop where
  honest : context.Honest binding
  planned : ∀ (clauses : Clauses) (projection : Option (List Item)) (grouping : Option Grouping)
    (plan : Plan), clauses.compile context projection grouping = .ok plan →
      plan.entityOf? binding.tableAlias = some binding.entity
  columns : ∀ (id : ContextId) (name : String) (scalar : Scalar) (column : ColumnHandle),
    TableHandle.resolveColumn context id binding name scalar = .ok column →
      context.IsColumnAt binding.tableAlias column

theorem Indexed.agrees (indexed : context.Indexed) (honest : context.Honest binding) :
    context.Agrees binding where
  honest := honest
  planned clauses projection grouping plan compiled := by
    rw [indexed.entityOf?_of_compile compiled]
    exact honest
  columns id name scalar column resolved := honest.isColumnAt resolved

end Context

/-! ## Reading a navigation from an honest binding -/

namespace Building

variable {building : Building} {source other target : Binding} {name : String} {after : Context}

/-- All bindings that were obtained are honest. -/
def Honest (building : Building) : Prop :=
  ∀ binding ∈ building.bindings, building.context.Honest binding

private theorem honest_start (schema : Schema) (options : QueryOptions) (enclosing : List ContextId)
    (base : String) : (start schema options enclosing base).Honest := by
  intro binding mem
  cases mem

/-- Bindings with the same path have the same alias. -/
theorem Wired.alias_unique (wired : building.Wired) (bound : source ∈ building.bindings)
    (otherBound : other ∈ building.bindings) (same : source.path = other.path) :
    source.tableAlias = other.tableAlias := by
  -- only navigations register paths, and a path that was navigated is no root
  have nonroot : ∀ {origin table : Alias},
      (NavPath.root origin, table) ∉ building.context.paths := by
    intro origin table mem
    obtain ⟨join, here, leads, -⟩ := (wired.indexed.registered _ table).mp mem
    obtain ⟨earlier, -, joined⟩ := wired.joined join here _ leads
    generalize hpath : NavPath.root origin = path at joined
    cases joined with
    | single | middle | target => exact NavPath.child_ne_root _ _ _ hpath.symm
  rcases (wired.placed source bound).path with registered | ⟨root, -⟩ <;>
    rcases (wired.placed other otherBound).path with otherRegistered | ⟨otherRoot, -⟩
  · rw [← same] at otherRegistered
    exact wired.indexed.end_unique registered otherRegistered
  · rw [same, otherRoot] at registered
    exact absurd registered nonroot
  · rw [← same, root] at otherRegistered
    exact absurd otherRegistered nonroot
  · rw [root, otherRoot] at same
    exact congrArg NavPath.origin same

/-- Honest bindings with the same path name the same entity. -/
theorem Wired.entity_unique (wired : building.Wired)
    (honest : building.Honest)
    (bound : source ∈ building.bindings) (otherBound : other ∈ building.bindings)
    (same : source.path = other.path) : source.entity = other.entity := by
  have left := honest source bound
  have right := honest other otherBound
  unfold Context.Honest at left right
  rw [wired.alias_unique bound otherBound same, right] at left
  exact (Option.some.inj left).symm

/-- A navigation that is read again answers the table that was joined for it, or that of a mapping
with its path. -/
theorem Wired.honest_again_iff (wired : building.Wired)
    (honest : building.Honest)
    (bound : source ∈ building.bindings) {entity : Entity} {navigation : Navigation} {table : Alias}
    (resolved : building.context.schema.resolve source.entity = .ok entity)
    (named : entity.resolveNavigation name = .ok navigation)
    (known : building.context.aliasOf? (source.path.child name) = some table) :
    building.context.tables[table]? = some navigation.target ↔
      ¬ building.context.Misleads source name := by
  have mem := Context.mem_of_aliasOf? known
  constructor
  · rintro agrees ⟨rfl, other, reading, middle, again, namedAgain, maps, differs⟩
    obtain rfl := Except.ok.inj (resolved.symm.trans again)
    obtain rfl := Except.ok.inj (named.symm.trans namedAgain)
    rw [wired.indexed.end_unique maps.mapping mem] at differs
    exact differs agrees
  · intro sincere
    obtain ⟨join, here, leads, rfl⟩ := (wired.indexed.registered _ table).mp mem
    obtain ⟨earlier, earlierBound, joined⟩ := wired.joined join here _ leads
    -- the join of a navigation that was read before is of the entity that is named now
    have reached : ∀ {step : String} {before : Navigation} {reached : Entity} {own column : Nat},
        source.path.child name = earlier.path.child step →
        Context.Link building.context.schema earlier step before reached own column →
        join.entity = before.target →
          building.context.tables[join.tableAlias]? = some navigation.target := by
      intro step before reached own column same link leadsTo
      obtain ⟨samePath, rfl⟩ := NavPath.child_inj.mp same
      obtain ⟨origin, _, hresolved, hnamed, -⟩ := link.source
      rw [← wired.entity_unique honest bound earlierBound samePath, resolved] at hresolved
      obtain rfl := Except.ok.inj hresolved
      obtain rfl := Except.ok.inj (named.symm.trans hnamed)
      rw [wired.indexed.tables_of_mem here, leadsTo]
    generalize hpath : source.path.child name = path at joined
    cases joined with
    | single link _ leadsTo => exact reached hpath link leadsTo
    | target link _ leadsTo => exact reached hpath link leadsTo
    | middle link between leadsTo condition first next =>
        obtain ⟨samePath, rfl⟩ := NavPath.child_inj.mp hpath
        by_contra differs
        rw [← samePath] at next
        exact sincere ⟨rfl, entity, navigation, join.tableAlias, resolved, named, ⟨mem, next⟩,
          differs⟩

/-- Reading a navigation answers an honest binding, unless it misleads. -/
theorem Wired.honest_navigate_iff (wired : building.Wired)
    (honest : building.Honest)
    (bound : source ∈ building.bindings)
    (navigated : building.context.Navigated source name target after) :
    after.Honest target ↔ ¬ building.context.Misleads source name := by
  -- to be misled is to be answered with a table that is already there
  have unknown : building.context.aliasOf? (source.path.child name) = none →
      ¬ building.context.Misleads source name := by
    intro fresh misleads
    obtain ⟨table, known⟩ := misleads.known
    rw [fresh] at known
    cases known
  cases navigated with
  | again resolved named known => exact wired.honest_again_iff honest bound resolved named known
  | single link direct fresh =>
      exact iff_of_true (Context.honest_addImplicit _ _ _ _ rfl link.name_eq.symm) (unknown fresh)
  | mapped link between fresh =>
      refine iff_of_true (Context.honest_addImplicit _ _ _ _ ?_ link.name_eq.symm) (unknown fresh)
      exact (Context.nextAlias_addImplicit _ _ _ _).symm

/-! ## Calls that never mislead -/

/-- The call reads a navigation that is taken for a mapping. -/
def Misled (building : Building) : Call → Prop
  | .navigate position name =>
      ∃ source, building.bindings[position]? = some source ∧ building.context.Misleads source name
  | .bind _ | .beginJoin .. | .completeJoin .. => False

/-- None of the calls reads a navigation that is taken for a mapping. -/
def NeverMisled (building : Building) : List Call → Prop
  | [] => True
  | call :: rest => ¬ building.Misled call ∧ NeverMisled (building.answer call) rest

theorem Wired.extends_answer (wired : building.Wired) (call : Call) :
    building.context.Extends (building.answer call).context := by
  have answered := building.answered call
  generalize building.answer call = later at answered ⊢
  cases answered with
  | bound | unbound | refused | unknown | failed | missing => exact .refl _
  | begun begun =>
      obtain ⟨join, -, -, rfl⟩ := Context.beginJoin_eq_ok begun
      exact building.context.extends_addJoin join
  | completed condition => exact building.context.extends_completeJoin _ condition
  | navigated obtained read => exact wired.extends_navigated read

private theorem bindings_answer (building : Building) (call : Call) :
    building.bindings <+: (building.answer call).bindings := by
  have answered := building.answered call
  generalize building.answer call = later at answered ⊢
  cases answered with
  | bound | navigated => exact List.prefix_append _ _
  | unbound | begun | refused | completed | unknown | failed | missing =>
      exact List.prefix_refl _

/-- Dishonest bindings stay. -/
theorem Wired.honest_of_answer (wired : building.Wired) {call : Call}
    (honest : (building.answer call).Honest) : building.Honest := by
  intro binding bound
  have later := honest binding ((building.bindings_answer call).subset bound)
  exact ((wired.extends_answer call).honest_iff (wired.placed binding bound)).mp later

/-- The only dishonest answer is that of a navigation which misleads. -/
theorem Wired.honest_answer_iff (wired : building.Wired) (honest : building.Honest) (call : Call) :
    (building.answer call).Honest ↔ ¬ building.Misled call := by
  have grows := wired.extends_answer call
  have answered := building.answered call
  generalize building.answer call = later at answered grows ⊢
  -- what was handed out before keeps its table, so only the newest binding is in question
  have earlier : ∀ binding ∈ building.bindings, later.context.Honest binding := by
    intro binding bound
    exact (grows.honest_iff (wired.placed binding bound)).mpr (honest binding bound)
  cases answered with
  | bound bound =>
      refine iff_of_true ?_ id
      intro binding mem
      rcases List.mem_append.mp mem with mem | mem
      · exact honest binding mem
      · obtain rfl := List.mem_singleton.mp mem
        exact Context.honest_of_binding? bound
  | unbound | begun | refused | completed | unknown => exact iff_of_true earlier id
  | failed obtained failed =>
      refine iff_of_true earlier ?_
      rintro ⟨source, obtainedAgain, misleads⟩
      obtain rfl := Option.some.inj (obtained.symm.trans obtainedAgain)
      obtain ⟨target, answered⟩ := misleads.navigate
      rw [answered] at failed
      cases failed
  | missing missing =>
      refine iff_of_true earlier ?_
      rintro ⟨source, obtained, -⟩
      rw [missing] at obtained
      cases obtained
  | @navigated position name source target after obtained read =>
      have bound := List.mem_of_getElem? obtained
      have settled := wired.honest_navigate_iff honest bound read
      constructor
      · rintro later ⟨again, obtainedAgain, misleads⟩
        obtain rfl := Option.some.inj (obtained.symm.trans obtainedAgain)
        have answer := later target (List.mem_append_right _ (List.mem_singleton_self _))
        exact settled.mp answer misleads
      · intro sincere binding mem
        rcases List.mem_append.mp mem with mem | mem
        · exact earlier binding mem
        · obtain rfl := List.mem_singleton.mp mem
          exact settled.mpr fun misleads => sincere ⟨source, obtained, misleads⟩

private theorem Wired.honest_of_run (wired : building.Wired) {calls : List Call}
    (honest : (building.run calls).Honest) : building.Honest := by
  induction calls generalizing building with
  | nil => exact honest
  | cons call rest ih => exact wired.honest_of_answer (ih (wired.answer call) honest)

/-- All bindings are honest exactly if no call misled. -/
theorem Wired.honest_run_iff (wired : building.Wired) (honest : building.Honest)
    (calls : List Call) : (building.run calls).Honest ↔ building.NeverMisled calls := by
  induction calls generalizing building with
  | nil => exact iff_of_true honest trivial
  | cons call rest ih =>
      have settled := wired.honest_answer_iff honest call
      have wiredLater := wired.answer call
      rw [Building.run, NeverMisled]
      by_cases misled : building.Misled call
      · -- the binding that the call answered is there at the end
        have dishonest : ¬ (building.answer call).Honest := fun later => settled.mp later misled
        exact iff_of_false (fun later => dishonest (wiredLater.honest_of_run later))
          fun never => never.1 misled
      · rw [ih wiredLater (settled.mpr misled)]
        exact (and_iff_right misled).symm

/-- Nothing misleads if no navigation has the name of the marker. -/
theorem Wired.neverMisled_of_unmarked (wired : building.Wired) (calls : List Call)
    (unmarked : ∀ entity ∈ building.context.schema.entities,
      ∀ navigation ∈ entity.navigations, navigation.name ≠ NavPath.mappingStep) :
    building.NeverMisled calls := by
  induction calls generalizing building with
  | nil => trivial
  | cons call rest ih =>
      constructor
      · intro misled
        cases call with
        | bind | beginJoin | completeJoin => exact misled
        | navigate position name =>
            obtain ⟨source, -, rfl, entity, navigation, middle, resolved, named, -⟩ := misled
            obtain ⟨declared, marker⟩ := Entity.of_resolveNavigation named
            exact unmarked entity (Schema.mem_of_resolve resolved) navigation declared marker
      · apply ih (wired.answer call)
        rw [(wired.extends_answer call).schema]
        exact unmarked

/-! ## Bindings and their tables -/

/-- **Bindings agree with their tables** in the context and in every plan, and the columns that are
read through them are columns of these tables, exactly if no call read a navigation that is taken
for a mapping.  No call does if no navigation has the name of the marker. -/
theorem bindings_agree (schema : Schema) (options : QueryOptions) (enclosing : List ContextId)
    (base : String) (calls : List Call) :
    let initial := start schema options enclosing base
    let building := initial.run calls
    ((∀ binding ∈ building.bindings, building.context.Agrees binding) ↔
        initial.NeverMisled calls) ∧
      ((∀ entity ∈ schema.entities, ∀ navigation ∈ entity.navigations,
          navigation.name ≠ NavPath.mappingStep) → initial.NeverMisled calls) := by
  intro initial building
  have wired : initial.Wired := .start schema options enclosing base
  have settled : building.Honest ↔ initial.NeverMisled calls :=
    wired.honest_run_iff (honest_start schema options enclosing base) calls
  refine ⟨?_, wired.neverMisled_of_unmarked calls⟩
  rw [← settled]
  constructor
  · intro agree binding bound
    exact (agree binding bound).honest
  · intro honest binding bound
    exact (wired.run calls).indexed.agrees (honest binding bound)

end Building

namespace Example

/-- Tags have an owner, through a navigation with the name of the marker. -/
def markedTag : Entity :=
  { tag with
    columns := tag.columns ++ [optional "owner_id" .int64]
    navigations := [⟨NavPath.mappingStep, "SysUser", .manyToOne, "owner_id", "id"⟩] }

/-- Users have a topic. -/
def userWithTopic : Entity :=
  { user with
    columns := user.columns ++ [required "topic_id" .string]
    navigations := [⟨"topic", "Topic", .manyToOne, "topic_id", "id"⟩] }

/-- The entities of the example with these two. -/
def markedEntities : List Entity := [blog, topic, comment, markedTag, blogTag, userWithTopic]

/-- A query for blogs. -/
def markedStart : Building := .start ⟨markedEntities⟩ .standard [] "Blog"

/-- It reads the tags of the blogs. -/
def tagCalls : List Call := [.bind baseAlias, .navigate 0 "tags"]

/-- It also reads the owners of the tags. -/
def ownerCalls : List Call := tagCalls ++ [.navigate 1 NavPath.mappingStep]

private theorem tagCalls_neverMisled : markedStart.NeverMisled tagCalls := by
  refine ⟨id, ?_, trivial⟩
  rintro ⟨source, -, marker, -⟩
  exact absurd marker (by decide)

/-- The binding of the tags is that of the join, but the owner of a tag has the alias of the mapping
between blogs and tags. -/
theorem bindings_agree_tags :
    SchemaBuilder.build ⟨none, markedEntities⟩ = .ok ⟨markedEntities⟩ ∧
      (∀ binding ∈ (markedStart.run tagCalls).bindings,
        (markedStart.run tagCalls).context.Agrees binding) ∧
      ¬ ∀ binding ∈ (markedStart.run ownerCalls).bindings,
        (markedStart.run ownerCalls).context.Agrees binding := by
  refine ⟨rfl, ?_, ?_⟩
  · exact (Building.bindings_agree ⟨markedEntities⟩ .standard [] "Blog" tagCalls).1.mpr
      tagCalls_neverMisled
  · intro agree
    have never :=
      (Building.bindings_agree ⟨markedEntities⟩ .standard [] "Blog" ownerCalls).1.mp agree
    obtain ⟨-, -, sincere, -⟩ := never
    apply sincere
    refine ⟨⟨2, "Tag", ⟨0, ["tags"]⟩⟩, rfl, rfl, markedTag, _, 1, rfl, rfl, ⟨?_, ?_⟩, ?_⟩
    · decide
    · decide
    · decide

end Example

/-! ## The invariant of a context -/

/-- A navigation that fails is reported, and joins nothing. -/
theorem TableHandle.navigate_of_error {session : Session} {table : TableHandle}
    {name expected : String} {source : Binding} {error : Error}
    (bound : table.binding = some source)
    (failed : (session.recording.contextAt table.context).navigate source name = .error error) :
    (table.navigate name expected : SessionM TableHandle).run session =
      (⟨table.context, none⟩, { session with recording := session.recording.report error }) := by
  have known : (contextOf table.context : SessionM Context).run session =
      pure (session.recording.contextAt table.context, session) := rfl
  unfold navigate
  simp only [bound, StateT.run_bind, known, pure_bind, failed]
  rfl

namespace Building

/-- **The invariant of a context**.  Whatever the calls were, the three views of the tables fit
together, every join of a navigation is attributed to the binding the navigation was read from, a
call does what `Answered` says, completing a join changes its condition only, and a navigation that
fails leaves all contexts as they were.  Unless a call read a navigation that is taken for a
mapping, the joins of navigations compare columns of the tables at the aliases they name. -/
theorem calls_invariant (schema : Schema) (options : QueryOptions) (enclosing : List ContextId)
    (base : String) (calls : List Call) :
    let initial := start schema options enclosing base
    let building := initial.run calls
    building.Wired ∧
      building.context.tables.length = building.context.joins.length + 1 ∧
      (∀ join ∈ building.context.joins,
        building.context.tables[join.tableAlias]? = some join.entity) ∧
      (∀ call, building.Answered call (building.answer call)) ∧
      (∀ table ∈ building.begun, ∀ condition, building.context.completeJoin table condition =
        { building.context with
          joins := building.context.joins.modify (table - 1) fun join =>
            { join with condition := condition } }) ∧
      (∀ (session : Session) (table : TableHandle) (name expected : String) (source : Binding)
          (error : Error), table.binding = some source →
        (session.recording.contextAt table.context).navigate source name = .error error →
          ((table.navigate name expected : SessionM TableHandle).run session).2.recording.contexts =
            session.recording.contexts) ∧
      (initial.NeverMisled calls → ∀ join ∈ building.context.joins, ∀ path,
        join.origin = .navigation path → ∃ source ∈ building.bindings,
          building.context.Honest source ∧ building.context.Joined source join path) := by
  intro initial building
  have wiredStart : initial.Wired := .start schema options enclosing base
  -- everything but the last part follows from what each call keeps
  have wired : building.Wired := wiredStart.run calls
  refine ⟨wired, building.context.length_tables, ?_, building.answered, ?_, ?_, ?_⟩
  · intro join here
    exact wired.indexed.tables_of_mem here
  · intro table requested condition
    exact wired.completeJoin_eq requested condition
  · intro session table name expected source error bound failed
    rw [TableHandle.navigate_of_error bound failed]
    exact session.recording.contexts_modifyActive _
  · intro never join here path origin
    have unbound := honest_start schema options enclosing base
    have honest := (wiredStart.honest_run_iff unbound calls).mpr never
    obtain ⟨source, bound, joined⟩ := wired.joined join here path origin
    exact ⟨source, bound, honest source bound, joined⟩

end Building

namespace Example

/-- The query also reads the topics of the owners. -/
def ownerTopicCalls : List Call := ownerCalls ++ [.navigate 2 "topic"]

/-- The joins of the tags compare columns of the tables at their aliases.  But the topic of an owner
is joined by a column that the mapping does not have. -/
theorem calls_invariant_tags :
    (∀ join ∈ (markedStart.run tagCalls).context.joins, ∀ path, join.origin = .navigation path →
      ∃ source ∈ (markedStart.run tagCalls).bindings,
        (markedStart.run tagCalls).context.Honest source ∧
        (markedStart.run tagCalls).context.Joined source join path) ∧
      ∃ join ∈ (markedStart.run ownerTopicCalls).context.joins,
        join.condition = Context.columnsEqual 1 3 3 0 ∧
        (markedStart.run ownerTopicCalls).context.tables[1]? = some blogTag.name ∧
        blogTag.columns.length = 3 := by
  constructor
  · obtain ⟨-, -, -, -, -, -, prescribed⟩ :=
      Building.calls_invariant ⟨markedEntities⟩ .standard [] "Blog" tagCalls
    exact prescribed tagCalls_neverMisled
  · have joined : (markedStart.run ownerTopicCalls).context.joins[2]? = some
        ⟨.left, 3, "Topic", "t_topic", Context.columnsEqual 1 3 3 0,
          .navigation ⟨0, ["tags", NavPath.mappingStep, "topic"]⟩, none⟩ := rfl
    exact ⟨_, List.mem_of_getElem? joined, rfl, rfl, rfl⟩

end Example

end TrackedQuery
