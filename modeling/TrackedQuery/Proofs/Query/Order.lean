import Mathlib.Logic.Equiv.Defs
import TrackedQuery.Example
import TrackedQuery.Proofs.Query.Walks

/-!
# The order in which navigations are read

Two sequences of accesses that read the same paths lead to the same joins, up to a relabelling of
the aliases that were given out, and an access that is repeated changes nothing
(`joins_of_accesses`).

## Strategy

A relabelling takes the alias that a path has in one context to the alias it has in the other
(`relabel`).  It is well defined because a path is read from one entity only, whoever walks along it
(`Walked.entity_unique`), so that the blocks of one path in the two contexts have the same shape
(`Block.relabelled`).

One obstacle is left.  A path whose last step is that of a mapping belongs to a mapping, or was read
as a navigation of that name, and the two contexts might disagree which.  They do not
(`Grown.apart`): whoever read such a navigation had read the path of the mapping before, and found
the mapping registered.
-/

namespace TrackedQuery

/-- Two joins of navigations are the same up to a relabelling of the aliases. -/
structure Join.Relabelled (relabel : Alias → Alias) (join other : Join) : Prop where
  kind : other.kind = join.kind
  tableAlias : other.tableAlias = relabel join.tableAlias
  entity : other.entity = join.entity
  table : other.table = join.table
  origin : other.origin = join.origin
  rows : other.rows = join.rows
  /-- The condition is the same equation of two columns, under the new aliases. -/
  condition : ∃ left own right column,
    join.condition = Context.columnsEqual left own right column ∧
      other.condition = Context.columnsEqual (relabel left) own (relabel right) column

/-- Lists that are related position by position cover each other. -/
theorem covers_of_forall₂ {α β : Type} {related : α → β → Prop} {lefts : List α} {rights : List β}
    (all : List.Forall₂ related lefts rights) :
    (∀ left ∈ lefts, ∃ right ∈ rights, related left right) ∧
      ∀ right ∈ rights, ∃ left ∈ lefts, related left right := by
  induction all with
  | nil => simp
  | cons first _ ih =>
      obtain ⟨forward, backward⟩ := ih
      refine ⟨List.forall_mem_cons.mpr ⟨⟨_, List.mem_cons_self, first⟩, fun left mem => ?_⟩,
        List.forall_mem_cons.mpr ⟨⟨_, List.mem_cons_self, first⟩, fun right mem => ?_⟩⟩
      · obtain ⟨right, there, holds⟩ := forward left mem
        exact ⟨right, List.mem_cons_of_mem _ there, holds⟩
      · obtain ⟨left, there, holds⟩ := backward right mem
        exact ⟨left, List.mem_cons_of_mem _ there, holds⟩

namespace Context

variable {start : Context} {first second : Building} {readsFirst readsSecond : List NavPath}
  {source other : Binding} {name : String} {path : NavPath} {table tableOther : Alias}
  {joins joinsOther : List Join}

/-! ## What a path determines -/

private theorem Link.unique {schema : Schema} {navigation navigation' : Navigation}
    {target target' : Entity} {own own' far far' : Nat}
    (link : Link schema source name navigation target own far)
    (link' : Link schema other name navigation' target' own' far')
    (same : source.entity = other.entity) :
    navigation = navigation' ∧ target = target' ∧ own = own' ∧ far = far' := by
  obtain ⟨entity, column, resolved, named, hown⟩ := link.source
  obtain ⟨entity', column', resolved', named', hown'⟩ := link'.source
  rw [same, resolved'] at resolved
  cases resolved
  rw [named'] at named
  cases named
  rw [hown'] at hown
  cases hown
  obtain ⟨column, reached, hfar⟩ := link.target
  obtain ⟨column', reached', hfar'⟩ := link'.target
  rw [reached'] at reached
  cases reached
  rw [hfar'] at hfar
  cases hfar
  exact ⟨rfl, rfl, rfl, rfl⟩

private theorem Between.unique {schema : Schema} {navigation : Navigation} {middle middle' : Entity}
    {own own' far far' : Nat} (between : Between schema navigation middle own far)
    (between' : Between schema navigation middle' own' far') :
    middle = middle' ∧ own = own' ∧ far = far' := by
  obtain ⟨mapping, column, farColumn, through, resolved, hown, hfar⟩ := between.resolved
  obtain ⟨mapping', column', farColumn', through', resolved', hown', hfar'⟩ := between'.resolved
  rw [through'] at through
  cases through
  rw [resolved'] at resolved
  cases resolved
  rw [hown'] at hown
  cases hown
  rw [hfar'] at hfar
  cases hfar
  exact ⟨rfl, rfl, rfl⟩

private theorem Between.mapping_ne_none {schema : Schema} {navigation : Navigation}
    {middle : Entity} {own far : Nat} (between : Between schema navigation middle own far) :
    navigation.mapping? ≠ none := by
  obtain ⟨mapping, _, _, through, -⟩ := between.resolved
  simp [through]

/-- Walks along one path end at one entity, whatever the contexts. -/
theorem Walked.entity_unique {context after : Context} (indexed : start.Indexed)
    (walked : start.Walked context source) (walkedOther : start.Walked after other)
    (same : source.path = other.path) : source.entity = other.entity := by
  induction walked generalizing other with
  | @root source requested =>
      rw [requested.path_eq indexed] at same
      cases walkedOther with
      | root requestedOther =>
          rw [requestedOther.path_eq indexed] at same
          have origin : source.tableAlias = other.tableAlias := congrArg NavPath.origin same
          have bound := requestedOther.bound
          rw [← origin] at bound
          exact congrArg Binding.entity (Option.some.inj (requested.bound.symm.trans bound))
      | step => exact absurd same.symm (NavPath.child_ne_root _ _ _)
  -- the step before ends at one entity by induction, and an entity has one navigation of a name
  | step walked resolved named known ih =>
      cases walkedOther with
      | root requestedOther =>
          rw [requestedOther.path_eq indexed] at same
          exact absurd same (NavPath.child_ne_root _ _ _)
      | step walkedOther resolvedOther namedOther knownOther =>
          obtain ⟨samePath, rfl⟩ := NavPath.child_inj.mp same
          rw [ih walkedOther samePath, resolvedOther] at resolved
          cases resolved
          rw [namedOther] at named
          cases named
          rfl

/-- A walk that took a step is known under its path. -/
theorem Walked.known_child {context : Context} {parent : NavPath} (indexed : start.Indexed)
    (walked : start.Walked context source) (path : source.path = parent.child name) :
    (parent.child name, source.tableAlias) ∈ context.paths := by
  cases walked with
  | root requested =>
      rw [requested.path_eq indexed] at path
      exact absurd path.symm (NavPath.child_ne_root _ _ _)
  | step _ _ _ known => rwa [← path]

/-! ## The blocks of a context -/

theorem Block.registered (grown : start.Grown readsFirst first) {join : Join}
    (block : start.Block first.context readsFirst source name table joins) (mem : join ∈ joins)
    (origin : join.origin = .navigation path) :
    (path, join.tableAlias) ∈ first.context.paths :=
  (grown.wired.indexed.registered path _).mpr ⟨join, block.present join mem, origin, rfl⟩

theorem Block.table_le (block : start.Block first.context readsFirst source name table joins)
    {join : Join} (mem : join ∈ joins) : table ≤ join.tableAlias := by
  cases block.formed with
  | single =>
      obtain rfl := List.mem_singleton.mp mem
      exact Nat.le_refl _
  | mapped =>
      rcases List.mem_cons.mp mem with rfl | mem
      · exact Nat.le_refl _
      · obtain rfl := List.mem_singleton.mp mem
        exact Nat.le_succ _

theorem Block.placed (block : start.Block first.context readsFirst source name table joins)
    {join : Join} (mem : join ∈ joins) : ∃ path, join.origin = .navigation path := by
  cases block.formed with
  | single =>
      obtain rfl := List.mem_singleton.mp mem
      exact ⟨_, rfl⟩
  | mapped =>
      rcases List.mem_cons.mp mem with rfl | mem
      · exact ⟨_, rfl⟩
      · obtain rfl := List.mem_singleton.mp mem
        exact ⟨_, rfl⟩

/-- A block has a join of the path that was read. -/
theorem Block.target (block : start.Block first.context readsFirst source name table joins) :
    ∃ join ∈ joins, join.origin = .navigation (source.path.child name) := by
  cases block.formed with
  | single => exact ⟨_, List.mem_singleton_self _, rfl⟩
  | mapped => exact ⟨_, List.mem_cons_of_mem _ (List.mem_singleton_self _), rfl⟩

namespace Grown

/-- Paths of tables that were there at the start were there at the start. -/
theorem mem_start (grown : start.Grown readsFirst first)
    (known : (path, table) ∈ first.context.paths) (old : table < start.nextAlias) :
    (path, table) ∈ start.paths := by
  obtain ⟨added, paths, above⟩ := grown.grows.paths
  rw [paths] at known
  rcases List.mem_append.mp known with known | known
  · exact known
  · exact absurd old (Nat.not_lt.mpr (above _ known))

/-- The path of a block was not known at the start. -/
theorem fresh_of_block (grown : start.Grown readsFirst first) {join : Join}
    (block : start.Block first.context readsFirst source name table joins) (mem : join ∈ joins)
    (origin : join.origin = .navigation path) (old : Alias) : (path, old) ∉ start.paths := by
  intro known
  have same := grown.wired.indexed.end_unique (grown.grows.mem_paths known)
    (block.registered grown mem origin)
  have inside := grown.indexed.lt_of_registered known
  exact absurd (same ▸ inside) (Nat.not_lt.mpr (Nat.le_trans block.beyond (block.table_le mem)))

/-- A path that is known now, but was not at the start, belongs to a block. -/
theorem block_of_known (grown : start.Grown readsFirst first)
    (known : (path, table) ∈ first.context.paths) (fresh : ∀ old, (path, old) ∉ start.paths) :
    ∃ source name lowest joins join,
      start.Block first.context readsFirst source name lowest joins ∧ join ∈ joins ∧
        join.origin = .navigation path ∧ join.tableAlias = table := by
  obtain ⟨join, here, origin, named⟩ := (grown.wired.indexed.registered path table).mp known
  obtain ⟨added, addedJoins, blocks⟩ := grown.formed
  rw [addedJoins] at here
  rcases List.mem_append.mp here with here | here
  · exact absurd ((grown.indexed.registered path table).mpr ⟨join, here, origin, named⟩)
      (fresh table)
  · obtain ⟨source, name, lowest, joins, block, mem⟩ := blocks join here
    exact ⟨source, name, lowest, joins, join, block, mem, origin, named⟩

/-- No path belongs to a mapping in one context and was read as a navigation in the other. -/
theorem apart (grownFirst : start.Grown readsFirst first)
    (grownSecond : start.Grown readsSecond second)
    (block : start.Block second.context readsSecond source name table joins)
    {middle : Join} (mem : middle ∈ joins)
    (mapping : middle.origin = .navigation ((source.path.child name).child NavPath.mappingStep))
    (blockOther :
      start.Block first.context readsFirst other NavPath.mappingStep tableOther joinsOther) :
    other.path ≠ source.path.child name := by
  -- the walk to `other` has read the path itself, in a block of its own
  intro same
  generalize steps : (source.path.child name).steps.length = length
  induction length using Nat.strongRecOn
    generalizing first second readsFirst readsSecond source other name table tableOther joins
      joinsOther middle with
  | _ length ih =>
      have known := blockOther.walked.known_child grownFirst.indexed same
      obtain ⟨target, targetMem, targetOrigin⟩ := block.target
      obtain ⟨origin, step, lowest, own, reached, ownBlock, ownMem, ownOrigin, named⟩ :=
        grownFirst.block_of_known known
          (grownSecond.fresh_of_block block targetMem targetOrigin)
      cases hformed : ownBlock.formed with
      | single link direct =>
          obtain rfl := List.mem_singleton.mp ownMem
          obtain ⟨samePath, rfl⟩ := NavPath.child_inj.mp (JoinOrigin.navigation.inj ownOrigin)
          have entity := ownBlock.walked.entity_unique grownFirst.indexed block.walked samePath
          cases block.formed with
          | single =>
              obtain rfl := List.mem_singleton.mp mem
              exact NavPath.child_ne_self _ _ (JoinOrigin.navigation.inj mapping).symm
          | mapped linkOther between =>
              obtain ⟨rfl, -⟩ := link.unique linkOther entity
              exact between.mapping_ne_none direct
      | mapped link between =>
          rcases List.mem_cons.mp ownMem with rfl | ownMem'
          · -- the path belongs to a mapping in the first context, and was read in the second
            obtain ⟨shorter, rfl⟩ := NavPath.child_inj.mp (JoinOrigin.navigation.inj ownOrigin)
            refine ih (origin.path.child step).steps.length ?_ grownSecond grownFirst ownBlock
              List.mem_cons_self rfl block shorter.symm rfl
            rw [← steps, ← shorter]
            simp [NavPath.child]
          · obtain rfl := List.mem_singleton.mp ownMem'
            have samePath := JoinOrigin.navigation.inj ownOrigin
            -- the mapping stands before its target, and what is read from the target behind it
            have before := ownBlock.registered grownFirst List.mem_cons_self rfl
            obtain ⟨reading, readingMem, readingOrigin⟩ := blockOther.target
            have behind := blockOther.registered grownFirst readingMem readingOrigin
            have order : lowest + 1 = other.tableAlias := named
            rw [samePath] at before
            rw [same] at behind
            have clash : lowest = reading.tableAlias :=
              grownFirst.wired.indexed.end_unique before behind
            have above : lowest + 1 < reading.tableAlias :=
              order ▸ Nat.lt_of_lt_of_le blockOther.earlier (blockOther.table_le readingMem)
            exact absurd (clash ▸ above) (Nat.not_lt.mpr (Nat.le_succ _))

/-- A path that was read in both contexts has a block in both, or in neither. -/
theorem block_again (grownFirst : start.Grown readsFirst first)
    (grownSecond : start.Grown readsSecond second) (within : readsFirst ⊆ readsSecond)
    (block : start.Block first.context readsFirst source name table joins) :
    ∃ other lowest again, start.Block second.context readsSecond other name lowest again ∧
      other.path = source.path := by
  obtain ⟨target, targetMem, targetOrigin⟩ := block.target
  obtain ⟨reached, known⟩ := grownSecond.known _ (within block.read)
  -- the other reading registered the path of the target, so some block of it makes that join
  obtain ⟨origin, step, lowest, own, join, ownBlock, ownMem, ownOrigin, -⟩ :=
    grownSecond.block_of_known known (grownFirst.fresh_of_block block targetMem targetOrigin)
  have whole := ownBlock
  cases ownBlock.formed with
  | single =>
      obtain rfl := List.mem_singleton.mp ownMem
      obtain ⟨samePath, rfl⟩ := NavPath.child_inj.mp (JoinOrigin.navigation.inj ownOrigin)
      exact ⟨_, _, _, whole, samePath⟩
  | mapped =>
      rcases List.mem_cons.mp ownMem with rfl | ownMem
      · obtain ⟨samePath, rfl⟩ := NavPath.child_inj.mp (JoinOrigin.navigation.inj ownOrigin)
        exact absurd samePath.symm
          (grownFirst.apart grownSecond whole List.mem_cons_self rfl block)
      · obtain rfl := List.mem_singleton.mp ownMem
        obtain ⟨samePath, rfl⟩ := NavPath.child_inj.mp (JoinOrigin.navigation.inj ownOrigin)
        exact ⟨_, _, _, whole, samePath⟩

end Grown

/-! ## Relabelling -/

/-- The alias in the second context of the path that leads to an alias in the first. -/
def relabel (first second : Context) (table : Alias) : Alias :=
  (second.aliasOf? (first.pathOf table)).getD table

private theorem Indexed.pathOf_eq {context : Context} (indexed : context.Indexed)
    (known : (path, table) ∈ context.paths) : context.pathOf table = path := by
  unfold pathOf
  cases found : context.paths.find? fun entry => entry.2 == table with
  | none => exact absurd (beq_self_eq_true table) (List.find?_eq_none.mp found _ known)
  | some entry =>
      have named := List.find?_some found
      have same := List.inj_on_of_nodup_map indexed.ends (List.mem_of_find?_eq_some found) known
        (beq_iff_eq.mp named)
      exact congrArg Prod.fst same

theorem relabel_of_known {context after : Context} (indexed : context.Indexed)
    (indexedAfter : after.Indexed) (known : (path, table) ∈ context.paths)
    (knownAfter : (path, tableOther) ∈ after.paths) : context.relabel after table = tableOther := by
  rw [relabel, indexed.pathOf_eq known, indexedAfter.aliasOf?_eq knownAfter]
  rfl

/-- A path that navigations led to is not that of a table by itself. -/
theorem root_not_known (wired : second.Wired) (origin table : Alias) :
    (.root origin, table) ∉ second.context.paths := by
  intro known
  obtain ⟨join, here, led, -⟩ := (wired.indexed.registered _ table).mp known
  obtain ⟨source, -, joined⟩ := wired.joined join here _ led
  generalize path : NavPath.root origin = root at joined
  cases joined with
  | single | middle | target => exact NavPath.child_ne_root _ _ _ path.symm

private theorem relabel_of_unknown {context : Context} (wired : second.Wired)
    (unknown : ∀ path, (path, table) ∉ context.paths) :
    context.relabel second.context table = table := by
  have root : context.pathOf table = .root table := by
    unfold pathOf
    rw [List.find?_eq_none.mpr]
    · rfl
    · rintro ⟨path, other⟩ known same
      obtain rfl := beq_iff_eq.mp same
      exact unknown path known
  have absent : second.context.aliasOf? (.root table) = none := by
    rw [aliasOf?_eq_none_iff]
    intro known
    obtain ⟨⟨path, other⟩, mem, same⟩ := List.mem_map.mp known
    exact root_not_known wired table other (same ▸ mem)
  rw [relabel, root, absent]
  rfl

namespace Grown

/-- The tables that were there at the start keep their aliases. -/
theorem relabel_start (grownFirst : start.Grown readsFirst first)
    (grownSecond : start.Grown readsSecond second) (old : table < start.nextAlias) :
    first.context.relabel second.context table = table := by
  by_cases known : ∃ path, (path, table) ∈ start.paths
  · obtain ⟨path, known⟩ := known
    exact relabel_of_known grownFirst.wired.indexed grownSecond.wired.indexed
      (grownFirst.grows.mem_paths known) (grownSecond.grows.mem_paths known)
  · refine relabel_of_unknown grownSecond.wired fun path later => ?_
    exact known ⟨path, grownFirst.mem_start later old⟩

/-- The ends of two walks along one path are relabelled into each other. -/
theorem relabel_walked (grownFirst : start.Grown readsFirst first)
    (grownSecond : start.Grown readsSecond second) (walked : start.Walked first.context source)
    (walkedOther : start.Walked second.context other) (same : source.path = other.path) :
    first.context.relabel second.context source.tableAlias = other.tableAlias := by
  cases walked with
  | root requested =>
      rw [requested.path_eq grownFirst.indexed] at same
      cases walkedOther with
      | root requestedOther =>
          rw [requestedOther.path_eq grownFirst.indexed] at same
          have tables : source.tableAlias = other.tableAlias := congrArg NavPath.origin same
          rw [← tables]
          exact grownFirst.relabel_start grownSecond (places_of_binding? requested.bound).inside
      | step => exact absurd same.symm (NavPath.child_ne_root _ _ _)
  | step _ _ _ known =>
      have knownOther := walkedOther.known_child grownFirst.indexed same.symm
      exact relabel_of_known grownFirst.wired.indexed grownSecond.wired.indexed known knownOther

/-- The joins of one path are the same if their aliases are. -/
theorem relabelled_implicitJoin {relabel : Alias → Alias} {pathOther : NavPath} (entity : Entity)
    {left leftOther right rightOther : Alias} (own column : Nat) (samePath : path = pathOther)
    (tables : relabel table = tableOther) (lefts : relabel left = leftOther)
    (rights : relabel right = rightOther) :
    Join.Relabelled relabel
      (start.implicitJoin path entity table (columnsEqual left own right column))
      (start.implicitJoin pathOther entity tableOther
        (columnsEqual leftOther own rightOther column)) := by
  subst samePath tables lefts rights
  exact ⟨rfl, rfl, rfl, rfl, rfl, rfl, _, _, _, _, rfl, rfl⟩

/-- The blocks of one path in two contexts are relabelled into each other. -/
theorem relabelled (grownFirst : start.Grown readsFirst first)
    (grownSecond : start.Grown readsSecond second)
    (block : start.Block first.context readsFirst source name table joins)
    (blockOther : start.Block second.context readsSecond other name tableOther joinsOther)
    (same : source.path = other.path) :
    List.Forall₂ (Join.Relabelled (first.context.relabel second.context)) joins joinsOther := by
  have entity := block.walked.entity_unique grownFirst.indexed blockOther.walked same
  have sources := grownFirst.relabel_walked grownSecond block.walked blockOther.walked same
  have paths : source.path.child name = other.path.child name := congrArg (·.child name) same
  -- joins of one path are numbered by the table each reading registered for it
  have tables : ∀ join ∈ joins, ∀ again ∈ joinsOther, ∀ path, join.origin = .navigation path →
      again.origin = .navigation path →
      first.context.relabel second.context join.tableAlias = again.tableAlias :=
    fun join mem again memAgain path origin originAgain =>
      relabel_of_known grownFirst.wired.indexed grownSecond.wired.indexed
        (block.registered grownFirst mem origin)
        (blockOther.registered grownSecond memAgain originAgain)
  cases block.formed with
  | single link direct =>
      cases blockOther.formed with
      | single linkOther =>
          obtain ⟨rfl, rfl, rfl, rfl⟩ := link.unique linkOther entity
          have target := tables _ (List.mem_singleton_self _) _ (List.mem_singleton_self _) _ rfl
            (by rw [same]; rfl)
          exact .cons (relabelled_implicitJoin _ _ _ paths target sources target) .nil
      | mapped linkOther between =>
          obtain ⟨rfl, -⟩ := link.unique linkOther entity
          exact absurd direct between.mapping_ne_none
  | mapped link between =>
      cases blockOther.formed with
      | single linkOther direct =>
          obtain ⟨rfl, -⟩ := link.unique linkOther entity
          exact absurd direct between.mapping_ne_none
      | mapped linkOther betweenOther =>
          obtain ⟨rfl, rfl, rfl, rfl⟩ := link.unique linkOther entity
          obtain ⟨rfl, rfl, rfl⟩ := between.unique betweenOther
          have middle := tables _ List.mem_cons_self _ List.mem_cons_self _ rfl (by rw [same]; rfl)
          have target := tables _ (List.mem_cons_of_mem _ (List.mem_singleton_self _)) _
            (List.mem_cons_of_mem _ (List.mem_singleton_self _)) _ rfl (by rw [same]; rfl)
          have steps := congrArg (NavPath.child · NavPath.mappingStep) paths
          exact .cons (relabelled_implicitJoin _ _ _ steps middle sources middle)
            (.cons (relabelled_implicitJoin _ _ _ paths target middle target) .nil)

/-- A path that is known in one context is known in another that read at least as much. -/
theorem known_again (grownFirst : start.Grown readsFirst first)
    (grownSecond : start.Grown readsSecond second) (within : readsFirst ⊆ readsSecond)
    (known : (path, table) ∈ first.context.paths) :
    ∃ again, (path, again) ∈ second.context.paths := by
  by_cases old : ∃ earlier, (path, earlier) ∈ start.paths
  · obtain ⟨earlier, old⟩ := old
    exact ⟨earlier, grownSecond.grows.mem_paths old⟩
  · obtain ⟨source, name, lowest, joins, join, block, mem, origin, -⟩ :=
      grownFirst.block_of_known known fun earlier there => old ⟨earlier, there⟩
    obtain ⟨other, lowestOther, again, blockOther, same⟩ :=
      grownFirst.block_again grownSecond within block
    obtain ⟨counterpart, there, relabelled⟩ :=
      (covers_of_forall₂ (grownFirst.relabelled grownSecond block blockOther same.symm)).1 join mem
    exact ⟨_, blockOther.registered grownSecond there (relabelled.origin.trans origin)⟩

/-- Contexts that read the same paths have equally many tables. -/
theorem nextAlias_eq (grownFirst : start.Grown readsFirst first)
    (grownSecond : start.Grown readsSecond second)
    (same : ∀ path, path ∈ readsFirst ↔ path ∈ readsSecond) :
    first.context.nextAlias = second.context.nextAlias := by
  -- both readings know the same paths, and each path took one alias
  have paths : (first.context.paths.map Prod.fst).Perm (second.context.paths.map Prod.fst) := by
    refine (List.perm_ext_iff_of_nodup grownFirst.wired.indexed.paths
      grownSecond.wired.indexed.paths).mpr fun path => ?_
    simp only [List.mem_map, Prod.exists, exists_and_right, exists_eq_right]
    constructor
    · rintro ⟨table, known⟩
      exact grownFirst.known_again grownSecond (fun path read => (same path).mp read) known
    · rintro ⟨table, known⟩
      exact grownSecond.known_again grownFirst (fun path read => (same path).mpr read) known
  have length := paths.length_eq
  simp only [List.length_map] at length
  have counted := grownFirst.counted
  rw [length, grownSecond.counted] at counted
  exact (Nat.add_left_cancel counted).symm

/-- A table is an old one, or none at all, or has a path. -/
theorem known_or (grown : start.Grown readsFirst first) (table : Alias) :
    table < start.nextAlias ∨ first.context.nextAlias ≤ table ∨
      ∃ path, (path, table) ∈ first.context.paths := by
  by_cases old : table < start.nextAlias
  · exact .inl old
  by_cases above : first.context.nextAlias ≤ table
  · exact .inr (.inl above)
  refine .inr (.inr ?_)
  obtain ⟨added, joins, blocks⟩ := grown.formed
  -- the join of the table stands behind those of the start
  obtain ⟨index, rfl⟩ := Nat.exists_eq_add_of_le (Nat.not_lt.mp old)
  have length : first.context.nextAlias = start.nextAlias + added.length := by
    show first.context.joins.length + 1 = start.joins.length + 1 + added.length
    rw [joins, List.length_append, Nat.add_right_comm]
  have inside : index < added.length :=
    Nat.lt_of_add_lt_add_left (length ▸ Nat.not_le.mp above)
  have found : first.context.joins[start.joins.length + index]? = some added[index] := by
    rw [joins, List.getElem?_append_right (Nat.le_add_right _ _), Nat.add_sub_cancel_left,
      List.getElem?_eq_getElem inside]
  obtain ⟨source, name, lowest, block, isBlock, mem⟩ := blocks _ (List.getElem_mem inside)
  obtain ⟨path, origin⟩ := isBlock.placed mem
  have known := isBlock.registered grown mem origin
  have place : start.joins.length + index + 1 = start.nextAlias + index := Nat.add_right_comm _ _ _
  rw [grown.wired.indexed.aliases _ _ found, place] at known
  exact ⟨path, known⟩

/-- Relabelling there and back answers the alias itself. -/
theorem relabel_relabel (grownFirst : start.Grown readsFirst first)
    (grownSecond : start.Grown readsSecond second)
    (same : ∀ path, path ∈ readsFirst ↔ path ∈ readsSecond) (table : Alias) :
    second.context.relabel first.context (first.context.relabel second.context table) = table := by
  by_cases known : ∃ path, (path, table) ∈ first.context.paths
  · obtain ⟨path, known⟩ := known
    obtain ⟨again, knownAgain⟩ :=
      grownFirst.known_again grownSecond (fun path read => (same path).mp read) known
    rw [relabel_of_known grownFirst.wired.indexed grownSecond.wired.indexed known knownAgain]
    exact relabel_of_known grownSecond.wired.indexed grownFirst.wired.indexed knownAgain known
  · have unknown : ∀ path, (path, table) ∉ first.context.paths :=
      fun path there => known ⟨path, there⟩
    rw [relabel_of_unknown grownSecond.wired unknown]
    -- an alias of no path of the first is an explicit table, which the second numbers alike
    refine relabel_of_unknown grownFirst.wired fun path there => ?_
    rcases grownFirst.known_or table with old | above | known
    · exact unknown path (grownFirst.grows.mem_paths (grownSecond.mem_start there old))
    · have inside := grownSecond.wired.indexed.lt_of_registered there
      rw [← grownFirst.nextAlias_eq grownSecond same] at inside
      exact absurd inside (Nat.not_lt.mpr above)
    · exact absurd known (not_exists.mpr unknown)

/-- The relabelling between two contexts that read the same paths. -/
def relabelling (grownFirst : start.Grown readsFirst first)
    (grownSecond : start.Grown readsSecond second)
    (same : ∀ path, path ∈ readsFirst ↔ path ∈ readsSecond) : Equiv.Perm Alias where
  toFun := first.context.relabel second.context
  invFun := second.context.relabel first.context
  left_inv := grownFirst.relabel_relabel grownSecond same
  right_inv := grownSecond.relabel_relabel grownFirst fun path => (same path).symm

/-- A block that was added is among the joins behind those of the start. -/
theorem mem_added (grown : start.Grown readsFirst first) {added : List Join}
    (addedJoins : first.context.joins = start.joins ++ added)
    (block : start.Block first.context readsFirst source name table joins) {join : Join}
    (mem : join ∈ joins) : join ∈ added := by
  have present := block.present join mem
  rw [addedJoins] at present
  rcases List.mem_append.mp present with old | new
  · have inside := (grown.indexed.lt_nextAlias old).2
    exact absurd inside (Nat.not_lt.mpr (Nat.le_trans block.beyond (block.table_le mem)))
  · exact new

end Grown

/-- Two contexts that were reached from one by reading navigations are the same up to a relabelling
of the aliases that were given out. -/
structure SameJoins (start first second : Context) (relabel : Alias → Alias) : Prop where
  fixed : ∀ table < start.nextAlias, relabel table = table
  joins : ∃ added again, first.joins = start.joins ++ added ∧ second.joins = start.joins ++ again ∧
    added.length = again.length ∧
    (∀ join ∈ added, ∃ counterpart ∈ again, join.Relabelled relabel counterpart) ∧
    ∀ counterpart ∈ again, ∃ join ∈ added, join.Relabelled relabel counterpart

private theorem Grown.sameJoins (grownFirst : start.Grown readsFirst first)
    (grownSecond : start.Grown readsSecond second)
    (same : ∀ path, path ∈ readsFirst ↔ path ∈ readsSecond) :
    start.SameJoins first.context second.context (first.context.relabel second.context) := by
  obtain ⟨added, addedJoins, blocks⟩ := grownFirst.formed
  obtain ⟨again, againJoins, blocksAgain⟩ := grownSecond.formed
  refine ⟨fun table old => grownFirst.relabel_start grownSecond old,
    added, again, addedJoins, againJoins, ?_, ?_, ?_⟩
  · have tables : first.context.joins.length + 1 = second.context.joins.length + 1 :=
      grownFirst.nextAlias_eq grownSecond same
    rw [addedJoins, againJoins, List.length_append, List.length_append] at tables
    omega
  · intro join mem
    obtain ⟨source, name, lowest, block, isBlock, inBlock⟩ := blocks join mem
    obtain ⟨other, lowestOther, blockOther, isOther, path⟩ :=
      grownFirst.block_again grownSecond (fun path read => (same path).mp read) isBlock
    obtain ⟨counterpart, there, relabelled⟩ :=
      (covers_of_forall₂ (grownFirst.relabelled grownSecond isBlock isOther path.symm)).1 join
        inBlock
    exact ⟨counterpart, grownSecond.mem_added againJoins isOther there, relabelled⟩
  · intro counterpart mem
    obtain ⟨other, name, lowest, block, isBlock, inBlock⟩ := blocksAgain counterpart mem
    obtain ⟨source, lowestOther, blockOther, isOther, path⟩ :=
      grownSecond.block_again grownFirst (fun path read => (same path).mpr read) isBlock
    obtain ⟨join, there, relabelled⟩ :=
      (covers_of_forall₂ (grownFirst.relabelled grownSecond isOther isBlock path)).2 counterpart
        inBlock
    exact ⟨join, grownFirst.mem_added addedJoins isOther there, relabelled⟩

/-! ## Sequences of accesses -/

/-- The joins depend only on which paths are read.  After any calls, two sequences of accesses from
tables that were asked for, which read the same paths in any order and any number of times, lead to
joins that are the same up to a permutation of the aliases that fixes all tables that were there
before.  And an access that is covered by earlier ones, such as a repetition, can be left out: the
joins, the aliases and all other answers stay exactly the same. -/
theorem joins_of_accesses (schema : Schema) (options : QueryOptions) (enclosing : List ContextId)
    (base : String) (calls : List Call) (start : Context)
    (reached : start = ((Building.start schema options enclosing base).run calls).context) :
    (∀ (accesses others : List NavAccess) (targets targetsOther : List Binding)
        (first second : Context),
      (∀ access ∈ accesses ++ others, start.Explicit access.source) →
      (∀ path, path ∈ accesses.flatMap NavAccess.paths ↔ path ∈ others.flatMap NavAccess.paths) →
      start.readAll accesses = .ok (targets, first) →
      start.readAll others = .ok (targetsOther, second) →
        ∃ relabelling : Equiv.Perm Alias, start.SameJoins first second relabelling) ∧
      ∀ (before after : List NavAccess) (access : NavAccess),
        (∀ earlier ∈ before, start.Explicit earlier.source) → Covers before access →
          Except.map (fun read => (read.1.eraseIdx before.length, read.2))
              (start.readAll (before ++ access :: after)) =
            start.readAll (before ++ after) := by
  have wired := (Building.Wired.start schema options enclosing base).run calls
  subst reached
  refine ⟨?_, fun before after access requested covered => readAll_repeated wired requested covered⟩
  intro accesses others targets targetsOther first second requested same read readOther
  obtain ⟨⟨bindings, grown⟩, -⟩ := (Grown.initial wired).readAll
    (fun access mem => requested access (List.mem_append_left _ mem)) read
  obtain ⟨⟨bindingsOther, grownOther⟩, -⟩ := (Grown.initial wired).readAll
    (fun access mem => requested access (List.mem_append_right _ mem)) readOther
  simp only [List.nil_append] at grown grownOther
  exact ⟨grown.relabelling grownOther same, grown.sameJoins grownOther same⟩

end Context

namespace Example

/-- The blogs of a query on them. -/
def blogTable : Binding := ⟨baseAlias, blog.name, .root baseAlias⟩

/-- The author of the topic of a blog, and then its tags. -/
def authorThenTags : List NavAccess := [⟨blogTable, ["topic", "author"]⟩, ⟨blogTable, ["tags"]⟩]

/-- The same with the tags first, and with the topic read twice. -/
def tagsThenAuthor : List NavAccess :=
  [⟨blogTable, ["tags"]⟩, ⟨blogTable, ["topic"]⟩, ⟨blogTable, ["topic", "author"]⟩]

/-- A query on blogs joins topics, authors and tags under other aliases if the tags are read first,
but it joins the same; and the topic can be read once more. -/
theorem joins_of_accesses_blogs :
    (∃ (first second : Context) (relabelling : Equiv.Perm Alias),
      first.joins.map Join.entity = ["Topic", "SysUser", "BlogTag", "Tag"] ∧
        second.joins.map Join.entity = ["BlogTag", "Tag", "Topic", "SysUser"] ∧
        (Context.start ⟨entities⟩ .standard [] blog.name).SameJoins first second relabelling) ∧
      Except.map (fun read => (read.1.eraseIdx 2, read.2))
          ((Context.start ⟨entities⟩ .standard [] blog.name).readAll
            (authorThenTags ++ [⟨blogTable, ["topic"]⟩])) =
        (Context.start ⟨entities⟩ .standard [] blog.name).readAll (authorThenTags ++ []) := by
  have asked : (Context.start ⟨entities⟩ .standard [] blog.name).Explicit blogTable :=
    ⟨rfl, .inl rfl⟩
  have requested : ∀ access ∈ authorThenTags ++ tagsThenAuthor,
      (Context.start ⟨entities⟩ .standard [] blog.name).Explicit access.source := by
    simpa [authorThenTags, tagsThenAuthor] using asked
  have same : ∀ path, path ∈ authorThenTags.flatMap NavAccess.paths ↔
      path ∈ tagsThenAuthor.flatMap NavAccess.paths := by
    intro path
    simp only [authorThenTags, tagsThenAuthor, NavAccess.paths, NavPath.along, List.flatMap_cons,
      List.flatMap_nil, List.mem_append, List.mem_cons, List.not_mem_nil, or_false]
    tauto
  obtain ⟨reordered, repeated⟩ := Context.joins_of_accesses ⟨entities⟩ .standard [] blog.name []
    (Context.start ⟨entities⟩ .standard [] blog.name) rfl
  obtain ⟨relabelling, joins⟩ :=
    reordered authorThenTags tagsThenAuthor _ _ _ _ requested same rfl rfl
  refine ⟨⟨_, _, relabelling, rfl, rfl, joins⟩, ?_⟩
  exact repeated authorThenTags [] ⟨blogTable, ["topic"]⟩
    (fun access mem => requested access (List.mem_append_left _ mem))
    ⟨_, List.mem_cons_self, rfl, ["author"], rfl⟩

end Example

end TrackedQuery
