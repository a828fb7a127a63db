import TrackedQuery.Proofs.Query.Bindings

/-!
# Walks over navigations

An access walks from a table that was asked for, the base table or that of a requested join, and
reads one navigation after the other.  Every path on its way is read, and a walk that is repeated
finds them all and changes nothing (`readAll_repeated`).

## Strategy

`Grown` is the invariant of several walks over one context.  The joins they add come in blocks, one
block for each path that was read first by somebody: the join of the target, behind the join of the
mapping if there is one (`Formed`).  A block is determined by its path and by where its aliases
start, because the entity at the end of a walk is (`Walked`).
-/

namespace TrackedQuery

/-- The paths that are read on the way from a path along some steps. -/
def NavPath.along (path : NavPath) : List String → List NavPath
  | [] => []
  | name :: rest => path.child name :: (path.child name).along rest

/-- A walk over navigations from a binding. -/
structure NavAccess where
  source : Binding
  steps : List String

/-- The paths that an access reads: each path on its way. -/
def NavAccess.paths (access : NavAccess) : List NavPath := access.source.path.along access.steps

namespace Context

/-- Reads navigations one after the other, each from the table that the last one led to. -/
def walk : Context → Binding → List String → Result (Binding × Context)
  | context, source, [] => .ok (source, context)
  | context, source, name :: rest => do
      let (target, context) ← context.navigate source name
      context.walk target rest

/-- Makes several accesses, one after the other, and answers where they led. -/
def readAll : Context → List NavAccess → Result (List Binding × Context)
  | context, [] => .ok ([], context)
  | context, access :: rest => do
      let (target, context) ← context.walk access.source access.steps
      let (targets, context) ← context.readAll rest
      return (target :: targets, context)

/-- The binding is that of the base table or of a join that was requested. -/
structure Explicit (context : Context) (source : Binding) : Prop where
  bound : context.binding? source.tableAlias = some source
  requested : source.tableAlias = baseAlias ∨
    ∃ join ∈ context.joins, join.tableAlias = source.tableAlias ∧ join.origin = .explicit

/-- A binding that a walk over known paths leads to. -/
inductive Walked (start context : Context) : Binding → Prop where
  | root {source : Binding} (requested : start.Explicit source) : Walked start context source
  | step {source : Binding} {name : String} {entity : Entity} {navigation : Navigation}
      {table : Alias} (walked : Walked start context source)
      (resolved : start.schema.resolve source.entity = .ok entity)
      (named : entity.resolveNavigation name = .ok navigation)
      (known : (source.path.child name, table) ∈ context.paths) :
      Walked start context ⟨table, navigation.target, source.path.child name⟩

/-- The join that a navigation adds to a context. -/
def implicitJoin (context : Context) (path : NavPath) (entity : Entity) (table : Alias)
    (condition : Expr) : Join :=
  ⟨context.options.implicitJoin, table, entity.name, entity.table, condition, .navigation path,
    none⟩

/-- The joins that reading a navigation for the first time adds, from an alias on. -/
inductive Formed (start : Context) (source : Binding) (name : String) (table : Alias) :
    List Join → Prop where
  | single {navigation : Navigation} {target : Entity} {own other : Nat}
      (link : Link start.schema source name navigation target own other)
      (direct : navigation.mapping? = none) :
      Formed start source name table
        [start.implicitJoin (source.path.child name) target table
          (columnsEqual source.tableAlias own table other)]
  | mapped {navigation : Navigation} {target middle : Entity} {own other first second : Nat}
      (link : Link start.schema source name navigation target own other)
      (between : Between start.schema navigation middle first second) :
      Formed start source name table
        [start.implicitJoin ((source.path.child name).child NavPath.mappingStep) middle table
            (columnsEqual source.tableAlias own table first),
          start.implicitJoin (source.path.child name) target (table + 1)
            (columnsEqual table second (table + 1) other)]

/-- The joins of one path that was read first from a binding. -/
structure Block (start context : Context) (reads : List NavPath) (source : Binding) (name : String)
    (table : Alias) (joins : List Join) : Prop where
  walked : start.Walked context source
  read : source.path.child name ∈ reads
  formed : start.Formed source name table joins
  earlier : source.tableAlias < table
  beyond : start.nextAlias ≤ table
  present : ∀ join ∈ joins, join ∈ context.joins

/-- A context has grown by walks that read the given paths. -/
structure Grown (start : Context) (reads : List NavPath) (building : Building) : Prop where
  indexed : start.Indexed
  wired : building.Wired
  grows : start.Extends building.context
  options : building.context.options = start.options
  formed : ∃ added, building.context.joins = start.joins ++ added ∧ ∀ join ∈ added,
    ∃ source name table block, start.Block building.context reads source name table block ∧
      join ∈ block
  known : ∀ path ∈ reads, ∃ table, (path, table) ∈ building.context.paths
  /-- Every table that was added has a path. -/
  counted : building.context.paths.length + start.nextAlias =
    start.paths.length + building.context.nextAlias

variable {start context after later : Context} {source target : Binding} {name : String}
  {path : NavPath} {table : Alias} {reads more : List NavPath} {building : Building}
  {steps : List String} {accesses : List NavAccess}

/-! ## Tables that were asked for -/

theorem Indexed.aliasOf?_eq (indexed : context.Indexed) (known : (path, table) ∈ context.paths) :
    context.aliasOf? path = some table := by
  cases found : context.aliasOf? path with
  | none => exact absurd (List.mem_map_of_mem known) (aliasOf?_eq_none_iff.mp found)
  | some other => rw [indexed.end_unique known (mem_of_aliasOf? found)]

/-- No navigation led to a table that was asked for. -/
theorem Explicit.unregistered (indexed : context.Indexed) (requested : context.Explicit source)
    (path : NavPath) : (path, source.tableAlias) ∉ context.paths := by
  intro known
  obtain ⟨join, here, origin, named⟩ := (indexed.registered path _).mp known
  rcases requested.requested with isBase | ⟨other, there, sameAlias, asked⟩
  · have positive := (indexed.lt_nextAlias here).1
    rw [named, isBase] at positive
    exact absurd positive (Nat.lt_irrefl _)
  · obtain rfl := indexed.join_unique here there (named.trans sameAlias.symm)
    rw [asked] at origin
    cases origin

theorem Explicit.path_eq (indexed : context.Indexed) (requested : context.Explicit source) :
    source.path = .root source.tableAlias := by
  rcases (places_of_binding? requested.bound).path with known | ⟨root, -⟩
  · exact absurd known (requested.unregistered indexed source.path)
  · exact root

/-! ## The invariant -/

theorem Walked.mono (grows : context.Extends later) (walked : start.Walked context source) :
    start.Walked later source := by
  induction walked with
  | root requested => exact .root requested
  | step _ resolved named known ih => exact .step ih resolved named (grows.mem_paths known)

theorem Block.mono {joins : List Join} (grows : context.Extends later)
    (joinsGrow : ∀ join ∈ context.joins, join ∈ later.joins) (readsGrow : reads ⊆ more)
    (block : start.Block context reads source name table joins) :
    start.Block later more source name table joins :=
  ⟨block.walked.mono grows, readsGrow block.read, block.formed, block.earlier, block.beyond,
    fun join mem => joinsGrow join (block.present join mem)⟩

theorem Grown.initial (wired : building.Wired) : Grown building.context [] building :=
  ⟨wired.indexed, wired, .refl _, rfl, ⟨[], (List.append_nil _).symm, by simp⟩, by simp, rfl⟩

theorem Grown.bind (grown : start.Grown reads building) {binding : Binding}
    (placed : building.context.Places binding) :
    start.Grown reads { building with bindings := building.bindings ++ [binding] } :=
  { grown with wired := grown.wired.bind placed }

/-- What a navigation answers is known afterwards. -/
theorem known_of_navigated (wired : building.Wired)
    (navigated : building.context.Navigated source name target after) :
    ∃ entity navigation table, building.context.schema.resolve source.entity = .ok entity ∧
      entity.resolveNavigation name = .ok navigation ∧
      target = ⟨table, navigation.target, source.path.child name⟩ ∧
      (source.path.child name, table) ∈ after.paths := by
  cases navigated with
  | again resolved named known => exact ⟨_, _, _, resolved, named, rfl, mem_of_aliasOf? known⟩
  | single link direct fresh =>
      obtain ⟨entity, column, resolved, named, -⟩ := link.source
      exact ⟨_, _, _, resolved, named, rfl,
        mem_paths_addImplicit (aliasOf?_eq_none_iff.mp fresh) _ _⟩
  | @mapped navigation reached middle own other first second link between fresh =>
      obtain ⟨entity, column, resolved, named, -⟩ := link.source
      -- the path of the mapping is registered first, and cannot hide the one of the target
      generalize columnsEqual source.tableAlias own building.context.nextAlias first = condition
      have fresh := wired.fresh_target (aliasOf?_eq_none_iff.mp fresh) middle condition
      have known := mem_paths_addImplicit fresh reached
        (columnsEqual building.context.nextAlias second (building.context.nextAlias + 1) other)
      rw [nextAlias_addImplicit] at known
      exact ⟨_, _, _, resolved, named, rfl, known⟩

private theorem length_paths_addImplicit (fresh : path ∉ context.paths.map Prod.fst)
    (entity : Entity) (condition : Expr) :
    (context.addImplicit path entity condition).paths.length = context.paths.length + 1 := by
  show (setPath context.paths path context.nextAlias).length = _
  rw [setPath_of_fresh fresh, List.length_append, List.length_singleton]

/-- A navigation adds as many paths as tables. -/
theorem counted_of_navigated (wired : building.Wired)
    (navigated : building.context.Navigated source name target after) :
    after.paths.length + building.context.nextAlias =
      building.context.paths.length + after.nextAlias := by
  cases navigated with
  | again => rfl
  | single link direct fresh =>
      rw [length_paths_addImplicit (aliasOf?_eq_none_iff.mp fresh), nextAlias_addImplicit]
      omega
  | mapped link between fresh =>
      have fresh := aliasOf?_eq_none_iff.mp fresh
      rw [length_paths_addImplicit (wired.fresh_target fresh _ _),
        length_paths_addImplicit (wired.fresh_mapping fresh), nextAlias_addImplicit,
        nextAlias_addImplicit]
      omega

/-- The joins that a navigation adds. -/
theorem formed_of_navigated (navigated : context.Navigated source name target after) :
    after.options = context.options ∧ ∃ added, after.joins = context.joins ++ added ∧
      (added = [] ∨ context.Formed source name context.nextAlias added) := by
  cases navigated with
  | again => exact ⟨rfl, [], (List.append_nil _).symm, .inl rfl⟩
  | single link direct => exact ⟨rfl, _, joins_addImplicit _ _ _ _, .inr (.single link direct)⟩
  | mapped link between =>
      refine ⟨rfl, _, ?_, .inr (.mapped link between)⟩
      rw [joins_addImplicit, joins_addImplicit, nextAlias_addImplicit, List.append_assoc]
      rfl

private theorem Formed.of_grown (grown : start.Grown reads building) {joins : List Join}
    (formed : building.context.Formed source name table joins) :
    start.Formed source name table joins := by
  have implicit : building.context.implicitJoin = start.implicitJoin := by
    unfold implicitJoin
    rw [grown.options]
  cases formed with
  | single link direct =>
      rw [grown.grows.schema] at link
      rw [implicit]
      exact .single link direct
  | mapped link between =>
      rw [grown.grows.schema] at link between
      rw [implicit]
      exact .mapped link between

/-- Reading one navigation keeps the invariant, and leads where a walk leads. -/
theorem Grown.navigate (grown : start.Grown reads building) (bound : source ∈ building.bindings)
    (walked : start.Walked building.context source)
    (navigated : building.context.Navigated source name target after) :
    start.Grown (reads ++ [source.path.child name])
        { building with context := after, bindings := building.bindings ++ [target] } ∧
      start.Walked after target := by
  have grows := grown.wired.extends_navigated navigated
  have inside := (grown.wired.placed source bound).inside
  obtain ⟨entity, navigation, table, resolved, named, rfl, known⟩ :=
    known_of_navigated grown.wired navigated
  obtain ⟨options, new, newJoins, formed⟩ := formed_of_navigated navigated
  obtain ⟨added, joins, blocks⟩ := grown.formed
  -- a navigation appends joins, so blocks that were read before stay where they are
  have present : ∀ join ∈ building.context.joins, join ∈ after.joins := by
    intro join mem
    rw [newJoins]
    exact List.mem_append_left _ mem
  rw [grown.grows.schema] at resolved
  refine ⟨⟨grown.indexed, grown.wired.navigate bound navigated, grown.grows.trans grows,
    options.trans grown.options, ⟨added ++ new, ?_, ?_⟩, ?_, ?_⟩, ?_⟩
  · show after.joins = _
    rw [newJoins, joins, List.append_assoc]
  · intro join mem
    rcases List.mem_append.mp mem with mem | mem
    · obtain ⟨source, name, table, block, wasBlock, inBlock⟩ := blocks join mem
      exact ⟨source, name, table, block,
        wasBlock.mono grows present (List.subset_append_left _ _), inBlock⟩
    · rcases formed with rfl | formed
      · cases mem
      refine ⟨source, name, _, new, ⟨walked.mono grows, ?_, formed.of_grown grown, inside,
        grown.grows.nextAlias_le, ?_⟩, mem⟩
      · exact List.mem_append_right _ (List.mem_singleton_self _)
      · intro other inNew
        show other ∈ after.joins
        rw [newJoins]
        exact List.mem_append_right _ inNew
  · intro path mem
    rcases List.mem_append.mp mem with mem | mem
    · obtain ⟨table, known⟩ := grown.known path mem
      exact ⟨table, grows.mem_paths known⟩
    · obtain rfl := List.mem_singleton.mp mem
      exact ⟨table, known⟩
  · have before := grown.counted
    have now := counted_of_navigated grown.wired navigated
    show after.paths.length + _ = _ + after.nextAlias
    omega
  · exact .step (walked.mono grows) resolved named known

theorem Grown.walk (grown : start.Grown reads building) (bound : source ∈ building.bindings)
    (walked : start.Walked building.context source)
    (succeeded : building.context.walk source steps = .ok (target, after)) :
    (∃ bindings, start.Grown (reads ++ source.path.along steps) ⟨after, building.begun, bindings⟩) ∧
      building.context.Extends after := by
  -- the induction is on the steps; each turns the binding it reaches into the next source
  induction steps generalizing building source reads with
  | nil =>
      cases succeeded
      rw [NavPath.along, List.append_nil]
      exact ⟨⟨building.bindings, grown⟩, .refl _⟩
  | cons name rest ih =>
      obtain ⟨⟨reached, context⟩, navigated, succeeded⟩ := Result.bind_eq_ok.mp succeeded
      have read := navigated_of_navigate navigated
      obtain ⟨grownOnce, walkedOnce⟩ := grown.navigate bound walked read
      obtain ⟨_, _, _, _, _, rfl, _⟩ := known_of_navigated grown.wired read
      obtain ⟨⟨bindings, grownAll⟩, grows⟩ := ih grownOnce
        (List.mem_append_right _ (List.mem_singleton_self _)) walkedOnce succeeded
      rw [List.append_assoc] at grownAll
      exact ⟨⟨bindings, grownAll⟩, (grown.wired.extends_navigated read).trans grows⟩

/-- A table that was asked for can be bound later, too. -/
theorem Grown.rebind (grown : start.Grown reads building) (requested : start.Explicit source) :
    start.Grown reads { building with bindings := building.bindings ++ [source] } :=
  grown.bind (grown.grows.places (places_of_binding? requested.bound))

theorem Grown.readAll (grown : start.Grown reads building)
    (requested : ∀ access ∈ accesses, start.Explicit access.source) {targets : List Binding}
    (succeeded : building.context.readAll accesses = .ok (targets, after)) :
    (∃ bindings, start.Grown (reads ++ accesses.flatMap NavAccess.paths)
        ⟨after, building.begun, bindings⟩) ∧
      building.context.Extends after ∧ targets.length = accesses.length := by
  induction accesses generalizing building reads targets with
  | nil =>
      cases succeeded
      rw [List.flatMap_nil, List.append_nil]
      exact ⟨⟨building.bindings, grown⟩, .refl _, rfl⟩
  | cons access rest ih =>
      obtain ⟨⟨target, context⟩, walked, succeeded⟩ := Result.bind_eq_ok.mp succeeded
      obtain ⟨⟨others, context⟩, readRest, succeeded⟩ := Result.bind_eq_ok.mp succeeded
      cases succeeded
      have asked := requested access List.mem_cons_self
      obtain ⟨⟨bindings, grownOnce⟩, growsOnce⟩ := (grown.rebind asked).walk
        (List.mem_append_right _ (List.mem_singleton_self _)) (.root asked) walked
      obtain ⟨⟨bindings, grownAll⟩, growsAll, length⟩ := ih grownOnce
        (fun other mem => requested other (List.mem_cons_of_mem _ mem)) readRest
      rw [List.append_assoc] at grownAll
      exact ⟨⟨bindings, grownAll⟩, growsOnce.trans growsAll, congrArg (· + 1) length⟩

/-! ## Walks that are repeated -/

/-- A navigation that was read before is found again, and nothing is joined. -/
theorem navigate_again (wired : building.Wired)
    (navigated : building.context.navigate source name = .ok (target, after))
    (grows : building.context.Extends later) (known : after.Extends later)
    (indexed : later.Indexed) : later.navigate source name = .ok (target, later) := by
  obtain ⟨entity, navigation, table, resolved, named, rfl, registered⟩ :=
    known_of_navigated wired (navigated_of_navigate navigated)
  rw [← grows.schema] at resolved
  have found := indexed.aliasOf?_eq (known.mem_paths registered)
  simp only [Context.navigate, resolved, named, found, bind, Except.bind]
  rfl

private theorem Grown.walk_again (grown : start.Grown reads building)
    (bound : source ∈ building.bindings) (walked : start.Walked building.context source)
    {others : List String}
    (succeeded : building.context.walk source (steps ++ others) = .ok (target, after))
    (known : after.Extends later) (indexed : later.Indexed) :
    ∃ reached, later.walk source steps = .ok (reached, later) := by
  induction steps generalizing building source reads with
  | nil => exact ⟨source, rfl⟩
  | cons name rest ih =>
      obtain ⟨⟨middle, context⟩, navigated, succeeded⟩ := Result.bind_eq_ok.mp succeeded
      have read := navigated_of_navigate navigated
      obtain ⟨grownOnce, walkedOnce⟩ := grown.navigate bound walked read
      have here : middle ∈ building.bindings ++ [middle] :=
        List.mem_append_right _ (List.mem_singleton_self _)
      have growsRest := ((grownOnce.walk here walkedOnce succeeded).2).trans known
      obtain ⟨reached, again⟩ := ih grownOnce here walkedOnce succeeded
      refine ⟨reached, Result.bind_eq_ok.mpr ⟨(middle, later), ?_, again⟩⟩
      exact navigate_again grown.wired navigated
        ((grown.wired.extends_navigated read).trans growsRest) growsRest indexed

/-- Some access of the list went at least as far. -/
def Covers (accesses : List NavAccess) (access : NavAccess) : Prop :=
  ∃ earlier ∈ accesses, earlier.source = access.source ∧ access.steps <+: earlier.steps

private theorem Grown.covered_again (grown : start.Grown reads building)
    (requested : ∀ access ∈ accesses, start.Explicit access.source) {targets : List Binding}
    (succeeded : building.context.readAll accesses = .ok (targets, after)) {access : NavAccess}
    (covered : Covers accesses access) :
    ∃ reached, after.walk access.source access.steps = .ok (reached, after) := by
  -- the covering access is the first, or one of the rest that are read after it
  induction accesses generalizing building reads targets with
  | nil =>
      obtain ⟨earlier, mem, -⟩ := covered
      cases mem
  | cons first rest ih =>
      have whole := succeeded
      obtain ⟨⟨target, context⟩, walked, succeeded⟩ := Result.bind_eq_ok.mp succeeded
      obtain ⟨⟨others, context⟩, readRest, succeeded⟩ := Result.bind_eq_ok.mp succeeded
      cases succeeded
      have asked := requested first List.mem_cons_self
      have askedRest := fun other mem => requested other (List.mem_cons_of_mem _ mem)
      have here : first.source ∈ building.bindings ++ [first.source] :=
        List.mem_append_right _ (List.mem_singleton_self _)
      obtain ⟨⟨bindings, grownOnce⟩, -⟩ := (grown.rebind asked).walk here (.root asked) walked
      obtain ⟨⟨bindings, grownAll⟩, growsAll, -⟩ := grownOnce.readAll askedRest readRest
      obtain ⟨earlier, mem, source, others, steps⟩ := covered
      rcases List.mem_cons.mp mem with rfl | mem
      · rw [← source]
        rw [← steps] at walked
        exact (grown.rebind asked).walk_again here (.root asked) walked growsAll
          grownAll.wired.indexed
      · exact ih grownOnce askedRest readRest ⟨earlier, mem, source, others, steps⟩

private theorem readAll_append (context : Context) (first second : List NavAccess) :
    context.readAll (first ++ second) = (do
      let (targets, context) ← context.readAll first
      let (others, context) ← context.readAll second
      return (targets ++ others, context)) := by
  induction first generalizing context with
  | nil =>
      cases h : context.readAll second <;>
        simp [readAll, h, bind, Except.bind, pure, Except.pure]
  | cons access rest ih =>
      cases walked : context.walk access.source access.steps with
      | error error => simp [readAll, walked, bind, Except.bind]
      | ok reached =>
          cases readRest : reached.2.readAll rest with
          | error error =>
              simp [readAll, walked, ih, readRest, bind, Except.bind]
          | ok middle =>
              cases readSecond : middle.2.readAll second <;>
                simp [readAll, walked, ih, readRest, readSecond, bind, Except.bind, pure,
                  Except.pure]

/-- An access that is covered by earlier ones can be left out: nothing changes but that its own
answer is missing. -/
theorem readAll_repeated (wired : building.Wired) {before after : List NavAccess}
    {access : NavAccess} (requested : ∀ access ∈ before, building.context.Explicit access.source)
    (covered : Covers before access) :
    Except.map (fun read => (read.1.eraseIdx before.length, read.2))
        (building.context.readAll (before ++ access :: after)) =
      building.context.readAll (before ++ after) := by
  rw [readAll_append, readAll_append]
  cases readBefore : building.context.readAll before with
  | error error => rfl
  | ok read =>
      obtain ⟨targets, context⟩ := read
      -- the repeated access walks known paths only, so it leaves the context as it found it
      obtain ⟨reached, again⟩ := (Grown.initial wired).covered_again requested readBefore covered
      have length := ((Grown.initial wired).readAll requested readBefore).2.2
      cases readAfter : context.readAll after with
      | error error =>
          simp [readAll, again, readAfter, bind, Except.bind, Except.map]
      | ok others =>
          simp [readAll, again, readAfter, bind, Except.bind, Except.map, pure, Except.pure,
            ← length, List.eraseIdx_append_of_length_le]

end Context

end TrackedQuery
