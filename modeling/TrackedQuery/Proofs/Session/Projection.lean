import TrackedQuery.Proofs.Session.Query

/-!
# Projections and groups

Projecting and grouping a sound query keeps it sound, as the clauses of groups do.  The keys of a
grouped query are expressions of its own context, and so are the items that are projected.
-/

namespace TrackedQuery

variable {scheme : Scheme} {start : Recording} {stack : List Closure}

/-- What a projection of a query answers: a sound projection in the same context, and with the
setting of the query closed. -/
abbrev ProjectedQuery.MadeOf (rule : Rule) (query : Stage) (recording : Recording)
    (outcome : Result ProjectedQuery) : Prop :=
  Result.Leads rule .projected query.context ⟨false, query.setting.leavesOutDeleted⟩ recording
    outcome

/-- What a grouping of a query answers: a sound grouped query in the same context, and with the
setting of the query closed. -/
abbrev GroupedQuery.MadeOf (rule : Rule) (query : Stage) (recording : Recording)
    (outcome : Result GroupedQuery) : Prop :=
  Result.Leads rule .grouped query.context ⟨false, query.setting.leavesOutDeleted⟩ recording
    outcome

theorem Item.ValidIn.stays {rule : Rule} {context : ContextId} :
    ∀ (before after : Recording) (items : List Item), before.Grows after →
      Item.ValidIn rule before context items → Item.ValidIn rule after context items :=
  fun _ _ _ grows valid => valid.mono grows

theorem obeys_values {rule : Rule} {around : List Level} : Sink.values.Obeys rule around := trivial

/-! ## Projections -/

namespace ProjectedQuery

variable {query : ProjectedQuery}

theorem keeps_compile (valid : query.Valid scheme.rule start) :
    Keeps scheme start stack query.compile stack
      (fun recording outcome => recording = start ∧ Result.Meets scheme.rule
        (fun plan => (Stage.projected query).Admitted scheme.rule recording →
          plan.Obeys scheme.rule (recording.around query.context)) outcome) := by
  refine .readContext fun sound => .pure ⟨rfl, ?_⟩
  have projected : ∀ items ∈ some query.items,
      Item.ValidIn scheme.rule start query.context items := by
    intro items mem
    cases mem
    exact valid.items
  have meets := sound.contexts.compile valid.known valid.clauses projected valid.grouping
  exact ⟨meets.tame, fun plan compiled admitted =>
    meets.holds plan compiled (admitted plan compiled)⟩

private theorem keeps_ofQuery {query : Query} (valid : query.Valid scheme.rule start)
    {items : List Item} (items_valid : Item.ValidIn scheme.rule start query.context items)
    {grouping : Option Grouping} (grouping_valid : ∀ grouping' ∈ grouping,
      grouping'.Obey scheme.rule (start.levels query.context)) :
    Keeps scheme start stack (ofQuery query items grouping) stack
      (MadeOf scheme.rule (.query query)) := by
  have projected : ProjectedQuery.Valid scheme.rule start
      ⟨query.context, query.home, query.clauses, items, grouping⟩ :=
    ⟨valid.known, valid.clauses, items_valid, grouping_valid⟩
  refine (keeps_compile projected).bind fun recording outcome _ ⟨same, meets⟩ => ?_
  subst same
  exact .pure (meets.map fun _ _ => ⟨projected.sound, rfl, rfl⟩)

theorem keeps_stack (valid : query.Valid scheme.rule start) (op : SetOperator)
    {other : ProjectedQuery} (other_valid : other.Valid scheme.rule start)
    (outermost : (start.contextAt other.context).enclosing = [])
    (admitted : (Stage.projected other).Admitted scheme.rule start) :
    Keeps scheme start stack (query.stack op other) stack
      (MadeOf scheme.rule (.projected query)) := by
  refine (keeps_compile valid).bind fun first left _ ⟨same, left_meets⟩ => ?_
  subst same
  refine (keeps_compile other_valid).bind fun second right grows ⟨same, right_meets⟩ => ?_
  subst same
  refine .pure (left_meets.bind fun left _ => right_meets.bind fun right right_obeys => ?_)
  have right_obeys := grows.obeys_outermost other_valid.known outermost (right_obeys admitted)
  have stacked := valid.clauses.stack op right_obeys
  have after : ProjectedQuery.Valid scheme.rule second { query with
      clauses := { query.clauses with arms := query.clauses.arms ++ [⟨op, right⟩] } } :=
    ⟨valid.known, stacked, valid.items, valid.grouping⟩
  exact (meets_checkUnion left right).bind fun _ _ => Result.meets_ok ⟨after.sound, rfl, rfl⟩

end ProjectedQuery

theorem Query.keeps_select {query : Query} (valid : query.Valid scheme.rule start)
    {body : List TableHandle → SessionM (List Item)}
    (kept : ClauseKept scheme start stack query.context body fun recording items =>
      Item.ValidIn scheme.rule recording query.context items) :
    Keeps scheme start stack (query.select body) stack
      (ProjectedQuery.MadeOf scheme.rule (.query query)) := by
  refine keeps_clause valid.known obeys_values kept Item.ValidIn.stays ?_
  intro recording outcome grows meets
  split
  · next error => exact .pure (Result.meets_error (meets.tame error rfl))
  · next items recorded =>
      obtain ⟨items_valid, -⟩ := meets.holds _ rfl
      exact ProjectedQuery.keeps_ofQuery (valid.mono grows) items_valid (by simp)

/-! ## Groups -/

theorem Query.keeps_groupBy {query : Query} (sound : query.Sound scheme.rule start)
    {body : List TableHandle → SessionM (List Item)}
    (kept : ClauseKept scheme start stack query.context body fun recording items =>
      Item.ValidIn scheme.rule recording query.context items) :
    Keeps scheme start stack (query.groupBy body) stack
      (GroupedQuery.MadeOf scheme.rule (.query query)) := by
  refine keeps_clause sound.valid.known obeys_values kept Item.ValidIn.stays ?_
  intro recording outcome grows meets
  have still := sound.mono grows
  refine .pure (meets.map fun ⟨keys, _⟩ ⟨keys_valid, _⟩ => ⟨⟨?_, still.roots⟩, rfl, rfl⟩)
  exact ⟨still.valid, keys_valid, List.forall_mem_nil _⟩

namespace GroupedQuery

variable {grouped : GroupedQuery}

/-- The query that is grouped. -/
theorem Sound.query {rule : Rule} {recording : Recording} (sound : grouped.Sound rule recording) :
    grouped.query.Sound rule recording :=
  ⟨GroupedQuery.Valid.query sound.valid, sound.roots⟩

theorem keeps_having (sound : grouped.Sound scheme.rule start)
    {body : List TableHandle → SessionM Unit}
    (kept : ClauseKept scheme start stack grouped.query.context body fun _ _ => True) :
    Keeps scheme start stack (grouped.having body) stack
      (MadeOf scheme.rule (.grouped grouped)) := by
  refine Query.keeps_clause sound.valid.known obeys_noPredicates kept
    (fun _ _ _ _ _ => trivial) ?_
  intro recording outcome grows meets
  have later := sound.mono grows
  have still : grouped.Valid scheme.rule recording := later.valid
  refine .pure (meets.map fun ⟨_, recorded⟩ ⟨_, obeys⟩ =>
    ⟨⟨⟨still.query, still.keys, ?_⟩, later.roots⟩, rfl, rfl⟩)
  intro condition mem
  rcases List.mem_append.mp mem with mem | mem
  · exact still.conditions condition mem
  · exact obeys.statements condition mem

theorem keeps_orderBy (sound : grouped.Sound scheme.rule start)
    {body : List TableHandle → SessionM Unit}
    (kept : ClauseKept scheme start stack grouped.query.context body fun _ _ => True) :
    Keeps scheme start stack (grouped.orderBy body) stack
      (MadeOf scheme.rule (.grouped grouped)) := by
  refine (Query.keeps_orderBy (Sound.query sound) kept).bind fun recording outcome grows meets => ?_
  have still : grouped.Valid scheme.rule recording := (sound.mono grows).valid
  refine .pure (meets.map fun ordered ⟨ordered_sound, same, settled⟩ => ?_)
  change ordered.context = grouped.query.context at same
  have leaves_out := congrArg Setting.leavesOutDeleted settled
  refine ⟨⟨⟨ordered_sound.valid, ?_, ?_⟩, ordered_sound.roots⟩, same,
    congrArg (Setting.mk false) leaves_out⟩
  · rw [same]
    exact still.keys
  · rw [same]
    exact still.conditions

theorem keeps_select (valid : grouped.Valid scheme.rule start)
    {body : List TableHandle → SessionM (List Item)}
    (kept : ClauseKept scheme start stack grouped.query.context body fun recording items =>
      Item.ValidIn scheme.rule recording grouped.query.context items) :
    Keeps scheme start stack (grouped.select body) stack
      (ProjectedQuery.MadeOf scheme.rule (.grouped grouped)) := by
  refine Query.keeps_clause valid.query.known obeys_values kept Item.ValidIn.stays ?_
  intro recording outcome grows meets
  split
  · next error => exact .pure (Result.meets_error (meets.tame error rfl))
  · next items recorded =>
      obtain ⟨items_valid, -⟩ := meets.holds _ rfl
      have still := valid.mono grows
      refine ProjectedQuery.keeps_ofQuery still.query items_valid fun grouping mem => ?_
      cases mem
      refine ⟨fun key mem => ?_, still.conditions⟩
      obtain ⟨item, hitem, rfl⟩ := List.mem_map.mp mem
      exact still.keys item hitem

/-- A key of a grouped query, or `NULL` past the last one. -/
theorem valid_keyAt {rule : Rule} {recording : Recording} {context : ContextId} {keys : List Item}
    (valid : Item.ValidIn rule recording context keys) (index : Nat) :
    (keyAt keys index).expr.ValidIn rule recording context := by
  unfold keyAt
  cases found : keys[index]? with
  | none => exact Expr.obeys_value .null
  | some item => exact valid item (List.mem_of_getElem? found)

end GroupedQuery

end TrackedQuery
