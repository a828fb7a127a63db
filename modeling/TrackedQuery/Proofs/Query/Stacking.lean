import TrackedQuery.Proofs.Program.Answer
import TrackedQuery.Proofs.Query.Compatibility

/-!
# Plans that are stacked

A set operation compares the projection of the query it is called on with that of the new arm, and
never two arms with each other.  Since types unify up to `null`, and `null` unifies with every type,
the comparisons of a chain of calls do not add up to more than what each of them says: a chain that
starts from a column of `null` takes arms of any two types.  They do add up wherever the types that
have arms below them are free of `null` (`stacked_unify`), and a projection is free of `null`
exactly if whatever passes its check is compatible with each other.

## Strategy

* `Ty.unifies_of_nullFree`: a type without `null` passes unification on, and `Ty.exists_clash` says
  that no other type does.
* `Plan.Layered` says that every arm below a plan has passed the check of the plan it is stacked on.
  It is what each call keeps (`Query.Chained.layers`, `ProjectedQuery.Chained.layers`).
* What passes all checks has one width, and at a position without `null` above arms, types that
  unify with each other (`Plan.Layered.unifies`).
-/

namespace TrackedQuery

/-! ## Stacked plans -/

namespace Plan

/-- The plan itself, the plans whose rows are stacked on its own, those stacked on these, and so
on. -/
inductive Stacked : Plan → Plan → Prop
  | self (plan : Plan) : Stacked plan plan
  | inArm {top found : Plan} {arm : Arm} (mem : arm ∈ top.arms) (stacked : Stacked arm.plan found) :
      Stacked top found

/-- Every arm has passed the check of the plan that it is stacked on. -/
def Layered (plan : Plan) : Prop :=
  ∀ above, plan.Stacked above → ∀ arm ∈ above.arms, checkUnion above arm.plan = .ok ()

end Plan

/-- The arms have passed the check of the items, and are layered themselves. -/
def Layers (items : List Item) (arms : List Arm) : Prop :=
  ∀ arm ∈ arms, Item.compatible items arm.plan.projection = true ∧ arm.plan.Layered

namespace Plan

variable {plan found : Plan}

theorem layered_iff : plan.Layered ↔ Layers plan.projection plan.arms := by
  constructor
  · intro layered arm mem
    exact ⟨checkUnion_eq_ok_iff.mp (layered plan (.self plan) arm mem),
      fun above stacked => layered above (.inArm mem stacked)⟩
  · intro layers above stacked
    cases stacked with
    | self => exact fun arm mem => checkUnion_eq_ok_iff.mpr (layers arm mem).1
    | inArm mem stacked => exact (layers _ mem).2 above stacked

private theorem Layered.arm (layered : plan.Layered) {arm : Arm} (mem : arm ∈ plan.arms) :
    Item.compatible plan.projection arm.plan.projection = true ∧ arm.plan.Layered :=
  layered_iff.mp layered arm mem

/-- Whatever is stacked has as many columns. -/
theorem Layered.length (layered : plan.Layered) (stacked : plan.Stacked found) :
    found.projection.length = plan.projection.length := by
  induction stacked with
  | self => rfl
  | inArm mem _ ih =>
      obtain ⟨fit, below⟩ := layered.arm mem
      rw [ih below, Item.length_of_compatible fit]

/-- At the position no plan with arms has a type with `null`. -/
def NullFreeAt (plan : Plan) (position : Nat) : Prop :=
  ∀ above, plan.Stacked above → above.arms ≠ [] →
    ∀ item ∈ above.projection[position]?, item.ty.nullFree = true

/-- The types at a position without `null` above arms unify with that of the uppermost plan. -/
theorem Layered.unifies_top {position : Nat} {left right : Item} (layered : plan.Layered)
    (free : plan.NullFreeAt position) (stacked : plan.Stacked found)
    (hleft : plan.projection[position]? = some left)
    (hright : found.projection[position]? = some right) : left.ty.unifies right.ty = true := by
  induction stacked generalizing left with
  | self =>
      cases hleft.symm.trans hright
      exact Ty.unifies_self _
  | @inArm top found arm mem stacked ih =>
      obtain ⟨fit, below⟩ := layered.arm mem
      obtain ⟨middle, hmiddle⟩ : ∃ middle, arm.plan.projection[position]? = some middle := by
        have inside := (List.getElem?_eq_some_iff.mp hleft).1
        rw [← Item.length_of_compatible fit] at inside
        exact ⟨_, List.getElem?_eq_getElem inside⟩
      have upper := Item.unifies_of_compatible fit hleft hmiddle
      cases stacked with
      | self =>
          cases hmiddle.symm.trans hright
          exact upper
      | inArm lower _ =>
          -- the arm has arms itself, so its type passes unification on
          have middle_free : middle.ty.nullFree = true :=
            free arm.plan (.inArm mem (.self arm.plan)) (List.ne_nil_of_mem lower) middle hmiddle
          have lower_unifies := ih below
            (fun above stacked => free above (.inArm mem stacked)) hmiddle hright
          exact Ty.unifies_of_nullFree middle_free (Ty.unifies_comm _ _ ▸ upper) lower_unifies

/-- The types at a position without `null` above arms unify with each other. -/
theorem Layered.unifies {position : Nat} {first second : Plan} {left right : Item}
    (layered : plan.Layered) (free : plan.NullFreeAt position) (stacked_first : plan.Stacked first)
    (stacked_second : plan.Stacked second) (hleft : first.projection[position]? = some left)
    (hright : second.projection[position]? = some right) : left.ty.unifies right.ty = true := by
  -- both were compared with the topmost query; through a null type they need not unify
  obtain ⟨top, htop⟩ : ∃ top, plan.projection[position]? = some top := by
    have inside := (List.getElem?_eq_some_iff.mp hleft).1
    rw [layered.length stacked_first] at inside
    exact ⟨_, List.getElem?_eq_getElem inside⟩
  have from_top := layered.unifies_top free stacked_first htop hleft
  have to_second := layered.unifies_top free stacked_second htop hright
  cases stacked_first with
  | self =>
      cases htop.symm.trans hleft
      exact to_second
  | inArm mem _ =>
      have top_free : top.ty.nullFree = true :=
        free plan (.self plan) (List.ne_nil_of_mem mem) top htop
      exact Ty.unifies_of_nullFree top_free from_top to_second

end Plan

/-! ## Chains of set operations -/

/-- What a computation answers in a recording that it leaves as it is. -/
def Answers {α : Type} (recording : Recording) (computation : StateM Recording α) (answer : α) :
    Prop :=
  computation.run recording = (answer, recording)

/-- A query is developed further without set operations, while contexts are added and changed: it
keeps its context, which is of the same entity, and its arms. -/
structure Query.Continued (before after : Recording) (query later : Query) : Prop where
  context : later.context = query.context
  schema : (after.contextAt query.context).schema = (before.contextAt query.context).schema
  base : (after.contextAt query.context).base = (before.contextAt query.context).base
  arms : later.clauses.arms = query.clauses.arms

/-- A query that has its arms from set operations, whose arms are such queries themselves. -/
inductive Query.Chained : Recording → Query → Prop
  | plain {recording : Recording} {query : Query} (unstacked : query.clauses.arms = []) :
      Chained recording query
  | continued {before after : Recording} {query later : Query} (built : Chained before query)
      (continues : query.Continued before after later) : Chained after later
  | stack {recording : Recording} {query other stacked : Query} {op : SetOperator}
      (built : Chained recording query) (other_built : Chained recording other)
      (called : Answers recording (query.stack op other) (.ok stacked)) : Chained recording stacked

/-- A projection that has its arms from set operations.  When a query is projected that has arms
already, it keeps them, whatever it projects; here they have to fit. -/
inductive ProjectedQuery.Chained : Recording → ProjectedQuery → Prop
  | select {recording : Recording} {query : Query} {items : List Item}
      {grouping : Option Grouping} {projected : ProjectedQuery} (built : query.Chained recording)
      (called : Answers recording (ofQuery query items grouping) (.ok projected))
      (fitting : ∀ arm ∈ query.clauses.arms, Item.compatible items arm.plan.projection = true) :
      Chained recording projected
  | continued {before after : Recording} {query later : ProjectedQuery}
      (built : Chained before query) (items : later.items = query.items)
      (arms : later.clauses.arms = query.clauses.arms) : Chained after later
  | stack {recording : Recording} {query other stacked : ProjectedQuery} {op : SetOperator}
      (built : Chained recording query) (other_built : Chained recording other)
      (called : Answers recording (query.stack op other) (.ok stacked)) : Chained recording stacked

private theorem Layers.append {items : List Item} {arms : List Arm} (layers : Layers items arms)
    (op : SetOperator) {plan : Plan} (fit : Item.compatible items plan.projection = true)
    (layered : plan.Layered) : Layers items (arms ++ [⟨op, plan⟩]) := by
  intro arm mem
  rcases List.mem_append.mp mem with mem | mem
  · exact layers arm mem
  · cases List.mem_singleton.mp mem
    exact ⟨fit, layered⟩

section Calls

variable {recording : Recording} {plan : Plan} {op : SetOperator}

private theorem Query.compile_eq_ok {query : Query}
    (compiled : Answers recording query.compile (.ok plan)) :
    ∃ entity, (recording.contextAt query.context).schema.resolve
        (recording.contextAt query.context).base = .ok entity ∧
      plan.projection = entity.baseItems ∧ plan.arms = query.clauses.arms := by
  have compiled : query.clauses.compile (recording.contextAt query.context) none none = .ok plan :=
    congrArg Prod.fst compiled
  obtain ⟨entity, items, joins, hentity, hitems, -, rfl⟩ := Clauses.compile_eq_ok compiled
  cases hitems
  exact ⟨entity, hentity, rfl, rfl⟩

private theorem ProjectedQuery.compile_eq_ok {query : ProjectedQuery}
    (compiled : Answers recording query.compile (.ok plan)) :
    plan.projection = query.items ∧ plan.arms = query.clauses.arms ∧
      ∃ entity, (recording.contextAt query.context).schema.resolve
        (recording.contextAt query.context).base = .ok entity := by
  have compiled : query.clauses.compile (recording.contextAt query.context) (some query.items)
      query.grouping = .ok plan := congrArg Prod.fst compiled
  obtain ⟨entity, items, joins, hentity, hitems, -, rfl⟩ := Clauses.compile_eq_ok compiled
  refine ⟨?_, rfl, entity, hentity⟩
  cases present : query.items with
  | nil =>
      rw [present] at hitems
      cases hitems
  | cons first rest =>
      rw [present] at hitems
      cases hitems
      rfl

/-- A set operation succeeds if both of its queries compile and the check of their plans passes. -/
theorem stackedWith_eq_ok {α : Type} {left right : Result Plan} {made : Plan → α} {stacked : α}
    (called : (do
      let above ← left
      let arm ← right
      checkUnion above arm
      return made arm : Result α) = .ok stacked) :
    ∃ above arm, left = .ok above ∧ right = .ok arm ∧ checkUnion above arm = .ok () ∧
      stacked = made arm := by
  obtain ⟨above, hleft, called⟩ := Result.bind_eq_ok.mp called
  obtain ⟨arm, hright, called⟩ := Result.bind_eq_ok.mp called
  obtain ⟨_, checked, called⟩ := Result.bind_eq_ok.mp called
  cases called
  exact ⟨above, arm, hleft, hright, checked, rfl⟩

/-- A set operation that succeeds adds the plan of the other query, after its check. -/
theorem Query.stack_eq_ok {query other stacked : Query}
    (called : Answers recording (query.stack op other) (.ok stacked)) :
    ∃ left right, Answers recording query.compile (.ok left) ∧
      Answers recording other.compile (.ok right) ∧ checkUnion left right = .ok () ∧
      stacked = { query with
        clauses := { query.clauses with arms := query.clauses.arms ++ [⟨op, right⟩] } } := by
  obtain ⟨left, right, hleft, hright, checked, made⟩ := stackedWith_eq_ok (congrArg Prod.fst called)
  exact ⟨left, right, congrArg (·, recording) hleft, congrArg (·, recording) hright, checked, made⟩

theorem ProjectedQuery.stack_eq_ok {query other stacked : ProjectedQuery}
    (called : Answers recording (query.stack op other) (.ok stacked)) :
    ∃ left right, Answers recording query.compile (.ok left) ∧
      Answers recording other.compile (.ok right) ∧ checkUnion left right = .ok () ∧
      stacked = { query with
        clauses := { query.clauses with arms := query.clauses.arms ++ [⟨op, right⟩] } } := by
  obtain ⟨left, right, hleft, hright, checked, made⟩ := stackedWith_eq_ok (congrArg Prod.fst called)
  exact ⟨left, right, congrArg (·, recording) hleft, congrArg (·, recording) hright, checked, made⟩

/-- What set operations have stacked on a query fits the columns of its entity. -/
theorem Query.Chained.layers {query : Query} (built : query.Chained recording) {entity : Entity}
    (resolved : (recording.contextAt query.context).schema.resolve
      (recording.contextAt query.context).base = .ok entity) :
    Layers entity.baseItems query.clauses.arms := by
  induction built generalizing entity with
  | plain unstacked =>
      rw [unstacked]
      exact fun _ mem => absurd mem List.not_mem_nil
  | continued _ continues ih =>
      rw [continues.context, continues.schema, continues.base] at resolved
      rw [continues.arms]
      exact ih resolved
  | stack _ _ called ih other_ih =>
      obtain ⟨left, right, hleft, hright, checked, rfl⟩ := stack_eq_ok called
      obtain ⟨_, resolved_left, items, -⟩ := compile_eq_ok hleft
      obtain ⟨_, resolved_right, right_items, right_arms⟩ := compile_eq_ok hright
      -- the left query and the result are of one context, so they have one base
      cases resolved_left.symm.trans resolved
      refine (ih resolved).append _ (items ▸ checkUnion_eq_ok_iff.mp checked) ?_
      rw [Plan.layered_iff, right_items, right_arms]
      exact other_ih resolved_right

private theorem Query.Chained.layered {query : Query} (built : query.Chained recording)
    (compiled : Answers recording query.compile (.ok plan)) : plan.Layered := by
  obtain ⟨_, resolved, items, arms⟩ := compile_eq_ok compiled
  rw [Plan.layered_iff, items, arms]
  exact built.layers resolved

/-- What set operations have stacked on a projection fits its items. -/
theorem ProjectedQuery.Chained.layers {query : ProjectedQuery} (built : query.Chained recording) :
    Layers query.items query.clauses.arms := by
  induction built with
  | select built called fitting =>
      obtain ⟨_, compiled, kept⟩ := Result.map_eq_ok.mp (congrArg Prod.fst called)
      cases kept
      obtain ⟨-, -, _, resolved⟩ := ProjectedQuery.compile_eq_ok (congrArg (·, _) compiled)
      exact fun arm mem => ⟨fitting arm mem, (built.layers resolved arm mem).2⟩
  | continued _ items arms ih =>
      rw [items, arms]
      exact ih
  | stack _ _ called ih other_ih =>
      obtain ⟨left, right, hleft, hright, checked, rfl⟩ := ProjectedQuery.stack_eq_ok called
      obtain ⟨items, -⟩ := ProjectedQuery.compile_eq_ok hleft
      obtain ⟨right_items, right_arms, -⟩ := ProjectedQuery.compile_eq_ok hright
      refine ih.append _ (items ▸ checkUnion_eq_ok_iff.mp checked) ?_
      rw [Plan.layered_iff, right_items, right_arms]
      exact other_ih

private theorem ProjectedQuery.Chained.layered {query : ProjectedQuery}
    (built : query.Chained recording) (compiled : Answers recording query.compile (.ok plan)) :
    plan.Layered := by
  obtain ⟨items, arms, -⟩ := ProjectedQuery.compile_eq_ok compiled
  rw [Plan.layered_iff, items, arms]
  exact built.layers

end Calls

/-- The plan of a query or a projection that has its arms from set operations. -/
def Plan.OfChain (recording : Recording) (plan : Plan) : Prop :=
  (∃ query : Query, query.Chained recording ∧ Answers recording query.compile (.ok plan)) ∨
    ∃ query : ProjectedQuery, query.Chained recording ∧ Answers recording query.compile (.ok plan)

private theorem Plan.OfChain.layered {recording : Recording} {plan : Plan}
    (chained : plan.OfChain recording) : plan.Layered := by
  rcases chained with ⟨query, built, compiled⟩ | ⟨query, built, compiled⟩
  · exact built.layered compiled
  · exact built.layered compiled

/-- Whatever set operations have stacked has one width, and each arm has passed the check of the
plan that it is stacked on.  At a position where no plan with arms has a type with `null`, any two
types unify.  The check of a plan carries over to two arms that passed it exactly if its own
projection is free of `null`. -/
theorem stacked_unify {recording : Recording} {plan : Plan} (chained : plan.OfChain recording) :
    (∀ found, plan.Stacked found → found.projection.length = plan.projection.length ∧
      ∀ arm ∈ found.arms, checkUnion found arm.plan = .ok ()) ∧
    (∀ position, plan.NullFreeAt position → ∀ first second, plan.Stacked first →
      plan.Stacked second → ∀ left ∈ first.projection[position]?,
        ∀ right ∈ second.projection[position]?, left.ty.unifies right.ty = true) ∧
    ∀ found, plan.Stacked found → ((∀ item ∈ found.projection, item.ty.nullFree = true) ↔
      ∀ first second, checkUnion found first = .ok () → checkUnion found second = .ok () →
        checkUnion first second = .ok ()) := by
  have layered := chained.layered
  refine ⟨fun found stacked => ⟨layered.length stacked, layered found stacked⟩, ?_, ?_⟩
  · exact fun position free first second stacked_first stacked_second left hleft right hright =>
      layered.unifies free stacked_first stacked_second hleft hright
  · intro found _
    simp only [Item.nullFree_iff_compatible, checkUnion_eq_ok_iff]
    constructor
    · exact fun composes first second => composes first.projection second.projection
    · exact fun composes lefts rights =>
        composes { found with projection := lefts } { found with projection := rights }

namespace Example

/-- The topics, projected to one item. -/
def topicValues (item : Form) : Program := ⟨.entity none "Topic", [.select [item] false]⟩

/-- `NULL` for every topic, and below it their titles and then their stars. -/
def nullAboveColumns : Program :=
  { beginning := .entity none "Topic"
    steps :=
      [.select [.typed ⟨.null, .null⟩] false,
        .stack .union (topicValues (.column (.table 0 0) "title" .string)),
        .stack .union (topicValues (.column (.table 0 0) "stars" .int32))] }

/-- The context of a query of topics. -/
def topicContextOf (id : ContextId) : Context := { topicContext with id := id }

/-- A recording in which three queries of topics are built. -/
def topicsRecording : Recording := ⟨[topicContextOf 0, topicContextOf 1, topicContextOf 2], []⟩

/-- The query of topics in a context, projected to one item. -/
def topicItem (context : ContextId) (item : Item) : ProjectedQuery :=
  ⟨context, topicQuery.home, Clauses.initial, [item], none⟩

/-- A column that was read in a context. -/
def columnItem (context : ContextId) (column : Nat) (ty : Ty) : Item :=
  ⟨.column ⟨0, baseAlias, column, some ⟨context, baseAlias, column⟩⟩, ty⟩

/-- The plan of a projection to one column, in a context. -/
def columnPlan (context : ContextId) (column : Nat) (ty : Ty) : Plan :=
  { topicPlan with
    source := { topicPlan.source with query := some context }
    projection := [columnItem context column ty] }

/-- Below `NULL`, the titles and then the stars of all topics. -/
def nullArms : List Arm := [⟨.union, columnPlan 1 1 .string⟩, ⟨.union, columnPlan 2 2 .int32⟩]

/-- The projection to `NULL` with arms. -/
def nullOver (arms : List Arm) : ProjectedQuery :=
  { topicItem 0 ⟨.null, .null⟩ with clauses := { Clauses.initial with arms := arms } }

/-- Both set operations succeed, each arm fits the `NULL`, and the arms do not fit each other. -/
theorem stacked_unify_null :
    (∃ plan, nullAboveColumns.planAnswer connection types = .replies [.ok (.plan plan)] ∧
      plan.same (topicItemPlan ⟨.null, .null⟩ nullArms) = true) ∧
    (∀ found, (topicItemPlan ⟨.null, .null⟩ nullArms).Stacked found →
      found.projection.length = 1) ∧
    ¬ (∀ first second, checkUnion (topicItemPlan ⟨.null, .null⟩ nullArms) first = .ok () →
      checkUnion (topicItemPlan ⟨.null, .null⟩ nullArms) second = .ok () →
        checkUnion first second = .ok ()) ∧
    checkUnion (columnPlan 1 1 .string) (columnPlan 2 2 .int32) ≠ .ok () := by
  have answered : ((nullAboveColumns.planAnswer connection types).plan?.any
      (·.same (topicItemPlan ⟨.null, .null⟩ nullArms))) = true := by
    decide +kernel
  obtain ⟨plan, found, same⟩ := (Option.any_eq_true ..).mp answered
  -- the calls of the program, in the recording that it ends in
  have projected : ∀ context item, Answers topicsRecording
      (ProjectedQuery.ofQuery ⟨.ofEntity "Topic" topic, context, topicQuery.home, [baseAlias],
        Clauses.initial⟩ [item] none) (.ok (topicItem context item)) →
      (topicItem context item).Chained topicsRecording :=
    fun context item called =>
      .select (.plain rfl) called fun _ mem => absurd mem List.not_mem_nil
  have alone : (nullOver []).Chained topicsRecording := projected 0 ⟨.null, .null⟩ rfl
  have titles : (topicItem 1 (columnItem 1 1 .string)).Chained topicsRecording :=
    projected 1 _ rfl
  have stars : (topicItem 2 (columnItem 2 2 .int32)).Chained topicsRecording := projected 2 _ rfl
  have over_titles : Answers topicsRecording
      ((nullOver []).stack .union (topicItem 1 (columnItem 1 1 .string)))
      (.ok (nullOver [⟨.union, columnPlan 1 1 .string⟩])) := rfl
  have over_stars : Answers topicsRecording
      ((nullOver [⟨.union, columnPlan 1 1 .string⟩]).stack .union
        (topicItem 2 (columnItem 2 2 .int32)))
      (.ok (nullOver nullArms)) := rfl
  have built : (nullOver nullArms).Chained topicsRecording :=
    (alone.stack titles over_titles).stack stars over_stars
  have compiled : Answers topicsRecording (nullOver nullArms).compile
      (.ok (topicItemPlan ⟨.null, .null⟩ nullArms)) := rfl
  obtain ⟨widths, -, composes⟩ := stacked_unify (.inr ⟨nullOver nullArms, built, compiled⟩)
  refine ⟨⟨plan, StepAnswer.eq_of_plan? found, same⟩, fun found stacked => (widths found stacked).1,
    fun carried => ?_, fun passed => by cases passed⟩
  have free := (composes _ (.self _)).mpr carried _ (List.mem_singleton_self _)
  cases free

-- a projection keeps the arms of its query unchecked: one title above rows of four columns
example :
    (Program.planAnswer connection types ⟨.entity none "Topic",
      [.stack .union ⟨.entity none "Topic", []⟩,
        .select [.column (.table 0 0) "title" .string] false]⟩).plan?.map (fun plan =>
          (plan.projection.length, plan.arms.map fun arm => arm.plan.projection.length)) =
      some (1, [4]) := by
  decide +kernel

end Example

end TrackedQuery
