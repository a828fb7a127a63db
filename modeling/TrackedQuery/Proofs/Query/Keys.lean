import TrackedQuery.Example
import TrackedQuery.Proofs.Plan.Reflexive
import TrackedQuery.Proofs.Query.Grouping
import TrackedQuery.Query

/-!
# What is built from grouping keys

A grouped query may project what is built from its keys, from literals and from aggregates.  The
check finds out by looking every part up among the keys, and looks inside of what it does not find.
A key is found unless there is a NaN in it (`Expr.isKey_iff_noNaN`); then all depends on what the
key is made of.  The same holds if a connective takes a key as an operand that is itself a
conjunction or a disjunction, because it merges the two: the operands of the key become operands of
the whole.

What is built from keys passes the check exactly if every key does in this sense
(`Clauses.composed_projectable`).

## Strategy

* `Expr.Composed`: what can be built, with one case for each way to build.
* `Expr.Firm`: an expression passes the check, and its operands do if it is a conjunction or a
  disjunction.  Connectives keep this, whatever they merge.
* `Expr.passes_of_composed`: merged with a literal NaN, a key is no longer found as a whole, because
  nothing is found that contains a NaN.
-/

namespace TrackedQuery

/-! ## Keys that are found -/

namespace Expr

variable {keys : List Expr} {expr : Expr}

/-- An expression with a NaN in it is not found among others. -/
theorem noNaN_of_isKey (found : expr.isKey keys = true) : expr.NoNaN := by
  obtain ⟨key, -, same⟩ := List.any_eq_true.mp found
  exact (same_self_iff.expr expr).mp (same_right_of_same.exprs same)

/-- A key is found among the keys exactly if there is no NaN in it. -/
theorem isKey_iff_noNaN (mem : expr ∈ keys) : expr.isKey keys = true ↔ expr.NoNaN := by
  constructor
  · exact noNaN_of_isKey
  · exact fun free => List.any_eq_true.mpr ⟨expr, mem, (same_self_iff.expr expr).mpr free⟩

private theorem isGrouped_of_isKey (found : expr.isKey keys = true) :
    expr.isGrouped keys = true := by
  unfold isGrouped
  rw [found, Bool.true_or]

/-! ## Passing the check -/

theorem allGrouped_iff {exprs : List Expr} :
    Expr.allGrouped keys exprs = true ↔ ∀ expr ∈ exprs, expr.isGrouped keys = true := by
  induction exprs with
  | nil => simp [allGrouped]
  | cons first rest ih => rw [allGrouped, Bool.and_eq_true, ih, List.forall_mem_cons]

private theorem branchesGrouped_iff {branches : List Branch} :
    Branch.allGrouped keys branches = true ↔ ∀ branch ∈ branches,
      branch.condition.isGrouped keys = true ∧ branch.result.isGrouped keys = true := by
  induction branches with
  | nil => simp [Branch.allGrouped]
  | cons first rest ih =>
      cases first
      rw [Branch.allGrouped, Bool.and_eq_true, Bool.and_eq_true, ih, List.forall_mem_cons]

/-- The operands of the expression pass the check, if it is a conjunction or a disjunction. -/
def OperandsGrouped (keys : List Expr) (expr : Expr) : Prop :=
  ∀ operands, expr.operands? = some operands → ∀ operand ∈ operands, operand.isGrouped keys = true

/-- The expression passes the check, and so do its operands if it has any. -/
structure Firm (keys : List Expr) (expr : Expr) : Prop where
  grouped : expr.isGrouped keys = true
  operands : expr.OperandsGrouped keys

private theorem Firm.of_grouped (simple : expr.operands? = none)
    (grouped : expr.isGrouped keys = true) :
    expr.Firm keys :=
  ⟨grouped, fun operands found => by rw [simple] at found; cases found⟩

private theorem firm_conj {operands : List Expr}
    (grouped : ∀ operand ∈ operands, operand.isGrouped keys = true) :
    (conj operands).Firm keys where
  grouped := by simp [isGrouped, allGrouped_iff.mpr grouped]
  operands _ found := Option.some.inj found ▸ grouped

private theorem firm_disj {operands : List Expr}
    (grouped : ∀ operand ∈ operands, operand.isGrouped keys = true) :
    (disj operands).Firm keys where
  grouped := by simp [isGrouped, allGrouped_iff.mpr grouped]
  operands _ found := Option.some.inj found ▸ grouped

variable {lhs rhs : Expr}

/-- What a conjunction merges are operands that pass the check. -/
theorem Firm.and (left : lhs.Firm keys) (right : rhs.Firm keys) : (lhs.and rhs).Firm keys := by
  unfold Expr.and
  split
  · exact right
  · split
    · exact left
    · split
      · exact firm_conj (List.forall_mem_append.mpr ⟨left.operands _ rfl, right.operands _ rfl⟩)
      · exact firm_conj (List.forall_mem_append.mpr
          ⟨left.operands _ rfl, List.forall_mem_singleton.mpr right.grouped⟩)
      · exact firm_conj (List.forall_mem_cons.mpr
          ⟨left.grouped, List.forall_mem_singleton.mpr right.grouped⟩)

private theorem Firm.or (left : lhs.Firm keys) (right : rhs.Firm keys) :
    (lhs.or rhs).Firm keys := by
  unfold Expr.or
  split
  · exact firm_disj (List.forall_mem_append.mpr ⟨left.operands _ rfl, right.operands _ rfl⟩)
  · exact firm_disj (List.forall_mem_append.mpr
      ⟨left.operands _ rfl, List.forall_mem_singleton.mpr right.grouped⟩)
  · exact firm_disj (List.forall_mem_cons.mpr
      ⟨left.grouped, List.forall_mem_singleton.mpr right.grouped⟩)

private theorem firm_all {operands : List Expr} (firm : ∀ operand ∈ operands, operand.Firm keys) :
    (Expr.all operands).Firm keys := by
  match operands with
  | [] => exact .of_grouped rfl (by simp [truth, isGrouped])
  | [operand] => exact firm operand (List.mem_singleton_self operand)
  | _ :: _ :: _ => exact firm_conj fun operand mem => (firm operand mem).grouped

end Expr

/-! ## What can be built -/

/-- What an expression is used as: a value, or a predicate that connectives take. -/
inductive Expr.Place where
  | value
  | predicate

/-- The expressions that are built from keys, literals and aggregates.  Predicates may be used as
values and values as predicates.  A connective merges a value that is a conjunction or a disjunction
with its other operand; whether it takes such values is a parameter. -/
inductive Expr.Composed (keys : List Item) (merging : Bool) : Expr.Place → Expr → Prop where
  | key (index : Nat) : Composed keys merging .value (GroupedQuery.keyAt keys index).expr
  | literal (literal : Value) : Composed keys merging .value (.value literal)
  | aggregate (function : AggregateFunction) (argument : Option Expr) (distinct : Bool) :
      Composed keys merging .value (.aggregate function argument distinct)
  | cases {branches : List Branch} {otherwise : Expr}
      (conditions : ∀ branch ∈ branches, Composed keys merging .value branch.condition)
      (results : ∀ branch ∈ branches, Composed keys merging .value branch.result)
      (last : Composed keys merging .value otherwise) :
      Composed keys merging .value (.cases branches otherwise)
  | compare (op : CompareOp) {lhs rhs : Expr} (left : Composed keys merging .value lhs)
      (right : Composed keys merging .value rhs) :
      Composed keys merging .predicate (.compare op lhs rhs)
  | inList {operand : Expr} {items : List Expr} (negated : Bool)
      (inner : Composed keys merging .value operand)
      (each : ∀ item ∈ items, Composed keys merging .value item) :
      Composed keys merging .predicate (.inList operand items negated)
  | like {operand : Expr} (pattern : String) (negated : Bool)
      (inner : Composed keys merging .value operand) :
      Composed keys merging .predicate (.like operand pattern negated)
  | isNull {operand : Expr} (negated : Bool) (inner : Composed keys merging .value operand) :
      Composed keys merging .predicate (.isNull operand negated)
  | neg {operand : Expr} (inner : Composed keys merging .value operand) :
      Composed keys merging .predicate (.neg operand)
  | and {lhs rhs : Expr} (left : Composed keys merging .predicate lhs)
      (right : Composed keys merging .predicate rhs) :
      Composed keys merging .predicate (lhs.and rhs)
  | or {lhs rhs : Expr} (left : Composed keys merging .predicate lhs)
      (right : Composed keys merging .predicate rhs) : Composed keys merging .predicate (lhs.or rhs)
  | all {operands : List Expr}
      (each : ∀ operand ∈ operands, Composed keys merging .predicate operand) :
      Composed keys merging .predicate (.all operands)
  | asValue {expr : Expr} (inner : Composed keys merging .predicate expr) :
      Composed keys merging .value expr
  | asPredicate {expr : Expr} (allowed : expr.operands? = none ∨ merging = true)
      (inner : Composed keys merging .value expr) : Composed keys merging .predicate expr

namespace Expr

variable {keys : List Item} {merging : Bool}

private theorem keyAt_expr_cases (keys : List Item) (index : Nat) :
    (∃ key ∈ keys, (GroupedQuery.keyAt keys index).expr = key.expr) ∨
      (GroupedQuery.keyAt keys index).expr = null := by
  unfold GroupedQuery.keyAt
  cases found : keys[index]? with
  | none => exact .inr rfl
  | some key => exact .inl ⟨key, List.mem_of_getElem? found, rfl⟩

/-- An expression in its place passes the check.  If connectives may merge it, its operands do. -/
structure Passes (keys : List Expr) (merging : Bool) (place : Place) (expr : Expr) : Prop where
  grouped : expr.isGrouped keys = true
  operands : place = .predicate ∨ merging = true → expr.OperandsGrouped keys

theorem Firm.passes {keys : List Expr} {expr : Expr} (firm : expr.Firm keys) (place : Place) :
    expr.Passes keys merging place :=
  ⟨firm.grouped, fun _ => firm.operands⟩

private theorem Passes.firm {keys : List Expr} {expr : Expr}
    (passes : expr.Passes keys merging .predicate) : expr.Firm keys :=
  ⟨passes.grouped, passes.operands (.inl rfl)⟩

/-- An expression that is neither a conjunction nor a disjunction only has to pass itself. -/
theorem passes_of_simple {keys : List Expr} {place : Place} {expr : Expr}
    (simple : expr.operands? = none) (grouped : expr.isGrouped keys = true) :
    expr.Passes keys merging place :=
  (Firm.of_grouped simple grouped).passes place

/-- What is built from keys that pass the check passes it. -/
theorem Composed.passes
    (keysPass : ∀ key ∈ keys, key.expr.Passes (keys.map Item.expr) merging .value)
    {place : Place} {expr : Expr} (composed : expr.Composed keys merging place) :
    expr.Passes (keys.map Item.expr) merging place := by
  induction composed with
  | key index =>
      rcases keyAt_expr_cases keys index with ⟨key, mem, same⟩ | none
      · rw [same]
        exact keysPass key mem
      · rw [none]
        exact passes_of_simple rfl (by simp [null, isGrouped])
  | literal literal => exact passes_of_simple rfl (by simp [isGrouped])
  | aggregate function argument distinct => exact passes_of_simple rfl (by simp [isGrouped])
  | @cases branches otherwise _ _ _ conditions results last =>
      have each := branchesGrouped_iff.mpr fun branch mem =>
        ⟨(conditions branch mem).grouped, (results branch mem).grouped⟩
      exact passes_of_simple rfl (by simp [isGrouped, each, last.grouped])
  | compare op _ _ left right =>
      exact passes_of_simple rfl (by simp [isGrouped, left.grouped, right.grouped])
  | @inList operand items negated _ _ inner each =>
      have items := allGrouped_iff.mpr fun item mem => (each item mem).grouped
      exact passes_of_simple rfl (by simp [isGrouped, inner.grouped, items])
  | like pattern negated _ inner =>
      exact passes_of_simple rfl (by simp [isGrouped, inner.grouped])
  | isNull negated _ inner =>
      exact passes_of_simple rfl (by simp [isGrouped, inner.grouped])
  | neg _ inner => exact passes_of_simple rfl (by simp [isGrouped, inner.grouped])
  -- connectives merge the operands of their operands, so these have to be grouped as well
  | and _ _ left right => exact (left.firm.and right.firm).passes _
  | or _ _ left right => exact (left.firm.or right.firm).passes _
  | all _ each => exact (firm_all fun operand mem => (each operand mem).firm).passes _
  | asValue _ inner => exact inner.firm.passes _
  | asPredicate allowed _ inner =>
      rcases allowed with none | allowed
      · exact passes_of_simple none inner.grouped
      · exact ⟨inner.grouped, fun _ => inner.operands (.inr allowed)⟩

private theorem exists_keyAt {key : Item} (mem : key ∈ keys) :
    ∃ index, GroupedQuery.keyAt keys index = key := by
  obtain ⟨index, inside, rfl⟩ := List.mem_iff_getElem.mp mem
  exact ⟨index, by rw [GroupedQuery.keyAt, List.getElem?_eq_getElem inside, Option.getD_some]⟩

/-- A key is itself built from the keys. -/
theorem composed_of_mem {key : Item} (mem : key ∈ keys) :
    key.expr.Composed keys merging .value := by
  obtain ⟨index, rfl⟩ := exists_keyAt mem
  exact .key index

/-- A literal NaN. -/
def nan : Expr := .value (.float ⟨0x7FF8000000000000⟩)

private theorem not_noNaN_nan : ¬ nan.NoNaN := by
  rw [← same_self_iff.expr, nan, same]
  decide

/-- With a NaN among its operands a conjunction or a disjunction is no key, and passes only if its
operands do. -/
theorem operandsGrouped_of_nan {keys operands : List Expr} {expr : Expr}
    (connects : expr.operands? = some operands) (mem : nan ∈ operands)
    (grouped : expr.isGrouped keys = true) : expr.OperandsGrouped keys := by
  -- a connective over NaN is no key, not even if it was written as one
  have other : expr.isKey keys = false := by
    refine Bool.eq_false_iff.mpr fun found => not_noNaN_nan ?_
    have free := noNaN_of_isKey found
    cases expr with
    | conj exprs | disj exprs =>
        cases connects
        rw [NoNaN, postorder, noNaNAmong_node rfl, noNaNAmong_all] at free
        exact free nan mem
    | _ => cases connects
  intro operands' connects
  cases expr with
  | conj exprs | disj exprs =>
      cases connects
      simp only [isGrouped, other, Bool.false_or] at grouped
      exact allGrouped_iff.mp grouped
  | _ => cases connects

/-- A connective adds an operand to those of a conjunction or a disjunction. -/
theorem exists_merged {expr other : Expr} {operands : List Expr}
    (connects : expr.operands? = some operands) (simple : other.operands? = none)
    (essential : other.isTrue = false) (whole : expr.Composed keys merging .predicate)
    (added : other.Composed keys merging .predicate) :
    ∃ merged : Expr, merged.Composed keys merging .predicate ∧
      merged.operands? = some (operands ++ [other]) := by
  cases expr with
  | conj exprs =>
      cases connects
      refine ⟨_, .and whole added, ?_⟩
      unfold Expr.and
      rw [essential]
      cases other <;> first | rfl | cases simple
  | disj exprs =>
      cases connects
      refine ⟨_, .or whole added, ?_⟩
      cases other <;> first | rfl | cases simple
  | _ => cases connects

/-- If everything passes that is built from keys, then the keys do. -/
theorem passes_of_composed
    (passes : ∀ expr : Expr, expr.Composed keys merging .value →
      expr.isGrouped (keys.map Item.expr) = true)
    {key : Item} (mem : key ∈ keys) : key.expr.Passes (keys.map Item.expr) merging .value where
  grouped := passes _ (composed_of_mem mem)
  operands usable operands connects operand inside := by
    have allowed : merging = true := usable.resolve_left nofun
    -- the key is merged with a NaN, so that the check has to look at its operands
    have added : nan.Composed keys merging .predicate := .asPredicate (.inl rfl) (.literal _)
    obtain ⟨merged, composed, connects'⟩ := exists_merged connects rfl rfl
      (.asPredicate (.inr allowed) (composed_of_mem mem)) added
    have grouped := passes merged (.asValue composed)
    exact operandsGrouped_of_nan connects' (List.mem_append_right _ (List.mem_singleton_self nan))
      grouped _ connects' operand (List.mem_append_left _ inside)

/-- A key without a NaN in it passes, unless it is a conjunction or a disjunction that a connective
may merge. -/
theorem passes_of_noNaN {key : Item} (mem : key ∈ keys) (free : key.expr.NoNaN)
    (unmerged : merging = true → key.expr.operands? = none) :
    key.expr.Passes (keys.map Item.expr) merging .value where
  grouped := isGrouped_of_isKey ((isKey_iff_noNaN (List.mem_map_of_mem mem)).mpr free)
  operands usable operands connects := by
    rw [unmerged (usable.resolve_left nofun)] at connects
    cases connects

end Expr

/-! ## Plans -/

variable {keys : List Item} {merging : Bool}

/-- A plan passes the check if every projected item does. -/
theorem Plan.checkGrouping_of_grouped {plan : Plan}
    (grouped : ∀ item ∈ plan.projection, item.expr.isGrouped plan.groupBy = true) :
    plan.checkGrouping = .ok () := by
  have none : plan.projection.findIdx? (fun item => !item.expr.isGrouped plan.groupBy) = none :=
    List.findIdx?_eq_none_iff.mpr fun item mem => by rw [grouped item mem, Bool.not_true]
  unfold checkGrouping
  rw [none]
  split <;> rfl

/-- Every plan passes that projects what is built from its keys exactly if the keys do. -/
theorem Plan.checkGrouping_iff_passes :
    (∀ plan : Plan, plan.groupBy = keys.map Item.expr →
      (∀ item ∈ plan.projection, item.expr.Composed keys merging .value) →
        plan.checkGrouping = .ok ()) ↔
      ∀ key ∈ keys, key.expr.Passes (keys.map Item.expr) merging .value := by
  constructor
  · intro checks key mem
    refine Expr.passes_of_composed (fun expr composed => ?_) mem
    -- a plan that projects nothing else
    have passed := checks
      { source := ⟨"", "", baseAlias, none⟩, joins := [], filter := none
        projection := [⟨expr, .null⟩], groupBy := keys.map Item.expr, having := none
        orderBy := [], window := none, arms := [] } rfl
      (List.forall_mem_singleton.mpr composed)
    refine Plan.isGrouped_of_checkGrouping passed ?_ _ (List.mem_singleton_self _)
    simp [Plan.isGrouped, List.ne_nil_of_mem mem]
  · intro keysPass plan groupBy composed
    refine checkGrouping_of_grouped fun item mem => ?_
    rw [groupBy]
    exact ((composed item mem).passes keysPass).grouped

/-! ## Compilation -/

/-- A computation does not fail because an item is not grouped. -/
def Result.AllGrouped {α : Type} (result : Result α) : Prop :=
  ∀ position entity, result ≠ fail (.invalidProjection (.ungroupedItem position entity))

namespace Result

variable {α β : Type}

theorem allGrouped_ok (value : α) : AllGrouped (.ok value) := nofun

theorem allGrouped_fail {cause : Cause}
    (other : ∀ position entity, cause ≠ .invalidProjection (.ungroupedItem position entity)) :
    AllGrouped (fail cause : Result α) := by
  intro position entity failed
  exact other position entity (congrArg Error.cause (Except.error.inj failed))

theorem AllGrouped.bind {result : Result α} {next : α → Result β} (first : result.AllGrouped)
    (rest : ∀ value, result = .ok value → (next value).AllGrouped) :
    AllGrouped (result >>= next) := by
  intro position entity failed
  rcases Result.bind_eq_error.mp failed with failed | ⟨value, answered, failed⟩
  · exact first position entity failed
  · exact rest value answered position entity failed

end Result

private theorem Schema.allGrouped_resolve (schema : Schema) (name : String) :
    (schema.resolve name).AllGrouped := by
  unfold resolve
  split
  · exact Result.allGrouped_fail nofun
  · exact Result.allGrouped_ok _

private theorem allGrouped_projectionOf (entity : Entity) (projection : Option (List Item)) :
    (projectionOf entity projection).AllGrouped := by
  unfold projectionOf
  split
  · exact Result.allGrouped_ok _
  · exact Result.allGrouped_fail nofun
  · exact Result.allGrouped_ok _

private theorem Join.allGrouped_keepAllAlive (schema : Schema) (joins : List Join) :
    (Join.keepAllAlive schema joins).AllGrouped := by
  induction joins with
  | nil => exact Result.allGrouped_ok _
  | cons join rest ih =>
      refine Result.AllGrouped.bind ?_ fun first _ => ih.bind fun others _ => Result.allGrouped_ok _
      unfold keepAlive
      split
      · exact Result.allGrouped_ok _
      · refine (schema.allGrouped_resolve _).bind fun target _ => ?_
        split <;> exact Result.allGrouped_ok _

/-- Only the check of the projected items fails because one is not grouped. -/
theorem Clauses.allGrouped_compile {clauses : Clauses} {context : Context} {items : List Item}
    {grouping : Grouping}
    (grouped : ∀ item ∈ items, item.expr.isGrouped grouping.keys = true) :
    (clauses.compile context (some items) (some grouping)).AllGrouped := by
  unfold compile
  refine (context.schema.allGrouped_resolve _).bind fun entity _ => ?_
  refine (allGrouped_projectionOf entity _).bind fun projected found => ?_
  refine Result.AllGrouped.bind ?_ fun joins _ => ?_
  · unfold planJoins
    split
    · exact Join.allGrouped_keepAllAlive _ _
    · exact Result.allGrouped_ok _
  -- an empty projection was refused one step earlier
  have same : projected = items := by
    cases items with
    | nil => cases found
    | cons first rest => exact (Except.ok.inj found).symm
  subst same
  refine Result.AllGrouped.bind ?_ fun _ _ => ?_
  · unfold Plan.checkAliases
    split
    · exact Result.allGrouped_fail nofun
    · exact Result.allGrouped_ok _
  · rw [Plan.checkGrouping_of_grouped grouped]
    exact Result.allGrouped_ok _

/-- A key is found among the keys exactly if there is no NaN in it.  Every plan passes the check of
its groups that projects what is built from its keys exactly if every key passes; and a key passes
if there is no NaN in it, unless it is a conjunction or a disjunction that a connective may merge.
A query that projects what is built from keys that pass is not refused for that when it compiles. -/
theorem Clauses.composed_projectable (keys : List Item) (merging : Bool) :
    (∀ key ∈ keys, key.expr.isKey (keys.map Item.expr) = true ↔ key.expr.NoNaN) ∧
    ((∀ plan : Plan, plan.groupBy = keys.map Item.expr →
        (∀ item ∈ plan.projection, item.expr.Composed keys merging .value) →
          plan.checkGrouping = .ok ()) ↔
      ∀ key ∈ keys, key.expr.Passes (keys.map Item.expr) merging .value) ∧
    (∀ key ∈ keys, key.expr.NoNaN → (merging = true → key.expr.operands? = none) →
      key.expr.Passes (keys.map Item.expr) merging .value) ∧
    ((∀ key ∈ keys, key.expr.Passes (keys.map Item.expr) merging .value) →
      ∀ (clauses : Clauses) (context : Context) (items : List Item) (having : List Expr)
        (position : Nat) (entity : String),
        (∀ item ∈ items, item.expr.Composed keys merging .value) →
          clauses.compile context (some items) (some ⟨keys.map Item.expr, having⟩) ≠
            fail (.invalidProjection (.ungroupedItem position entity))) := by
  refine ⟨?_, Plan.checkGrouping_iff_passes, ?_, ?_⟩
  · exact fun key mem => Expr.isKey_iff_noNaN (List.mem_map_of_mem mem)
  · exact fun key mem free unmerged => Expr.passes_of_noNaN mem free unmerged
  · intro keysPass clauses context items having position entity composed
    have grouped : ∀ item ∈ items, item.expr.isGrouped (keys.map Item.expr) = true :=
      fun item mem => ((composed item mem).passes keysPass).grouped
    have spared : Result.AllGrouped
        (clauses.compile context (some items) (some ⟨keys.map Item.expr, having⟩)) :=
      allGrouped_compile grouped
    exact spared position entity

namespace Example

/-- Whether blogs have a given score. -/
def scoreIs (score : Binary64) : Item :=
  ⟨.equals (.column (.local baseAlias 4)) (.value (.float score)), .bool⟩

/-- The blogs grouped by that, and whether it is so for each group. -/
def scoredBlogs (score : Binary64) : Result Plan :=
  Clauses.initial.compile (.start ⟨entities⟩ .standard [] "Blog") (some [scoreIs score])
    (some ⟨[(scoreIs score).expr], []⟩)

/-- The column of the score is no key, so that all depends on whether the key is found. -/
theorem isGrouped_scoreIs (score : Binary64) :
    (scoreIs score).expr.isGrouped [(scoreIs score).expr] = !score.isNaN := by
  simp [scoreIs, Expr.equals, Expr.isGrouped, Expr.isKey, Expr.same, ColumnRef.same, Value.equal,
    Binary64.numericEq]

/-- With a number for a score, all that is built from the key can be projected.  With a NaN not even
the key can, and the query is refused. -/
theorem composed_projectable_scores :
    (∀ plan : Plan, plan.groupBy = [(scoreIs ⟨0x3FE0000000000000⟩).expr] →
      (∀ item ∈ plan.projection,
        item.expr.Composed [scoreIs ⟨0x3FE0000000000000⟩] true .value) →
          plan.checkGrouping = .ok ()) ∧
      (¬ ∀ plan : Plan, plan.groupBy = [(scoreIs ⟨0x7FF8000000000000⟩).expr] →
        (∀ item ∈ plan.projection,
          item.expr.Composed [scoreIs ⟨0x7FF8000000000000⟩] true .value) →
            plan.checkGrouping = .ok ()) ∧
      scoredBlogs ⟨0x7FF8000000000000⟩ = fail (.invalidProjection (.ungroupedItem 0 "Blog")) := by
  obtain ⟨-, number, -, -⟩ := Clauses.composed_projectable [scoreIs ⟨0x3FE0000000000000⟩] true
  obtain ⟨-, other, -, -⟩ := Clauses.composed_projectable [scoreIs ⟨0x7FF8000000000000⟩] true
  refine ⟨number.mpr ?_, fun checks => ?_, by with_unfolding_all rfl⟩
  · exact List.forall_mem_singleton.mpr ⟨isGrouped_scoreIs _, fun _ => nofun⟩
  · have grouped := (other.mp checks _ (List.mem_singleton_self _)).grouped
    rw [List.map_singleton, isGrouped_scoreIs] at grouped
    exact absurd grouped (by decide)

end Example

end TrackedQuery
