import TrackedQuery.Proofs.Plan.Induction
import TrackedQuery.Query.Context

/-!
# Columns and the plans around them

A column inside nested plans is written with the number of plans to leave.  The plans around an
expression form a list of levels, innermost first, and a level knows the query that the plan comes
from and the aliases of its tables.  A column resolves when the level it leads to has its alias, and
when the query, the alias and the position are those of the handle that was read.

`Expr.Obeys` says that every column of an expression resolves, and that every plan in it satisfies a
given condition, where each nested plan adds its own level to those around it.  One definition
serves for both, because both are carried through the same construction of plans.

## Strategy

* `Expr.Obeys.mono`: what is obeyed is obeyed when the levels grow, because tables are added while a
  query is built, and when further levels are added outside.
* `Plan.Obeys.visits`: whatever a walk over an obeying plan stops at is as it should be.
-/

namespace TrackedQuery

/-! ## Levels -/

/-- What a plan is to the columns inside it. -/
structure Level where
  /-- The query that it is compiled from. -/
  query : Option ContextId
  /-- The aliases of its tables. -/
  has : Alias → Prop

/-- The level that a plan adds to those around it. -/
def Plan.level (plan : Plan) : Level := ⟨plan.source.query, fun table => plan.hasAlias table = true⟩

/-- A level that grows keeps its query and its tables. -/
def Level.Grows (level grown : Level) : Prop :=
  level.query = grown.query ∧ ∀ table, level.has table → grown.has table

/-- Levels that grow, and to which further ones may be added outside. -/
def LevelsGrow (around wider : List Level) : Prop :=
  ∀ (nesting : Nat) (level : Level), around[nesting]? = some level →
    ∃ grown, wider[nesting]? = some grown ∧ level.Grows grown

theorem Level.Grows.refl (level : Level) : level.Grows level := ⟨rfl, fun _ has => has⟩

theorem LevelsGrow.refl (around : List Level) : LevelsGrow around around :=
  fun _ level found => ⟨level, found, .refl level⟩

theorem LevelsGrow.nil (wider : List Level) : LevelsGrow [] wider := by
  intro nesting level found
  simp at found

theorem LevelsGrow.cons {level grown : Level} {around wider : List Level}
    (grows : level.Grows grown) (outside : LevelsGrow around wider) :
    LevelsGrow (level :: around) (grown :: wider) := by
  intro nesting found hfound
  cases nesting with
  | zero =>
      cases hfound
      exact ⟨grown, rfl, grows⟩
  | succ nesting => exact outside nesting found (by simpa using hfound)

/-- The column leads to a level that has its table, and if a handle was read, to the query and the
column of the handle. -/
def ColumnRef.Resolves (around : List Level) (ref : ColumnRef) : Prop :=
  ∃ level, around[ref.nesting]? = some level ∧ level.has ref.table ∧
    ∀ bound, ref.bound = some bound →
      level.query = some bound.context ∧ ref.table = bound.table ∧ ref.column = bound.column

theorem ColumnRef.Resolves.mono {around wider : List Level} {ref : ColumnRef}
    (grow : LevelsGrow around wider) (resolves : ref.Resolves around) : ref.Resolves wider := by
  obtain ⟨level, found, has, reads⟩ := resolves
  obtain ⟨grown, hgrown, query, tables⟩ := grow _ level found
  exact ⟨grown, hgrown, tables _ has, fun bound hbound => query ▸ reads bound hbound⟩

/-! ## Rules -/

/-- What is asked of the columns and the plans in an expression, and of the databases that queries
read. -/
structure Rule where
  /-- Whether every column resolves. -/
  strict : Bool
  /-- A condition on every plan. -/
  plan : Plan → Prop
  /-- A condition on what every query shares with its database. -/
  database : Schema → QueryOptions → Prop

mutual

/-- Every column and every plan in an expression is as the rule asks. -/
def Expr.Obeys (rule : Rule) (around : List Level) : Expr → Prop
  | .value _ => True
  | .column ref => rule.strict = true → ref.Resolves around
  | .compare _ lhs rhs => lhs.Obeys rule around ∧ rhs.Obeys rule around
  | .conj operands => Expr.AllObey rule around operands
  | .disj operands => Expr.AllObey rule around operands
  | .neg operand => operand.Obeys rule around
  | .inList operand items _ => operand.Obeys rule around ∧ Expr.AllObey rule around items
  | .like operand _ _ => operand.Obeys rule around
  | .isNull operand _ => operand.Obeys rule around
  | .aggregate _ argument _ => Expr.OptionObeys rule around argument
  | .cases branches otherwise => Branch.AllObey rule around branches ∧ otherwise.Obeys rule around
  | .anyRow plan _ => plan.Obeys rule around
  | .inQuery operand plan _ => operand.Obeys rule around ∧ plan.Obeys rule around

/-- `Expr.Obeys` of each expression. -/
def Expr.AllObey (rule : Rule) (around : List Level) : List Expr → Prop
  | [] => True
  | expr :: rest => expr.Obeys rule around ∧ Expr.AllObey rule around rest

/-- `Expr.Obeys` of an expression that may be absent. -/
def Expr.OptionObeys (rule : Rule) (around : List Level) : Option Expr → Prop
  | none => True
  | some expr => expr.Obeys rule around

/-- `Expr.Obeys` of both parts of a branch. -/
def Branch.Obeys (rule : Rule) (around : List Level) : Branch → Prop
  | ⟨condition, result⟩ => condition.Obeys rule around ∧ result.Obeys rule around

/-- `Branch.Obeys` of each branch. -/
def Branch.AllObey (rule : Rule) (around : List Level) : List Branch → Prop
  | [] => True
  | branch :: rest => branch.Obeys rule around ∧ Branch.AllObey rule around rest

/-- `Expr.Obeys` of a projected item. -/
def Item.Obeys (rule : Rule) (around : List Level) : Item → Prop
  | ⟨expr, _⟩ => expr.Obeys rule around

/-- `Item.Obeys` of each projected item. -/
def Item.AllObey (rule : Rule) (around : List Level) : List Item → Prop
  | [] => True
  | item :: rest => item.Obeys rule around ∧ Item.AllObey rule around rest

/-- `Expr.Obeys` of a sort key. -/
def SortKey.Obeys (rule : Rule) (around : List Level) : SortKey → Prop
  | ⟨expr, _⟩ => expr.Obeys rule around

/-- `SortKey.Obeys` of each sort key. -/
def SortKey.AllObey (rule : Rule) (around : List Level) : List SortKey → Prop
  | [] => True
  | key :: rest => key.Obeys rule around ∧ SortKey.AllObey rule around rest

/-- The condition and the nested rows of a join are as the rule asks. -/
def Join.Obeys (rule : Rule) (around : List Level) : Join → Prop
  | ⟨_, _, _, _, condition, _, rows⟩ =>
      condition.Obeys rule around ∧ Plan.OptionObeys rule around rows

/-- `Join.Obeys` of each join. -/
def Join.AllObey (rule : Rule) (around : List Level) : List Join → Prop
  | [] => True
  | join :: rest => join.Obeys rule around ∧ Join.AllObey rule around rest

/-- The plan of an arm is as the rule asks. -/
def Arm.Obeys (rule : Rule) (around : List Level) : Arm → Prop
  | ⟨_, plan⟩ => plan.Obeys rule around

/-- `Arm.Obeys` of each arm. -/
def Arm.AllObey (rule : Rule) (around : List Level) : List Arm → Prop
  | [] => True
  | arm :: rest => arm.Obeys rule around ∧ Arm.AllObey rule around rest

/-- `Plan.Obeys` of a plan that may be absent. -/
def Plan.OptionObeys (rule : Rule) (around : List Level) : Option Plan → Prop
  | none => True
  | some plan => plan.Obeys rule around

/-- A plan is as the rule asks, and so is everything inside it at one level more. -/
def Plan.Obeys (rule : Rule) (around : List Level) : Plan → Prop
  | ⟨source, joins, filter, projection, groupBy, having, orderBy, window, arms⟩ =>
      let plan : Plan :=
        ⟨source, joins, filter, projection, groupBy, having, orderBy, window, arms⟩
      rule.plan plan ∧ Join.AllObey rule (plan.level :: around) joins ∧
        Expr.OptionObeys rule (plan.level :: around) filter ∧
        Item.AllObey rule (plan.level :: around) projection ∧
        Expr.AllObey rule (plan.level :: around) groupBy ∧
        Expr.OptionObeys rule (plan.level :: around) having ∧
        SortKey.AllObey rule (plan.level :: around) orderBy ∧
        Arm.AllObey rule (plan.level :: around) arms

end

/-! ## What obeying means for parts -/

section Parts

variable {rule : Rule} {around : List Level}

theorem Expr.allObey_iff {exprs : List Expr} :
    Expr.AllObey rule around exprs ↔ ∀ expr ∈ exprs, expr.Obeys rule around := by
  induction exprs with
  | nil => simp [Expr.AllObey]
  | cons expr rest ih => simp [Expr.AllObey, ih]

theorem Expr.optionObeys_iff {option : Option Expr} :
    Expr.OptionObeys rule around option ↔ ∀ expr ∈ option, expr.Obeys rule around := by
  cases option <;> simp [Expr.OptionObeys]

theorem Plan.optionObeys_iff {option : Option Plan} :
    Plan.OptionObeys rule around option ↔ ∀ plan ∈ option, plan.Obeys rule around := by
  cases option <;> simp [Plan.OptionObeys]

theorem Branch.allObey_iff {branches : List Branch} :
    Branch.AllObey rule around branches ↔ ∀ branch ∈ branches,
      branch.condition.Obeys rule around ∧ branch.result.Obeys rule around := by
  induction branches with
  | nil => simp [Branch.AllObey]
  | cons branch rest ih =>
      cases branch
      simp [Branch.AllObey, Branch.Obeys, ih]

theorem Item.allObey_iff {items : List Item} :
    Item.AllObey rule around items ↔ ∀ item ∈ items, item.expr.Obeys rule around := by
  induction items with
  | nil => simp [Item.AllObey]
  | cons item rest ih =>
      cases item
      simp [Item.AllObey, Item.Obeys, ih]

theorem SortKey.allObey_iff {keys : List SortKey} :
    SortKey.AllObey rule around keys ↔ ∀ key ∈ keys, key.expr.Obeys rule around := by
  induction keys with
  | nil => simp [SortKey.AllObey]
  | cons key rest ih =>
      cases key
      simp [SortKey.AllObey, SortKey.Obeys, ih]

theorem Join.obeys_iff {join : Join} :
    join.Obeys rule around ↔
      join.condition.Obeys rule around ∧ ∀ rows ∈ join.rows, rows.Obeys rule around := by
  cases join
  rw [Join.Obeys, Plan.optionObeys_iff]

theorem Join.allObey_iff {joins : List Join} :
    Join.AllObey rule around joins ↔ ∀ join ∈ joins, join.Obeys rule around := by
  induction joins with
  | nil => simp [Join.AllObey]
  | cons join rest ih => simp [Join.AllObey, ih]

theorem Arm.allObey_iff {arms : List Arm} :
    Arm.AllObey rule around arms ↔ ∀ arm ∈ arms, arm.plan.Obeys rule around := by
  induction arms with
  | nil => simp [Arm.AllObey]
  | cons arm rest ih =>
      cases arm
      simp [Arm.AllObey, Arm.Obeys, ih]

/-- A plan obeys when its parts do, at one level more. -/
theorem Plan.obeys_iff {plan : Plan} :
    plan.Obeys rule around ↔ rule.plan plan ∧
      plan.Parts (Expr.Obeys rule (plan.level :: around))
        (Plan.Obeys rule (plan.level :: around)) := by
  cases plan
  simp only [Plan.Obeys, Join.allObey_iff, Join.obeys_iff, Expr.optionObeys_iff, Item.allObey_iff,
    Expr.allObey_iff, SortKey.allObey_iff, Arm.allObey_iff]
  constructor
  · rintro ⟨own, joins, filter, projection, groupBy, having, orderBy, arms⟩
    exact ⟨own, fun join mem => (joins join mem).1, fun join mem => (joins join mem).2, filter,
      projection, groupBy, having, orderBy, arms⟩
  · rintro ⟨own, conditions, rows, filter, projection, groupBy, having, orderBy, arms⟩
    exact ⟨own, fun join mem => ⟨conditions join mem, rows join mem⟩, filter, projection, groupBy,
      having, orderBy, arms⟩

end Parts

/-! ## Growing levels -/

/-- What is obeyed is obeyed when the levels grow. -/
theorem obeys_mono {rule : Rule} :
    NestedInduction
      (fun expr => ∀ {around wider : List Level}, (rule.strict = true → LevelsGrow around wider) →
        expr.Obeys rule around → expr.Obeys rule wider)
      (fun plan => ∀ {around wider : List Level}, (rule.strict = true → LevelsGrow around wider) →
        plan.Obeys rule around → plan.Obeys rule wider) where
  value _ _ _ _ _ := trivial
  column _ _ _ grow obeys strict := (obeys strict).mono (grow strict)
  compare _ _ _ lhs rhs _ _ grow obeys := ⟨lhs grow obeys.1, rhs grow obeys.2⟩
  conj _ operands _ _ grow obeys := by
    simp only [Expr.Obeys, Expr.allObey_iff] at obeys ⊢
    exact fun operand mem => operands operand mem grow (obeys operand mem)
  disj _ operands _ _ grow obeys := by
    simp only [Expr.Obeys, Expr.allObey_iff] at obeys ⊢
    exact fun operand mem => operands operand mem grow (obeys operand mem)
  neg _ operand _ _ grow obeys := operand grow obeys
  inList _ _ _ operand items _ _ grow obeys := by
    simp only [Expr.Obeys, Expr.allObey_iff] at obeys ⊢
    exact ⟨operand grow obeys.1, fun item mem => items item mem grow (obeys.2 item mem)⟩
  like _ _ _ operand _ _ grow obeys := operand grow obeys
  isNull _ _ operand _ _ grow obeys := operand grow obeys
  aggregate _ _ _ argument _ _ grow obeys := by
    simp only [Expr.Obeys, Expr.optionObeys_iff] at obeys ⊢
    exact fun operand mem => argument operand mem grow (obeys operand mem)
  cases _ _ branches otherwise _ _ grow obeys := by
    simp only [Expr.Obeys, Branch.allObey_iff] at obeys ⊢
    refine ⟨fun branch mem => ?_, otherwise grow obeys.2⟩
    exact ⟨(branches branch mem).1 grow (obeys.1 branch mem).1,
      (branches branch mem).2 grow (obeys.1 branch mem).2⟩
  anyRow _ _ plan _ _ grow obeys := plan grow obeys
  inQuery _ _ _ operand plan _ _ grow obeys := ⟨operand grow obeys.1, plan grow obeys.2⟩
  plan plan parts around wider grow obeys := by
    obtain ⟨own, inside⟩ := Plan.obeys_iff.mp obeys
    -- the plan brings its own level, which is the same on both sides
    have grow_inside := fun strict => LevelsGrow.cons (.refl plan.level) (grow strict)
    refine Plan.obeys_iff.mpr ⟨own, parts.combine inside ?_ ?_⟩
    · exact fun _ mono obeys => mono grow_inside obeys
    · exact fun _ mono obeys => mono grow_inside obeys

theorem Expr.Obeys.mono {rule : Rule} {around wider : List Level} {expr : Expr}
    (obeys : expr.Obeys rule around) (grow : rule.strict = true → LevelsGrow around wider) :
    expr.Obeys rule wider :=
  obeys_mono.expr expr grow obeys

theorem Plan.Obeys.mono {rule : Rule} {around wider : List Level} {plan : Plan}
    (obeys : plan.Obeys rule around) (grow : rule.strict = true → LevelsGrow around wider) :
    plan.Obeys rule wider :=
  obeys_mono.plans plan grow obeys

/-! ## Walks -/

/-- What a walk stops at is as the rule asks.  The levels around a column are those around the start
of the walk, and inside them one for each nested plan that the walk has entered. -/
def Visit.Obeys (rule : Rule) (depth : Nat) (around : List Level) (visit : Visit) : Prop :=
  match visit.node with
  | .plan plan => rule.plan plan
  | .expr (.column ref) => rule.strict = true → ∃ inner : List Level,
      visit.depth = depth + inner.length ∧ ref.Resolves (inner ++ around)
  | _ => True

theorem Visit.Obeys.enter {rule : Rule} {depth : Nat} {level : Level} {around : List Level}
    {visit : Visit} (obeys : visit.Obeys rule (depth + 1) (level :: around)) :
    visit.Obeys rule depth around := by
  unfold Visit.Obeys at obeys ⊢
  split
  · next plan hnode => simpa only [hnode] using obeys
  · next ref hnode =>
      simp only [hnode] at obeys
      intro strict
      obtain ⟨inner, hdepth, resolves⟩ := obeys strict
      -- the level of the plan that was entered is the outermost of the inner ones
      refine ⟨inner ++ [level], ?_, by simpa using resolves⟩
      rw [hdepth, List.length_append, List.length_singleton]
      omega
  · trivial

section Visits

variable {on : Visit → Prop} {depth : Nat}

theorem Expr.forall_visitsAll {exprs : List Expr} :
    (∀ visit ∈ Expr.visitsAll depth exprs, on visit) ↔
      ∀ expr ∈ exprs, ∀ visit ∈ expr.visits depth, on visit := by
  induction exprs with
  | nil => simp [Expr.visitsAll]
  | cons expr rest ih => rw [Expr.visitsAll, List.forall_mem_append, ih, List.forall_mem_cons]

theorem Expr.forall_visitsOption {option : Option Expr} :
    (∀ visit ∈ Expr.visitsOption depth option, on visit) ↔
      ∀ expr ∈ option, ∀ visit ∈ expr.visits depth, on visit := by
  cases option <;> simp [Expr.visitsOption]

theorem Plan.forall_visitsOption {option : Option Plan} :
    (∀ visit ∈ Plan.visitsOption depth option, on visit) ↔
      ∀ plan ∈ option, ∀ visit ∈ plan.visits depth, on visit := by
  cases option <;> simp [Plan.visitsOption]

theorem Branch.forall_visitsAll {branches : List Branch} :
    (∀ visit ∈ Branch.visitsAll depth branches, on visit) ↔ ∀ branch ∈ branches,
      (∀ visit ∈ branch.condition.visits depth, on visit) ∧
        ∀ visit ∈ branch.result.visits depth, on visit := by
  induction branches with
  | nil => simp [Branch.visitsAll]
  | cons branch rest ih =>
      cases branch
      rw [Branch.visitsAll, Branch.visits, List.forall_mem_append, List.forall_mem_append, ih,
        List.forall_mem_cons]

theorem Item.forall_visitsAll {items : List Item} :
    (∀ visit ∈ Item.visitsAll depth items, on visit) ↔
      ∀ item ∈ items, ∀ visit ∈ item.expr.visits depth, on visit := by
  induction items with
  | nil => simp [Item.visitsAll]
  | cons item rest ih =>
      cases item
      rw [Item.visitsAll, Item.visits, List.forall_mem_append, ih, List.forall_mem_cons]

theorem SortKey.forall_visitsAll {keys : List SortKey} :
    (∀ visit ∈ SortKey.visitsAll depth keys, on visit) ↔ ∀ key ∈ keys,
      on ⟨depth, .sortKey key⟩ ∧ ∀ visit ∈ key.expr.visits depth, on visit := by
  induction keys with
  | nil => simp [SortKey.visitsAll]
  | cons key rest ih =>
      cases key
      rw [SortKey.visitsAll, SortKey.visits, List.forall_mem_append, List.forall_mem_cons, ih,
        List.forall_mem_cons]

theorem Join.forall_visitsAll {joins : List Join} :
    (∀ visit ∈ Join.visitsAll depth joins, on visit) ↔ ∀ join ∈ joins,
      on ⟨depth, .join join⟩ ∧ (∀ rows ∈ join.rows, ∀ visit ∈ rows.visits (depth + 1), on visit) ∧
        ∀ visit ∈ join.condition.visits depth, on visit := by
  induction joins with
  | nil => simp [Join.visitsAll]
  | cons join rest ih =>
      cases join
      rw [Join.visitsAll, Join.visits, List.forall_mem_append, List.forall_mem_cons,
        List.forall_mem_append, Plan.forall_visitsOption, ih, List.forall_mem_cons]

theorem Arm.forall_visitsAll {arms : List Arm} :
    (∀ visit ∈ Arm.visitsAll depth arms, on visit) ↔
      ∀ arm ∈ arms, ∀ visit ∈ arm.plan.visits (depth + 1), on visit := by
  induction arms with
  | nil => simp [Arm.visitsAll]
  | cons arm rest ih =>
      cases arm
      rw [Arm.visitsAll, Arm.visits, List.forall_mem_append, ih, List.forall_mem_cons]

/-- A walk over a plan stops at the plan, at its projection, at each join and each sort key, and
wherever a walk over a part stops. -/
theorem Plan.forall_visits {plan : Plan} :
    (∀ visit ∈ plan.visits depth, on visit) ↔
      on ⟨depth, .plan plan⟩ ∧ on ⟨depth, .projection plan.projection⟩ ∧
        (∀ join ∈ plan.joins, on ⟨depth, .join join⟩) ∧
        (∀ key ∈ plan.orderBy, on ⟨depth, .sortKey key⟩) ∧
        plan.Parts (fun expr => ∀ visit ∈ expr.visits depth, on visit)
          (fun nested => ∀ visit ∈ nested.visits (depth + 1), on visit) := by
  -- the parts of a plan are visited in the order of its fields, which the conjunction follows
  cases plan
  simp only [Plan.visits, List.forall_mem_cons, List.forall_mem_append, Join.forall_visitsAll,
    Expr.forall_visitsOption, Item.forall_visitsAll, Expr.forall_visitsAll,
    SortKey.forall_visitsAll, Arm.forall_visitsAll]
  constructor
  · rintro ⟨own, ⟨⟨⟨⟨⟨⟨joins, filter⟩, projection, items⟩, groupBy⟩, having⟩, keys⟩, arms⟩⟩
    refine ⟨own, projection, fun join mem => (joins join mem).1,
      fun key mem => (keys key mem).1, ?_⟩
    exact ⟨fun join mem => (joins join mem).2.2, fun join mem => (joins join mem).2.1, filter,
      items, groupBy, having, fun key mem => (keys key mem).2, arms⟩
  · rintro ⟨own, projection, joins, keys, parts⟩
    refine ⟨own, ⟨⟨⟨⟨⟨⟨?_, parts.filter⟩, projection, parts.projection⟩, parts.groupBy⟩,
      parts.having⟩, ?_⟩, parts.arms⟩⟩
    · exact fun join mem => ⟨joins join mem, parts.rows join mem, parts.conditions join mem⟩
    · exact fun key mem => ⟨keys key mem, parts.orderBy key mem⟩

end Visits

/-- Whatever a walk over an obeying expression or plan stops at is as the rule asks. -/
theorem obeys_visits {rule : Rule} :
    NestedInduction
      (fun expr => ∀ {depth : Nat} {around : List Level}, expr.Obeys rule around →
        ∀ visit ∈ expr.visits depth, visit.Obeys rule depth around)
      (fun plan => ∀ {depth : Nat} {around : List Level}, plan.Obeys rule around →
        ∀ visit ∈ plan.visits depth, visit.Obeys rule depth (plan.level :: around)) where
  value _ _ _ _ := by simp [Expr.visits, Visit.Obeys]
  -- a column is the only node that a rule asks something of, besides plans
  column ref depth around obeys := by
    simp only [Expr.visits, List.forall_mem_singleton]
    exact fun strict => ⟨[], rfl, obeys strict⟩
  compare _ _ _ lhs rhs _ _ obeys := by
    rw [Expr.visits, List.forall_mem_cons, List.forall_mem_append]
    exact ⟨trivial, lhs obeys.1, rhs obeys.2⟩
  conj _ operands _ _ obeys := by
    rw [Expr.visits, List.forall_mem_cons, Expr.forall_visitsAll]
    exact ⟨trivial, fun operand mem => operands operand mem (Expr.allObey_iff.mp obeys operand mem)⟩
  disj _ operands _ _ obeys := by
    rw [Expr.visits, List.forall_mem_cons, Expr.forall_visitsAll]
    exact ⟨trivial, fun operand mem => operands operand mem (Expr.allObey_iff.mp obeys operand mem)⟩
  neg _ operand _ _ obeys := by
    rw [Expr.visits, List.forall_mem_cons]
    exact ⟨trivial, operand obeys⟩
  inList _ _ _ operand items _ _ obeys := by
    rw [Expr.visits, List.forall_mem_cons, List.forall_mem_append, Expr.forall_visitsAll]
    exact ⟨trivial, operand obeys.1,
      fun item mem => items item mem (Expr.allObey_iff.mp obeys.2 item mem)⟩
  like _ _ _ operand _ _ obeys := by
    rw [Expr.visits, List.forall_mem_cons]
    exact ⟨trivial, operand obeys⟩
  isNull _ _ operand _ _ obeys := by
    rw [Expr.visits, List.forall_mem_cons]
    exact ⟨trivial, operand obeys⟩
  aggregate _ _ _ argument _ _ obeys := by
    rw [Expr.visits, List.forall_mem_cons, Expr.forall_visitsOption]
    exact ⟨trivial,
      fun operand mem => argument operand mem (Expr.optionObeys_iff.mp obeys operand mem)⟩
  cases _ _ branches otherwise _ _ obeys := by
    rw [Expr.visits, List.forall_mem_cons, List.forall_mem_append, Branch.forall_visitsAll]
    refine ⟨trivial, fun branch mem => ?_, otherwise obeys.2⟩
    have parts := Branch.allObey_iff.mp obeys.1 branch mem
    exact ⟨(branches branch mem).1 parts.1, (branches branch mem).2 parts.2⟩
  anyRow _ _ plan _ _ obeys := by
    rw [Expr.visits, List.forall_mem_cons]
    exact ⟨trivial, fun visit mem => (plan obeys visit mem).enter⟩
  inQuery _ _ _ operand plan _ _ obeys := by
    rw [Expr.visits, List.forall_mem_cons, List.forall_mem_append]
    exact ⟨trivial, operand obeys.1, fun visit mem => (plan obeys.2 visit mem).enter⟩
  plan plan parts depth around obeys := by
    obtain ⟨own, inside⟩ := Plan.obeys_iff.mp obeys
    refine Plan.forall_visits.mpr
      ⟨own, trivial, fun _ _ => trivial, fun _ _ => trivial, ?_⟩
    refine parts.combine inside (fun _ visits obeys => visits obeys) ?_
    exact fun _ visits obeys visit mem => (visits obeys visit mem).enter

/-- Every plan in an obeying plan is as the rule asks. -/
theorem Plan.Obeys.plans {rule : Rule} {around : List Level} {plan : Plan}
    (obeys : plan.Obeys rule around) {depth : Nat} {nested : Plan}
    (visited : ⟨depth, .plan nested⟩ ∈ plan.visits 0) : rule.plan nested :=
  obeys_visits.plans plan obeys _ visited

/-- Under a rule that asks nothing of columns, an expression or a plan is as the rule asks when
every plan that a walk over it stops at is. -/
theorem obeys_of_visits {rule : Rule} (lax : rule.strict = false) :
    NestedInduction
      (fun expr => ∀ {depth : Nat} {around : List Level},
        (∀ visit ∈ expr.visits depth, ∀ plan, visit.node = .plan plan → rule.plan plan) →
          expr.Obeys rule around)
      (fun plan => ∀ {depth : Nat} {around : List Level},
        (∀ visit ∈ plan.visits depth, ∀ plan, visit.node = .plan plan → rule.plan plan) →
          plan.Obeys rule around) where
  value _ _ _ _ := trivial
  -- a rule that is not strict asks nothing of columns
  column _ _ _ _ strict := by simp [lax] at strict
  compare _ _ _ lhs rhs _ _ visits := by
    rw [Expr.visits, List.forall_mem_cons, List.forall_mem_append] at visits
    exact ⟨lhs visits.2.1, rhs visits.2.2⟩
  conj _ operands _ _ visits := by
    rw [Expr.visits, List.forall_mem_cons, Expr.forall_visitsAll] at visits
    exact Expr.allObey_iff.mpr fun operand mem => operands operand mem (visits.2 operand mem)
  disj _ operands _ _ visits := by
    rw [Expr.visits, List.forall_mem_cons, Expr.forall_visitsAll] at visits
    exact Expr.allObey_iff.mpr fun operand mem => operands operand mem (visits.2 operand mem)
  neg _ operand _ _ visits := by
    rw [Expr.visits, List.forall_mem_cons] at visits
    exact operand visits.2
  inList _ _ _ operand items _ _ visits := by
    rw [Expr.visits, List.forall_mem_cons, List.forall_mem_append, Expr.forall_visitsAll] at visits
    obtain ⟨-, operand_visits, item_visits⟩ := visits
    exact ⟨operand operand_visits,
      Expr.allObey_iff.mpr fun item mem => items item mem (item_visits item mem)⟩
  like _ _ _ operand _ _ visits := by
    rw [Expr.visits, List.forall_mem_cons] at visits
    exact operand visits.2
  isNull _ _ operand _ _ visits := by
    rw [Expr.visits, List.forall_mem_cons] at visits
    exact operand visits.2
  aggregate _ _ _ argument _ _ visits := by
    rw [Expr.visits, List.forall_mem_cons, Expr.forall_visitsOption] at visits
    exact Expr.optionObeys_iff.mpr fun operand mem => argument operand mem (visits.2 operand mem)
  cases _ _ branches otherwise _ _ visits := by
    rw [Expr.visits, List.forall_mem_cons, List.forall_mem_append,
      Branch.forall_visitsAll] at visits
    obtain ⟨-, branch_visits, otherwise_visits⟩ := visits
    refine ⟨Branch.allObey_iff.mpr fun branch mem => ?_, otherwise otherwise_visits⟩
    exact ⟨(branches branch mem).1 (branch_visits branch mem).1,
      (branches branch mem).2 (branch_visits branch mem).2⟩
  anyRow _ _ plan _ _ visits := by
    rw [Expr.visits, List.forall_mem_cons] at visits
    exact plan visits.2
  inQuery _ _ _ operand plan _ _ visits := by
    rw [Expr.visits, List.forall_mem_cons, List.forall_mem_append] at visits
    exact ⟨operand visits.2.1, plan visits.2.2⟩
  plan plan parts depth around visits := by
    obtain ⟨own, -, -, -, part_visits⟩ := Plan.forall_visits.mp visits
    refine Plan.obeys_iff.mpr ⟨own plan rfl, parts.combine part_visits ?_ ?_⟩
    · exact fun _ obeys visits => obeys visits
    · exact fun _ obeys visits => obeys visits

/-- The table of a column that leads out of as many plans as surround it, at the place where the
walk started. -/
theorem Visit.Obeys.ownColumn {rule : Rule} (strict : rule.strict = true) {level : Level}
    {around : List Level} {visit : Visit} (obeys : visit.Obeys rule 0 (level :: around))
    {ref : ColumnRef} (own : visit.ownColumn? = some ref) : level.has ref.table := by
  obtain ⟨depth, node⟩ := visit
  unfold Visit.ownColumn? at own
  rw [Option.filter_eq_some_iff] at own
  obtain ⟨column, nesting⟩ := own
  unfold Visit.column? at column
  split at column
  · next expr hnode =>
      unfold Expr.column? at column
      split at column
      · cases column
        simp only at hnode
        subst hnode
        obtain ⟨inner, hdepth, found, hfound, has, -⟩ := obeys strict
        -- leaving every plan that was entered ends at the level where the walk started
        have here : ref.nesting = inner.length := by
          simp only [beq_iff_eq] at nesting
          simp only at hdepth
          omega
        rw [here, List.getElem?_append_right (Nat.le_refl _), Nat.sub_self] at hfound
        cases hfound
        exact has
      · cases column
  · cases column

end TrackedQuery
