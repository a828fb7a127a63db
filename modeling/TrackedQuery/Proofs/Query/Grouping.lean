import TrackedQuery.Example
import TrackedQuery.Proofs.Plan.Alike
import TrackedQuery.Proofs.Plan.Same
import TrackedQuery.Proofs.Query.Meaning

/-!
# What grouped queries project

A grouped query may project only what has one value for each group.  The check finds this out from
the shape of an expression: keys, aggregates and literals have, and so has what is built from such.
It does not look into nested plans, and these may read columns of the row around them.  So what is
projected is constant on a group as far as the columns that nested plans read are, and a test for
rows of a nested plan that reads a column which is no key is not (`Clauses.constantOn_of_compile`).

## Strategy

* `Environment.SameGroup`: two rows of a group.  A nested plan yields the same on both if they do
  not differ in a column that it reads.
* `Environment.SameGroup.agrees`: induction on what the check looks at.  Keys are
  recognised by structural equality, so that they agree up to the sign of zeros.
* `Environment.marking`: rows that differ in one column, and nested plans that tell them apart.
-/

namespace TrackedQuery

/-! ## Columns that nested plans read -/

/-- The columns that a nested plan reads of the row around it, as they are written outside of it. -/
def Plan.correlatedColumns (plan : Plan) : List ColumnRef :=
  (reads (plan.visits 1)).filterMap fun (depth, nesting, table, column) =>
    if nesting = depth then some (.local table column) else none

private theorem Plan.correlatedColumns_eq_of_same {left right : Plan}
    (same : left.same right = true) :
    left.correlatedColumns = right.correlatedColumns := by
  unfold correlatedColumns
  rw [readAlike_of_same.plans same 1]

/-- What is read of the row around a plan is written as a column of that row. -/
theorem Plan.local_of_mem_correlatedColumns {plan : Plan} {ref : ColumnRef}
    (mem : ref ∈ plan.correlatedColumns) : ∃ table column, ref = .local table column := by
  obtain ⟨⟨depth, nesting, table, column⟩, -, found⟩ := List.mem_filterMap.mp mem
  dsimp only at found
  split at found
  · cases found
    exact ⟨table, column, rfl⟩
  · cases found

mutual

/-- The columns that nested plans in an expression read of the row around them, except those in
grouping keys and in aggregates. -/
def Expr.nestedColumns (keys : List Expr) (expr : Expr) : List ColumnRef :=
  if expr.isKey keys then []
  else
    match expr with
    | .value _ | .column _ | .aggregate _ _ _ => []
    | .compare _ lhs rhs => lhs.nestedColumns keys ++ rhs.nestedColumns keys
    | .conj operands | .disj operands => Expr.allNestedColumns keys operands
    | .neg operand | .like operand _ _ | .isNull operand _ => operand.nestedColumns keys
    | .inList operand items _ => operand.nestedColumns keys ++ Expr.allNestedColumns keys items
    | .cases branches otherwise =>
        Branch.allNestedColumns keys branches ++ otherwise.nestedColumns keys
    | .anyRow plan _ => plan.correlatedColumns
    | .inQuery operand plan _ => operand.nestedColumns keys ++ plan.correlatedColumns

/-- `Expr.nestedColumns` of every expression. -/
def Expr.allNestedColumns (keys : List Expr) : List Expr → List ColumnRef
  | [] => []
  | expr :: rest => expr.nestedColumns keys ++ Expr.allNestedColumns keys rest

/-- `Expr.nestedColumns` of both parts of every branch. -/
def Branch.allNestedColumns (keys : List Expr) : List Branch → List ColumnRef
  | [] => []
  | ⟨condition, result⟩ :: rest =>
      condition.nestedColumns keys ++ result.nestedColumns keys
        ++ Branch.allNestedColumns keys rest

end

/-- The nested plan that an expression asks about. -/
def Expr.subquery? : Expr → Option Plan
  | .anyRow plan _ | .inQuery _ plan _ => some plan
  | _ => none

/-! ## Rows of a group -/

namespace Environment

/-- The columns are alike on both rows. -/
abbrev ReadsAlike (env env' : Environment) (refs : List ColumnRef) : Prop :=
  ∀ ref ∈ refs, env.Agree env' (.column ref) (.column ref)

/-- Two rows of one group: every key has the same value on both, and so has every aggregate.  What a
nested plan yields depends on the columns that it reads of the row around it, and the rows of the
queries further out are the same. -/
structure SameGroup (keys : List Expr) (env env' : Environment) : Prop
    extends env.SameRules env' where
  keys : ∀ key ∈ keys, env.Agree env' key key
  outer : ∀ nesting table column,
    env.column (nesting + 1) table column = env'.column (nesting + 1) table column
  anyRow : ∀ plan : Plan, env.ReadsAlike env' plan.correlatedColumns →
    env.anyRow plan = env'.anyRow plan
  member : ∀ plan : Plan, env.ReadsAlike env' plan.correlatedColumns →
    ∀ value, env.member value plan = env'.member value plan

end Environment

/-- An expression has one value on all rows of a group. -/
def Expr.ConstantOn (keys : List Expr) (expr : Expr) : Prop :=
  ∀ env env' : Environment, env.Regular → env'.Regular → env.SameGroup keys env' →
    env.Agree env' expr expr

namespace Environment.SameGroup

variable {env env' : Environment} {keys : List Expr}

/-- A key has the same value on both rows, also where it is written differently. -/
theorem agree_of_isKey (group : env.SameGroup keys env') (regular : env.Regular)
    (regular' : env'.Regular) {expr : Expr} (isKey : expr.isKey keys = true) :
    env.Agree env' expr expr := by
  obtain ⟨key, mem, same⟩ := List.any_eq_true.mp isKey
  have here : (key.eval env).Alike (expr.eval env) := regular.agree_of_same.exprs same
  have there : (key.eval env').Alike (expr.eval env') := regular'.agree_of_same.exprs same
  exact here.symm.trans ((group.keys key mem).trans there)

/-- If the check lets an expression pass, then it has the same value on both rows, as long as the
columns that nested plans read have. -/
def Agrees (keys : List Expr) (env env' : Environment) (expr : Expr) : Prop :=
  expr.isGrouped keys = true → ReadsAlike env env' (expr.nestedColumns keys) →
    env.Agree env' expr expr

/-- Keys need no look inside, whatever they are. -/
theorem agrees_unless_key (group : env.SameGroup keys env') (regular : env.Regular)
    (regular' : env'.Regular) {expr : Expr}
    (inside : expr.isKey keys = false → Agrees keys env env' expr) : Agrees keys env env' expr := by
  cases isKey : expr.isKey keys with
  | true => exact fun _ _ => group.agree_of_isKey regular regular' isKey
  | false => exact inside isKey

private theorem agree_of_allGrouped {operands : List Expr}
    (each : ∀ operand ∈ operands, Agrees keys env env' operand)
    (grouped : Expr.allGrouped keys operands = true)
    (alike : ReadsAlike env env' (Expr.allNestedColumns keys operands)) :
    List.Forall₂ (env.Agree env') operands operands := by
  induction operands with
  | nil => exact .nil
  | cons operand rest ih =>
      rw [Expr.allGrouped, Bool.and_eq_true] at grouped
      rw [Expr.allNestedColumns, ReadsAlike, List.forall_mem_append] at alike
      obtain ⟨first, others⟩ := List.forall_mem_cons.mp each
      exact .cons (first grouped.1 alike.1) (ih others grouped.2 alike.2)

private theorem agree_of_branchesGrouped {branches : List Branch}
    (each : ∀ branch ∈ branches, Agrees keys env env' branch.condition ∧
      Agrees keys env env' branch.result)
    (grouped : Branch.allGrouped keys branches = true)
    (alike : ReadsAlike env env' (Branch.allNestedColumns keys branches)) :
    List.Forall₂ (env.AgreeOn env') branches branches := by
  induction branches with
  | nil => exact .nil
  | cons branch rest ih =>
      obtain ⟨condition, result⟩ := branch
      simp only [Branch.allGrouped, Bool.and_eq_true] at grouped
      simp only [Branch.allNestedColumns, ReadsAlike, List.forall_mem_append] at alike
      obtain ⟨first, others⟩ := List.forall_mem_cons.mp each
      exact .cons ⟨first.1 grouped.1.1 alike.1.1, first.2 grouped.1.2 alike.1.2⟩
        (ih others grouped.2 alike.2)

theorem agrees (group : env.SameGroup keys env') (regular : env.Regular)
    (regular' : env'.Regular) :
    NestedInduction (Agrees keys env env') (fun _ => True) where
  -- a key is settled first; the check looks inside of what is none
  value literal _ _ := by
    rw [Agree, Expr.eval, Expr.eval]
    exact .refl _
  column ref := group.agrees_unless_key regular regular' fun key grouped _ => by
    simp [Expr.isGrouped, key] at grouped
  compare op lhs rhs left right :=
    group.agrees_unless_key regular regular' fun key grouped alike => by
      simp only [Expr.isGrouped, key, Bool.false_or, Bool.and_eq_true] at grouped
      simp only [Expr.nestedColumns, key, Bool.false_eq_true, if_false, List.forall_mem_append,
        ReadsAlike] at alike
      exact .compare regular group.toSameRules op (left grouped.1 alike.1) (right grouped.2 alike.2)
  conj operands each := group.agrees_unless_key regular regular' fun key grouped alike => by
    simp only [Expr.isGrouped, key, Bool.false_or] at grouped
    simp only [Expr.nestedColumns, key, Bool.false_eq_true, if_false] at alike
    exact .conj (agree_of_allGrouped each grouped alike)
  disj operands each := group.agrees_unless_key regular regular' fun key grouped alike => by
    simp only [Expr.isGrouped, key, Bool.false_or] at grouped
    simp only [Expr.nestedColumns, key, Bool.false_eq_true, if_false] at alike
    exact .disj (agree_of_allGrouped each grouped alike)
  neg operand agree := group.agrees_unless_key regular regular' fun key grouped alike => by
    simp only [Expr.isGrouped, key, Bool.false_or] at grouped
    simp only [Expr.nestedColumns, key, Bool.false_eq_true, if_false] at alike
    exact .neg (agree grouped alike)
  inList operand items negated agree each :=
    group.agrees_unless_key regular regular' fun key grouped alike => by
      simp only [Expr.isGrouped, key, Bool.false_or, Bool.and_eq_true] at grouped
      simp only [Expr.nestedColumns, key, Bool.false_eq_true, if_false, List.forall_mem_append,
        ReadsAlike] at alike
      exact .inList regular group.toSameRules negated (agree grouped.1 alike.1)
        (agree_of_allGrouped each grouped.2 alike.2)
  like operand pattern negated agree :=
    group.agrees_unless_key regular regular' fun key grouped alike => by
      simp only [Expr.isGrouped, key, Bool.false_or] at grouped
      simp only [Expr.nestedColumns, key, Bool.false_eq_true, if_false] at alike
      exact .like regular group.toSameRules pattern negated (agree grouped alike)
  isNull operand negated agree :=
    group.agrees_unless_key regular regular' fun key grouped alike => by
      simp only [Expr.isGrouped, key, Bool.false_or] at grouped
      simp only [Expr.nestedColumns, key, Bool.false_eq_true, if_false] at alike
      exact .isNull negated (agree grouped alike)
  -- whatever the argument reads, an aggregate has one value for each group
  aggregate function argument distinct _ _ _ := by
    rw [Agree, Expr.eval, Expr.eval, group.aggregate]
    exact .refl _
  cases branches otherwise each agree :=
    group.agrees_unless_key regular regular' fun key grouped alike => by
      simp only [Expr.isGrouped, key, Bool.false_or, Bool.and_eq_true] at grouped
      simp only [Expr.nestedColumns, key, Bool.false_eq_true, if_false, List.forall_mem_append,
        ReadsAlike] at alike
      exact .cases (agree_of_branchesGrouped each grouped.1 alike.1) (agree grouped.2 alike.2)
  -- the check lets nested plans pass unread, so what they read must be alike
  anyRow plan negated _ := group.agrees_unless_key regular regular' fun key _ alike => by
    simp only [Expr.nestedColumns, key, Bool.false_eq_true, if_false] at alike
    exact .anyRow negated (group.anyRow plan alike)
  inQuery operand plan negated agree _ :=
    group.agrees_unless_key regular regular' fun key grouped alike => by
      simp only [Expr.isGrouped, key, Bool.false_or] at grouped
      simp only [Expr.nestedColumns, key, Bool.false_eq_true, if_false, List.forall_mem_append,
        ReadsAlike] at alike
      refine .inQuery negated ?_
      rw [regular.member plan (agree grouped alike.1), group.member plan alike.2]
  plan _ _ := trivial

end Environment.SameGroup

/-! ## Rows that a nested plan tells apart -/

namespace Environment

/-- A row that may have a mark in one column.  A nested plan that reads the column has rows, and has
every value among them, only if there is no mark. -/
def marking (table : Alias) (column : Nat) (marked : Bool) : Environment where
  column nesting table' column' :=
    if marked = true ∧ nesting = 0 ∧ table' = table ∧ column' = column then .bool true else .null
  compare _ _ _ := false
  like _ _ := false
  aggregate _ _ _ := .null
  anyRow plan := !(marked && decide (.local table column ∈ plan.correlatedColumns))
  member _ plan := some !(marked && decide (.local table column ∈ plan.correlatedColumns))

private theorem regular_marking (table : Alias) (column : Nat) (marked : Bool) :
    (marking table column marked).Regular where
  compare _ _ _ _ _ _ _ := rfl
  like _ _ _ _ := rfl
  aggregate _ _ _ _ _ := .refl _
  anyRow same := by simp only [marking, Plan.correlatedColumns_eq_of_same same]
  member _ _ _ _ := rfl
  memberOfSame _ _ _ same := by simp only [marking, Plan.correlatedColumns_eq_of_same same]

variable {table : Alias} {column : Nat}

/-- The marked column has different values on the two rows. -/
theorem not_mem_of_readsAlike {refs : List ColumnRef}
    (agree : ReadsAlike (marking table column false) (marking table column true) refs) :
    .local table column ∉ refs := by
  intro mem
  have alike := agree _ mem
  simp [Agree, Expr.eval, marking, ColumnRef.local, Value.Alike, Value.canonical] at alike

/-- Rows that differ in a column that is no key are in one group. -/
theorem sameGroup_marking {keys : List Expr}
    (columns : ∀ key ∈ keys, ∃ ref, key = .column ref)
    (other : Expr.isKey keys (.column (.local table column)) = false) :
    (marking table column false).SameGroup keys (marking table column true) where
  compare := rfl
  like := rfl
  aggregate := rfl
  keys key mem := by
    obtain ⟨ref, rfl⟩ := columns key mem
    have differs : ¬ Expr.same (.column ref) (.column (.local table column)) = true :=
      List.any_eq_false.mp other _ mem
    -- two rows that differ in a column outside the keys agree on every key
    have elsewhere : ¬ (ref.nesting = 0 ∧ ref.table = table ∧ ref.column = column) := by
      rintro ⟨nesting, rfl, rfl⟩
      simp [Expr.same, ColumnRef.same, ColumnRef.local, nesting] at differs
    rw [Agree, Expr.eval, Expr.eval]
    simp only [marking, elsewhere, and_false, if_false]
    exact .refl _
  outer nesting table' column' := by simp [marking]
  anyRow plan agree := by
    have unread := not_mem_of_readsAlike agree
    simp [marking, unread]
  member plan agree value := by
    have unread := not_mem_of_readsAlike agree
    simp [marking, unread]

end Environment

/-- A test for rows or membership whose nested plan reads a column that is no key is not constant on
a group. -/
theorem Expr.isKey_of_constantOn {keys : List Expr}
    (columns : ∀ key ∈ keys, ∃ column, key = .column column) {expr : Expr} {nested : Plan}
    (tests : expr.subquery? = some nested) (constant : expr.ConstantOn keys) :
    ∀ ref ∈ nested.correlatedColumns, Expr.isKey keys (.column ref) = true := by
  intro ref mem
  obtain ⟨table, column, rfl⟩ := Plan.local_of_mem_correlatedColumns mem
  by_contra other
  rw [Bool.not_eq_true] at other
  -- with a mark in that column the nested plan has other rows, and no key changes
  have agree := constant _ _ (Environment.regular_marking table column false)
    (Environment.regular_marking table column true) (Environment.sameGroup_marking columns other)
  cases expr with
  | anyRow plan negated =>
      cases tests
      cases negated <;>
        simp [Environment.Agree, eval, Environment.marking, mem, Value.Alike, Truth.unless,
          Truth.not, Value.ofTruth, Value.canonical] at agree
  | inQuery operand plan negated =>
      cases tests
      cases negated <;>
        simp [Environment.Agree, eval, Environment.marking, mem, Value.Alike, Truth.unless,
          Truth.not, Value.ofTruth, Value.canonical] at agree
  | _ => cases tests

/-! ## Plans that compile -/

theorem Plan.isGrouped_of_checkGrouping {plan : Plan} (checked : plan.checkGrouping = .ok ())
    (grouped : plan.isGrouped = true) :
    ∀ item ∈ plan.projection, item.expr.isGrouped plan.groupBy = true := by
  unfold checkGrouping at checked
  rw [if_pos grouped] at checked
  split at checked
  · cases checked
  · next none =>
      intro item mem
      simpa using List.findIdx?_eq_none_iff.mp none item mem

/-- Every projected item of a grouped plan has passed the check. -/
theorem Clauses.isGrouped_of_compile {clauses : Clauses} {context : Context}
    {projection : Option (List Item)} {grouping : Option Grouping} {plan : Plan}
    (compiled : clauses.compile context projection grouping = .ok plan)
    (grouped : plan.isGrouped = true) :
    ∀ item ∈ plan.projection, item.expr.isGrouped plan.groupBy = true := by
  obtain ⟨entity, -, compiled⟩ := Result.bind_eq_ok.mp compiled
  obtain ⟨items, -, compiled⟩ := Result.bind_eq_ok.mp compiled
  obtain ⟨joins, -, compiled⟩ := Result.bind_eq_ok.mp compiled
  obtain ⟨_, -, compiled⟩ := Result.bind_eq_ok.mp compiled
  obtain ⟨_, checked, compiled⟩ := Result.bind_eq_ok.mp compiled
  cases compiled
  exact Plan.isGrouped_of_checkGrouping checked grouped

/-- What a grouped query projects that compiles is constant on a group, as far as the columns are
that its nested plans read of the row: entirely, if these are keys.  A test for rows or membership
is constant only if they are, given that the keys are columns. -/
theorem Clauses.constantOn_of_compile {clauses : Clauses} {context : Context}
    {projection : Option (List Item)} {grouping : Grouping} {plan : Plan}
    (compiled : clauses.compile context projection (some grouping) = .ok plan)
    (keyed : grouping.keys ≠ []) :
    plan.groupBy = grouping.keys ∧ ∀ item ∈ plan.projection,
      (∀ env env' : Environment, env.Regular → env'.Regular → env.SameGroup grouping.keys env' →
        env.ReadsAlike env' (item.expr.nestedColumns grouping.keys) →
          env.Agree env' item.expr item.expr) ∧
      ((∀ ref ∈ item.expr.nestedColumns grouping.keys,
          Expr.isKey grouping.keys (.column ref) = true) →
        item.expr.ConstantOn grouping.keys) ∧
      ((∀ key ∈ grouping.keys, ∃ ref, key = .column ref) →
        ∀ nested, item.expr.subquery? = some nested → item.expr.ConstantOn grouping.keys →
          ∀ ref ∈ nested.correlatedColumns, Expr.isKey grouping.keys (.column ref) = true) := by
  have keys : plan.groupBy = grouping.keys := by
    obtain ⟨_, _, _, -, -, -, rfl⟩ := Clauses.compile_eq_ok compiled
    rfl
  have grouped : plan.isGrouped = true := by simp [Plan.isGrouped, keys, keyed]
  refine ⟨keys, fun item mem => ?_⟩
  have passed := isGrouped_of_compile compiled grouped item mem
  rw [keys] at passed
  refine ⟨?_, ?_, ?_⟩
  · -- only what a nested plan reads from the group is left open; compiling never looked at it
    intro env env' regular regular' group alike
    exact (group.agrees regular regular').expr item.expr passed alike
  · intro nested env env' regular regular' group
    refine (group.agrees regular regular').expr item.expr passed fun ref mem => ?_
    exact group.agree_of_isKey regular regular' (nested ref mem)
  · exact fun columns nested tests constant => Expr.isKey_of_constantOn columns tests constant

namespace Example

/-- The comments on the blog of the row around them. -/
def commentsOnBlog : Plan :=
  { source := ⟨"Comment", "comment", baseAlias, none⟩
    joins := []
    filter := some (.equals (.column (.local baseAlias 1)) (.column ⟨1, baseAlias, 0, none⟩))
    projection := comment.baseItems
    groupBy := []
    having := none
    orderBy := []
    window := none
    arms := [] }

/-- The query that asks, for each topic, whether there are comments on a blog. -/
def discussedTopics : Result Plan :=
  Clauses.initial.compile (.start ⟨entities⟩ .standard [] "Blog")
    (some [⟨.anyRow commentsOnBlog false, .bool⟩]) (some ⟨[.column (.local baseAlias 6)], []⟩)

/-- Whether there are comments on a blog is not a matter of its topic, but the query compiles. -/
theorem constantOn_of_compile_discussedTopics :
    ∃ plan, discussedTopics = .ok plan ∧
      ∃ item ∈ plan.projection, ¬ item.expr.ConstantOn plan.groupBy := by
  have compiles : discussedTopics.toOption.isSome = true := by decide +kernel
  obtain ⟨plan, compiled⟩ : ∃ plan, discussedTopics = .ok plan := by
    cases answer : discussedTopics with
    | ok plan => exact ⟨plan, rfl⟩
    | error error =>
        rw [answer] at compiles
        cases compiles
  obtain ⟨groupBy, items⟩ := Clauses.constantOn_of_compile compiled (List.cons_ne_nil _ _)
  have mem : ⟨.anyRow commentsOnBlog false, .bool⟩ ∈ plan.projection := by
    obtain ⟨_, _, _, -, projected, -, rfl⟩ := Clauses.compile_eq_ok compiled
    cases projected
    exact List.mem_singleton_self _
  refine ⟨plan, compiled, _, mem, fun constant => ?_⟩
  rw [groupBy] at constant
  have columns : ∀ key ∈ [Expr.column (.local baseAlias 6)], ∃ ref, key = .column ref :=
    List.forall_mem_singleton.mpr ⟨_, rfl⟩
  have isKey := (items _ mem).2.2 columns commentsOnBlog rfl constant (.local baseAlias 0)
    (by decide)
  exact absurd isKey (by simp [Expr.isKey, Expr.same, ColumnRef.same, ColumnRef.local])

end Example

end TrackedQuery
