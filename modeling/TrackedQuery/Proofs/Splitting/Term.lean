import TrackedQuery.Proofs.Splitting.Recording

/-!
# Values, in step

Handles carry no slots, so reading them is the same on both sides of a seam.  A predicate carries
its slot along: a function of values takes the values as they are kept on the one side to the value
as it is on the other (`Term.Passes`).

There is one lemma for each function of values that forms are evaluated with.  A function that is
not defined on a value answers nothing, on both sides alike, because moving a slot does not change
what kind of value it is (`Term.passes_nothing`).
-/

namespace TrackedQuery

variable {seam : Seam} {site : Site} {depth : Nat}

namespace InStep

/-! ## Columns -/

section Columns

variable (column : ColumnHandle)

theorem columnToExpr : Same seam site depth column.toExpr := by
  unfold ColumnHandle.toExpr
  split
  · exact .pure rfl
  · refine .read fun recording => ?_
    rw [seam.resolveColumn_recording]
    split
    · exact .pure rfl
    · exact reportInstead _ rfl

private theorem columnToItem : Same seam site depth column.toItem :=
  (columnToExpr column).map fun _ => rfl

private theorem between {lower lower' upper upper' : SessionM TypedExpr}
    (low : InStep seam site depth lower lower' id)
    (high : InStep seam site depth upper upper' id) :
    InStep seam site depth (column.between lower upper) (column.between lower' upper')
      (Predicate.moved (seam.slotAt depth)) := by
  refine (columnToExpr column).bind fun operand => ?_
  refine low.bind fun low => high.bind fun high => ?_
  refine (checkOperand _ _ _).bind fun _ => (checkOperand _ _ _).bind fun _ => ?_
  exact record _

private theorem listItem (item : TypedExpr) : Same seam site depth (column.listItem item) :=
  (checkOperand _ _ _).map fun _ => rfl

private theorem inList (items : List Expr) (negated : Bool) :
    InStep seam site depth (column.inList items negated) (column.inList items negated)
      (Predicate.moved (seam.slotAt depth)) :=
  (columnToExpr column).bind fun _ => record _

private theorem matchText (kind : TextMatch) (text : String) :
    InStep seam site depth (column.matchText kind text) (column.matchText kind text)
      (Predicate.moved (seam.slotAt depth)) :=
  (checkOperand _ _ _).bind fun _ => (columnToExpr column).bind fun _ => record _

private theorem aggregate (function : AggregateFunction) (distinct : Bool) :
    Same seam site depth (column.aggregate function distinct) :=
  (columnToExpr column).map fun _ => rfl

end Columns

/-! ## Tables -/

section Tables

variable (table : TableHandle)

private theorem column (name : String) (scalar : Scalar) :
    Same seam site depth (table.column name scalar) := by
  unfold TableHandle.column
  split
  · exact .pure rfl
  · refine .readContext fun context => ?_
    split
    · exact .pure rfl
    · exact reportInstead _ rfl

private theorem navigate (name expected : String) :
    Same seam site depth (table.navigate name expected) := by
  unfold TableHandle.navigate
  split
  · exact .pure rfl
  · refine .readContextFrom fun shape session placed => ?_
    split
    · next error _ =>
        have reported : Same seam site depth (do
            TrackedQuery.reportError error
            return (⟨table.context, none⟩ : TableHandle)) := reportInstead error rfl
        exact reported shape session placed
    · next target context navigated =>
        refine setContextFrom placed (Context.grows_navigate navigated) ?_
        split
        · exact .pure rfl
        · exact reportInstead _ rfl

private theorem allColumns : Same seam site depth table.allColumns := by
  unfold TableHandle.allColumns
  split
  · exact .pure rfl
  · refine .read fun recording => ?_
    dsimp only
    simp only [seam.itemsFrom_recording, seam.contextAt_recording]
    split
    · exact .pure rfl
    · exact reportInstead _ rfl

end Tables

/-! ## Nested queries -/

private theorem recordResult (built : Result Expr) :
    InStep seam site depth (Predicate.recordResult built) (Predicate.recordResult built)
      (Predicate.moved (seam.slotAt depth)) := by
  cases built with
  | ok expr => exact record expr
  | error error => exact (reportError error).bind fun _ => record .null

theorem inContext (base : EntityType) (home : Option Connection) (context : Context) :
    Same seam site depth (Query.inContext base home context) := by
  have added : Same seam site depth (modifyGetThe Recording (·.addContext context)) :=
    modifyGet (fun _ => rfl) fun _ recording placed =>
      placed.of_recorders_eq rfl (recording.grows_addContext context)
  exact added.map fun _ => rfl

private theorem nestedIn (parent : ContextId) (base : EntityType) :
    Same seam site depth (Query.nestedIn parent base) :=
  .read fun _ => inContext _ _ _

theorem compile (query : Query) : Same seam site depth query.compile :=
  .readContext fun _ => .pure rfl

theorem compileProjection (query : ProjectedQuery) : Same seam site depth query.compile :=
  .readContext fun _ => .pure rfl

private theorem anyRow (table : TableHandle) (base : EntityType) (negated : Bool)
    {body : Query → SessionM (Result Query)} (nested : ∀ query, Same seam site depth (body query)) :
    InStep seam site depth (table.anyRow base negated body) (table.anyRow base negated body)
      (Predicate.moved (seam.slotAt depth)) := by
  refine .read fun recording => ?_
  rw [seam.innermostContext?_recording]
  refine (nestedIn _ base).bind fun query => (nested query).bind fun outcome => ?_
  cases outcome with
  | error error => exact recordResult _
  | ok query => exact (compile query).bind fun plan => recordResult _

private theorem inQuery (column : ColumnHandle) (base : EntityType)
    {body : Query → SessionM (Result ProjectedQuery)}
    (nested : ∀ query, Same seam site depth (body query)) :
    InStep seam site depth (column.inQuery base body) (column.inQuery base body)
      (Predicate.moved (seam.slotAt depth)) := by
  refine (columnToExpr column).bind fun operand => .read fun recording => ?_
  rw [seam.innermostContext?_recording]
  dsimp only [id]
  split
  · exact recordResult _
  · refine (nestedIn _ base).bind fun query => (nested query).bind fun outcome => ?_
    cases outcome with
    | error error => exact recordResult _
    | ok projected => exact (compileProjection projected).bind fun plan => recordResult _

end InStep

/-! ## Functions of values -/

namespace Term

/-- A function of values does the same on both sides of a seam, for values in other slots. -/
abbrev Passes (seam : Seam) (site : Site) (depth : Nat) (run run' : SessionM Term) : Prop :=
  InStep seam site depth run run' (Term.moved (seam.slotAt depth))

variable (term lhs rhs : Term)

theorem passes_nothing : Passes seam site depth (pure .nothing) (pure .nothing) := .pure rfl

theorem inStep_toExpr :
    InStep seam site depth term.toExpr (term.moved (seam.slotAt depth)).toExpr id := by
  cases term with
  | column handle => exact .columnToExpr handle
  | predicate operand => exact .detach operand
  | table | columns | expr | aggregate | reference | literal | nothing => exact .pure rfl

private theorem inStep_toItems :
    InStep seam site depth term.toItems (term.moved (seam.slotAt depth)).toItems id := by
  cases term with
  | column handle => exact (InStep.columnToItem handle).map fun _ => rfl
  | predicate operand => exact (InStep.detach operand).map fun _ => rfl
  | table | columns | expr | aggregate | reference | literal | nothing => exact .pure rfl

theorem inStep_toItemsAll (terms : List Term) :
    InStep seam site depth (toItemsAll terms)
      (toItemsAll (terms.map (Term.moved (seam.slotAt depth)))) id := by
  induction terms with
  | nil => exact .pure rfl
  | cons term rest ih => exact (inStep_toItems term).bind fun _ => ih.map fun _ => rfl

theorem inStep_view :
    InStep seam site depth term.view (term.moved (seam.slotAt depth)).view id := by
  cases term with
  | column handle => exact (InStep.columnToExpr handle).map fun _ => rfl
  | table | columns | expr | aggregate | predicate | reference | literal | nothing =>
      exact .pure rfl

theorem passes_navigate (name entity : String) :
    Passes seam site depth (term.navigate name entity)
      ((term.moved (seam.slotAt depth)).navigate name entity) := by
  cases term with
  | table handle => exact (InStep.navigate handle name entity).map fun _ => rfl
  | column | columns | expr | aggregate | predicate | reference | literal | nothing =>
      exact passes_nothing

theorem passes_column (name : String) (scalar : Scalar) :
    Passes seam site depth (term.column? name scalar)
      ((term.moved (seam.slotAt depth)).column? name scalar) := by
  cases term with
  | table handle => exact (InStep.column handle name scalar).map fun _ => rfl
  | column | columns | expr | aggregate | predicate | reference | literal | nothing =>
      exact passes_nothing

theorem passes_allColumns :
    Passes seam site depth term.allColumns (term.moved (seam.slotAt depth)).allColumns := by
  cases term with
  | table handle => exact (InStep.allColumns handle).map fun _ => rfl
  | column | columns | expr | aggregate | predicate | reference | literal | nothing =>
      exact passes_nothing

theorem passes_compare (op : CompareOp) :
    Passes seam site depth (compare op lhs rhs)
      (compare op (lhs.moved (seam.slotAt depth)) (rhs.moved (seam.slotAt depth))) := by
  refine (inStep_toExpr lhs).bind fun left => (inStep_toExpr rhs).bind fun right => ?_
  rw [subject_moved]
  exact (InStep.compare _ op left right).map fun _ => rfl

theorem passes_matchText (kind : TextMatch) (text : String) :
    Passes seam site depth (term.matchText kind text)
      ((term.moved (seam.slotAt depth)).matchText kind text) := by
  cases term with
  | column handle => exact (InStep.matchText handle kind text).map fun _ => rfl
  | table | columns | expr | aggregate | predicate | reference | literal | nothing =>
      exact passes_nothing

private theorem inStep_listItems (column : ColumnHandle) (items : List Term) :
    InStep seam site depth (listItems column items)
      (listItems column (items.map (Term.moved (seam.slotAt depth)))) id := by
  induction items with
  | nil => exact .pure rfl
  | cons item rest ih =>
      refine (inStep_toExpr item).bind fun operand => ?_
      exact (InStep.listItem column operand).bind fun _ => ih.map fun _ => rfl

theorem passes_inList (items : List Term) (negated : Bool) :
    Passes seam site depth (term.inList items negated)
      ((term.moved (seam.slotAt depth)).inList (items.map (Term.moved (seam.slotAt depth)))
        negated) := by
  cases term with
  | column handle =>
      refine (inStep_listItems handle items).bind fun exprs => ?_
      exact (InStep.inList handle exprs negated).map fun _ => rfl
  | table | columns | expr | aggregate | predicate | reference | literal | nothing =>
      exact passes_nothing

theorem passes_between (lower upper : Term) :
    Passes seam site depth (between lower upper term)
      (between (lower.moved (seam.slotAt depth)) (upper.moved (seam.slotAt depth))
        (term.moved (seam.slotAt depth))) := by
  cases term with
  | column handle =>
      exact (InStep.between handle (inStep_toExpr lower) (inStep_toExpr upper)).map fun _ => rfl
  | table | columns | expr | aggregate | predicate | reference | literal | nothing =>
      exact passes_nothing

theorem passes_isNull (negated : Bool) :
    Passes seam site depth (term.isNull negated)
      ((term.moved (seam.slotAt depth)).isNull negated) :=
  (inStep_toExpr term).bind fun _ => (InStep.record _).map fun _ => rfl

theorem passes_sortBy (direction : Direction) :
    Passes seam site depth (term.sortBy direction)
      ((term.moved (seam.slotAt depth)).sortBy direction) :=
  (inStep_toExpr term).bind fun key =>
    (InStep.sortBy direction key.expr).bind fun _ => passes_nothing

theorem passes_aggregate (function : AggregateFunction) (distinct : Bool) :
    Passes seam site depth (term.aggregate? function distinct)
      ((term.moved (seam.slotAt depth)).aggregate? function distinct) := by
  cases term with
  | column handle => exact (InStep.aggregate handle function distinct).map fun _ => rfl
  | table | columns | expr | aggregate | predicate | reference | literal | nothing =>
      exact passes_nothing

theorem passes_restrict {body : SessionM Unit} (inside : Same seam site depth body) :
    Passes seam site depth (term.restrict body)
      ((term.moved (seam.slotAt depth)).restrict body) := by
  cases term with
  | aggregate operand =>
      have restricted : Same seam site depth (operand.filter body) :=
        (InStep.recordInside (.predicates []) inside).map fun _ => rfl
      exact restricted.map fun _ => rfl
  | table | column | columns | expr | predicate | reference | literal | nothing =>
      exact passes_nothing

theorem passes_and :
    Passes seam site depth (lhs.and rhs)
      ((lhs.moved (seam.slotAt depth)).and (rhs.moved (seam.slotAt depth))) := by
  cases lhs with
  | predicate left =>
      cases rhs with
      | predicate right => exact (InStep.and left right).map fun _ => rfl
      | table | column | columns | expr | aggregate | reference | literal | nothing =>
          exact passes_nothing
  | table | column | columns | expr | aggregate | reference | literal | nothing =>
      exact passes_nothing

theorem passes_or :
    Passes seam site depth (lhs.or rhs)
      ((lhs.moved (seam.slotAt depth)).or (rhs.moved (seam.slotAt depth))) := by
  cases lhs with
  | predicate left =>
      cases rhs with
      | predicate right => exact (InStep.or left right).map fun _ => rfl
      | table | column | columns | expr | aggregate | reference | literal | nothing =>
          exact passes_nothing
  | table | column | columns | expr | aggregate | reference | literal | nothing =>
      exact passes_nothing

theorem passes_not :
    Passes seam site depth term.not (term.moved (seam.slotAt depth)).not := by
  cases term with
  | predicate operand => exact (InStep.not operand).map fun _ => rfl
  | table | column | columns | expr | aggregate | reference | literal | nothing =>
      exact passes_nothing

theorem passes_anyRow (base : EntityType) (negated : Bool)
    {body : Query → SessionM (Result Query)} (nested : ∀ query, Same seam site depth (body query)) :
    Passes seam site depth (term.anyRow base negated body)
      ((term.moved (seam.slotAt depth)).anyRow base negated body) := by
  cases term with
  | table handle => exact (InStep.anyRow handle base negated nested).map fun _ => rfl
  | column | columns | expr | aggregate | predicate | reference | literal | nothing =>
      exact passes_nothing

theorem passes_inQuery (base : EntityType) {body : Query → SessionM (Result ProjectedQuery)}
    (nested : ∀ query, Same seam site depth (body query)) :
    Passes seam site depth (term.inQuery base body)
      ((term.moved (seam.slotAt depth)).inQuery base body) := by
  cases term with
  | column handle => exact (InStep.inQuery handle base nested).map fun _ => rfl
  | table | columns | expr | aggregate | predicate | reference | literal | nothing =>
      exact passes_nothing

end Term

end TrackedQuery
