import TrackedQuery.Proofs.Session.Handle

/-!
# Functions of values

The functions of the values of forms take valid values to valid values.  Each chooses what to do by
the kind of its operand, and leaves the rest to the handle, the predicate or the aggregate.
-/

namespace TrackedQuery.Term

variable {scheme : Scheme} {start : Recording} {closure : Closure} {outer : List Closure}

/-- A function of values is run in a closure, and what it answers is valid there. -/
abbrev Kept (scheme : Scheme) (start : Recording) (closure : Closure) (outer : List Closure)
    (run : SessionM Term) : Prop :=
  Keeps scheme start (closure :: outer) run (closure :: outer)
    (fun recording term => term.ValidIn scheme.rule recording closure.context)

theorem kept_nothing : Kept scheme start closure outer (pure .nothing) := .pure trivial

/-! ## Operands and items -/

theorem keeps_toExpr {term : Term} (valid : term.ValidIn scheme.rule start closure.context) :
    Keeps scheme start (closure :: outer) term.toExpr (closure :: outer)
      (fun recording operand => operand.expr.ValidIn scheme.rule recording closure.context) := by
  cases term with
  | column handle => exact .columnToExpr valid
  | expr operand => exact .pure valid
  | aggregate operand => exact .pure (Aggregate.ValidIn.toExpr valid)
  | predicate operand => exact .detach valid
  | reference operand => exact .pure valid
  | literal operand => exact .pure (Expr.obeys_value _)
  | table _ | columns _ | nothing => exact .pure (Expr.obeys_value _)

private theorem keeps_toItems {term : Term}
    (valid : term.ValidIn scheme.rule start closure.context) :
    Keeps scheme start (closure :: outer) term.toItems (closure :: outer)
      (fun recording items => Item.ValidIn scheme.rule recording closure.context items) := by
  cases term with
  | table | reference | literal | nothing => exact .pure (List.forall_mem_nil _)
  | columns items => exact .pure valid
  | column handle =>
      exact (Keeps.columnToItem valid).map fun _ _ _ valid => List.forall_mem_singleton.mpr valid
  | expr operand => exact .pure (List.forall_mem_singleton.mpr valid)
  | aggregate operand =>
      exact .pure (List.forall_mem_singleton.mpr (Aggregate.ValidIn.toExpr valid))
  | predicate operand =>
      exact (Keeps.detach valid).map fun _ _ _ valid => List.forall_mem_singleton.mpr valid

theorem keeps_toItemsAll {terms : List Term}
    (valid : ∀ term ∈ terms, term.ValidIn scheme.rule start closure.context) :
    Keeps scheme start (closure :: outer) (toItemsAll terms) (closure :: outer)
      (fun recording items => Item.ValidIn scheme.rule recording closure.context items) := by
  induction terms generalizing start with
  | nil => exact .pure (List.forall_mem_nil _)
  | cons term rest ih =>
      obtain ⟨first, others⟩ := List.forall_mem_cons.mp valid
      refine (keeps_toItems first).bind fun recording items grows items_valid => ?_
      refine (ih fun term mem => (others term mem).mono grows).map ?_
      intro recording more further more_valid
      exact List.forall_mem_append.mpr ⟨items_valid.mono further, more_valid⟩

/-- Reading a value for an observer. -/
theorem keeps_view {term : Term} (valid : term.ValidIn scheme.rule start closure.context) :
    Keeps scheme start (closure :: outer) term.view (closure :: outer) (fun _ _ => True) := by
  cases term with
  | column handle => exact (Keeps.columnToExpr valid).map fun _ _ _ _ => trivial
  | table | columns | expr | aggregate | predicate | reference | literal | nothing =>
      exact .pure trivial

theorem ValidIn.byReference {rule : Rule} {recording : Recording} {context : ContextId}
    {term : Term} (valid : term.ValidIn rule recording context) :
    term.byReference.ValidIn rule recording context := by
  cases term <;> exact valid

/-! ## Handles -/

section Handles

variable {term : Term} (valid : term.ValidIn scheme.rule start closure.context)

include valid

/-- What a navigation leads to can be used in every closure. -/
theorem keeps_navigate (name entity : String) :
    Keeps scheme start (closure :: outer) (term.navigate name entity) (closure :: outer)
      (fun recording term => term.ValidIn scheme.rule recording closure.context ∧ term.Roams) := by
  cases term with
  | table handle =>
      exact (Keeps.navigate valid name entity).map fun _ _ _ valid => ⟨valid, trivial⟩
  | column | columns | expr | aggregate | predicate | reference | literal | nothing =>
      exact .pure ⟨trivial, trivial⟩

/-- A column can be read in every closure. -/
theorem keeps_column (name : String) (scalar : Scalar) :
    Keeps scheme start (closure :: outer) (term.column? name scalar) (closure :: outer)
      (fun recording term => term.ValidIn scheme.rule recording closure.context ∧ term.Roams) := by
  cases term with
  | table handle =>
      exact (Keeps.column valid name scalar).map fun _ _ _ valid => ⟨valid, trivial⟩
  | column | columns | expr | aggregate | predicate | reference | literal | nothing =>
      exact .pure ⟨trivial, trivial⟩

theorem kept_allColumns : Kept scheme start closure outer term.allColumns := by
  cases term with
  | table handle => exact (Keeps.allColumns valid).map fun _ _ _ valid => valid
  | column | columns | expr | aggregate | predicate | reference | literal | nothing =>
      exact kept_nothing

theorem kept_matchText (kind : TextMatch) (text : String) :
    Kept scheme start closure outer (term.matchText kind text) := by
  cases term with
  | column handle => exact (Keeps.matchText valid kind text).map fun _ _ _ valid => valid
  | table | columns | expr | aggregate | predicate | reference | literal | nothing =>
      exact kept_nothing

omit valid in
private theorem keeps_listItems {column : ColumnHandle} {items : List Term}
    (valid : ∀ item ∈ items, item.ValidIn scheme.rule start closure.context) :
    Keeps scheme start (closure :: outer) (listItems column items) (closure :: outer)
      (fun recording exprs =>
        ∀ expr ∈ exprs, expr.ValidIn scheme.rule recording closure.context) := by
  induction items generalizing start with
  | nil => exact .pure (List.forall_mem_nil _)
  | cons item rest ih =>
      obtain ⟨first, others⟩ := List.forall_mem_cons.mp valid
      refine (keeps_toExpr first).bind fun recording operand now operand_valid => ?_
      refine (Keeps.listItem operand_valid).bind fun recording expr later expr_valid => ?_
      refine (ih fun item mem => (others item mem).mono (now.trans later)).map ?_
      intro recording exprs further exprs_valid
      exact List.forall_mem_cons.mpr ⟨expr_valid.mono further, exprs_valid⟩

theorem kept_inList {items : List Term} (negated : Bool)
    (items_valid : ∀ item ∈ items, item.ValidIn scheme.rule start closure.context) :
    Kept scheme start closure outer (term.inList items negated) := by
  cases term with
  | column handle =>
      refine (keeps_listItems items_valid).bind fun recording exprs grows exprs_valid => ?_
      exact (Keeps.inList (ColumnHandle.Valid.mono valid grows) negated exprs_valid).map
        fun _ _ _ valid => valid
  | table | columns | expr | aggregate | predicate | reference | literal | nothing =>
      exact kept_nothing

theorem kept_between {lower upper : Term}
    (low : lower.ValidIn scheme.rule start closure.context)
    (high : upper.ValidIn scheme.rule start closure.context) :
    Kept scheme start closure outer (Term.between lower upper term) := by
  cases term with
  | column handle =>
      exact (Keeps.between valid (fun _ grows => keeps_toExpr (low.mono grows))
        (fun _ grows => keeps_toExpr (high.mono grows))).map fun _ _ _ valid => valid
  | table | columns | expr | aggregate | predicate | reference | literal | nothing =>
      exact kept_nothing

theorem kept_aggregate (function : AggregateFunction) (distinct : Bool) :
    Kept scheme start closure outer (term.aggregate? function distinct) := by
  cases term with
  | column handle => exact (Keeps.aggregate valid function distinct).map fun _ _ _ valid => valid
  | table | columns | expr | aggregate | predicate | reference | literal | nothing =>
      exact kept_nothing

end Handles

/-! ## Operands, predicates and aggregates -/

section Operands

variable {lhs rhs term : Term}

theorem kept_compare (op : CompareOp) (left : lhs.ValidIn scheme.rule start closure.context)
    (right : rhs.ValidIn scheme.rule start closure.context) :
    Kept scheme start closure outer (Term.compare op lhs rhs) := by
  refine (keeps_toExpr left).bind fun recording left now left_valid => ?_
  refine (keeps_toExpr (right.mono now)).bind fun recording right later right_valid => ?_
  exact (Keeps.compare _ op (left_valid.mono later) right_valid).map fun _ _ _ valid => valid

theorem kept_isNull (negated : Bool) (valid : term.ValidIn scheme.rule start closure.context) :
    Kept scheme start closure outer (term.isNull negated) := by
  refine (keeps_toExpr valid).bind fun recording operand _ operand_valid => ?_
  have tested : (Expr.isNull operand.expr negated).ValidIn scheme.rule recording closure.context :=
    operand_valid
  exact (Keeps.record tested).map fun _ _ _ valid => valid

theorem kept_sortBy (direction : Direction)
    (valid : term.ValidIn scheme.rule start closure.context) :
    Kept scheme start closure outer (term.sortBy direction) :=
  (keeps_toExpr valid).bind fun _ _ _ key_valid =>
    (Keeps.sortBy direction key_valid).bind fun _ _ _ _ => kept_nothing

theorem kept_restrict {body : SessionM Unit}
    (valid : term.ValidIn scheme.rule start closure.context)
    (kept : ∀ recording, start.Grows recording →
      Keeps scheme recording (closure :: outer) body (closure :: outer) (fun _ _ => True)) :
    Kept scheme start closure outer (term.restrict body) := by
  cases term with
  | aggregate operand => exact (Keeps.filter valid kept).map fun _ _ _ valid => valid
  | table | column | columns | expr | predicate | reference | literal | nothing =>
      exact kept_nothing

theorem kept_and (left : lhs.ValidIn scheme.rule start closure.context)
    (right : rhs.ValidIn scheme.rule start closure.context) :
    Kept scheme start closure outer (lhs.and rhs) := by
  unfold Term.and
  split
  · exact (Keeps.and left right).map fun _ _ _ valid => valid
  · exact kept_nothing

theorem kept_or (left : lhs.ValidIn scheme.rule start closure.context)
    (right : rhs.ValidIn scheme.rule start closure.context) :
    Kept scheme start closure outer (lhs.or rhs) := by
  unfold Term.or
  split
  · exact (Keeps.or left right).map fun _ _ _ valid => valid
  · exact kept_nothing

theorem kept_not (valid : term.ValidIn scheme.rule start closure.context) :
    Kept scheme start closure outer term.not := by
  unfold Term.not
  split
  · next operand =>
      have operand_valid : operand.expr.ValidIn scheme.rule start closure.context := valid
      exact (Keeps.not operand_valid).map fun _ _ _ valid => valid
  · exact kept_nothing

end Operands

end TrackedQuery.Term
