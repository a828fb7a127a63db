import TrackedQuery.Proofs.Query.Tables
import TrackedQuery.Proofs.Session.Clause

/-!
# Reading handles

Whatever a handle of a table that exists is asked for is valid in the closure that is being
recorded.  A column is resolved against the innermost recorder, and if it cannot be, an error is
reported and `NULL` takes its place.  A navigation may add joins to the context of its table, which
need not be the context of the closure.
-/

namespace TrackedQuery

/-! ## Resolving -/

section Resolving

variable {rule : Rule}

private theorem TableHandle.isTame_resolveColumn (context : Context) (id : ContextId)
    (binding : Binding) (name : String) (scalar : Scalar) :
    Result.IsTame rule (TableHandle.resolveColumn context id binding name scalar) := by
  refine (context.schema.isTame_resolve _).bind fun entity _ => ?_
  refine (entity.isTame_resolveColumn name).bind fun ⟨index, column⟩ _ => ?_
  dsimp only
  split
  · exact Result.isTame_ok _
  · exact Result.isTame_fail (by simp)

private theorem TableHandle.isTame_itemsFrom (recording : Recording) (context : ContextId)
    (table : Alias) (index : Nat) (columns : List Column) :
    Result.IsTame rule (TableHandle.itemsFrom recording context table index columns) := by
  induction columns generalizing index with
  | nil => exact Result.isTame_ok _
  | cons column rest ih =>
      refine (recording.isTame_resolveColumn context table index).bind fun ref _ => ?_
      exact (ih (index + 1)).bind fun items _ => Result.isTame_ok _

/-- The items of the columns of a table are valid where they are read. -/
theorem Recording.Sound.itemsFrom {recording : Recording} {context source : ContextId}
    {stack : List ContextId} (sound : recording.Sound rule (context :: stack)) {table : Alias}
    (known : table < (recording.contextAt source).nextAlias) {index : Nat} {columns : List Column}
    {items : List Item}
    (resolved : TableHandle.itemsFrom recording source table index columns = .ok items) :
    Item.ValidIn rule recording context items := by
  induction columns generalizing index items with
  | nil =>
      cases resolved
      exact List.forall_mem_nil _
  | cons column rest ih =>
      obtain ⟨ref, href, resolved⟩ := Result.bind_eq_ok.mp resolved
      obtain ⟨others, hothers, resolved⟩ := Result.bind_eq_ok.mp resolved
      cases resolved
      exact List.forall_mem_cons.mpr ⟨fun _ => sound.resolveColumn known href, ih hothers⟩

end Resolving

namespace Keeps

variable {scheme : Scheme} {start : Recording} {closure : Closure} {outer : List Closure}

/-! ## Columns -/

section Columns

variable {column : ColumnHandle}

theorem columnToExpr (valid : column.Valid start) :
    Keeps scheme start (closure :: outer) column.toExpr (closure :: outer)
      (fun recording operand => operand.expr.ValidIn scheme.rule recording closure.context) := by
  unfold ColumnHandle.toExpr
  split
  · exact .pure (Expr.obeys_value _)
  · next source hsource =>
      refine .read fun sound => ?_
      split
      · next ref resolved =>
          refine .pure fun _ => ?_
          exact sound.resolveColumn (valid source hsource) resolved
      · next error failed =>
          refine reportInstead ?_ fun _ _ => Expr.obeys_value _
          exact start.isTame_resolveColumn _ _ _ error failed

theorem columnToItem (valid : column.Valid start) :
    Keeps scheme start (closure :: outer) column.toItem (closure :: outer)
      (fun recording item => item.expr.ValidIn scheme.rule recording closure.context) :=
  (columnToExpr valid).map fun _ _ _ valid => valid

theorem between (valid : column.Valid start) {lower upper : SessionM TypedExpr}
    (low : ∀ recording, start.Grows recording →
      Keeps scheme recording (closure :: outer) lower (closure :: outer)
        (fun recording operand => operand.expr.ValidIn scheme.rule recording closure.context))
    (high : ∀ recording, start.Grows recording →
      Keeps scheme recording (closure :: outer) upper (closure :: outer)
        (fun recording operand => operand.expr.ValidIn scheme.rule recording closure.context)) :
    Keeps scheme start (closure :: outer) (column.between lower upper) (closure :: outer)
      (fun recording predicate =>
        predicate.expr.ValidIn scheme.rule recording closure.context) := by
  refine (columnToExpr valid).bind fun recording operand grows operand_valid => ?_
  refine (low recording grows).bind fun recording low further low_valid => ?_
  have operand_valid := operand_valid.mono further
  have grows := grows.trans further
  refine (high recording grows).bind fun recording high further high_valid => ?_
  have operand_valid := operand_valid.mono further
  have low_valid := low_valid.mono further
  refine (checkOperand _ _ _).bind fun recording _ now _ => ?_
  refine (checkOperand _ _ _).bind fun recording _ later _ => ?_
  have further := now.trans later
  have operand_valid := operand_valid.mono further
  exact record (Expr.Obeys.and ⟨operand_valid, low_valid.mono further⟩
    ⟨operand_valid, high_valid.mono further⟩)

theorem listItem {item : TypedExpr} (valid : item.expr.ValidIn scheme.rule start closure.context) :
    Keeps scheme start (closure :: outer) (column.listItem item) (closure :: outer)
      (fun recording expr => expr.ValidIn scheme.rule recording closure.context) :=
  (checkOperand _ _ _).map fun _ _ grows _ => valid.mono grows

theorem inList (valid : column.Valid start) {items : List Expr} (negated : Bool)
    (items_valid : ∀ item ∈ items, item.ValidIn scheme.rule start closure.context) :
    Keeps scheme start (closure :: outer) (column.inList items negated) (closure :: outer)
      (fun recording predicate =>
        predicate.expr.ValidIn scheme.rule recording closure.context) := by
  refine (columnToExpr valid).bind fun recording operand grows operand_valid => record ?_
  exact ⟨operand_valid, Expr.allObey_iff.mpr fun item mem => (items_valid item mem).mono grows⟩

theorem matchText (valid : column.Valid start) (kind : TextMatch) (text : String) :
    Keeps scheme start (closure :: outer) (column.matchText kind text) (closure :: outer)
      (fun recording predicate =>
        predicate.expr.ValidIn scheme.rule recording closure.context) := by
  refine (checkOperand _ _ _).bind fun recording _ grows _ => ?_
  exact (columnToExpr (valid.mono grows)).bind fun recording operand _ operand_valid =>
    record operand_valid

theorem aggregate (valid : column.Valid start) (function : AggregateFunction) (distinct : Bool) :
    Keeps scheme start (closure :: outer) (column.aggregate function distinct) (closure :: outer)
      (fun recording aggregate =>
        aggregate.ValidIn scheme.rule recording closure.context) := by
  refine (columnToExpr valid).map fun recording operand _ operand_valid argument mem => ?_
  cases mem
  exact operand_valid

end Columns

/-! ## Tables -/

section Tables

variable {table : TableHandle}

theorem column (valid : table.Valid start) (name : String) (scalar : Scalar) :
    Keeps scheme start (closure :: outer) (table.column name scalar) (closure :: outer)
      (fun recording column => column.Valid recording) := by
  have nothing : ∀ recording : Recording, ColumnHandle.Valid recording ⟨name, none⟩ := by
    intro recording source mem
    cases mem
  -- what fails to be looked up is reported, and the handle then stands for nothing
  unfold TableHandle.column
  split
  · exact .pure (nothing start)
  · next binding hbinding =>
      refine .readContext fun sound => ?_
      split
      · next column resolved =>
          refine .pure fun source mem => ?_
          obtain ⟨entity, -, resolved⟩ := Result.bind_eq_ok.mp resolved
          obtain ⟨⟨index, declared⟩, -, resolved⟩ := Result.bind_eq_ok.mp resolved
          dsimp only at resolved
          split at resolved
          · cases resolved
            cases mem
            exact (valid binding hbinding).2
          · cases resolved
      · next error failed =>
          refine reportInstead ?_ fun recording _ => nothing recording
          exact TableHandle.isTame_resolveColumn _ _ binding name scalar error failed

theorem navigate (valid : table.Valid start) (name expected : String) :
    Keeps scheme start (closure :: outer) (table.navigate name expected) (closure :: outer)
      (fun recording table => table.Valid recording) := by
  have nothing : ∀ recording : Recording, TableHandle.Valid recording ⟨table.context, none⟩ := by
    intro recording binding mem
    cases mem
  unfold TableHandle.navigate
  split
  · exact .pure valid
  · next binding hbinding =>
      obtain ⟨known, inside⟩ := valid binding hbinding
      refine .readContext fun sound => ?_
      split
      · next error failed =>
          refine reportInstead ?_ fun recording _ => nothing recording
          exact (start.contextAt table.context).isTame_navigate binding name error failed
      · next target context navigated =>
          have context_sound := (sound.contexts _ known).context
          obtain ⟨replaced, found⟩ := context_sound.navigate inside navigated
          have context_grows := Context.grows_navigate navigated
          refine (Keeps.modify fun sound => ?_ : Keeps scheme start _ _ _
            (fun recording _ => TableHandle.Valid recording ⟨table.context, some target⟩)).bind
            fun recording _ _ target_valid => ?_
          · obtain ⟨kept, recording_grows⟩ := sound.growContext context_grows replaced
            refine ⟨kept, recording_grows, fun other mem => ?_⟩
            cases mem
            refine ⟨Nat.lt_of_lt_of_le known recording_grows.length, ?_⟩
            show target.tableAlias < (Recording.contextAt _ table.context).nextAlias
            rw [Recording.contextAt_setContext_self known]
            exact found
          · -- the joins stay also if the table is one of another entity
            split
            · exact .pure target_valid
            · refine reportInstead (fun _ ⟨_, _, foreign⟩ => ?_) fun later _ => nothing later
              cases foreign

theorem allColumns (valid : table.Valid start) :
    Keeps scheme start (closure :: outer) table.allColumns (closure :: outer)
      (fun recording items => Item.ValidIn scheme.rule recording closure.context items) := by
  have nothing : ∀ recording : Recording,
      Item.ValidIn scheme.rule recording closure.context [] := by
    intro recording item mem
    cases mem
  unfold TableHandle.allColumns
  split
  · exact .pure (nothing start)
  · next binding hbinding =>
      refine .read fun sound => ?_
      dsimp only
      split
      · next items resolved =>
          obtain ⟨entity, -, resolved⟩ := Result.bind_eq_ok.mp resolved
          exact .pure (sound.itemsFrom (valid binding hbinding).2 resolved)
      · next error failed =>
          refine reportInstead ?_ fun recording _ => nothing recording
          refine Result.IsTame.bind ?_ (fun entity _ => ?_) error failed
          · exact Schema.isTame_resolve _ _
          · exact TableHandle.isTame_itemsFrom _ _ _ _ _

end Tables

end Keeps

end TrackedQuery
