import TrackedQuery.Proofs.Program.Fits
import TrackedQuery.Proofs.Session.Subquery
import TrackedQuery.Proofs.Session.Term

/-!
# Forms that keep sessions sound

For each kind of form: if its parts keep sessions sound when they keep to their closures, then so
does the form.  Parts are evaluated in turn, and each may keep values under further names, which
`Form.Kept.next` adds to the closure.
-/

namespace TrackedQuery

variable {scheme : Scheme}

/-- The value of a form is valid in the closure, and roams if the form is sure to yield a value that
does. -/
def Form.Yields (scheme : Scheme) (context : ContextId) (form : Form) (recording : Recording)
    (term : Term) : Prop :=
  term.ValidIn scheme.rule recording context ∧
    (scheme.rule.strict = true → form.Roams scheme → term.Roams)

/-- A form keeps sessions sound wherever it keeps to its closure. -/
def Form.Kept (scheme : Scheme) (form : Form) : Prop :=
  ∀ {context : ContextId} {names : List String} {outer : List Closure}
    {frames : List Frame} {start : Recording},
    form.Fits scheme (Closure.namesOf outer) names →
    Frame.Sound scheme start context frames →
    Keeps scheme start (⟨context, names⟩ :: outer) (form.evaluate frames)
      (⟨context, form.names ++ names⟩ :: outer) (form.Yields scheme context)

/-- What is valid in the closure is what a form yields that is not sure to yield a roaming value. -/
theorem Term.Kept.yields {start : Recording} {context : ContextId} {names : List String}
    {outer : List Closure} {run : SessionM Term} {form : Form}
    (kept : Term.Kept scheme start ⟨context, names⟩ outer run) (confined : ¬ form.Roams scheme) :
    Keeps scheme start (⟨context, names⟩ :: outer) run (⟨context, names⟩ :: outer)
      (form.Yields scheme context) :=
  kept.weaken fun _ _ _ valid => ⟨valid, fun _ roams => absurd roams confined⟩

/-- Forms that are evaluated in turn keep sessions sound wherever they keep to their closure. -/
def Form.AllKept (scheme : Scheme) (forms : List Form) : Prop :=
  ∀ {context : ContextId} {names : List String} {outer : List Closure}
    {frames : List Frame} {start : Recording},
    Form.AllFit scheme (Closure.namesOf outer) names forms →
    Frame.Sound scheme start context frames →
    Keeps scheme start (⟨context, names⟩ :: outer) (Form.evaluateAll frames forms)
      (⟨context, Form.namesAll forms ++ names⟩ :: outer)
      (fun recording terms => ∀ term ∈ terms, term.ValidIn scheme.rule recording context)

/-- Forms that are evaluated for what they record keep sessions sound wherever they keep to their
closure. -/
def Form.RunKept (scheme : Scheme) (forms : List Form) : Prop :=
  ∀ {context : ContextId} {names : List String} {outer : List Closure}
    {frames : List Frame} {start : Recording},
    Form.AllFit scheme (Closure.namesOf outer) names forms →
    Frame.Sound scheme start context frames →
    Keeps scheme start (⟨context, names⟩ :: outer) (Form.run frames forms)
      (⟨context, Form.namesAll forms ++ names⟩ :: outer) (fun _ _ => True)

namespace Form.Kept

section Next

variable {context : ContextId} {names : List String} {outer : List Closure}
  {frames : List Frame} {start : Recording} {operand : Form}

/-- Evaluating a part of a form, and going on with its value. -/
theorem next (kept : operand.Kept scheme)
    (fits : operand.Fits scheme (Closure.namesOf outer) names)
    (sound : Frame.Sound scheme start context frames) {α : Type} {rest : Term → SessionM α}
    {stack' : List Closure} {post : Recording → α → Prop}
    (continues : ∀ recording term, start.Grows recording →
      Frame.Sound scheme recording context frames →
      term.ValidIn scheme.rule recording context →
      Keeps scheme recording (⟨context, operand.names ++ names⟩ :: outer) (rest term) stack' post) :
    Keeps scheme start (⟨context, names⟩ :: outer) (operand.evaluate frames >>= rest) stack' post :=
  (kept fits sound).bind fun recording term grows ⟨valid, _⟩ =>
    continues recording term grows (sound.mono grows) valid

/-- Evaluating two parts of a form, and going on with their values. -/
theorem nextBoth {lhs rhs : Form} (left : lhs.Kept scheme) (right : rhs.Kept scheme)
    (fits : lhs.Fits scheme (Closure.namesOf outer) names ∧
      rhs.Fits scheme (Closure.namesOf outer) (lhs.names ++ names))
    (sound : Frame.Sound scheme start context frames) {α : Type}
    {rest : Term → Term → SessionM α} {stack' : List Closure} {post : Recording → α → Prop}
    (continues : ∀ recording left right, start.Grows recording →
      left.ValidIn scheme.rule recording context → right.ValidIn scheme.rule recording context →
      Keeps scheme recording (⟨context, rhs.names ++ lhs.names ++ names⟩ :: outer)
        (rest left right) stack' post) :
    Keeps scheme start (⟨context, names⟩ :: outer)
      (lhs.evaluate frames >>= fun left => rhs.evaluate frames >>= rest left) stack' post := by
  rw [List.append_assoc] at continues
  refine left.next fits.1 sound fun first left now sound left_valid => ?_
  refine right.next fits.2 sound fun second right later _ right_valid => ?_
  exact continues second left right (now.trans later) (left_valid.mono later) right_valid

end Next

/-! ## Handles -/

theorem table (index outwards : Nat) : (Form.table index outwards).Kept scheme := by
  intro context names outer frames start fits sound
  obtain ⟨valid, roams⟩ := sound.tableAt index outwards
  exact .pure ⟨valid, fun _ _ => roams⟩

theorem navigate {operand : Form} (kept : operand.Kept scheme) (name entity : String) :
    (Form.navigate operand name entity).Kept scheme := by
  intro context names outer frames start fits sound
  refine kept.next fits sound fun recording term _ _ valid => ?_
  exact (Term.keeps_navigate valid name entity).weaken fun _ _ _ ⟨valid, roams⟩ =>
    ⟨valid, fun _ _ => roams⟩

theorem column {operand : Form} (kept : operand.Kept scheme) (name : String) (scalar : Scalar) :
    (Form.column operand name scalar).Kept scheme := by
  intro context names outer frames start fits sound
  refine kept.next fits sound fun recording term _ _ valid => ?_
  exact (Term.keeps_column valid name scalar).weaken fun _ _ _ ⟨valid, roams⟩ =>
    ⟨valid, fun _ _ => roams⟩

theorem allColumns {operand : Form} (kept : operand.Kept scheme) :
    (Form.allColumns operand).Kept scheme := by
  intro context names outer frames start fits sound
  refine kept.next fits sound fun recording term _ _ valid => ?_
  exact (Term.kept_allColumns valid).yields id

theorem key (index : Nat) : (Form.key index).Kept scheme := by
  intro context names outer frames start fits sound
  exact Term.Kept.yields (Session.keeps_keyAt sound index) id

theorem literal (value : Value) : (Form.literal value).Kept scheme := by
  intro context names outer frames start fits sound
  exact .pure ⟨trivial, fun _ _ => trivial⟩

theorem typed (expr : TypedExpr) : (Form.typed expr).Kept scheme := by
  intro context names outer frames start fits sound
  refine .pure ⟨?_, fun _ => False.elim⟩
  exact Expr.Obeys.mono fits fun _ => .nil _

theorem toExpr {operand : Form} (kept : operand.Kept scheme) :
    (Form.toExpr operand).Kept scheme := by
  intro context names outer frames start fits sound
  refine kept.next fits sound fun recording term _ _ valid => ?_
  exact (Term.keeps_toExpr valid).map fun _ _ _ valid => ⟨valid, fun _ => False.elim⟩

theorem byReference {operand : Form} (kept : operand.Kept scheme) :
    (Form.byReference operand).Kept scheme := by
  intro context names outer frames start fits sound
  exact kept.next fits sound fun recording term _ _ valid =>
    .pure ⟨valid.byReference, fun _ => False.elim⟩

/-! ## Statements -/

theorem matchText {operand : Form} (kept : operand.Kept scheme) (kind : TextMatch)
    (text : String) : (Form.matchText operand kind text).Kept scheme := by
  intro context names outer frames start fits sound
  refine kept.next fits sound fun recording term _ _ valid => ?_
  exact (Term.kept_matchText valid kind text).yields id

theorem isNull {operand : Form} (kept : operand.Kept scheme) (negated : Bool) :
    (Form.isNull operand negated).Kept scheme := by
  intro context names outer frames start fits sound
  refine kept.next fits sound fun recording term _ _ valid => ?_
  exact (Term.kept_isNull negated valid).yields id

theorem sortBy {operand : Form} (kept : operand.Kept scheme) (direction : Direction) :
    (Form.sortBy operand direction).Kept scheme := by
  intro context names outer frames start fits sound
  refine kept.next fits sound fun recording term _ _ valid => ?_
  exact (Term.kept_sortBy direction valid).yields id

theorem compare {lhs rhs : Form} (left : lhs.Kept scheme) (right : rhs.Kept scheme)
    (op : CompareOp) : (Form.compare op lhs rhs).Kept scheme := by
  intro context names outer frames start fits sound
  exact nextBoth left right fits sound fun recording lhs rhs _ lhs_valid rhs_valid =>
    (Term.kept_compare op lhs_valid rhs_valid).yields id

theorem and {lhs rhs : Form} (left : lhs.Kept scheme) (right : rhs.Kept scheme) :
    (Form.and lhs rhs).Kept scheme := by
  intro context names outer frames start fits sound
  exact nextBoth left right fits sound fun recording lhs rhs _ lhs_valid rhs_valid =>
    (Term.kept_and lhs_valid rhs_valid).yields id

theorem or {lhs rhs : Form} (left : lhs.Kept scheme) (right : rhs.Kept scheme) :
    (Form.or lhs rhs).Kept scheme := by
  intro context names outer frames start fits sound
  exact nextBoth left right fits sound fun recording lhs rhs _ lhs_valid rhs_valid =>
    (Term.kept_or lhs_valid rhs_valid).yields id

theorem not {operand : Form} (kept : operand.Kept scheme) : (Form.not operand).Kept scheme := by
  intro context names outer frames start fits sound
  refine kept.next fits sound fun recording term _ _ valid => ?_
  exact (Term.kept_not valid).yields id

theorem inList {operand : Form} {items : List Form} (kept : operand.Kept scheme)
    (items_kept : Form.AllKept scheme items) (negated : Bool) :
    (Form.inList operand items negated).Kept scheme := by
  intro context names outer frames start fits sound
  rw [Form.names, List.append_assoc]
  refine kept.next fits.1 sound fun first term _ sound valid => ?_
  refine (items_kept fits.2 sound).bind fun second items grows items_valid => ?_
  exact (Term.kept_inList (valid.mono grows) negated items_valid).yields id

theorem between {operand lower upper : Form} (kept : operand.Kept scheme)
    (low : lower.Kept scheme) (high : upper.Kept scheme) :
    (Form.between operand lower upper).Kept scheme := by
  intro context names outer frames start fits sound
  obtain ⟨operand_fits, lower_fits, upper_fits⟩ := fits
  rw [Form.names, List.append_assoc, List.append_assoc]
  refine kept.next operand_fits sound fun first term _ sound valid => ?_
  refine low.next lower_fits sound fun second lower grows sound lower_valid => ?_
  refine high.next upper_fits sound fun third upper further _ upper_valid => ?_
  have valid := valid.mono (grows.trans further)
  have lower_valid := lower_valid.mono further
  exact (Term.kept_between valid lower_valid upper_valid).yields id

/-! ## Aggregates -/

theorem aggregate {operand : Form} (kept : operand.Kept scheme) (function : AggregateFunction)
    (distinct : Bool) : (Form.aggregate operand function distinct).Kept scheme := by
  intro context names outer frames start fits sound
  refine kept.next fits sound fun recording term _ _ valid => ?_
  exact (Term.kept_aggregate valid function distinct).yields id

theorem countRows : Form.countRows.Kept scheme := by
  intro context names outer frames start fits sound
  refine .pure ⟨fun argument mem => ?_, fun _ => False.elim⟩
  cases mem

/-- The names of the body of a restricted aggregate are forgotten after it. -/
theorem restrict {operand : Form} {body : List Form} (kept : operand.Kept scheme)
    (body_kept : Form.RunKept scheme body) : (Form.restrict operand body).Kept scheme := by
  intro context names outer frames start fits sound
  refine kept.next fits.1 sound fun recording term _ sound valid => ?_
  have restricted : ∀ later, recording.Grows later →
      Keeps scheme later (⟨context, operand.names ++ names⟩ :: outer) (Form.run frames body)
        (⟨context, operand.names ++ names⟩ :: outer) (fun _ _ => True) :=
    fun later grows => (body_kept fits.2 (sound.mono grows)).forget
  exact (Term.kept_restrict valid restricted).yields id

/-! ## Names and observations -/

theorem keep (name : String) {operand : Form} (kept : operand.Kept scheme) :
    (Form.keep name operand).Kept scheme := by
  intro context names outer frames start fits sound
  obtain ⟨operand_fits, roams, fresh⟩ := fits
  refine (kept operand_fits sound).bind fun recording term _ ⟨valid, term_roams⟩ => ?_
  have value_roams : scheme.rule.strict = true → scheme.shared name → term.Roams :=
    fun strict shared => term_roams strict (roams strict shared)
  exact (Session.keeps_keepTerm valid value_roams fresh).bind fun _ _ _ _ =>
    .pure ⟨trivial, fun _ => False.elim⟩

theorem taken (name : String) : (Form.kept name).Kept scheme := by
  intro context names outer frames start fits sound
  exact Session.keeps_takeTerm fits

theorem observe {operand : Form} (kept : operand.Kept scheme) :
    (Form.observe operand).Kept scheme := by
  intro context names outer frames start fits sound
  refine kept.next fits sound fun first term _ _ valid => ?_
  refine (Term.keeps_view valid).bind fun second view grows _ => ?_
  refine (Session.apart_observe (.view view)).keeps.bind fun third _ further _ => ?_
  exact .pure ⟨valid.mono (grows.trans further), fun _ => False.elim⟩

end Form.Kept

/-! ## Bodies -/

namespace Form

theorem allKept_nil : AllKept scheme [] := by
  intro context names outer frames start fits sound
  exact .pure (List.forall_mem_nil _)

theorem AllKept.cons {form : Form} {rest : List Form} (first : form.Kept scheme)
    (others : AllKept scheme rest) : AllKept scheme (form :: rest) := by
  intro context names outer frames start fits sound
  rw [Form.namesAll, List.append_assoc]
  refine first.next fits.1 sound fun recording term _ sound valid => ?_
  refine (others fits.2 sound).map fun later terms grows terms_valid => ?_
  exact List.forall_mem_cons.mpr ⟨valid.mono grows, terms_valid⟩

theorem runKept_nil : RunKept scheme [] := by
  intro context names outer frames start fits sound
  exact .pure trivial

theorem RunKept.cons {form : Form} {rest : List Form} (first : form.Kept scheme)
    (others : RunKept scheme rest) : RunKept scheme (form :: rest) := by
  intro context names outer frames start fits sound
  rw [Form.namesAll, List.append_assoc]
  exact first.next fits.1 sound fun recording term _ sound _ => others fits.2 sound

end Form

end TrackedQuery
