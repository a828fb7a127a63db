import TrackedQuery.Proofs.Program.Fits

/-!
# What programs write down as expressions

Besides queries, a program may write down expressions that were built elsewhere (`Program.written`).
A rule that asks nothing of columns asks nothing of the names that a program uses either, so all
that is left of `Program.Fits` is that these expressions are as the rule asks
(`Program.fits_of_written`).
-/

namespace TrackedQuery

mutual

/-- The expressions that a form writes down. -/
def Form.written : Form → List Expr
  | .typed expr => [expr.expr]
  | .table _ _ | .key _ | .literal _ | .countRows | .kept _ => []
  | .navigate operand _ _ | .column operand _ _ | .allColumns operand | .toExpr operand
  | .byReference operand | .matchText operand _ _ | .isNull operand _ | .sortBy operand _
  | .aggregate operand _ _ | .not operand | .keep _ operand | .observe operand => operand.written
  | .compare _ lhs rhs | .and lhs rhs | .or lhs rhs => lhs.written ++ rhs.written
  | .inList operand items _ => operand.written ++ Form.writtenAll items
  | .between operand lower upper => operand.written ++ (lower.written ++ upper.written)
  | .inQuery operand _ steps | .anyRow operand _ steps _ =>
      operand.written ++ Step.writtenAll steps
  | .restrict operand body => operand.written ++ Form.writtenAll body

/-- The expressions that forms write down. -/
def Form.writtenAll : List Form → List Expr
  | [] => []
  | form :: rest => form.written ++ Form.writtenAll rest

/-- The expressions that a step writes down. -/
def Step.written : Step → List Expr
  | .filterBy body | .filterByIf _ body | .orderBy body | .join _ _ body | .select body _
  | .groupBy body | .having body => Form.writtenAll body
  | .joinQuery _ source body => source.written ++ Form.writtenAll body
  | .stack _ other => other.written
  | .filterByKey _ | .asTable _ | .asTracking | .withDeleted | .limit _ | .offset _ | .ask _ => []

/-- The expressions that steps write down. -/
def Step.writtenAll : List Step → List Expr
  | [] => []
  | step :: rest => step.written ++ Step.writtenAll rest

/-- The expressions that a program writes down. -/
def Program.written : Program → List Expr
  | ⟨_, steps⟩ => Step.writtenAll steps

end

section Written

variable {scheme : Scheme}

mutual

/-- A rule that asks nothing of columns asks only something of the expressions written down. -/
theorem Form.fits_of_written (lax : scheme.rule.strict = false) :
    ∀ (form : Form) (outer names : List String),
      (∀ expr ∈ form.written, expr.Obeys scheme.rule []) → form.Fits scheme outer names
  | .table _ _, _, _, _ | .key _, _, _, _ | .literal _, _, _, _ | .countRows, _, _, _ => trivial
  | .navigate operand _ _, outer, names, obey
  | .column operand _ _, outer, names, obey
  | .allColumns operand, outer, names, obey | .toExpr operand, outer, names, obey
  | .byReference operand, outer, names, obey
  | .matchText operand _ _, outer, names, obey
  | .isNull operand _, outer, names, obey | .sortBy operand _, outer, names, obey
  | .aggregate operand _ _, outer, names, obey | .not operand, outer, names, obey
  | .observe operand, outer, names, obey =>
      operand.fits_of_written lax outer names obey
  | .typed expr, _, _, obey => obey _ (List.mem_singleton_self _)
  | .compare _ lhs rhs, outer, names, obey | .and lhs rhs, outer, names, obey
  | .or lhs rhs, outer, names, obey =>
      have parts := List.forall_mem_append.mp obey
      ⟨lhs.fits_of_written lax outer names parts.1,
        rhs.fits_of_written lax outer _ parts.2⟩
  | .inList operand items _, outer, names, obey =>
      have parts := List.forall_mem_append.mp obey
      ⟨operand.fits_of_written lax outer names parts.1,
        Form.allFit_of_written lax items outer _ parts.2⟩
  | .between operand lower upper, outer, names, obey =>
      have parts := List.forall_mem_append.mp obey
      have bounds := List.forall_mem_append.mp parts.2
      ⟨operand.fits_of_written lax outer names parts.1,
        lower.fits_of_written lax outer _ bounds.1,
        upper.fits_of_written lax outer _ bounds.2⟩
  | .inQuery operand _ steps, outer, names, obey
  | .anyRow operand _ steps _, outer, names, obey =>
      have parts := List.forall_mem_append.mp obey
      ⟨operand.fits_of_written lax outer names parts.1,
        Step.allFit_of_written lax steps _ parts.2⟩
  | .restrict operand body, outer, names, obey =>
      have parts := List.forall_mem_append.mp obey
      ⟨operand.fits_of_written lax outer names parts.1,
        Form.allFit_of_written lax body outer _ parts.2⟩
  -- keeping and taking are asked about by strict rules only
  | .keep _ operand, outer, names, obey =>
      ⟨operand.fits_of_written lax outer names obey, fun strict => by simp [lax] at strict,
        fun strict => by simp [lax] at strict⟩
  | .kept _, _, _, _ => fun strict => by simp [lax] at strict

theorem Form.allFit_of_written (lax : scheme.rule.strict = false) :
    ∀ (forms : List Form) (outer names : List String),
      (∀ expr ∈ Form.writtenAll forms, expr.Obeys scheme.rule []) →
        Form.AllFit scheme outer names forms
  | [], _, _, _ => trivial
  | form :: rest, outer, names, obey =>
      have parts := List.forall_mem_append.mp obey
      ⟨form.fits_of_written lax outer names parts.1,
        Form.allFit_of_written lax rest outer _ parts.2⟩

theorem Step.fits_of_written (lax : scheme.rule.strict = false) :
    ∀ (step : Step) (outer : List String),
      (∀ expr ∈ step.written, expr.Obeys scheme.rule []) → step.Fits scheme outer
  | .filterBy body, outer, obey | .join _ _ body, outer, obey | .groupBy body, outer, obey
  | .orderBy body, outer, obey | .having body, outer, obey | .select body _, outer, obey =>
      Form.allFit_of_written lax body outer [] obey
  | .filterByIf _ body, outer, obey => fun _ => Form.allFit_of_written lax body outer [] obey
  | .joinQuery _ source body, outer, obey =>
      have parts := List.forall_mem_append.mp obey
      ⟨source.fits_of_written lax outer parts.1, Form.allFit_of_written lax body outer [] parts.2⟩
  | .stack _ other, outer, obey => other.fits_of_written lax outer obey
  | .filterByKey _, _, _ | .asTable _, _, _ | .asTracking, _, _ | .withDeleted, _, _
  | .limit _, _, _ | .offset _, _, _ | .ask _, _, _ => trivial

theorem Step.allFit_of_written (lax : scheme.rule.strict = false) :
    ∀ (steps : List Step) (outer : List String),
      (∀ expr ∈ Step.writtenAll steps, expr.Obeys scheme.rule []) →
        Step.AllFit scheme outer steps
  | [], _, _ => trivial
  | step :: rest, outer, obey =>
      have parts := List.forall_mem_append.mp obey
      ⟨step.fits_of_written lax outer parts.1, Step.allFit_of_written lax rest outer parts.2⟩

theorem Program.fits_of_written (lax : scheme.rule.strict = false) :
    ∀ (program : Program) (outer : List String),
      (∀ expr ∈ program.written, expr.Obeys scheme.rule []) → program.Fits scheme outer
  | ⟨_, steps⟩, outer, obey => Step.allFit_of_written lax steps outer obey

end

end Written

end TrackedQuery
