import TrackedQuery.Plan.Basic

/-!
# Building expressions

The constructors of `Expr` build one node.  The functions here are what callers use: conjunction and
disjunction simplify as they build, and the patterns of text matching have names.
-/

namespace TrackedQuery.Expr

/-- The `NULL` literal. -/
def null : Expr := .value .null

/-- The literal `true`. -/
def truth : Expr := .value (.bool true)

/-! ## Tests -/

/-- Whether the expression is the literal `true`. -/
def isTrue : Expr → Bool
  | .value (.bool true) => true
  | _ => false

/-- Whether the expression is the literal `false`. -/
def isFalse : Expr → Bool
  | .value (.bool false) => true
  | _ => false

/-- Whether the expression is a literal. -/
def isValue : Expr → Bool
  | .value _ => true
  | _ => false

/-- Whether the expression is the literal `NULL`. -/
def isValueNull : Expr → Bool
  | .value .null => true
  | _ => false

/-- Whether the expression is a conjunction. -/
def isConj : Expr → Bool
  | .conj _ => true
  | _ => false

/-- Whether the expression is a disjunction. -/
def isDisj : Expr → Bool
  | .disj _ => true
  | _ => false

/-- Whether the expression is an equation. -/
def isEquation : Expr → Bool
  | .compare .eq _ _ => true
  | _ => false

/-- Whether the expression is an aggregate. -/
def isAggregate : Expr → Bool
  | .aggregate _ _ _ => true
  | _ => false

/-- The column that the expression reads, if it is one. -/
def column? : Expr → Option ColumnRef
  | .column ref => some ref
  | _ => none

/-- The literal that the expression is. -/
def value? : Expr → Option Value
  | .value literal => some literal
  | _ => none

/-- The operands of a conjunction or a disjunction. -/
def operands? : Expr → Option (List Expr)
  | .conj operands | .disj operands => some operands
  | _ => none

/-! ## Connectives -/

/-- Conjunction.  A literal `true` disappears, and operands are added to a conjunction on the
left. -/
def and (lhs rhs : Expr) : Expr :=
  if lhs.isTrue then rhs
  else if rhs.isTrue then lhs
  else
    match lhs, rhs with
    | .conj left, .conj right => .conj (left ++ right)
    | .conj left, right => .conj (left ++ [right])
    | left, right => .conj [left, right]

/-- Disjunction.  Operands are added to a disjunction on the left. -/
def or (lhs rhs : Expr) : Expr :=
  match lhs, rhs with
  | .disj left, .disj right => .disj (left ++ right)
  | .disj left, right => .disj (left ++ [right])
  | left, right => .disj [left, right]

/-- The conjunction of a list: `true` for no operand, and a single operand unchanged. -/
def all : List Expr → Expr
  | [] => truth
  | [operand] => operand
  | operands => .conj operands

@[simp] theorem truth_and (expr : Expr) : truth.and expr = expr := rfl

@[simp] theorem and_truth (expr : Expr) : expr.and truth = expr := by
  unfold Expr.and
  split
  · next htrue =>
      cases expr with
      | value literal =>
          cases literal with
          | bool value => cases value <;> simp_all [isTrue, truth]
          | _ => simp [isTrue] at htrue
      | _ => simp [isTrue] at htrue
  · simp [truth, isTrue]

@[simp] theorem all_nil : all [] = truth := rfl

@[simp] theorem all_singleton (expr : Expr) : all [expr] = expr := rfl

@[simp] theorem all_cons_cons (first second : Expr) (rest : List Expr) :
    all (first :: second :: rest) = .conj (first :: second :: rest) := rfl

/-! ## Other forms -/

/-- An equation. -/
def equals (lhs rhs : Expr) : Expr := .compare .eq lhs rhs

/-- A case distinction with one branch. -/
def when (condition result otherwise : Expr) : Expr := .cases [⟨condition, result⟩] otherwise

/-- The count of all rows. -/
def countRows : Expr := .aggregate .count none false

end TrackedQuery.Expr

namespace TrackedQuery

/-! ## Text patterns -/

/-- The ways to match a text, by what must surround the given text. -/
inductive TextMatch where
  /-- The given text is itself a pattern. -/
  | pattern
  | startsWith
  | endsWith
  | contains
deriving DecidableEq

/-- The pattern that matches as asked. -/
def TextMatch.patternFor (kind : TextMatch) (text : String) : String :=
  match kind with
  | .pattern => text
  | .startsWith => text ++ "%"
  | .endsWith => "%" ++ text
  | .contains => "%" ++ text ++ "%"

/-- A text matches as asked. -/
def Expr.textMatch (operand : Expr) (kind : TextMatch) (text : String) (negated : Bool) : Expr :=
  .like operand (kind.patternFor text) negated

end TrackedQuery
