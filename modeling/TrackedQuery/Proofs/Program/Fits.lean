import TrackedQuery.Proofs.Session.Projection
import TrackedQuery.Proofs.Session.Store

/-!
# Programs whose closures keep to themselves

A predicate, an expression and an aggregate belong to the closure that built them, while a handle
may be read in every closure.  `Form.Fits` says that a form keeps to this: it takes a value under a
name only where the name was kept before in the same closure, unless the name is one for handles,
and it keeps no other value under a name that a closure around it uses.  A key of a grouped query
can be referred to in the clauses of that query alone, and so nothing is asked of it.

What is asked of names is asked under a strict rule alone.  What is always asked is that the
expressions written down are as the rule asks by themselves.
-/

namespace TrackedQuery

/-! ## Names -/

mutual

/-- The names that a form keeps values under in its own closure.  The body of a restricted aggregate
and the clauses of nested queries are closures of their own. -/
def Form.names : Form → List String
  | .table _ _ | .key _ | .literal _ | .typed _ | .countRows | .kept _ => []
  | .navigate operand _ _ | .column operand _ _ | .allColumns operand | .toExpr operand
  | .byReference operand | .matchText operand _ _ | .inQuery operand _ _ | .isNull operand _
  | .sortBy operand _ | .aggregate operand _ _ | .restrict operand _ | .anyRow operand _ _ _
  | .not operand | .observe operand => operand.names
  | .compare _ lhs rhs | .and lhs rhs | .or lhs rhs => rhs.names ++ lhs.names
  | .inList operand items _ => Form.namesAll items ++ operand.names
  | .between operand lower upper => upper.names ++ (lower.names ++ operand.names)
  | .keep name form => name :: form.names

/-- `Form.names` of several forms, the last of them first. -/
def Form.namesAll : List Form → List String
  | [] => []
  | form :: rest => Form.namesAll rest ++ form.names

end

/-- Whether the value of a form is sure to be a handle or a literal. -/
def Form.Roams (scheme : Scheme) : Form → Prop
  | .table _ _ | .navigate _ _ _ | .column _ _ _ | .literal _ => True
  | .kept name => scheme.shared name
  | _ => False

/-! ## What is asked of programs -/

mutual

/-- A form keeps to its closure.  `outer` are the names of the closures around, and `names` those
kept so far in this one. -/
def Form.Fits (scheme : Scheme) (outer names : List String) : Form → Prop
  | .table _ _ | .key _ | .literal _ | .countRows => True
  | .navigate operand _ _ | .column operand _ _ | .allColumns operand | .toExpr operand
  | .byReference operand | .matchText operand _ _ | .isNull operand _ | .sortBy operand _
  | .aggregate operand _ _ | .not operand | .observe operand =>
      operand.Fits scheme outer names
  | .typed expr => expr.expr.Obeys scheme.rule []
  | .compare _ lhs rhs | .and lhs rhs | .or lhs rhs =>
      lhs.Fits scheme outer names ∧ rhs.Fits scheme outer (lhs.names ++ names)
  | .inList operand items _ =>
      operand.Fits scheme outer names ∧
        Form.AllFit scheme outer (operand.names ++ names) items
  | .between operand lower upper =>
      operand.Fits scheme outer names ∧
        lower.Fits scheme outer (operand.names ++ names) ∧
        upper.Fits scheme outer (lower.names ++ (operand.names ++ names))
  | .inQuery operand _ steps | .anyRow operand _ steps _ =>
      operand.Fits scheme outer names ∧
        Step.AllFit scheme (operand.names ++ names ++ outer) steps
  | .restrict operand body =>
      operand.Fits scheme outer names ∧
        Form.AllFit scheme outer (operand.names ++ names) body
  | .keep name form =>
      form.Fits scheme outer names ∧
        (scheme.rule.strict = true → scheme.shared name → form.Roams scheme) ∧
        (scheme.rule.strict = true → ¬ scheme.shared name → name ∉ outer)
  | .kept name => scheme.rule.strict = true → scheme.shared name ∨ name ∈ names

/-- `Form.Fits` of forms that are evaluated one after the other. -/
def Form.AllFit (scheme : Scheme) (outer names : List String) : List Form → Prop
  | [] => True
  | form :: rest =>
      form.Fits scheme outer names ∧
        Form.AllFit scheme outer (form.names ++ names) rest

/-- The closure of a step keeps to itself. -/
def Step.Fits (scheme : Scheme) (outer : List String) : Step → Prop
  | .filterBy body | .join _ _ body | .groupBy body | .orderBy body | .having body
  | .select body _ => Form.AllFit scheme outer [] body
  | .filterByIf condition body => condition = true → Form.AllFit scheme outer [] body
  | .joinQuery _ source body => source.Fits scheme outer ∧ Form.AllFit scheme outer [] body
  | .stack _ other => other.Fits scheme outer
  | .filterByKey _ | .asTable _ | .asTracking | .withDeleted | .limit _ | .offset _ | .ask _ => True

/-- `Step.Fits` of steps that are taken one after the other. -/
def Step.AllFit (scheme : Scheme) (outer : List String) : List Step → Prop
  | [] => True
  | step :: rest => step.Fits scheme outer ∧ Step.AllFit scheme outer rest

/-- Every closure of a program keeps to itself. -/
def Program.Fits (scheme : Scheme) (outer : List String) : Program → Prop
  | ⟨_, steps⟩ => Step.AllFit scheme outer steps

end

/-! ## Frames -/

/-- The tables of the clauses exist. -/
def Frame.TablesExist (recording : Recording) (frames : List Frame) : Prop :=
  ∀ frame ∈ frames, ∀ table ∈ frame.tables, TableHandle.Valid recording table

/-- The tables that a form refers to exist, and the keys that it refers to are valid where it may
use them. -/
structure Frame.Sound (scheme : Scheme) (recording : Recording) (context : ContextId)
    (frames : List Frame) : Prop where
  tables : Frame.TablesExist recording frames
  keys : ∀ keys, Frame.keys? frames = some keys →
    Item.ValidIn scheme.rule recording context keys

namespace Frame

variable {scheme : Scheme} {recording later : Recording} {context : ContextId}
  {frames : List Frame}

theorem TablesExist.mono (exist : TablesExist recording frames) (grows : recording.Grows later) :
    TablesExist later frames :=
  fun frame hframe table htable => (exist frame hframe table htable).mono grows

theorem Sound.mono (sound : Sound scheme recording context frames)
    (grows : recording.Grows later) : Sound scheme later context frames where
  tables := sound.tables.mono grows
  keys keys found := (sound.keys keys found).mono grows

/-- The body of a clause, which refers to no keys but its own. -/
theorem TablesExist.push (exist : TablesExist recording frames) {tables : List TableHandle}
    (valid : ∀ table ∈ tables, table.Valid recording) {keys : Option (List Item)}
    (keys_valid : ∀ items ∈ keys, Item.ValidIn scheme.rule recording context items) :
    Sound scheme recording context (⟨tables, keys⟩ :: frames) where
  tables := List.forall_mem_cons.mpr ⟨valid, exist⟩
  keys := keys_valid

theorem Sound.tableAt (sound : Sound scheme recording context frames)
    (index outwards : Nat) :
    (tableAt frames index outwards).ValidIn scheme.rule recording context ∧
      (tableAt frames index outwards).Roams := by
  unfold Frame.tableAt
  split
  · next handle found =>
      obtain ⟨frame, hframe, hhandle⟩ := Option.bind_eq_some_iff.mp found
      have valid := sound.tables frame (List.mem_of_getElem? hframe) handle
        (List.mem_of_getElem? hhandle)
      exact ⟨valid, trivial⟩
  · exact ⟨trivial, trivial⟩

end Frame

/-- A key of the innermost clause is valid there.  If there is none, only the observer is told. -/
theorem Session.keeps_keyAt {scheme : Scheme} {start : Recording} {closure : Closure}
    {outer : List Closure} {frames : List Frame}
    (sound : Frame.Sound scheme start closure.context frames) (index : Nat) :
    Keeps scheme start (closure :: outer) (keyAt frames index) (closure :: outer)
      (fun recording term => term.ValidIn scheme.rule recording closure.context) := by
  unfold keyAt
  split
  · next keys found => exact .pure (GroupedQuery.valid_keyAt (sound.keys keys found) index)
  · exact (apart_observe .noKey).keeps.bind fun _ _ _ _ => .pure trivial

end TrackedQuery
