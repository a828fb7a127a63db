import Mathlib.Data.List.Basic
import TrackedQuery.Proofs.Recording.Move

/-!
# What should stand after a body

The ledger of a sequence of moves says what they should leave behind, and knows nothing of slots.
For each predicate it keeps how its statement was put together (`Tree`), the sink that the statement
should stand in (`Home`), and whether it has become part of another one.  A statement that is put
together from others stands in the sink of the left one, and is recorded anew if that one stands
nowhere.

For each clause that is being built, the ledger keeps its open sinks and the errors reported to it.
Clauses are numbered in the order they begin, and sinks in the order their clause opens them.

The moves are lawful when each predicate is used once at most, and in the clause that recorded it
(`Ledger.lawful`).
-/

namespace TrackedQuery

/-! ## Statements -/

/-- How a statement was put together.  Its leaves are the statements that were recorded, with the
numbers of their predicates. -/
inductive Tree where
  | leaf (number : Nat) (expr : Expr)
  | combine (connective : Connective) (lhs rhs : Tree)
  | not (operand : Tree)

namespace Tree

/-- The statement itself. -/
def expr : Tree → Expr
  | .leaf _ expr => expr
  | .combine connective lhs rhs => connective.expr lhs.expr rhs.expr
  | .not operand => .neg operand.expr

/-- The number of the leftmost leaf. -/
def firstLeaf : Tree → Nat
  | .leaf number _ => number
  | .combine _ lhs _ => lhs.firstLeaf
  | .not operand => operand.firstLeaf

end Tree

/-- A sink of a clause. -/
structure Home where
  clause : Nat
  sink : Nat
deriving DecidableEq

/-- What the ledger keeps of a predicate. -/
structure Entry where
  tree : Tree
  home : Option Home
  /-- Whether the statement has become part of another one, or of something else. -/
  absorbed : Bool

/-! ## Clauses -/

/-- What the ledger keeps of an open sink. -/
structure SinkEntry where
  number : Nat
  takesPredicates : Bool
deriving DecidableEq

/-- What the ledger keeps of a clause. -/
structure ClauseEntry where
  serial : Nat
  /-- The open sinks, innermost first. -/
  sinks : List SinkEntry
  /-- How many sinks were opened. -/
  opened : Nat
  /-- The errors that were reported, in order. -/
  errors : List Error

/-- What a sequence of moves should leave behind. -/
structure Ledger where
  entries : List Entry
  /-- The clauses that are being built, innermost first. -/
  clauses : List ClauseEntry
  /-- How many clauses have begun. -/
  begun : Nat

namespace Ledger

/-- Before any move. -/
def empty : Ledger := ⟨[], [], 0⟩

/-- The clause that is being built. -/
def current? (ledger : Ledger) : Option Nat := ledger.clauses.head?.map ClauseEntry.serial

/-- Where a statement stands that is recorded now. -/
def here? (ledger : Ledger) : Option Home :=
  ledger.clauses.head?.bind fun clause =>
    (clause.sinks.head?.filter SinkEntry.takesPredicates).map fun sink =>
      ⟨clause.serial, sink.number⟩

/-- Changes the clause that is being built. -/
def modifyClause (ledger : Ledger) (change : ClauseEntry → ClauseEntry) : Ledger :=
  match ledger.clauses with
  | [] => ledger
  | clause :: outer => { ledger with clauses := change clause :: outer }

/-- Notes a predicate. -/
def push (ledger : Ledger) (entry : Entry) : Ledger :=
  { ledger with entries := ledger.entries ++ [entry] }

/-- Notes that a statement has become part of another one. -/
def absorb (ledger : Ledger) (number : Nat) : Ledger :=
  { ledger with
    entries := ledger.entries.modify number fun entry => { entry with absorbed := true } }

/-- Notes a statement that is recorded. -/
def record (ledger : Ledger) (expr : Expr) : Ledger :=
  ledger.push ⟨.leaf ledger.entries.length expr, ledger.here?, false⟩

/-- Notes a statement that takes the place of another one. -/
def become (ledger : Ledger) (number : Nat) (home : Option Home) (tree : Tree) : Ledger :=
  match home with
  | some home => (ledger.absorb number).push ⟨tree, some home, false⟩
  | none => (ledger.absorb number).record tree.expr

/-- The ledger after a move. -/
def after (ledger : Ledger) : Move → Ledger
  | .beginClause _ kind =>
      { ledger with
        clauses := ⟨ledger.begun, [⟨0, kind.takesPredicates⟩], 1, []⟩ :: ledger.clauses
        begun := ledger.begun + 1 }
  | .endClause => { ledger with clauses := ledger.clauses.tail }
  | .openSink =>
      ledger.modifyClause fun clause =>
        { clause with sinks := ⟨clause.opened, true⟩ :: clause.sinks, opened := clause.opened + 1 }
  | .closeSink => ledger.modifyClause fun clause => { clause with sinks := clause.sinks.tail }
  | .record expr => ledger.record expr
  | .combine connective lhs rhs =>
      match ledger.entries[lhs]?, ledger.entries[rhs]? with
      | some left, some right =>
          (ledger.absorb rhs).become lhs left.home (.combine connective left.tree right.tree)
      | _, _ => ledger
  | .not operand =>
      match ledger.entries[operand]? with
      | some entry => ledger.become operand entry.home (.not entry.tree)
      | none => ledger
  | .detach operand => ledger.absorb operand
  | .report error =>
      ledger.modifyClause fun clause => { clause with errors := clause.errors ++ [error] }

/-- The ledger after moves. -/
def afterAll (ledger : Ledger) : List Move → Ledger
  | [] => ledger
  | move :: rest => (ledger.after move).afterAll rest

theorem afterAll_append (ledger : Ledger) (moves rest : List Move) :
    ledger.afterAll (moves ++ rest) = (ledger.afterAll moves).afterAll rest := by
  induction moves generalizing ledger with
  | nil => rfl
  | cons move moves ih => exact ih (ledger.after move)

/-! ## Lawful moves -/

/-- Whether a predicate may be used: it was made, it is not part of anything yet, and it stands in
the clause that is being built, if it stands anywhere. -/
def mayUse (ledger : Ledger) (number : Nat) : Bool :=
  ledger.entries[number]?.any fun entry =>
    !entry.absorbed && entry.home.all fun home => ledger.current? == some home.clause

/-- Whether a move uses predicates that may be used, and none twice. -/
def allows (ledger : Ledger) (move : Move) : Bool :=
  move.operands.all ledger.mayUse && decide move.operands.Nodup

/-- Whether all moves are allowed at their turn. -/
def lawful (ledger : Ledger) : List Move → Bool
  | [] => true
  | move :: rest => ledger.allows move && (ledger.after move).lawful rest

theorem lawful_append {ledger : Ledger} {moves rest : List Move} :
    ledger.lawful (moves ++ rest) = true ↔
      ledger.lawful moves = true ∧ (ledger.afterAll moves).lawful rest = true := by
  induction moves generalizing ledger with
  | nil => simp [lawful, afterAll]
  | cons move moves ih => simp [lawful, afterAll, ih, and_assoc]

theorem mayUse_iff {ledger : Ledger} {number : Nat} :
    ledger.mayUse number = true ↔ ∃ tree home, ledger.entries[number]? = some ⟨tree, home, false⟩ ∧
      ∀ stands ∈ home, ledger.current? = some stands.clause := by
  unfold mayUse
  cases ledger.entries[number]? with
  | none => simp
  | some entry =>
      obtain ⟨tree, home, absorbed⟩ := entry
      cases home <;> cases absorbed <;> simp

theorem getElem?_absorb (ledger : Ledger) (number other : Nat) :
    (ledger.absorb number).entries[other]? = ledger.entries[other]?.map fun entry =>
      if number = other then { entry with absorbed := true } else entry := by
  rw [absorb, List.getElem?_modify]
  split <;> rfl

/-! ## Numbers are never given twice -/

/-- Numbers that are given are new: a leaf is no younger than its predicate, and neither a clause
nor a sink that is still to be opened is the home of a statement. -/
structure Sound (ledger : Ledger) : Prop where
  leaves : ∀ (number : Nat) (entry : Entry), ledger.entries[number]? = some entry →
    entry.tree.firstLeaf ≤ number
  homes : ∀ entry ∈ ledger.entries, ∀ home ∈ entry.home, home.clause < ledger.begun ∧
    ∀ clause ∈ ledger.clauses, clause.serial = home.clause → home.sink < clause.opened
  begun : ∀ clause ∈ ledger.clauses, clause.serial < ledger.begun
  serials : ledger.clauses.Pairwise fun inner outer => inner.serial ≠ outer.serial
  sinks : ∀ clause ∈ ledger.clauses,
    (clause.sinks.Pairwise fun inner outer => inner.number ≠ outer.number) ∧
      ∀ sink ∈ clause.sinks, sink.number < clause.opened

theorem sound_empty : empty.Sound where
  leaves _ _ found := by simp [empty] at found
  homes := List.forall_mem_nil _
  begun := List.forall_mem_nil _
  serials := .nil
  sinks := List.forall_mem_nil _

namespace Sound

variable {ledger : Ledger}

theorem push (sound : ledger.Sound) {entry : Entry}
    (leaf : entry.tree.firstLeaf ≤ ledger.entries.length)
    (home : ∀ home ∈ entry.home, home.clause < ledger.begun ∧
      ∀ clause ∈ ledger.clauses, clause.serial = home.clause → home.sink < clause.opened) :
    (ledger.push entry).Sound where
  leaves number found here := by
    rcases Nat.lt_or_ge number ledger.entries.length with old | new
    · rw [Ledger.push, List.getElem?_append_left old] at here
      exact sound.leaves number found here
    · rw [Ledger.push, List.getElem?_append_right new, List.getElem?_singleton] at here
      split at here
      · cases here
        omega
      · cases here
  homes := List.forall_mem_append.mpr ⟨sound.homes, List.forall_mem_singleton.mpr home⟩
  begun := sound.begun
  serials := sound.serials
  sinks := sound.sinks

theorem absorb (sound : ledger.Sound) (number : Nat) : (ledger.absorb number).Sound where
  leaves other entry found := by
    rw [getElem?_absorb] at found
    obtain ⟨before, here, rfl⟩ := Option.map_eq_some_iff.mp found
    have leaf := sound.leaves other before here
    split <;> exact leaf
  homes entry mem := by
    obtain ⟨other, found⟩ := List.getElem?_of_mem mem
    rw [getElem?_absorb] at found
    obtain ⟨before, here, rfl⟩ := Option.map_eq_some_iff.mp found
    have homes := sound.homes before (List.mem_of_getElem? here)
    split <;> exact homes
  begun := sound.begun
  serials := sound.serials
  sinks := sound.sinks

private theorem here (sound : ledger.Sound) : ∀ home ∈ ledger.here?, home.clause < ledger.begun ∧
    ∀ clause ∈ ledger.clauses, clause.serial = home.clause → home.sink < clause.opened := by
  intro home found
  obtain ⟨entries, clauses, begun⟩ := ledger
  cases clauses with
  | nil => cases found
  | cons clause outer =>
      obtain ⟨sink, inner, rfl⟩ := Option.map_eq_some_iff.mp found
      have innermost := List.mem_of_head? (Option.filter_eq_some_iff.mp inner).1
      have first := List.mem_cons_self (a := clause) (l := outer)
      refine ⟨sound.begun clause first, fun other mem same => ?_⟩
      rcases List.mem_cons.mp mem with rfl | mem
      · exact (sound.sinks _ first).2 sink innermost
      · exact absurd same.symm ((List.pairwise_cons.mp sound.serials).1 other mem)

private theorem record (sound : ledger.Sound) (expr : Expr) : (ledger.record expr).Sound :=
  sound.push (Nat.le_refl _) sound.here

/-- A statement that takes the place of another one begins with the same leaf. -/
theorem become (sound : ledger.Sound) {number : Nat} {entry : Entry}
    (found : ledger.entries[number]? = some entry) {tree : Tree}
    (leaf : tree.firstLeaf = entry.tree.firstLeaf) :
    (ledger.become number entry.home tree).Sound := by
  have absorbed := sound.absorb number
  cases stands : entry.home with
  | none => exact absorbed.record tree.expr
  | some home =>
      have known := sound.homes entry (List.mem_of_getElem? found) home stands
      refine absorbed.push ?_ fun _ same => Option.some.inj same ▸ known
      have older := sound.leaves number entry found
      have inside : number < ledger.entries.length := (List.getElem?_eq_some_iff.mp found).1
      rw [leaf, Ledger.absorb, List.length_modify]
      omega

/-- Nothing is recorded elsewhere when the clause that is being built changes. -/
theorem modifyClause (sound : ledger.Sound) {change : ClauseEntry → ClauseEntry}
    (serial : ∀ clause, (change clause).serial = clause.serial)
    (opened : ∀ clause, clause.opened ≤ (change clause).opened)
    (sinks : ∀ clause ∈ ledger.clauses,
      ((change clause).sinks.Pairwise fun inner outer => inner.number ≠ outer.number) ∧
        ∀ sink ∈ (change clause).sinks, sink.number < (change clause).opened) :
    (ledger.modifyClause change).Sound := by
  obtain ⟨entries, clauses, begun⟩ := ledger
  cases clauses with
  | nil => exact sound
  | cons clause outer =>
      obtain ⟨first, others⟩ := List.forall_mem_cons.mp sound.begun
      obtain ⟨different, serials⟩ := List.pairwise_cons.mp sound.serials
      refine ⟨sound.leaves, fun entry mem home stands => ?_, ?_, ?_, ?_⟩
      · obtain ⟨older, known⟩ := sound.homes entry mem home stands
        obtain ⟨here, elsewhere⟩ := List.forall_mem_cons.mp known
        refine ⟨older, List.forall_mem_cons.mpr ⟨fun same => ?_, elsewhere⟩⟩
        rw [serial] at same
        exact Nat.lt_of_lt_of_le (here same) (opened clause)
      · exact List.forall_mem_cons.mpr ⟨by rw [serial]; exact first, others⟩
      · exact List.pairwise_cons.mpr ⟨fun other mem => by rw [serial]; exact different other mem,
          serials⟩
      · exact List.forall_mem_cons.mpr ⟨sinks clause (List.mem_cons_self ..),
          (List.forall_mem_cons.mp sound.sinks).2⟩

theorem beginClause (sound : ledger.Sound) (kind : ClauseKind) (context : ContextId) :
    (ledger.after (.beginClause context kind)).Sound where
  leaves := sound.leaves
  homes entry mem home stands := by
    obtain ⟨older, known⟩ := sound.homes entry mem home stands
    refine ⟨Nat.lt_succ_of_lt older, List.forall_mem_cons.mpr ⟨fun same => ?_, known⟩⟩
    -- the clause gets a number that no home has yet
    exact absurd same.symm (Nat.ne_of_lt older)
  begun := List.forall_mem_cons.mpr ⟨Nat.lt_succ_self _,
    fun clause mem => Nat.lt_succ_of_lt (sound.begun clause mem)⟩
  serials := List.pairwise_cons.mpr
    ⟨fun clause mem => Nat.ne_of_gt (sound.begun clause mem), sound.serials⟩
  sinks := List.forall_mem_cons.mpr
    ⟨⟨List.pairwise_singleton _ _, List.forall_mem_singleton.mpr Nat.zero_lt_one⟩, sound.sinks⟩

theorem endClause (sound : ledger.Sound) : (ledger.after .endClause).Sound where
  leaves := sound.leaves
  homes entry mem home stands :=
    have known := sound.homes entry mem home stands
    ⟨known.1, fun clause inside => known.2 clause (List.mem_of_mem_tail inside)⟩
  begun clause mem := sound.begun clause (List.mem_of_mem_tail mem)
  serials := sound.serials.tail
  sinks clause mem := sound.sinks clause (List.mem_of_mem_tail mem)

/-- Every move keeps it so. -/
theorem after (sound : ledger.Sound) (move : Move) : (ledger.after move).Sound := by
  cases move with
  | beginClause context kind => exact sound.beginClause kind context
  | endClause => exact sound.endClause
  | openSink =>
      refine sound.modifyClause (fun _ => rfl) (fun _ => Nat.le_succ _) fun clause mem => ?_
      obtain ⟨different, older⟩ := sound.sinks clause mem
      refine ⟨List.pairwise_cons.mpr ⟨fun sink mem => Nat.ne_of_gt (older sink mem), different⟩, ?_⟩
      exact List.forall_mem_cons.mpr ⟨Nat.lt_succ_self _,
        fun sink mem => Nat.lt_succ_of_lt (older sink mem)⟩
  | closeSink =>
      refine sound.modifyClause (fun _ => rfl) (fun _ => Nat.le_refl _) fun clause mem => ?_
      obtain ⟨different, older⟩ := sound.sinks clause mem
      exact ⟨different.tail, fun sink mem => older sink (List.mem_of_mem_tail mem)⟩
  | record expr => exact sound.record expr
  | combine connective lhs rhs =>
      rw [Ledger.after]
      split
      · next left right leftFound rightFound =>
          have found := ledger.getElem?_absorb rhs lhs
          rw [leftFound, Option.map_some] at found
          -- whether the right one is the left one makes no difference to its statement and its home
          split at found <;> exact (sound.absorb rhs).become found rfl
      · exact sound
  | not operand =>
      rw [Ledger.after]
      split
      · next entry found => exact sound.become found rfl
      · exact sound
  | detach operand => exact sound.absorb operand
  | report error => exact sound.modifyClause (fun _ => rfl) (fun _ => Nat.le_refl _) sound.sinks

end Sound

end Ledger

/-! ## Clauses that stay -/

section Clauses

variable {ledger : Ledger} {clause : ClauseEntry} {clauses : List ClauseEntry}

/-- A move that is no bracket adds errors to the clause that is being built, and does nothing else
to it. -/
theorem Ledger.clauses_after {move : Move} (whole : move.isBracket = false)
    (building : ledger.clauses = clause :: clauses) :
    ∃ errors, (ledger.after move).clauses =
      { clause with errors := clause.errors ++ errors } :: clauses := by
  have kept (same : (ledger.after move).clauses = ledger.clauses) :
      ∃ errors, (ledger.after move).clauses =
        { clause with errors := clause.errors ++ errors } :: clauses :=
    ⟨[], by rw [same, building, List.append_nil]⟩
  have become (ledger : Ledger) (number : Nat) (home : Option Home) (tree : Tree) :
      (ledger.become number home tree).clauses = ledger.clauses := by
    cases home <;> rfl
  cases move with
  | beginClause _ _ | endClause | openSink | closeSink => cases whole
  | record _ | detach _ => exact kept rfl
  | combine connective lhs rhs =>
      refine kept ?_
      rw [Ledger.after]
      split
      · exact become ..
      · rfl
  | not operand =>
      refine kept ?_
      rw [Ledger.after]
      split
      · exact become ..
      · rfl
  | report error => exact ⟨[error], by simp [Ledger.after, Ledger.modifyClause, building]⟩

theorem Ledger.clauses_beginClause (ledger : Ledger) (context : ContextId) (kind : ClauseKind) :
    (ledger.after (.beginClause context kind)).clauses =
      ⟨ledger.begun, [⟨0, kind.takesPredicates⟩], 1, []⟩ :: ledger.clauses := rfl

theorem Ledger.clauses_openSink (building : ledger.clauses = clause :: clauses) :
    (ledger.after .openSink).clauses = { clause with
      sinks := ⟨clause.opened, true⟩ :: clause.sinks
      opened := clause.opened + 1 } :: clauses := by
  simp [Ledger.after, Ledger.modifyClause, building]

theorem Ledger.clauses_closeSink (building : ledger.clauses = clause :: clauses) :
    (ledger.after .closeSink).clauses = { clause with sinks := clause.sinks.tail } :: clauses := by
  simp [Ledger.after, Ledger.modifyClause, building]

/-- A body leaves its clause with the sinks it started with. -/
theorem Move.Body.clauses_afterAll {moves : List Move} (body : Move.Body moves)
    (building : ledger.clauses = clause :: clauses) : ∃ opened errors,
      (ledger.afterAll moves).clauses =
        ⟨clause.serial, clause.sinks, opened, clause.errors ++ errors⟩ :: clauses := by
  -- the clause has the same sinks at the end: brackets inside of a body are closed there
  induction body generalizing ledger clause clauses with
  | nil => exact ⟨clause.opened, [], by rw [Ledger.afterAll, building, List.append_nil]⟩
  | plain move whole later ih =>
      obtain ⟨errors, stays⟩ := Ledger.clauses_after whole building
      obtain ⟨opened, more, result⟩ := ih stays
      exact ⟨opened, errors ++ more, by rw [Ledger.afterAll, result, List.append_assoc]⟩
  | filter inner later ihInner ihLater =>
      obtain ⟨opened, errors, stays⟩ := ihInner (Ledger.clauses_openSink building)
      obtain ⟨count, more, result⟩ := ihLater (Ledger.clauses_closeSink stays)
      refine ⟨count, errors ++ more, ?_⟩
      rw [Ledger.afterAll, Ledger.afterAll_append, Ledger.afterAll, result, List.append_assoc]
      rfl
  | clause context kind inner later ihInner ihLater =>
      obtain ⟨opened, errors, stays⟩ :=
        ihInner (ledger.clauses_beginClause context kind)
      rw [Ledger.afterAll, Ledger.afterAll_append]
      exact ihLater ((congrArg List.tail stays).trans building)

end Clauses

end TrackedQuery
