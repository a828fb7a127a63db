import Mathlib.Data.List.Sort
import TrackedQuery.Proofs.Recording.Lawful

/-!
# What a clause answers with

The body of a clause that records predicates leaves the statements that have not become part of
another one, each of them once, in the order in which their first leaves were recorded
(`Ledger.standing`).  If errors were reported, the clause answers with the first of them
(`recordClause_body`).

A recording that agrees with a ledger has those statements in its slots, in that order
(`ClauseAgrees.statements_eq`): both lists are sorted by the first leaves, and they have the same
members.
-/

namespace TrackedQuery

/-! ## What should stand in a sink -/

namespace Ledger

/-- The statements of a sink that have not become part of another one. -/
def remaining (ledger : Ledger) (home : Home) : List Tree :=
  (ledger.entries.filter fun entry => !entry.absorbed && entry.home == some home).map Entry.tree

/-- Those statements, by their first leaves. -/
def standing (ledger : Ledger) (home : Home) : List Tree :=
  (ledger.remaining home).insertionSort fun tree other => tree.firstLeaf ≤ other.firstLeaf

/-- A clause has begun that records predicates. -/
def inClause : Ledger := ⟨[], [⟨0, [⟨0, true⟩], 1, []⟩], 1⟩

/-- What such a clause should answer with. -/
def outcome (ledger : Ledger) : Result (List Expr) :=
  match ledger.clauses.head?.bind fun clause => clause.errors.head? with
  | some error => .error error
  | none => .ok ((ledger.standing ⟨0, 0⟩).map Tree.expr)

variable {ledger : Ledger} {home : Home} {tree : Tree}

private theorem mem_standing : tree ∈ ledger.standing home ↔
    ∃ number : Nat, ledger.entries[number]? = some ⟨tree, some home, false⟩ := by
  rw [standing, List.mem_insertionSort, remaining, List.mem_map]
  constructor
  · rintro ⟨⟨tree', home', absorbed⟩, mem, rfl⟩
    obtain ⟨mem, kept⟩ := List.mem_filter.mp mem
    simp only [Bool.and_eq_true, Bool.not_eq_true', beq_iff_eq] at kept
    obtain ⟨rfl, rfl⟩ := kept
    exact List.mem_iff_getElem?.mp mem
  · rintro ⟨number, found⟩
    exact ⟨_, List.mem_filter.mpr ⟨List.mem_of_getElem? found, by simp⟩, rfl⟩

/-- Statements with leaves of their own are in strict order. -/
theorem pairwise_standing
    (different : ∀ (number other : Nat) (tree tree' : Tree), number < other →
      ledger.entries[number]? = some ⟨tree, some home, false⟩ →
        ledger.entries[other]? = some ⟨tree', some home, false⟩ →
          tree.firstLeaf ≠ tree'.firstLeaf) :
    (ledger.standing home).Pairwise fun tree other => tree.firstLeaf < other.firstLeaf := by
  have total : Std.Total fun tree other : Tree => tree.firstLeaf ≤ other.firstLeaf :=
    ⟨fun tree other => Nat.le_total tree.firstLeaf other.firstLeaf⟩
  have trans : IsTrans Tree fun tree other : Tree => tree.firstLeaf ≤ other.firstLeaf :=
    ⟨fun _ _ _ first second => Nat.le_trans first second⟩
  -- what remains stands on different leaves, and sorting only changes the order
  have apart : (ledger.remaining home).Pairwise
      fun tree other => tree.firstLeaf ≠ other.firstLeaf := by
    rw [remaining, List.pairwise_map, List.pairwise_filter, List.pairwise_iff_getElem]
    intro number other inside inside' lt first second
    simp only [Bool.and_eq_true, Bool.not_eq_true', beq_iff_eq] at first second
    refine different number other _ _ lt ?_ ?_
    · rw [List.getElem?_eq_getElem inside, ← first.1, ← first.2]
    · rw [List.getElem?_eq_getElem inside', ← second.1, ← second.2]
  have sorted : (ledger.standing home).Pairwise
      fun tree other => tree.firstLeaf ≤ other.firstLeaf := List.pairwise_insertionSort _ _
  have still : (ledger.standing home).Pairwise
      fun tree other => tree.firstLeaf ≠ other.firstLeaf :=
    (List.Perm.pairwise_iff (fun ne => ne.symm) (List.perm_insertionSort _ _)).mpr apart
  exact (sorted.and still).imp fun both => Nat.lt_of_le_of_ne both.1 both.2

end Ledger

/-! ## What stands in a sink -/

/-- The statements of a list of slots, in order, if each has an owner. -/
theorem filterMap_slots (slots : List (Option Expr)) (stands : Nat → Tree → Prop)
    (owned : ∀ (index : Nat) (expr : Expr), slots[index]? = some (some expr) →
      ∃ tree, stands index tree ∧ tree.expr = expr)
    (filled : ∀ index tree, stands index tree → slots[index]? = some (some tree.expr))
    (unique : ∀ index tree other, stands index tree → stands index other → tree = other)
    (order : ∀ index index' tree other, stands index tree → stands index' other → index < index' →
      tree.firstLeaf < other.firstLeaf) :
    ∃ trees : List Tree, slots.filterMap id = trees.map Tree.expr ∧
      (trees.Pairwise fun tree other => tree.firstLeaf < other.firstLeaf) ∧
      ∀ tree, tree ∈ trees ↔ ∃ index, stands index tree := by
  induction slots generalizing stands with
  | nil =>
      refine ⟨[], rfl, .nil, fun tree => ⟨fun mem => (by cases mem), fun here => ?_⟩⟩
      obtain ⟨index, here⟩ := here
      cases filled index tree here
  | cons slot rest ih =>
      obtain ⟨trees, statements, sorted, members⟩ := ih
        (fun index tree => stands (index + 1) tree)
        (fun index expr found => owned (index + 1) expr found)
        (fun index tree here => filled (index + 1) tree here)
        (fun index tree other => unique (index + 1) tree other)
        fun index index' tree other first second lt =>
          order _ _ tree other first second (Nat.succ_lt_succ lt)
      -- a slot that was given up is passed over, a filled one comes before all that follow
      cases slot with
      | none =>
          refine ⟨trees, statements, sorted, fun tree => (members tree).trans (Iff.intro ?_ ?_)⟩
          · exact fun ⟨index, here⟩ => ⟨index + 1, here⟩
          · rintro ⟨_ | index, here⟩
            · cases filled 0 tree here
            · exact ⟨index, here⟩
      | some expr =>
          obtain ⟨first, here, rfl⟩ := owned 0 expr rfl
          refine ⟨first :: trees, congrArg _ statements, ?_, fun tree => ?_⟩
          · refine List.pairwise_cons.mpr ⟨fun other mem => ?_, sorted⟩
            obtain ⟨index, there⟩ := (members other).mp mem
            exact order _ _ first other here there (Nat.succ_pos index)
          · rw [List.mem_cons, members]
            constructor
            · rintro (rfl | ⟨index, there⟩)
              · exact ⟨0, here⟩
              · exact ⟨index + 1, there⟩
            · rintro ⟨_ | index, there⟩
              · exact .inl (unique 0 tree first there here)
              · exact .inr ⟨index, there⟩

/-- What the ledger says of a sink is what stands in it. -/
theorem Agrees.statements_eq {outer : List Recorder} {ledger : Ledger} {bench : Bench}
    (agrees : Agrees outer ledger bench) {clause : ClauseEntry} {recorder : Recorder}
    (agreed : ClauseAgrees ledger bench.made clause recorder) {entry : OpenSink}
    {rest : List OpenSink} (sinks : recorder.sinks = entry :: rest) :
    entry.sink.statements =
      (ledger.standing ⟨clause.serial, entry.number⟩).map Tree.expr := by
  have at_eq : ∀ index, recorder.at? ⟨entry.number, index⟩ = entry.sink.slots[index]? := by
    intro index
    obtain ⟨context, _, nextSink, error⟩ := recorder
    cases sinks
    rw [Recorder.at?_cons, if_pos rfl]
  have isOpen : entry.number ∈ clause.sinks.map SinkEntry.number := by
    rw [← agreed.shape, Recorder.shape, sinks]
    exact List.mem_cons_self ..
  -- what should stand in the sink has a position there
  have place : ∀ {number : Nat} {tree : Tree} {home : Home},
      ledger.entries[number]? = some ⟨tree, some home, false⟩ → ∃ index,
        ledger.Stands bench.made number home index tree := by
    intro number tree home noted
    have inside := (List.getElem?_eq_some_iff.mp noted).1
    have made := List.getElem?_eq_getElem (agrees.lengths ▸ inside)
    obtain ⟨slot, found, same⟩ :=
      Option.map_eq_some_iff.mp (agrees.made number _ _ noted made).2
    refine ⟨slot.index, noted, ?_⟩
    rw [made, Option.bind_some, found, ← same]
  obtain ⟨trees, statements, sorted, members⟩ := filterMap_slots entry.sink.slots
    (fun index tree => ∃ number,
      ledger.Stands bench.made number ⟨clause.serial, entry.number⟩ index tree)
    (fun index expr found => by
      obtain ⟨number, tree, stands, same⟩ :=
        agreed.owned ⟨entry.number, index⟩ expr ((at_eq index).trans found)
      exact ⟨tree, ⟨number, stands⟩, same⟩)
    (fun index tree stands => by
      obtain ⟨number, stands⟩ := stands
      exact (at_eq index).symm.trans
        (agreed.stands number ⟨entry.number, index⟩ tree stands isOpen))
    (fun index tree other first second => by
      obtain ⟨number, first⟩ := first
      obtain ⟨number', second⟩ := second
      obtain rfl := agrees.distinct first second
      cases first.1.symm.trans second.1
      rfl)
    fun index index' tree other first second lt => by
      obtain ⟨number, first⟩ := first
      obtain ⟨number', second⟩ := second
      exact agrees.order first second lt
  have strict : (ledger.standing ⟨clause.serial, entry.number⟩).Pairwise
      fun tree other => tree.firstLeaf < other.firstLeaf := by
    refine Ledger.pairwise_standing fun number other tree tree' lt noted noted' => ?_
    obtain ⟨index, first⟩ := place noted
    obtain ⟨index', second⟩ := place noted'
    rcases Nat.lt_trichotomy index index' with before | rfl | behind
    · exact Nat.ne_of_lt (agrees.order first second before)
    · exact absurd (agrees.distinct first second) (Nat.ne_of_lt lt)
    · exact Nat.ne_of_gt (agrees.order second first behind)
  -- two strictly ordered lists with the same members are one list
  have irrefl : Std.Irrefl fun tree other : Tree => tree.firstLeaf < other.firstLeaf :=
    ⟨fun tree => Nat.lt_irrefl tree.firstLeaf⟩
  have antisymm : Std.Antisymm fun tree other : Tree => tree.firstLeaf < other.firstLeaf :=
    ⟨fun _ _ lt gt => absurd lt (Nat.lt_asymm gt)⟩
  rw [Sink.statements_eq, statements, sorted.eq_of_mem_iff strict fun tree => ?_]
  rw [members, Ledger.mem_standing]
  constructor
  · rintro ⟨index, number, stands⟩
    exact ⟨number, stands.1⟩
  · rintro ⟨number, noted⟩
    obtain ⟨index, stands⟩ := place noted
    exact ⟨index, number, stands⟩

/-- Each predicate has the statement that the ledger keeps of it. -/
theorem Agrees.exprs_eq {outer : List Recorder} {ledger : Ledger} {bench : Bench}
    (agrees : Agrees outer ledger bench) :
    bench.made.map Predicate.expr = ledger.entries.map fun entry => entry.tree.expr := by
  refine List.ext_getElem (by simp [agrees.lengths]) fun number inside inside' => ?_
  rw [List.length_map] at inside inside'
  rw [List.getElem_map, List.getElem_map]
  exact (agrees.made number _ _ (List.getElem?_eq_getElem inside')
    (List.getElem?_eq_getElem inside)).1

/-! ## Filters and clauses -/

/-- The filter of an aggregate gets the statements that are left in its own sink. -/
theorem Agrees.recordInside_body {outer : List Recorder} {ledger : Ledger} {bench : Bench}
    (agrees : Agrees outer ledger bench) {clause : ClauseEntry} {clauses : List ClauseEntry}
    (building : ledger.clauses = clause :: clauses) {moves : List Move} (body : Move.Body moves)
    (lawful : (ledger.after .openSink).lawful moves = true) :
    (recordInside (.predicates []) (Move.performAll moves) bench).1.statements =
      (((ledger.after .openSink).afterAll moves).standing ⟨clause.serial, clause.opened⟩).map
        Tree.expr := by
  have isOpen := Ledger.clauses_openSink building
  have inside : ledger.clauses = [] → outer = [] :=
    fun none => by rw [building] at none; cases none
  have ran := (agrees.openSink inside).afterBody body isOpen lawful
  obtain ⟨opened, errors, stays⟩ := body.clauses_afterAll isOpen
  obtain ⟨recorder, inner, recorders, agreed, -⟩ := ran.innermost stays
  obtain ⟨entry, rest, sinks, same, -⟩ := List.map_eq_cons_iff.mp agreed.shape
  -- the sink that is closed is the one that was opened, since a body closes what it opens
  have number : entry.number = clause.opened := congrArg SinkEntry.number same
  have closed : (recordInside (.predicates []) (Move.performAll moves) bench).1 = entry.sink := by
    show (((bench.after .openSink).afterAll moves).recording.closeSink).1 = _
    rw [Recording.closeSink, recorders]
    show recorder.closeSink.1 = _
    rw [Recorder.closeSink, sinks]
  have whole := ran.statements_eq agreed sinks
  rw [number] at whole
  rw [closed]
  exact whole

/-- A clause answers with the first error that was reported to it.  If there was none, it answers
with the statements that have not become part of another one, each of them once, by their first
leaves.  The statement of each predicate is put together as the ledger says, and all clauses around
are as they were. -/
theorem recordClause_body (recording : Recording) (context : ContextId) {moves : List Move}
    (body : Move.Body moves) (lawful : Ledger.inClause.lawful moves = true) :
    let ledger := Ledger.inClause.afterAll moves
    let ran :=
      recordClause context (.predicates []) (Move.performAll moves) (⟨recording, []⟩ : Bench)
    ran.1.map (fun recorded => recorded.2.statements) = ledger.outcome ∧
      ran.2.made.map Predicate.expr = ledger.entries.map (fun entry => entry.tree.expr) ∧
      ran.2.recording = recording := by
  intro ledger ran
  have begun : Agrees recording.recorders Ledger.inClause
      (Bench.after ⟨recording, []⟩ (.beginClause context .predicates)) :=
    (agrees_empty recording).beginClause context .predicates
  -- nothing has to be known of the recorders around the clause
  have agrees := begun.afterBody body rfl lawful
  have inClause : Ledger.inClause.clauses = [⟨0, [⟨0, true⟩], 1, []⟩] := rfl
  obtain ⟨opened, errors, stays⟩ : ∃ opened errors,
      ledger.clauses = [⟨0, [⟨0, true⟩], opened, errors⟩] := body.clauses_afterAll inClause
  obtain ⟨recorder, inner, recorders, agreed, others⟩ := agrees.innermost stays
  cases others
  have contexts := Bench.contexts_afterAll
    (Bench.after ⟨recording, []⟩ (.beginClause context .predicates)) moves
  generalize final : Bench.afterAll (Bench.after ⟨recording, []⟩ (.beginClause context .predicates))
    moves = bench at agrees recorders agreed contexts
  have result : ran =
      (bench.recording.endClause.1.map fun recorded => ((), recorded),
        { bench with recording := bench.recording.endClause.2 }) := by
    rw [← final]
    rfl
  have ended : bench.recording.endClause = (recorder.finish, recording) := by
    rw [Recording.endClause, recorders]
    exact congrArg (Prod.mk _) (congrArg (Recording.mk · _) contexts)
  rw [result, ended]
  refine ⟨?_, agrees.exprs_eq, rfl⟩
  have statements : recorder.closeSink.1.statements =
      (ledger.standing ⟨0, 0⟩).map Tree.expr := by
    obtain ⟨entry, rest, sinks, same, -⟩ := List.map_eq_cons_iff.mp agreed.shape
    have number : entry.number = 0 := congrArg SinkEntry.number same
    have whole := agrees.statements_eq agreed sinks
    rw [number] at whole
    rw [Recorder.closeSink, sinks]
    exact whole
  show (recorder.finish.map _).map _ = _
  unfold Ledger.outcome Recorder.finish
  rw [stays, List.head?_cons, Option.bind_some, agreed.error]
  cases errors.head? with
  | some error => rfl
  | none => exact congrArg Except.ok statements

namespace Example

/-- Statements over the tags of blogs, and the number of them with weight one. -/
def tagIsLean : Expr := .compare .eq (.column (.local baseAlias 1)) (.value (.string "lean"))

def blogIsFirst : Expr := .compare .eq (.column (.local baseAlias 0)) (.value (.string "b1"))

def weightIs (weight : Int32) : Expr :=
  .compare .eq (.column (.local baseAlias 2)) (.value (.int32 weight))

def light : Expr :=
  .aggregate .count (some (.when (weightIs 1) (.value (.int64 1)) .null)) false

/-- A body that uses the filter of an aggregate, and each way to use a predicate. -/
def taggingBody : List Move :=
  [.record tagIsLean, .openSink, .record (weightIs 1), .closeSink,
    .record (.compare .gt light light), .combine .or 0 2, .record blogIsFirst, .not 4,
    .record (weightIs 2), .detach 6, .record (.compare .eq (.value (.bool true)) (weightIs 2))]

private theorem body_tagging : Move.Body taggingBody :=
  have later : Move.Body (taggingBody.drop 4) :=
    .plain _ rfl (.plain _ rfl (.plain _ rfl (.plain _ rfl (.plain _ rfl (.plain _ rfl
      (.plain _ rfl .nil))))))
  .plain _ rfl (.filter (.plain (.record (weightIs 1)) rfl .nil) later)

/-- Three statements are left of five, at the places of their first leaves. -/
theorem recordClause_body_tagging :
    Ledger.inClause.lawful taggingBody = true ∧
      (recordClause 0 (.predicates []) (Move.performAll taggingBody)
        (⟨.empty, []⟩ : Bench)).1.map (fun recorded => recorded.2.statements) =
        .ok [.or tagIsLean (.compare .gt light light), .neg blogIsFirst,
          .compare .eq (.value (.bool true)) (weightIs 2)] :=
  have lawful : Ledger.inClause.lawful taggingBody = true := by decide
  have ran := recordClause_body .empty 0 body_tagging lawful
  ⟨lawful, ran.1.trans rfl⟩

end Example

end TrackedQuery
