import Mathlib.Data.List.Forall2
import TrackedQuery.Proofs.Recording.Ledger
import TrackedQuery.Proofs.Recording.Slots

/-!
# What stands after lawful moves

A recording agrees with a ledger when the statements that stand in the slots of its recorders are
those that should stand there by the ledger, each of them in one slot, and in the order of their
first leaves (`Agrees`).  Lawful moves keep it so (`Agrees.after`).

## Strategy

* `Ledger.Stands`: what the ledger and the predicates say together about what stands in a slot.
  Moves change it at the numbers of their operands and of the predicate that they make.
* `Agrees.withdraw`: an operand leaves its slot.  `Agrees.put`: a new statement gets a slot in which
  nothing stands, at the end of the sink or in the place of an operand.  All moves that make a
  predicate are made of these two.
* The recorders around the clauses of the ledger are never reached, so nothing is known of them.
-/

namespace TrackedQuery

/-- The sinks of a recorder as a ledger knows them. -/
def Recorder.shape (recorder : Recorder) : List SinkEntry :=
  recorder.sinks.map fun entry => ⟨entry.number, entry.sink.takesPredicates⟩

theorem Recorder.shape_setSlot (recorder : Recorder) (slot : Slot) (content : Option Expr) :
    (recorder.setSlot slot content).shape = recorder.shape := by
  unfold shape setSlot
  rw [List.map_map]
  refine List.map_congr_left fun entry _ => ?_
  by_cases here : entry.number = slot.sink <;> simp [here]

/-- Nothing is recorded in a sink that takes no predicates. -/
theorem Recorder.recordPredicate_of_refused {recorder : Recorder}
    (refused : recorder.shape.head?.filter SinkEntry.takesPredicates = none) (expr : Expr) :
    recorder.recordPredicate expr = (none, recorder) := by
  obtain ⟨context, sinks, nextSink, error⟩ := recorder
  match sinks, refused with
  | [], _ => rfl
  | ⟨_, .order _⟩ :: _, _ => rfl
  | ⟨_, .values⟩ :: _, _ => rfl

/-- A statement gets a position behind all others of its sink. -/
theorem Recorder.recordPredicate_of_taken {recorder : Recorder} {sink : SinkEntry}
    (taken : recorder.shape.head?.filter SinkEntry.takesPredicates = some sink) (expr : Expr) :
    ∃ index later, recorder.recordPredicate expr = (some ⟨sink.number, index⟩, later) ∧
      later.error = recorder.error ∧ later.nextSink = recorder.nextSink ∧
      later.shape = recorder.shape ∧
      ∀ position, recorder.at? ⟨sink.number, position⟩ ≠ none → position < index := by
  obtain ⟨context, sinks, nextSink, error⟩ := recorder
  match sinks, taken with
  | ⟨number, .predicates slots⟩ :: rest, taken =>
      cases taken
      refine ⟨slots.length, _, rfl, rfl, rfl, rfl, fun position found => ?_⟩
      rw [at?_cons, if_pos rfl] at found
      exact Nat.lt_of_not_le fun beyond => found (List.getElem?_eq_none beyond)

/-- By the ledger, the statement of a predicate stands in its sink, and its slot is at the given
position. -/
def Ledger.Stands (ledger : Ledger) (made : List Predicate) (number : Nat) (home : Home)
    (index : Nat) (tree : Tree) : Prop :=
  ledger.entries[number]? = some ⟨tree, some home, false⟩ ∧
    made[number]?.bind Predicate.slot = some ⟨home.sink, index⟩

section Stands

variable {ledger : Ledger} {made : List Predicate} {number other : Nat} {home : Home} {index : Nat}
  {tree : Tree}

theorem Ledger.stands_absorb :
    (ledger.absorb other).Stands made number home index tree ↔
      number ≠ other ∧ ledger.Stands made number home index tree := by
  unfold Stands
  rw [getElem?_absorb]
  cases ledger.entries[number]? with
  | none => simp
  | some entry =>
      by_cases same : other = number
      · simp [same]
      · simp [same, Ne.symm same]

theorem Ledger.stands_push (lengths : made.length = ledger.entries.length) {entry : Entry}
    {predicate : Predicate} :
    (ledger.push entry).Stands (made ++ [predicate]) number home index tree ↔
      ledger.Stands made number home index tree ∨ number = ledger.entries.length ∧
        entry = ⟨tree, some home, false⟩ ∧ predicate.slot = some ⟨home.sink, index⟩ := by
  unfold Stands push
  -- a number is of an older entry, of the new one, or of none
  rcases Nat.lt_trichotomy number ledger.entries.length with old | new | beyond
  · rw [List.getElem?_append_left old, List.getElem?_append_left (by omega)]
    constructor
    · exact .inl
    · rintro (stands | ⟨rfl, -⟩)
      · exact stands
      · omega
  · subst new
    rw [List.getElem?_append_right (Nat.le_refl _), List.getElem?_append_right (by omega)]
    simp [lengths]
  · rw [List.getElem?_eq_none (by simp; omega)]
    constructor
    · rintro ⟨none, -⟩
      cases none
    · rintro (⟨found, -⟩ | ⟨rfl, -⟩)
      · rw [List.getElem?_eq_none (by omega)] at found
        cases found
      · omega

end Stands

/-! ## Agreement -/

/-- A recorder agrees with what the ledger keeps of its clause. -/
structure ClauseAgrees (ledger : Ledger) (made : List Predicate) (clause : ClauseEntry)
    (recorder : Recorder) : Prop where
  error : recorder.error = clause.errors.head?
  opened : recorder.nextSink = clause.opened
  shape : recorder.shape = clause.sinks
  /-- Whatever stands in a slot should stand there. -/
  owned : ∀ slot expr, recorder.at? slot = some (some expr) → ∃ number tree,
    ledger.Stands made number ⟨clause.serial, slot.sink⟩ slot.index tree ∧ tree.expr = expr
  /-- What should stand in a slot stands there, as long as the sink is open. -/
  stands : ∀ number slot tree,
    ledger.Stands made number ⟨clause.serial, slot.sink⟩ slot.index tree →
      slot.sink ∈ clause.sinks.map SinkEntry.number → recorder.at? slot = some (some tree.expr)

/-- No two statements stand in one slot. -/
def Ledger.Distinct (ledger : Ledger) (made : List Predicate) : Prop :=
  ∀ ⦃number other : Nat⦄ ⦃home : Home⦄ ⦃index : Nat⦄ ⦃tree tree' : Tree⦄,
    ledger.Stands made number home index tree → ledger.Stands made other home index tree' →
      number = other

/-- A recording and the predicates that were made agree with a ledger.  The recorders around those
of the ledger are the given ones. -/
structure Agrees (outer : List Recorder) (ledger : Ledger) (bench : Bench) : Prop where
  sound : ledger.Sound
  lengths : bench.made.length = ledger.entries.length
  made : ∀ (number : Nat) (entry : Entry) (predicate : Predicate),
    ledger.entries[number]? = some entry → bench.made[number]? = some predicate →
      predicate.expr = entry.tree.expr ∧ predicate.slot.map Slot.sink = entry.home.map Home.sink
  recorders : ∃ inner, bench.recording.recorders = inner ++ outer ∧
    List.Forall₂ (ClauseAgrees ledger bench.made) ledger.clauses inner
  distinct : ledger.Distinct bench.made
  /-- Statements stand in the order of their first leaves. -/
  order : ∀ {number other home index index' tree tree'},
    ledger.Stands bench.made number home index tree →
      ledger.Stands bench.made other home index' tree' → index < index' →
        tree.firstLeaf < tree'.firstLeaf

/-- What a ledger says of one clause is all that a recorder has to agree with. -/
theorem ClauseAgrees.transport {ledger ledger' : Ledger} {made made' : List Predicate}
    {clause : ClauseEntry} {recorder : Recorder} (agrees : ClauseAgrees ledger made clause recorder)
    (same : ∀ number sink index tree, ledger'.Stands made' number ⟨clause.serial, sink⟩ index tree ↔
      ledger.Stands made number ⟨clause.serial, sink⟩ index tree) :
    ClauseAgrees ledger' made' clause recorder where
  error := agrees.error
  opened := agrees.opened
  shape := agrees.shape
  owned slot expr found := by
    obtain ⟨number, tree, stands, rfl⟩ := agrees.owned slot expr found
    exact ⟨number, tree, (same ..).mpr stands, rfl⟩
  stands number slot tree stands := agrees.stands number slot tree ((same ..).mp stands)

/-- A statement leaves its slot, and no other one. -/
theorem ClauseAgrees.withdraw {ledger : Ledger} {made : List Predicate} {clause : ClauseEntry}
    {recorder : Recorder} (agrees : ClauseAgrees ledger made clause recorder)
    (distinct : ledger.Distinct made) {number : Nat} {slot : Slot} {tree : Tree}
    (stood : ledger.Stands made number ⟨clause.serial, slot.sink⟩ slot.index tree) :
    ClauseAgrees (ledger.absorb number) made clause (recorder.setSlot slot none) where
  error := agrees.error
  opened := agrees.opened
  shape := (recorder.shape_setSlot slot none).trans agrees.shape
  owned other expr found := by
    rw [Recorder.at?_setSlot] at found
    split at found
    · obtain ⟨_, _, impossible⟩ := Option.map_eq_some_iff.mp found
      cases impossible
    · -- what owns another slot is another entry, and stays
      next different =>
        obtain ⟨owner, tree', stands, rfl⟩ := agrees.owned other expr found
        refine ⟨owner, tree', Ledger.stands_absorb.mpr ⟨fun same => different ?_, stands⟩, rfl⟩
        subst same
        exact Option.some.inj (stands.2.symm.trans stood.2)
  stands other position tree' stands isOpen := by
    obtain ⟨different, stands⟩ := Ledger.stands_absorb.mp stands
    rw [Recorder.at?_setSlot, if_neg]
    · exact agrees.stands other position tree' stands isOpen
    · intro same
      subst same
      exact different (distinct stands stood)

/-- A new statement gets a slot in which nothing stands. -/
theorem ClauseAgrees.put {ledger : Ledger} {made : List Predicate} {clause : ClauseEntry}
    {recorder later : Recorder} (agrees : ClauseAgrees ledger made clause recorder)
    (lengths : made.length = ledger.entries.length) {slot : Slot} {tree : Tree}
    (error : later.error = recorder.error) (opened : later.nextSink = recorder.nextSink)
    (shape : later.shape = recorder.shape)
    (elsewhere : ∀ other ≠ slot, later.at? other = recorder.at? other)
    (here : ∀ expr, later.at? slot = some (some expr) → expr = tree.expr)
    (isOpen : slot.sink ∈ clause.sinks.map SinkEntry.number →
      later.at? slot = some (some tree.expr))
    (free : ∀ number tree',
      ¬ ledger.Stands made number ⟨clause.serial, slot.sink⟩ slot.index tree') :
    ClauseAgrees (ledger.push ⟨tree, some ⟨clause.serial, slot.sink⟩, false⟩)
      (made ++ [⟨some slot, tree.expr⟩]) clause later where
  error := error.trans agrees.error
  opened := opened.trans agrees.opened
  shape := shape.trans agrees.shape
  owned other expr found := by
    by_cases same : other = slot
    · subst same
      exact ⟨ledger.entries.length, tree,
        (Ledger.stands_push lengths).mpr (.inr ⟨rfl, rfl, rfl⟩), (here expr found).symm⟩
    · rw [elsewhere other same] at found
      obtain ⟨number, tree', stands, rfl⟩ := agrees.owned other expr found
      exact ⟨number, tree', (Ledger.stands_push lengths).mpr (.inl stands), rfl⟩
  stands number other tree' stands known := by
    obtain stands | ⟨rfl, same, place⟩ := (Ledger.stands_push lengths).mp stands
    · rw [elsewhere other fun same => free number tree' (same ▸ stands)]
      exact agrees.stands number other tree' stands known
    · obtain rfl : slot = other := Option.some.inj place
      cases same
      exact isOpen known

namespace Agrees

variable {outer : List Recorder} {ledger : Ledger} {bench : Bench}

/-- A clause that is being built has a recorder. -/
theorem innermost (agrees : Agrees outer ledger bench) {clause : ClauseEntry}
    {clauses : List ClauseEntry} (building : ledger.clauses = clause :: clauses) :
    ∃ recorder inner, bench.recording.recorders = recorder :: (inner ++ outer) ∧
      ClauseAgrees ledger bench.made clause recorder ∧
      List.Forall₂ (ClauseAgrees ledger bench.made) clauses inner := by
  obtain ⟨inner, recorders, each⟩ := agrees.recorders
  rw [building] at each
  obtain ⟨recorder, inner, first, others, rfl⟩ := List.forall₂_cons_left_iff.mp each
  exact ⟨recorder, inner, recorders, first, others⟩

/-- The clauses around the one that is being built do not notice a change there. -/
theorem others {ledger' : Ledger} {made made' : List Predicate} {clause : ClauseEntry}
    {clauses : List ClauseEntry} {inner : List Recorder}
    (serials : ∀ other ∈ clauses, clause.serial ≠ other.serial)
    (each : List.Forall₂ (ClauseAgrees ledger made) clauses inner)
    (same : ∀ number home index tree, home.clause ≠ clause.serial →
      (ledger'.Stands made' number home index tree ↔ ledger.Stands made number home index tree)) :
    List.Forall₂ (ClauseAgrees ledger' made') clauses inner := by
  have members := (List.forall₂_and_left clauses inner).mpr ⟨serials, each⟩
  refine members.imp fun other recorder both => both.2.transport fun number sink index tree => ?_
  exact same number ⟨other.serial, sink⟩ index tree both.1.symm

/-! ## Statements come and go -/

section Statements

variable {number : Nat} {slot : Slot} {expr : Expr}

/-- A predicate without a slot stands nowhere. -/
theorem nowhere (agrees : Agrees outer ledger bench) (usable : ledger.mayUse number = true)
    (found : bench.made[number]? = some ⟨none, expr⟩) :
    ∃ tree, ledger.entries[number]? = some ⟨tree, none, false⟩ := by
  obtain ⟨tree, home, noted, -⟩ := Ledger.mayUse_iff.mp usable
  obtain rfl : home = none :=
    Option.map_eq_none_iff.mp (agrees.made number _ _ noted found).2.symm
  exact ⟨tree, noted⟩

/-- A predicate that may be used stands in its slot, in the clause that is being built. -/
theorem standing (agrees : Agrees outer ledger bench) (usable : ledger.mayUse number = true)
    (found : bench.made[number]? = some ⟨some slot, expr⟩) :
    ∃ clause clauses tree, ledger.clauses = clause :: clauses ∧
      ledger.Stands bench.made number ⟨clause.serial, slot.sink⟩ slot.index tree := by
  obtain ⟨tree, home, noted, here⟩ := Ledger.mayUse_iff.mp usable
  obtain ⟨home, rfl, same⟩ :=
    Option.map_eq_some_iff.mp (agrees.made number _ _ noted found).2.symm
  obtain ⟨clause, first, serial⟩ := Option.map_eq_some_iff.mp (here home rfl)
  obtain ⟨clauses, building⟩ := List.head?_eq_some_iff.mp first
  obtain rfl : home = ⟨clause.serial, slot.sink⟩ := by rw [serial, ← same]
  exact ⟨clause, clauses, tree, building, noted, by rw [found]; rfl⟩

/-- A statement that may be used leaves its slot, and no other one. -/
theorem withdraw (agrees : Agrees outer ledger bench) {predicate : Predicate}
    (usable : ledger.mayUse number = true) (found : bench.made[number]? = some predicate) :
    Agrees outer (ledger.absorb number) (bench.withdraw predicate) := by
  refine ⟨agrees.sound.absorb number, ?_, fun other entry predicate noted made => ?_, ?_,
    fun _ _ _ _ _ _ first second => agrees.distinct (Ledger.stands_absorb.mp first).2
      (Ledger.stands_absorb.mp second).2,
    fun first second => agrees.order (Ledger.stands_absorb.mp first).2
      (Ledger.stands_absorb.mp second).2⟩
  · rw [Ledger.absorb, List.length_modify]
    exact agrees.lengths
  · rw [Ledger.getElem?_absorb] at noted
    obtain ⟨before, old, rfl⟩ := Option.map_eq_some_iff.mp noted
    have both := agrees.made other before predicate old made
    split <;> exact both
  · obtain ⟨slot, expr⟩ := predicate
    cases slot with
    | none =>
        -- it stands nowhere, so no recorder notices
        obtain ⟨tree, noted⟩ := agrees.nowhere usable found
        obtain ⟨inner, recorders, each⟩ := agrees.recorders
        refine ⟨inner, recorders, each.imp fun clause recorder agreed =>
          agreed.transport fun other sink index tree' => ?_⟩
        rw [Ledger.stands_absorb]
        refine and_iff_right_of_imp fun stands same => ?_
        rw [Ledger.Stands, same, noted] at stands
        cases stands.1
    | some slot =>
        obtain ⟨clause, clauses, tree, building, stood⟩ := agrees.standing usable found
        obtain ⟨recorder, inner, recorders, agreed, others⟩ := agrees.innermost building
        refine ⟨recorder.setSlot slot none :: inner, ?_, ?_⟩
        · simp [Bench.withdraw, Recording.write, Recording.setSlot, Recording.modifyActive,
            recorders]
        · show List.Forall₂ _ ledger.clauses _
          rw [building]
          refine .cons (agreed.withdraw agrees.distinct stood) ?_
          -- the other clauses do not have the statement
          have serials := agrees.sound.serials
          rw [building] at serials
          refine Agrees.others (List.pairwise_cons.mp serials).1 others
            fun other elsewhere index tree' ne => ?_
          rw [Ledger.stands_absorb]
          refine and_iff_right_of_imp fun stands same => ne ?_
          rw [Ledger.Stands, same, stood.1] at stands
          cases stands.1
          rfl

/-- A predicate is noted together with the statement and the sink it has. -/
theorem made_push (agrees : Agrees outer ledger bench) {entry : Entry} {predicate : Predicate}
    (expr : predicate.expr = entry.tree.expr)
    (sink : predicate.slot.map Slot.sink = entry.home.map Home.sink) :
    ∀ (number : Nat) (entry' : Entry) (predicate' : Predicate),
      (ledger.push entry).entries[number]? = some entry' →
        (bench.made ++ [predicate])[number]? = some predicate' →
          predicate'.expr = entry'.tree.expr ∧
            predicate'.slot.map Slot.sink = entry'.home.map Home.sink := by
  intro number entry' predicate' noted found
  rcases Nat.lt_or_ge number ledger.entries.length with old | new
  · rw [Ledger.push, List.getElem?_append_left old] at noted
    rw [List.getElem?_append_left (agrees.lengths ▸ old)] at found
    exact agrees.made number entry' predicate' noted found
  · rw [Ledger.push, List.getElem?_append_right new, List.getElem?_singleton] at noted
    rw [List.getElem?_append_right (agrees.lengths ▸ new), List.getElem?_singleton] at found
    split at noted
    · cases noted
      split at found
      · cases found
        exact ⟨expr, sink⟩
      · cases found
    · cases noted

/-- A new statement gets a slot in which nothing stands, between statements with earlier and with
later leaves. -/
theorem put (agrees : Agrees outer ledger bench) {clause : ClauseEntry}
    {clauses : List ClauseEntry} (building : ledger.clauses = clause :: clauses)
    {later : Recorder} {inner : List Recorder}
    (others : List.Forall₂ (ClauseAgrees ledger bench.made) clauses inner) (slot : Slot)
    (tree : Tree) (leaf : tree.firstLeaf ≤ ledger.entries.length)
    (known : slot.sink < clause.opened)
    (between : ∀ number index tree',
      ledger.Stands bench.made number ⟨clause.serial, slot.sink⟩ index tree' →
        index ≠ slot.index ∧ (index < slot.index → tree'.firstLeaf < tree.firstLeaf) ∧
          (slot.index < index → tree.firstLeaf < tree'.firstLeaf))
    (agreed : ClauseAgrees (ledger.push ⟨tree, some ⟨clause.serial, slot.sink⟩, false⟩)
      (bench.made ++ [⟨some slot, tree.expr⟩]) clause later) :
    Agrees outer (ledger.push ⟨tree, some ⟨clause.serial, slot.sink⟩, false⟩)
      ⟨{ bench.recording with recorders := later :: (inner ++ outer) },
        bench.made ++ [⟨some slot, tree.expr⟩]⟩ := by
  have serials := agrees.sound.serials
  have begun := agrees.sound.begun
  rw [building] at serials begun
  refine ⟨agrees.sound.push leaf fun home same => ?_, by simp [Ledger.push, agrees.lengths],
    agrees.made_push rfl rfl, ⟨later :: inner, rfl, ?_⟩, ?_, ?_⟩
  · cases same
    rw [building]
    refine ⟨begun clause (List.mem_cons_self ..), List.forall_mem_cons.mpr ⟨fun _ => known, ?_⟩⟩
    exact fun other mem same => absurd same.symm ((List.pairwise_cons.mp serials).1 other mem)
  · show List.Forall₂ _ ledger.clauses _
    rw [building]
    refine .cons agreed (Agrees.others (List.pairwise_cons.mp serials).1 others
      fun number home index tree' ne => ?_)
    rw [Ledger.stands_push agrees.lengths]
    refine or_iff_left fun new => ne ?_
    cases new.2.1
    rfl
  · -- if one of two statements in a slot is the new one, the other one stood there before
    intro number other home index tree' tree'' first second
    rcases (Ledger.stands_push agrees.lengths).mp first with first | ⟨rfl, same, place⟩ <;>
      rcases (Ledger.stands_push agrees.lengths).mp second with second | ⟨rfl, same', place'⟩
    · exact agrees.distinct first second
    · cases same'
      have last : slot.index = index := congrArg Slot.index (Option.some.inj place')
      exact absurd last.symm (between number index tree' first).1
    · cases same
      have last : slot.index = index := congrArg Slot.index (Option.some.inj place)
      exact absurd last.symm (between other index tree'' second).1
    · rfl
  · intro number other home index index' tree' tree'' first second lt
    rcases (Ledger.stands_push agrees.lengths).mp first with first | ⟨rfl, same, place⟩ <;>
      rcases (Ledger.stands_push agrees.lengths).mp second with second | ⟨rfl, same', place'⟩
    · exact agrees.order first second lt
    · cases same'
      have last : slot.index = index' := congrArg Slot.index (Option.some.inj place')
      exact (between number index tree' first).2.1 (last ▸ lt)
    · cases same
      have last : slot.index = index := congrArg Slot.index (Option.some.inj place)
      exact (between other index' tree'' second).2.2 (last ▸ lt)
    · have same : index = index' :=
        congrArg Slot.index (Option.some.inj (place.symm.trans place'))
      omega

/-- A statement that stands nowhere is noted. -/
theorem push_nowhere (agrees : Agrees outer ledger bench) {tree : Tree}
    (leaf : tree.firstLeaf ≤ ledger.entries.length) :
    Agrees outer (ledger.push ⟨tree, none, false⟩)
      { bench with made := bench.made ++ [⟨none, tree.expr⟩] } := by
  have same : ∀ {number home index tree'},
      (ledger.push ⟨tree, none, false⟩).Stands (bench.made ++ [⟨none, tree.expr⟩]) number home
        index tree' ↔ ledger.Stands bench.made number home index tree' := by
    intro number home index tree'
    rw [Ledger.stands_push agrees.lengths]
    exact or_iff_left fun new => by cases new.2.2
  refine ⟨agrees.sound.push leaf (fun _ none => by cases none),
    by simp [Ledger.push, agrees.lengths], agrees.made_push rfl rfl, ?_,
    fun _ _ _ _ _ _ first second => agrees.distinct (same.mp first) (same.mp second),
    fun first second => agrees.order (same.mp first) (same.mp second)⟩
  obtain ⟨inner, recorders, each⟩ := agrees.recorders
  exact ⟨inner, recorders, each.imp fun clause recorder agreed =>
    agreed.transport fun _ _ _ _ => same⟩

end Statements

end Agrees

end TrackedQuery
