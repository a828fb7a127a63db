import TrackedQuery.Program.Evaluate
import TrackedQuery.Proofs.Recording.Slots

/-!
# The seam between two parts of a body

A body of a clause is run in one clause together with what comes before it, or in a clause of its
own.  The two runs differ in what the recorder of the clause holds: in the one there are already the
statements from before in the sink numbered 0, and sinks that were opened before have used up
numbers.  `Seam.recorder` takes the recorder of the second run to that of the first, and `Seam.slot`
its slots.

Nothing that a body does to a recorder tells the two apart: to record a statement, to change the
content of a slot, to record a sort key and to open a sink all commute with the passage.  Closing a
sink does, but the answer is the same only for a sink that was opened after the seam
(`Seam.closeSink_fst`).

A predicate carries its slot along, so the values that are kept have to be taken from the one run to
the other as well.  This is done for the values of the body behind the seam alone, which are those
under the seam's own names.  A seam with nothing before it and no names changes nothing
(`Seam.recorder_still`, `Seam.kept_still`).
-/

namespace TrackedQuery

/-! ## Sinks -/

namespace Sink

/-- What two bodies record one after the other, in a sink of the kind of the second. -/
def followedBy (before : Sink) : Sink → Sink
  | .predicates slots => .predicates (before.slots ++ slots)
  | .order keys => .order (before.sortKeys ++ keys)
  | .values => .values

/-- The sink without what was recorded. -/
def emptied : Sink → Sink
  | .predicates _ => .predicates []
  | .order _ => .order []
  | .values => .values

@[simp] theorem emptied_emptied (sink : Sink) : sink.emptied.emptied = sink.emptied := by
  cases sink <;> rfl

theorem followedBy_emptied (sink : Sink) : sink.followedBy sink.emptied = sink := by
  cases sink with
  | predicates slots => exact congrArg Sink.predicates (List.append_nil slots)
  | order keys => exact congrArg Sink.order (List.append_nil keys)
  | values => rfl

theorem emptied_setSlot (sink : Sink) (index : Nat) (content : Option Expr) :
    (sink.setSlot index content).emptied = sink.emptied := by
  cases sink <;> rfl

theorem statements_followedBy {before sink : Sink} (alike : before.emptied = sink.emptied) :
    (before.followedBy sink).statements = before.statements ++ sink.statements := by
  cases sink with
  | predicates slots =>
      cases before with
      | predicates earlier => exact List.filterMap_append ..
      | order | values => cases alike
  | order | values =>
      cases before with
      | predicates => cases alike
      | order | values => rfl

theorem sortKeys_followedBy {before sink : Sink} (alike : before.emptied = sink.emptied) :
    (before.followedBy sink).sortKeys = before.sortKeys ++ sink.sortKeys := by
  cases sink with
  | order keys => rfl
  | predicates | values =>
      cases before with
      | order => cases alike
      | predicates | values => rfl

end Sink

/-! ## Seams -/

/-- Which names the body behind a seam uses for its values. -/
structure Naming where
  /-- The names of its own values. -/
  own : List String
  /-- The names of values that no statement was recorded for. -/
  plain : List String

/-- What lies before the second part of a body. -/
structure Seam where
  /-- What was recorded before. -/
  before : Sink
  /-- How many sinks were opened before. -/
  opened : Nat
  naming : Naming

namespace Seam

/-- Nothing was recorded before. -/
def still : Seam := ⟨.values, 0, [], []⟩

variable (seam : Seam)

/-- A slot, as seen from before the seam. -/
def slot : Slot → Slot
  | ⟨0, index⟩ => ⟨0, seam.before.slots.length + index⟩
  | ⟨number + 1, index⟩ => ⟨number + 1 + seam.opened, index⟩

/-- An open sink, as seen from before the seam. -/
def entry : OpenSink → OpenSink
  | ⟨0, sink⟩ => ⟨0, seam.before.followedBy sink⟩
  | ⟨number + 1, sink⟩ => ⟨number + 1 + seam.opened, sink⟩

/-- The recorder of a clause that began at the seam, as that of a clause that began before it. -/
def recorder (recorder : Recorder) : Recorder :=
  { recorder with
    sinks := recorder.sinks.map seam.entry
    nextSink := recorder.nextSink + seam.opened }

@[simp] theorem slot_still : still.slot = id := by
  funext ⟨number, index⟩
  cases number with
  | zero => exact congrArg (Slot.mk 0) (Nat.zero_add index)
  | succ number => rfl

@[simp] theorem entry_still : still.entry = id := by
  funext ⟨number, sink⟩
  cases number <;> cases sink <;> rfl

@[simp] theorem recorder_still (recorder : Recorder) : still.recorder recorder = recorder := by
  show { recorder with
    sinks := recorder.sinks.map still.entry, nextSink := recorder.nextSink } = recorder
  rw [entry_still, List.map_id]

/-! ## What a body does to its recorder -/

theorem recordPredicate (recorder : Recorder) (statement : Expr) :
    (seam.recorder recorder).recordPredicate statement =
      ((recorder.recordPredicate statement).1.map seam.slot,
        seam.recorder (recorder.recordPredicate statement).2) := by
  obtain ⟨context, sinks, next, error⟩ := recorder
  cases sinks with
  | nil => rfl
  | cons innermost outer =>
      obtain ⟨number, sink⟩ := innermost
      cases sink with
      | order | values => cases number <;> rfl
      | predicates slots =>
          cases number with
          | zero =>
              simp only [Recorder.recordPredicate, Seam.recorder, List.map_cons, entry, slot,
                Sink.followedBy, Option.map_some, List.length_append, List.append_assoc]
          | succ number => rfl

theorem recordSortKey (recorder : Recorder) (key : SortKey) :
    (seam.recorder recorder).recordSortKey key = seam.recorder (recorder.recordSortKey key) := by
  obtain ⟨context, sinks, next, error⟩ := recorder
  cases sinks with
  | nil => rfl
  | cons innermost outer =>
      obtain ⟨number, sink⟩ := innermost
      cases sink with
      | predicates | values => cases number <;> rfl
      | order keys =>
          cases number with
          | zero =>
              simp only [Recorder.recordSortKey, Seam.recorder, List.map_cons, entry,
                Sink.followedBy, List.append_assoc]
          | succ number => rfl

private theorem followedBy_setSlot (before sink : Sink) (index : Nat) (content : Option Expr) :
    (before.followedBy sink).setSlot (before.slots.length + index) content =
      before.followedBy (sink.setSlot index content) := by
  cases sink with
  | predicates slots =>
      refine congrArg Sink.predicates ?_
      rw [List.set_append_right _ _ (Nat.le_add_right _ _), Nat.add_sub_cancel_left]
  | order | values => rfl

/-- A sink has the number of a slot if and only if it has it as seen from before the seam. -/
theorem number_entry_eq_iff {entry : OpenSink} {slot : Slot} :
    (seam.entry entry).number = (seam.slot slot).sink ↔ entry.number = slot.sink := by
  obtain ⟨number, sink⟩ := entry
  obtain ⟨target, index⟩ := slot
  cases number <;> cases target <;> simp only [Seam.entry, Seam.slot] <;> omega

private theorem entry_setSlot (entry : OpenSink) {slot : Slot} (same : entry.number = slot.sink)
    (content : Option Expr) :
    (⟨(seam.entry entry).number,
      (seam.entry entry).sink.setSlot (seam.slot slot).index content⟩ : OpenSink) =
    seam.entry ⟨entry.number, entry.sink.setSlot slot.index content⟩ := by
  obtain ⟨number, sink⟩ := entry
  obtain ⟨target, index⟩ := slot
  cases same
  cases number with
  | zero => exact congrArg (OpenSink.mk 0) (followedBy_setSlot _ _ _ _)
  | succ number => rfl

theorem setSlot (recorder : Recorder) (slot : Slot) (content : Option Expr) :
    (seam.recorder recorder).setSlot (seam.slot slot) content =
      seam.recorder (recorder.setSlot slot content) := by
  simp only [Recorder.setSlot, Seam.recorder, List.map_map]
  congr 1
  refine List.map_congr_left fun entry _ => ?_
  simp only [Function.comp_apply, number_entry_eq_iff]
  split
  · next same => exact seam.entry_setSlot entry same content
  · rfl

theorem openSink {recorder : Recorder} (begun : 0 < recorder.nextSink) (sink : Sink) :
    (seam.recorder recorder).openSink sink = seam.recorder (recorder.openSink sink) := by
  obtain ⟨context, sinks, next, error⟩ := recorder
  obtain ⟨next, rfl⟩ := Nat.exists_eq_succ_of_ne_zero (Nat.ne_of_gt begun)
  simp only [Recorder.openSink, Seam.recorder, List.map_cons, entry]
  congr 1
  omega

theorem closeSink_snd (recorder : Recorder) :
    (seam.recorder recorder).closeSink.2 = seam.recorder recorder.closeSink.2 := by
  obtain ⟨context, sinks, next, error⟩ := recorder
  cases sinks <;> rfl

/-- The sink that a clause begins with holds also what was recorded before. -/
theorem closeSink_fst {recorder : Recorder} {number : Nat} {sink : Sink} {outer : List OpenSink}
    (sinks : recorder.sinks = ⟨number + 1, sink⟩ :: outer) :
    (seam.recorder recorder).closeSink.1 = recorder.closeSink.1 := by
  simp only [Recorder.closeSink, Seam.recorder, sinks, List.map_cons]
  rfl

end Seam

/-! ## Values -/

/-- The predicate in another slot. -/
def Predicate.moved (place : Slot → Slot) (predicate : Predicate) : Predicate :=
  { predicate with slot := predicate.slot.map place }

namespace Term

/-- The slot of a predicate. -/
def slot? : Term → Option Slot
  | .predicate operand | .reference operand => operand.slot
  | _ => none

/-- The value, if it is a predicate then in another slot. -/
def moved (place : Slot → Slot) : Term → Term
  | .predicate operand => .predicate (operand.moved place)
  | .reference operand => .reference (operand.moved place)
  | term => term

@[simp] theorem moved_id : moved id = id := by
  funext term
  cases term with
  | predicate operand | reference operand =>
      obtain ⟨slot, expr⟩ := operand
      cases slot <;> rfl
  | table | column | columns | expr | aggregate | literal | nothing => rfl

/-- Only a value with a slot is moved. -/
theorem moved_of_slot?_eq_none {term : Term} (plain : term.slot? = none) (place : Slot → Slot) :
    term.moved place = term := by
  cases term with
  | predicate operand | reference operand =>
      obtain ⟨slot, expr⟩ := operand
      cases plain
      rfl
  | table | column | columns | expr | aggregate | literal | nothing => rfl

@[simp] theorem isMoved_moved (term : Term) (place : Slot → Slot) :
    (term.moved place).isMoved = term.isMoved := by
  cases term <;> rfl

@[simp] theorem subject_moved (term : Term) (place : Slot → Slot) :
    (term.moved place).subject = term.subject := by
  cases term <;> rfl

theorem byReference_moved (term : Term) (place : Slot → Slot) :
    (term.moved place).byReference = term.byReference.moved place := by
  cases term <;> rfl

end Term

namespace Seam

variable (seam : Seam)

/-- A value that is kept under a name, as seen from before the seam. -/
def kept (name : String) (term : Term) : Term :=
  if name ∈ seam.naming.own then term.moved seam.slot else term

/-- The values that are kept, as seen from before the seam. -/
def terms (terms : Names Term) : Names Term :=
  List.map (fun entry => (entry.1, seam.kept entry.1 entry.2)) terms

theorem kept_still (name : String) (term : Term) : still.kept name term = term :=
  if_neg List.not_mem_nil

theorem get?_terms (terms : Names Term) (name : String) :
    (seam.terms terms).get? name = (terms.get? name).map (seam.kept name) := by
  unfold Seam.terms Names.get?
  rw [List.find?_map]
  -- what is found has the name that was looked for
  cases found : terms.find? (fun entry => entry.1 == name) with
  | none =>
      have found' : terms.find? ((fun entry : String × Term => entry.1 == name) ∘
          fun entry => (entry.1, seam.kept entry.1 entry.2)) = none := found
      rw [found']
      rfl
  | some entry =>
      have found' : terms.find? ((fun entry : String × Term => entry.1 == name) ∘
          fun entry => (entry.1, seam.kept entry.1 entry.2)) = some entry := found
      have named : entry.1 = name := by simpa using List.find?_some found
      rw [found']
      simp [named]

theorem terms_remove (terms : Names Term) (name : String) :
    seam.terms (terms.remove name) = (seam.terms terms).remove name := by
  unfold Seam.terms Names.remove
  rw [List.filter_map]
  rfl

theorem terms_put (terms : Names Term) (name : String) (term : Term) :
    seam.terms (terms.put name term) = (seam.terms terms).put name (seam.kept name term) := by
  unfold Names.put
  rw [← terms_remove]
  rfl

/-! ## Sessions -/

/-- What slots are moved to within the given number of clauses inside the one with the seam. -/
def slotAt : Nat → Slot → Slot
  | 0 => seam.slot
  | _ + 1 => id

/-- The recording, as seen from before the seam, which lies within the given number of clauses. -/
def recording (depth : Nat) (recording : Recording) : Recording :=
  { recording with recorders := recording.recorders.modify depth seam.recorder }

/-- The session, as seen from before the seam, which lies within the given number of clauses. -/
def session (depth : Nat) (session : Session) : Session :=
  { session with
    recording := seam.recording depth session.recording
    terms := seam.terms session.terms }

@[simp] theorem slotAt_still (depth : Nat) : still.slotAt depth = id := by
  cases depth with
  | zero => exact slot_still
  | succ depth => rfl

end Seam

end TrackedQuery
