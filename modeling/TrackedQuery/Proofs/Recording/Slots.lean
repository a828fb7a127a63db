import Mathlib.Data.List.Basic
import TrackedQuery.Query.Recording

/-!
# What stands in a slot

A slot addresses a position of a predicate sink.  There may be no such position; if there is one, it
is empty or a statement stands in it (`Recorder.at?`).  Recording a statement adds a position,
changing a slot changes that position alone, and opening or closing a sink leaves the positions of
all other sinks as they were.
-/

namespace TrackedQuery

/-- The positions of a sink. -/
def Sink.slots : Sink → List (Option Expr)
  | .predicates slots => slots
  | .order _ | .values => []

/-- Whether a sink takes predicate statements. -/
def Sink.takesPredicates : Sink → Bool
  | .predicates _ => true
  | .order _ | .values => false

theorem Sink.statements_eq (sink : Sink) : sink.statements = sink.slots.filterMap id := by
  cases sink <;> rfl

private theorem Sink.slots_setSlot (sink : Sink) (index : Nat) (content : Option Expr) :
    (sink.setSlot index content).slots = sink.slots.set index content := by
  cases sink <;> rfl

@[simp] theorem Sink.takesPredicates_setSlot (sink : Sink) (index : Nat) (content : Option Expr) :
    (sink.setSlot index content).takesPredicates = sink.takesPredicates := by
  cases sink <;> rfl

namespace Recorder

/-- What stands in a slot, if there is such a position. -/
def at? (recorder : Recorder) (slot : Slot) : Option (Option Expr) :=
  (recorder.sinks.find? fun entry => entry.number == slot.sink).bind fun entry =>
    entry.sink.slots[slot.index]?

theorem at?_cons (context : ContextId) (entry : OpenSink) (sinks : List OpenSink) (next : Nat)
    (error : Option Error) (slot : Slot) :
    at? ⟨context, entry :: sinks, next, error⟩ slot =
      if entry.number = slot.sink then entry.sink.slots[slot.index]?
      else at? ⟨context, sinks, next, error⟩ slot := by
  by_cases here : entry.number = slot.sink <;> simp [at?, here]

/-- No position has the number of a sink that is not open. -/
theorem at?_eq_none {recorder : Recorder} {slot : Slot}
    (closed : ∀ entry ∈ recorder.sinks, entry.number ≠ slot.sink) : recorder.at? slot = none := by
  unfold at?
  rw [List.find?_eq_none.mpr fun entry mem => by simpa using closed entry mem]
  rfl

/-- Changing a slot changes what stands in it, and in no other one.  Where there is no position,
nothing changes. -/
theorem at?_setSlot (recorder : Recorder) (slot other : Slot) (content : Option Expr) :
    (recorder.setSlot slot content).at? other =
      if other = slot then (recorder.at? slot).map fun _ => content else recorder.at? other := by
  obtain ⟨context, sinks, nextSink, error⟩ := recorder
  induction sinks with
  | nil => simp [at?, setSlot]
  | cons entry rest ih =>
      have mapped : (setSlot ⟨context, entry :: rest, nextSink, error⟩ slot content).at? other =
          if entry.number = other.sink then
            (if entry.number = slot.sink then entry.sink.slots.set slot.index content
              else entry.sink.slots)[other.index]?
          else (setSlot ⟨context, rest, nextSink, error⟩ slot content).at? other := by
        unfold setSlot
        rw [List.map_cons, at?_cons]
        by_cases here : entry.number = slot.sink <;> simp [here, Sink.slots_setSlot]
      rw [mapped, ih, at?_cons, at?_cons]
      obtain ⟨sink, index⟩ := slot
      obtain ⟨sink', index'⟩ := other
      by_cases here : entry.number = sink
      · by_cases there : entry.number = sink'
        · -- both address the first sink
          obtain rfl : sink = sink' := here.symm.trans there
          by_cases same : index' = index
          · subst same
            simp only [here, if_true, List.getElem?_set_self']
            rfl
          · simp [here, same, List.getElem?_set_ne (Ne.symm same)]
        · have different : sink ≠ sink' := fun same => there (here.trans same)
          simp [here, different, Ne.symm different]
      · by_cases there : entry.number = sink'
        · have different : sink' ≠ sink := fun same => here (there.trans same)
          simp [there, different]
        · simp [here, there]

/-- A statement that is recorded gets a position at the end of the innermost sink. -/
theorem at?_recordPredicate {recorder later : Recorder} {statement : Expr} {slot : Slot}
    (recorded : recorder.recordPredicate statement = (some slot, later)) (other : Slot) :
    later.at? other = if other = slot then some (some statement) else recorder.at? other := by
  obtain ⟨context, sinks, nextSink, error⟩ := recorder
  unfold recordPredicate at recorded
  split at recorded
  · next number slots outer same =>
      cases recorded
      cases same
      obtain ⟨sink, index⟩ := other
      rw [at?_cons, at?_cons]
      by_cases here : number = sink
      · subst here
        simp only [if_true, Sink.slots, Slot.mk.injEq, true_and]
        -- the statement is appended, so it is read at the end of its sink and nowhere else
        by_cases last : index = slots.length
        · simp [last]
        · rw [if_neg last, List.getElem?_append, List.getElem?_singleton]
          split
          · rfl
          · rw [if_neg (by omega), List.getElem?_eq_none (by omega)]
      · have different : sink ≠ number := Ne.symm here
        simp [here, different]
  · cases recorded

/-- That position was not there before. -/
theorem at?_of_recordPredicate {recorder later : Recorder} {statement : Expr} {slot : Slot}
    (recorded : recorder.recordPredicate statement = (some slot, later)) :
    recorder.at? slot = none := by
  obtain ⟨context, sinks, nextSink, error⟩ := recorder
  unfold recordPredicate at recorded
  split at recorded
  · next number slots outer same =>
      cases recorded
      cases same
      rw [at?_cons, if_pos rfl]
      exact List.getElem?_eq_none (Nat.le_refl _)
  · cases recorded

/-- A statement that gets no slot is not recorded. -/
theorem eq_of_recordPredicate {recorder later : Recorder} {statement : Expr}
    (refused : recorder.recordPredicate statement = (none, later)) : later = recorder := by
  unfold recordPredicate at refused
  split at refused <;> cases refused
  rfl

/-- Opening a sink under a new number adds no position. -/
theorem at?_openSink {recorder : Recorder}
    (fresh : ∀ entry ∈ recorder.sinks, entry.number < recorder.nextSink) (slot : Slot) :
    (recorder.openSink (.predicates [])).at? slot = recorder.at? slot := by
  unfold openSink
  rw [at?_cons]
  split
  · next same =>
      refine (at?_eq_none fun entry mem => ?_).symm
      rw [← same]
      exact Nat.ne_of_lt (fresh entry mem)
  · rfl

/-- Closing the innermost sink takes its positions away, and no others. -/
theorem at?_closeSink {recorder : Recorder} {entry : OpenSink} {outer : List OpenSink}
    (sinks : recorder.sinks = entry :: outer)
    (distinct : ∀ other ∈ outer, other.number ≠ entry.number) (slot : Slot) :
    recorder.closeSink.2.at? slot =
      if entry.number = slot.sink then none else recorder.at? slot := by
  obtain ⟨context, _, nextSink, error⟩ := recorder
  cases sinks
  rw [at?_cons]
  split
  · next same =>
      refine at?_eq_none fun other mem => ?_
      rw [← same]
      exact distinct other mem
  · rfl

end Recorder

end TrackedQuery
