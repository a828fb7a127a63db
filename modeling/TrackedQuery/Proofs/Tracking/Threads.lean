import Mathlib.Logic.Function.Basic
import TrackedQuery.Proofs.Tracking.Scope

/-!
# Scopes under many threads

Threads enter and release scopes at the same time.  What one thread does is not done in one go: the
depth and the snapshots of a scope are changed together, while nobody else can look at them, but the
list of the scopes that a thread is in belongs to the thread, and is looked at before and changed
after.  Between its two halves an operation has to stand whatever the other threads do.

`Threads` is the state of all threads, `Threads.Step` is what one of them does without interruption,
and `Threads.Run` is any interleaving of such steps.  An operation that nobody interrupts is the
operation on `Tracking` (`Run.enter`, `Run.releaseScope`).

## Strategy

* `Sound` is kept by every step (`Sound.step`), hence by every run (`Run.sound`).  Its idea is that
  a scope can only be entered by the thread it is attached to, and that a thread which is halfway
  through an operation does nothing else: so a scope that is about to be forgotten stays closed
  until it is forgotten.
* An operation is a half that finds a scope (`Tracking.lookUp`, `Tracking.lower`) and a half that
  follows from it; `Tracking.enter_eq` and `Tracking.releaseScope_eq` cut the operations in two.
-/

namespace TrackedQuery

deriving instance DecidableEq for Guard

/-! ## The halves of an operation -/

namespace Tracking

/-- The scope that a thread is about to enter: the one the manager has on it, or else a fresh one,
which it is attached to from then on. -/
def lookUp (tracking : Tracking) (thread : ThreadId) (manager : ManagerId) : ScopeId × Tracking :=
  match tracking.current? thread manager with
  | some scope => (scope, tracking)
  | none =>
      (tracking.scopes.length,
        { scopes := tracking.scopes ++ [.fresh]
          attachments := ⟨thread, manager, tracking.scopes.length⟩ :: tracking.attachments })

/-- One level less of a scope that was entered. -/
def lower (tracking : Tracking) (scope : ScopeId) : Tracking :=
  if (tracking.scopeAt scope).depth = 0 then tracking else tracking.modifyScope scope Scope.release

theorem enter_eq (tracking : Tracking) (thread : ThreadId) (manager : ManagerId) :
    tracking.enter thread manager =
      ((tracking.lookUp thread manager).1,
        (tracking.lookUp thread manager).2.modifyScope (tracking.lookUp thread manager).1
          Scope.enter) := by
  unfold enter lookUp
  cases tracking.current? thread manager with
  | some scope => rfl
  | none => simp [modifyScope, List.modify_eq_take_drop]

theorem releaseScope_eq (tracking : Tracking) (thread : ThreadId) (manager : ManagerId)
    (scope : ScopeId) :
    tracking.releaseScope thread manager scope =
      if (tracking.scopeAt scope).depth = 1 then
        (tracking.lower scope).detach thread manager scope
      else tracking.lower scope := by
  unfold releaseScope lower
  match (tracking.scopeAt scope).depth with
  | 0 => rfl
  | 1 => rfl
  | _ + 2 => simp

theorem current?_eq_none_iff {tracking : Tracking} {thread : ThreadId} {manager : ManagerId} :
    tracking.current? thread manager = none ↔
      ∀ attachment ∈ tracking.attachments,
        ¬ (attachment.thread = thread ∧ attachment.manager = manager) := by
  simp [current?]

theorem mem_of_current? {tracking : Tracking} {thread : ThreadId} {manager : ManagerId}
    {scope : ScopeId} (current : tracking.current? thread manager = some scope) :
    ⟨thread, manager, scope⟩ ∈ tracking.attachments := by
  obtain ⟨attachment, found, rfl⟩ := Option.map_eq_some_iff.mp current
  have here := List.find?_some found
  simp only [Bool.and_eq_true, beq_iff_eq] at here
  obtain ⟨rfl, rfl⟩ := here
  exact List.mem_of_find?_eq_some found

/-! ### What the halves change -/

theorem attachments_lower (tracking : Tracking) (scope : ScopeId) :
    (tracking.lower scope).attachments = tracking.attachments := by
  unfold lower
  split <;> rfl

theorem length_lower (tracking : Tracking) (scope : ScopeId) :
    (tracking.lower scope).scopes.length = tracking.scopes.length := by
  unfold lower
  split
  · rfl
  · exact length_modifyScope tracking scope _

/-- Looking a scope up changes none: a scope that was never entered is fresh. -/
theorem scopeAt_lookUp (tracking : Tracking) (thread : ThreadId) (manager : ManagerId)
    (scope : ScopeId) :
    (tracking.lookUp thread manager).2.scopeAt scope = tracking.scopeAt scope := by
  unfold lookUp
  cases tracking.current? thread manager with
  | some _ => rfl
  | none =>
      rcases Nat.lt_trichotomy scope tracking.scopes.length with known | rfl | beyond
      · simp [scopeAt, List.getElem?_append_left known]
      · simp [scopeAt]
      · have unknown : tracking.scopes.length + 1 ≤ scope := beyond
        rw [scopeAt_of_unknown (Nat.le_of_lt beyond), scopeAt_of_unknown (by simpa using unknown)]

theorem length_le_lookUp (tracking : Tracking) (thread : ThreadId) (manager : ManagerId) :
    tracking.scopes.length ≤ (tracking.lookUp thread manager).2.scopes.length := by
  unfold lookUp
  cases tracking.current? thread manager with
  | some _ => exact Nat.le_refl _
  | none => simp

theorem mem_detach {tracking : Tracking} {thread : ThreadId} {manager : ManagerId}
    {scope : ScopeId} {attachment : Attachment} :
    attachment ∈ (tracking.detach thread manager scope).attachments ↔
      attachment ∈ tracking.attachments ∧ attachment ≠ ⟨thread, manager, scope⟩ := by
  obtain ⟨otherThread, otherManager, otherScope⟩ := attachment
  simp only [detach, List.mem_filter, Bool.not_eq_true', Bool.and_eq_false_iff,
    beq_eq_false_iff_ne, ne_eq, Attachment.mk.injEq]
  tauto

/-- Another scope that is lowered is left alone, and so is one that is closed. -/
theorem scopeAt_lower_of_ne (tracking : Tracking) {other scope : ScopeId}
    (distinct : other ≠ scope) :
    (tracking.lower scope).scopeAt other = tracking.scopeAt other := by
  unfold lower
  split
  · rfl
  · exact scopeAt_modifyScope_of_ne tracking distinct _

theorem scopeAt_lower_self {tracking : Tracking} {scope : ScopeId}
    (opened : (tracking.scopeAt scope).depth ≠ 0) :
    (tracking.lower scope).scopeAt scope = (tracking.scopeAt scope).release := by
  rw [lower, if_neg opened, scopeAt_modifyScope_self (known_of_depth opened)]

theorem depth_lower_self (tracking : Tracking) (scope : ScopeId) :
    ((tracking.lower scope).scopeAt scope).depth = (tracking.scopeAt scope).depth - 1 := by
  by_cases opened : (tracking.scopeAt scope).depth = 0
  · simp [lower, opened]
  · rw [scopeAt_lower_self opened, Scope.depth_release]

end Tracking

/-! ## Threads -/

/-- What a thread has begun and not finished. -/
inductive Halfway where
  /-- It has found the scope that it enters, with a guard or without one. -/
  | entering (manager : ManagerId) (scope : ScopeId) (guarded : Bool)
  /-- It has released the last level of a scope, which it may still be attached to. -/
  | leaving (manager : ManagerId) (scope : ScopeId)

/-- A guard that was not dropped yet, and the thread that made it. -/
structure HeldGuard where
  thread : ThreadId
  guard : Guard
deriving DecidableEq

/-- The scopes, what each thread is in the middle of, and the guards that were not dropped. -/
structure Threads where
  tracking : Tracking
  halfway : ThreadId → Option Halfway
  held : List HeldGuard

/-- What a thread does without interruption. -/
inductive Event where
  /-- The first half of entering a scope. -/
  | lookUp (thread : ThreadId) (manager : ManagerId) (guarded : Bool)
  /-- The second half. -/
  | raise (thread : ThreadId)
  /-- Releasing a level of the scope that the thread is in, all of it or the first half. -/
  | release (thread : ThreadId) (manager : ManagerId)
  /-- Dropping a guard on any thread, all of it or the first half. -/
  | dropGuard (thread : ThreadId) (held : HeldGuard)
  /-- The second half of releasing the last level. -/
  | forget (thread : ThreadId)
  /-- Capturing a row in a scope that was looked up at any time before. -/
  | capture (scope : ScopeId) (key : EntityKey) (record : Row)
  /-- Refreshing a key in such a scope. -/
  | refresh (scope : ScopeId) (key : EntityKey) (record : Row)

namespace Threads

/-- Nobody has done anything. -/
def start : Threads := ⟨.empty, fun _ => none, []⟩

/-- A thread takes a level away from a scope.  If it was the last one, it has to forget the scope
next. -/
def lower (threads : Threads) (thread : ThreadId) (manager : ManagerId) (scope : ScopeId) :
    Threads :=
  { threads with
    tracking := threads.tracking.lower scope
    halfway :=
      if (threads.tracking.scopeAt scope).depth = 1 then
        Function.update threads.halfway thread (some (.leaving manager scope))
      else threads.halfway }

/-- The number of guards of a scope that were not dropped. -/
def guardsOf (threads : Threads) (scope : ScopeId) : Nat :=
  threads.held.countP fun held => held.guard.scope == scope

/-- What a thread is in the middle of after one of the threads turned to something else. -/
theorem of_update {halfway : ThreadId → Option Halfway} {thread other : ThreadId}
    {next : Option Halfway} {doing : Halfway}
    (found : Function.update halfway thread next other = some doing) :
    other = thread ∧ next = some doing ∨ other ≠ thread ∧ halfway other = some doing := by
  by_cases same : other = thread
  · subst same
    exact .inl ⟨rfl, by simpa using found⟩
  · exact .inr ⟨same, by simpa [same] using found⟩

theorem halfway_lower {threads : Threads} {thread other : ThreadId} {manager : ManagerId}
    {scope : ScopeId} {doing : Halfway}
    (found : (threads.lower thread manager scope).halfway other = some doing) :
    threads.halfway other = some doing ∨
      other = thread ∧ doing = .leaving manager scope ∧
        (threads.tracking.scopeAt scope).depth = 1 := by
  simp only [lower] at found
  split at found
  · next last =>
      rcases of_update found with ⟨rfl, new⟩ | ⟨-, found⟩
      · exact .inr ⟨rfl, (Option.some.inj new).symm, last⟩
      · exact .inl found
  · exact .inl found

end Threads

/-- One step of one thread.  A thread that is halfway through an operation goes on with it before it
begins another one. -/
inductive Threads.Step : Event → Threads → Threads → Prop where
  | lookUp {threads : Threads} {thread : ThreadId} {manager : ManagerId} {guarded : Bool}
      (free : threads.halfway thread = none) :
      Threads.Step (.lookUp thread manager guarded) threads
        { threads with
          tracking := (threads.tracking.lookUp thread manager).2
          halfway := Function.update threads.halfway thread
            (some (.entering manager (threads.tracking.lookUp thread manager).1 guarded)) }
  | raise {threads : Threads} {thread : ThreadId} {manager : ManagerId} {scope : ScopeId}
      {guarded : Bool}
      (found : threads.halfway thread = some (.entering manager scope guarded)) :
      Threads.Step (.raise thread) threads
        { tracking := threads.tracking.modifyScope scope Scope.enter
          halfway := Function.update threads.halfway thread none
          held := if guarded then ⟨thread, ⟨manager, scope⟩⟩ :: threads.held else threads.held }
  | release {threads : Threads} {thread : ThreadId} {manager : ManagerId} {scope : ScopeId}
      (free : threads.halfway thread = none)
      (current : threads.tracking.current? thread manager = some scope) :
      Threads.Step (.release thread manager) threads (threads.lower thread manager scope)
  | releaseNothing {threads : Threads} {thread : ThreadId} {manager : ManagerId}
      (free : threads.halfway thread = none)
      (absent : threads.tracking.current? thread manager = none) :
      Threads.Step (.release thread manager) threads threads
  | dropGuard {threads : Threads} {thread : ThreadId} {held : HeldGuard}
      (free : threads.halfway thread = none) (undropped : held ∈ threads.held) :
      Threads.Step (.dropGuard thread held) threads
        ({ threads with held := threads.held.erase held }.lower thread held.guard.manager
          held.guard.scope)
  | forget {threads : Threads} {thread : ThreadId} {manager : ManagerId} {scope : ScopeId}
      (last : threads.halfway thread = some (.leaving manager scope)) :
      Threads.Step (.forget thread) threads
        { threads with
          tracking := threads.tracking.detach thread manager scope
          halfway := Function.update threads.halfway thread none }
  | capture {threads : Threads} {scope : ScopeId} {key : EntityKey} {record : Row}
      {operation : String} {tracking : Tracking}
      (captured : threads.tracking.capture scope key record operation = .ok tracking) :
      Threads.Step (.capture scope key record) threads { threads with tracking := tracking }
  | refuse {threads : Threads} {scope : ScopeId} {key : EntityKey} {record : Row}
      {operation : String} {error : Error}
      (refused : threads.tracking.capture scope key record operation = .error error) :
      Threads.Step (.capture scope key record) threads threads
  | refresh {threads : Threads} {scope : ScopeId} {key : EntityKey} {record : Row} :
      Threads.Step (.refresh scope key record) threads
        { threads with tracking := threads.tracking.refresh scope key record }

/-- Steps of any threads one after the other. -/
inductive Threads.Run : Threads → List Event → Threads → Prop where
  | done (threads : Threads) : Threads.Run threads [] threads
  | step {before between after : Threads} {event : Event} {later : List Event}
      (first : Threads.Step event before between) (rest : Threads.Run between later after) :
      Threads.Run before (event :: later) after

theorem Threads.Run.append {before between after : Threads} {earlier later : List Event}
    (first : Threads.Run before earlier between) (rest : Threads.Run between later after) :
    Threads.Run before (earlier ++ later) after := by
  induction first with
  | done => exact rest
  | step here _ ih => exact .step here (ih rest)

/-! ## What every step keeps -/

/-- The invariant of the threads. -/
structure Threads.Sound (threads : Threads) : Prop where
  /-- A closed scope remembers nothing. -/
  empty : ∀ scope, (threads.tracking.scopeAt scope).depth = 0 →
    (threads.tracking.scopeAt scope).snapshots = []
  known : ∀ attachment ∈ threads.tracking.attachments,
    attachment.scope < threads.tracking.scopes.length
  /-- A thread is in at most one scope of each manager, and a scope is attached to one thread. -/
  alone : ∀ first ∈ threads.tracking.attachments, ∀ second ∈ threads.tracking.attachments,
    first.thread = second.thread ∧ first.manager = second.manager ∨ first.scope = second.scope →
      first = second
  /-- The scope that a thread is about to enter is attached to it. -/
  entering : ∀ {thread manager scope guarded},
    threads.halfway thread = some (.entering manager scope guarded) →
      ⟨thread, manager, scope⟩ ∈ threads.tracking.attachments
  /-- The scope that a thread is about to forget is closed. -/
  leaving : ∀ {thread manager scope}, threads.halfway thread = some (.leaving manager scope) →
    ⟨thread, manager, scope⟩ ∈ threads.tracking.attachments →
      (threads.tracking.scopeAt scope).depth = 0
  /-- Only a closed scope is attached to no thread. -/
  attached : ∀ scope, (threads.tracking.scopeAt scope).depth ≠ 0 →
    ∃ attachment ∈ threads.tracking.attachments, attachment.scope = scope
  guardKnown : ∀ held ∈ threads.held, held.guard.scope < threads.tracking.scopes.length
  /-- The scope of a guard is attached to the thread that made the guard, or to none. -/
  guardAttached : ∀ held ∈ threads.held, ∀ attachment ∈ threads.tracking.attachments,
    attachment.scope = held.guard.scope →
      attachment = ⟨held.thread, held.guard.manager, held.guard.scope⟩

namespace Threads.Sound

variable {threads : Threads}

theorem start : Threads.start.Sound where
  empty := fun _ _ => rfl
  known := by simp [Threads.start, Tracking.empty]
  alone := by simp [Threads.start, Tracking.empty]
  entering := by simp [Threads.start]
  leaving := by simp [Threads.start]
  attached := by simp [Threads.start, Tracking.empty, Tracking.scopeAt, Scope.fresh]
  guardKnown := by simp [Threads.start]
  guardAttached := by simp [Threads.start]

/-- A scope is found where it is attached. -/
theorem current?_of_mem (sound : threads.Sound) {thread : ThreadId} {manager : ManagerId}
    {scope : ScopeId} (here : ⟨thread, manager, scope⟩ ∈ threads.tracking.attachments) :
    threads.tracking.current? thread manager = some scope := by
  cases current : threads.tracking.current? thread manager with
  | none => exact absurd ⟨rfl, rfl⟩ (Tracking.current?_eq_none_iff.mp current _ here)
  | some other =>
      have same := sound.alone _ (Tracking.mem_of_current? current) _ here (.inl ⟨rfl, rfl⟩)
      rw [(Attachment.mk.inj same).2.2]

theorem lookUp (sound : threads.Sound) (thread : ThreadId) (manager : ManagerId)
    (guarded : Bool) :
    Threads.Sound
      { threads with
        tracking := (threads.tracking.lookUp thread manager).2
        halfway := Function.update threads.halfway thread
          (some (.entering manager (threads.tracking.lookUp thread manager).1 guarded)) } := by
  have scopes := threads.tracking.scopeAt_lookUp thread manager
  cases current : threads.tracking.current? thread manager with
  | some scope =>
      have looked : threads.tracking.lookUp thread manager = (scope, threads.tracking) := by
        simp [Tracking.lookUp, current]
      rw [looked]
      refine { sound with entering := ?_, leaving := ?_ }
      · intro other otherManager otherScope otherGuarded halfway
        rcases of_update halfway with ⟨rfl, new⟩ | ⟨-, halfway⟩
        · cases new
          exact Tracking.mem_of_current? current
        · exact sound.entering halfway
      · intro other otherManager otherScope halfway
        rcases of_update halfway with ⟨-, new⟩ | ⟨-, halfway⟩
        · cases new
        · exact sound.leaving halfway
  | none =>
      -- the fresh scope is attached nowhere else, and the thread is in no other of the manager
      have vacant := Tracking.current?_eq_none_iff.mp current
      have looked : threads.tracking.lookUp thread manager =
          (threads.tracking.scopes.length,
            { scopes := threads.tracking.scopes ++ [.fresh]
              attachments := ⟨thread, manager, threads.tracking.scopes.length⟩ ::
                threads.tracking.attachments }) := by
        simp [Tracking.lookUp, current]
      rw [looked] at scopes ⊢
      have apart : ∀ attachment ∈ threads.tracking.attachments,
          ¬ (attachment.thread = thread ∧ attachment.manager = manager ∨
            attachment.scope = threads.tracking.scopes.length) := by
        rintro attachment here (⟨rfl, rfl⟩ | fresh)
        · exact vacant attachment here ⟨rfl, rfl⟩
        · exact Nat.ne_of_lt (sound.known attachment here) fresh
      refine ⟨?_, ?_, ?_, ?_, ?_, ?_, ?_, ?_⟩
      · intro scope closed
        rw [scopes] at closed ⊢
        exact sound.empty scope closed
      · intro attachment here
        rw [List.length_append]
        rcases List.mem_cons.mp here with rfl | here
        · simp
        · exact Nat.lt_add_right 1 (sound.known attachment here)
      · intro first hfirst second hsecond shared
        rcases List.mem_cons.mp hfirst with rfl | hfirst <;>
          rcases List.mem_cons.mp hsecond with rfl | hsecond
        · rfl
        · exact absurd (by simpa [eq_comm] using shared) (apart second hsecond)
        · exact absurd shared (apart first hfirst)
        · exact sound.alone first hfirst second hsecond shared
      · intro other otherManager otherScope otherGuarded halfway
        rcases of_update halfway with ⟨rfl, new⟩ | ⟨-, halfway⟩
        · cases new
          exact List.mem_cons_self
        · exact List.mem_cons_of_mem _ (sound.entering halfway)
      · intro other otherManager otherScope halfway here
        rcases of_update halfway with ⟨-, new⟩ | ⟨distinct, halfway⟩
        · cases new
        · rw [scopes]
          rcases List.mem_cons.mp here with new | here
          · exact absurd (Attachment.mk.inj new).1 distinct
          · exact sound.leaving halfway here
      · intro scope opened
        rw [scopes] at opened
        obtain ⟨attachment, here, rfl⟩ := sound.attached scope opened
        exact ⟨attachment, List.mem_cons_of_mem _ here, rfl⟩
      · intro held undropped
        rw [List.length_append]
        exact Nat.lt_add_right 1 (sound.guardKnown held undropped)
      · intro held undropped attachment here same
        rcases List.mem_cons.mp here with rfl | here
        · exact absurd same.symm (Nat.ne_of_lt (sound.guardKnown held undropped))
        · exact sound.guardAttached held undropped attachment here same

private theorem raise (sound : threads.Sound) {thread : ThreadId} {manager : ManagerId}
    {scope : ScopeId} {guarded : Bool}
    (found : threads.halfway thread = some (.entering manager scope guarded)) :
    Threads.Sound
      { tracking := threads.tracking.modifyScope scope Scope.enter
        halfway := Function.update threads.halfway thread none
        held := if guarded then ⟨thread, ⟨manager, scope⟩⟩ :: threads.held else threads.held } := by
  have here := sound.entering found
  have known := sound.known _ here
  have entered := Tracking.scopeAt_modifyScope_self known Scope.enter
  have held : ∀ {held : HeldGuard}, held ∈ (if guarded then
        ⟨thread, ⟨manager, scope⟩⟩ :: threads.held else threads.held) →
      held = ⟨thread, ⟨manager, scope⟩⟩ ∨ held ∈ threads.held := by
    intro held mem
    split at mem
    · exact List.mem_cons.mp mem
    · exact .inr mem
  refine ⟨?_, ?_, sound.alone, ?_, ?_, ?_, ?_, ?_⟩
  · intro other closed
    by_cases same : other = scope
    · subst same
      rw [entered, Scope.depth_enter] at closed
      omega
    · rw [Tracking.scopeAt_modifyScope_of_ne _ same] at closed ⊢
      exact sound.empty other closed
  · intro attachment mem
    rw [Tracking.length_modifyScope]
    exact sound.known attachment mem
  · intro other otherManager otherScope otherGuarded halfway
    rcases of_update halfway with ⟨-, new⟩ | ⟨-, halfway⟩
    · cases new
    · exact sound.entering halfway
  · intro other otherManager otherScope halfway mem
    rcases of_update halfway with ⟨-, new⟩ | ⟨distinct, halfway⟩
    · cases new
    · -- the scope that another thread leaves is not attached to this thread too
      have elsewhere : otherScope ≠ scope := by
        rintro rfl
        exact distinct (Attachment.mk.inj (sound.alone _ mem _ here (.inr rfl))).1
      rw [Tracking.scopeAt_modifyScope_of_ne _ elsewhere]
      exact sound.leaving halfway mem
  · intro other opened
    by_cases same : other = scope
    · exact ⟨_, here, same.symm⟩
    · rw [Tracking.scopeAt_modifyScope_of_ne _ same] at opened
      exact sound.attached other opened
  · intro guard mem
    rw [Tracking.length_modifyScope]
    rcases held mem with rfl | mem
    · exact known
    · exact sound.guardKnown guard mem
  · intro guard mem attachment attached same
    rcases held mem with rfl | mem
    · exact sound.alone _ attached _ here (.inr same)
    · exact sound.guardAttached guard mem attachment attached same

theorem lower (sound : threads.Sound) (thread : ThreadId) (manager : ManagerId)
    (scope : ScopeId) : (threads.lower thread manager scope).Sound := by
  -- a level is taken from one scope, and none is added anywhere
  have below : ∀ other, ((threads.tracking.lower scope).scopeAt other).depth ≤
      (threads.tracking.scopeAt other).depth := by
    intro other
    by_cases same : other = scope
    · subst same
      rw [Tracking.depth_lower_self]
      exact Nat.sub_le _ 1
    · exact Nat.le_of_eq (congrArg Scope.depth (Tracking.scopeAt_lower_of_ne _ same))
  have attachments : (threads.lower thread manager scope).tracking.attachments =
      threads.tracking.attachments := Tracking.attachments_lower _ _
  have length : (threads.lower thread manager scope).tracking.scopes.length =
      threads.tracking.scopes.length := Tracking.length_lower _ _
  refine ⟨?_, ?_, ?_, ?_, ?_, ?_, ?_, ?_⟩
  · intro other closed
    show ((threads.tracking.lower scope).scopeAt other).snapshots = []
    by_cases same : other = scope
    · subst same
      by_cases opened : (threads.tracking.scopeAt other).depth = 0
      · rw [Tracking.lower, if_pos opened]
        exact sound.empty other opened
      · -- a scope that has no level now had one, and giving it up emptied its store
        have last : (threads.tracking.scopeAt other).depth ≤ 1 := by
          have := threads.tracking.depth_lower_self other
          have closed : ((threads.tracking.lower other).scopeAt other).depth = 0 := closed
          omega
        rw [Tracking.scopeAt_lower_self opened, Scope.snapshots_release_of_last last]
    · have closed : ((threads.tracking.lower scope).scopeAt other).depth = 0 := closed
      rw [Tracking.scopeAt_lower_of_ne _ same] at closed ⊢
      exact sound.empty other closed
  · rw [attachments, length]
    exact sound.known
  · rw [attachments]
    exact sound.alone
  · intro other otherManager otherScope guarded doing
    rw [attachments]
    rcases halfway_lower doing with doing | ⟨-, impossible, -⟩
    · exact sound.entering doing
    · cases impossible
  · intro other otherManager otherScope doing here
    rw [attachments] at here
    show ((threads.tracking.lower scope).scopeAt otherScope).depth = 0
    rcases halfway_lower doing with doing | ⟨-, leaving, last⟩
    · have closed := sound.leaving doing here
      have := below otherScope
      omega
    · cases leaving
      rw [Tracking.depth_lower_self, last]
  · intro other opened
    rw [attachments]
    have opened : ((threads.tracking.lower scope).scopeAt other).depth ≠ 0 := opened
    have := below other
    exact sound.attached other (by omega)
  · rw [length]
    exact sound.guardKnown
  · rw [attachments]
    exact sound.guardAttached

private theorem dropHeld (sound : threads.Sound) (held : HeldGuard) :
    Threads.Sound { threads with held := threads.held.erase held } :=
  { sound with
    guardKnown := fun other mem => sound.guardKnown other (List.mem_of_mem_erase mem)
    guardAttached := fun other mem => sound.guardAttached other (List.mem_of_mem_erase mem) }

private theorem forget (sound : threads.Sound) {thread : ThreadId} {manager : ManagerId}
    {scope : ScopeId} (last : threads.halfway thread = some (.leaving manager scope)) :
    Threads.Sound
      { threads with
        tracking := threads.tracking.detach thread manager scope
        halfway := Function.update threads.halfway thread none } := by
  refine ⟨sound.empty, ?_, ?_, ?_, ?_, ?_, sound.guardKnown, ?_⟩
  · exact fun attachment mem => sound.known attachment (Tracking.mem_detach.mp mem).1
  · exact fun first hfirst second hsecond =>
      sound.alone first (Tracking.mem_detach.mp hfirst).1 second (Tracking.mem_detach.mp hsecond).1
  · intro other otherManager otherScope guarded halfway
    rcases of_update halfway with ⟨-, new⟩ | ⟨distinct, halfway⟩
    · cases new
    · exact Tracking.mem_detach.mpr ⟨sound.entering halfway,
        fun equal => distinct (Attachment.mk.inj equal).1⟩
  · intro other otherManager otherScope halfway mem
    rcases of_update halfway with ⟨-, new⟩ | ⟨-, halfway⟩
    · cases new
    · exact sound.leaving halfway (Tracking.mem_detach.mp mem).1
  · intro other opened
    obtain ⟨attachment, mem, rfl⟩ := sound.attached other opened
    refine ⟨attachment, Tracking.mem_detach.mpr ⟨mem, ?_⟩, rfl⟩
    rintro rfl
    -- an open scope is not one that a thread is leaving
    exact opened (sound.leaving last mem)
  · exact fun held undropped attachment mem =>
      sound.guardAttached held undropped attachment (Tracking.mem_detach.mp mem).1

/-- Capturing and refreshing change the snapshots of a scope and nothing else, and give none to a
closed one. -/
theorem changeSnapshots (sound : threads.Sound) {scope : ScopeId} {change : Scope → Scope}
    (depth : ∀ scope, (change scope).depth = scope.depth)
    (closed : (threads.tracking.scopeAt scope).depth = 0 →
      (change (threads.tracking.scopeAt scope)).snapshots = []) :
    Threads.Sound { threads with tracking := threads.tracking.modifyScope scope change } := by
  have length := threads.tracking.length_modifyScope scope change
  have depths := threads.tracking.depth_modifyScope depth scope
  refine ⟨?_, ?_, sound.alone, sound.entering, ?_, ?_, ?_, sound.guardAttached⟩
  · intro other empty
    rw [depths] at empty
    by_cases same : other = scope
    · subst same
      -- a scope that does not exist is not changed
      by_cases known : other < threads.tracking.scopes.length
      · rw [Tracking.scopeAt_modifyScope_self known]
        exact closed empty
      · rw [Tracking.modifyScope_of_unknown (Nat.not_lt.mp known)]
        exact sound.empty other empty
    · rw [Tracking.scopeAt_modifyScope_of_ne _ same]
      exact sound.empty other empty
  · rw [length]
    exact sound.known
  · intro thread manager other halfway here
    rw [depths]
    exact sound.leaving halfway here
  · intro other opened
    rw [depths] at opened
    exact sound.attached other opened
  · rw [length]
    exact sound.guardKnown

/-- Every step keeps the invariant. -/
theorem step {event : Event} {after : Threads} (sound : threads.Sound)
    (step : Threads.Step event threads after) : after.Sound := by
  cases step with
  | lookUp => exact sound.lookUp _ _ _
  | raise found => exact sound.raise found
  | release => exact sound.lower _ _ _
  | releaseNothing => exact sound
  | dropGuard => exact (sound.dropHeld _).lower _ _ _
  | forget last => exact sound.forget last
  | capture captured =>
      obtain ⟨opened, rfl⟩ := Tracking.capture_eq_ok captured
      exact sound.changeSnapshots (fun _ => rfl) (fun closed => absurd closed opened)
  | refuse => exact sound
  | refresh =>
      refine sound.changeSnapshots (fun _ => rfl) fun closed => ?_
      simp [Scope.refresh, sound.empty _ closed, Scope.refreshSnapshot]

end Threads.Sound

/-- Every run keeps the invariant. -/
theorem Threads.Run.sound {before after : Threads} {events : List Event} (sound : before.Sound)
    (run : Threads.Run before events after) : after.Sound := by
  induction run with
  | done => exact sound
  | step first _ ih => exact ih (sound.step first)

/-! ## Operations that nobody interrupts -/

namespace Threads.Run

variable {threads : Threads} {thread : ThreadId}

private theorem update_idle {halfway : ThreadId → Option Halfway} (free : halfway thread = none)
    (doing : Option Halfway) :
    Function.update (Function.update halfway thread doing) thread none = halfway := by
  rw [Function.update_idem, ← free, Function.update_eq_self]

/-- Entering a level, with a guard or without one. -/
theorem enter (free : threads.halfway thread = none) (manager : ManagerId) (guarded : Bool) :
    Threads.Run threads [.lookUp thread manager guarded, .raise thread]
      { threads with
        tracking := (threads.tracking.enter thread manager).2
        held :=
          if guarded then
            ⟨thread, (threads.tracking.openGuard thread manager).1⟩ :: threads.held
          else threads.held } := by
  simp only [Tracking.openGuard, Tracking.enter_eq]
  have both : Threads.Run threads [.lookUp thread manager guarded, .raise thread] _ :=
    .step (.lookUp free) (.step (.raise (Function.update_self ..)) (.done _))
  simpa only [update_idle free] using both

/-- Releasing a level of a scope that the thread is in or has a guard of. -/
theorem releaseScope {event : Event} {before : Threads} (free : before.halfway thread = none)
    (manager : ManagerId) (scope : ScopeId)
    (step : Threads.Step event threads (before.lower thread manager scope)) :
    Threads.Run threads
      (if (before.tracking.scopeAt scope).depth = 1 then [event, .forget thread] else [event])
      { before with tracking := before.tracking.releaseScope thread manager scope } := by
  rw [Tracking.releaseScope_eq]
  by_cases last : (before.tracking.scopeAt scope).depth = 1
  · have leaving : (before.lower thread manager scope).halfway thread =
        some (.leaving manager scope) := by
      simp [Threads.lower, last]
    have forgotten := Threads.Step.forget leaving
    simp only [Threads.lower, if_pos last, update_idle free] at forgotten
    rw [if_pos last, if_pos last]
    simp only [Threads.lower, if_pos last] at step
    exact .step step (.step forgotten (.done _))
  · rw [if_neg last, if_neg last]
    simp only [Threads.lower, if_neg last] at step
    exact .step step (.done _)

end Threads.Run

end TrackedQuery
