import Mathlib.Data.List.Induction
import TrackedQuery.Example
import TrackedQuery.Proofs.Tracking.Guards
import TrackedQuery.Proofs.Tracking.Sight

/-!
# Interleaved flows

Clients make calls at the same time and share a world: all scopes, and the database.  Each is at a
`Place` of its own, a thread with the manager of a handle.  Two threads with one handle are at
different places, and so are a handle and its clone on one thread, since a clone has a manager of
its own.  Any client may do its next access at any time, also while others are within a call.

The main statement is `Flows.history_apart`: what a client observes does not depend on the others,
except through the answers of the database.

## Strategy

* A client keeps a `Progress`, which changes by steps of at most one access (`Client.step_cases`),
  whoever answers the access.  So the same steps can be made in the shared world and in a `Sight`.
* What one client sees is unseen by the others as long as no scope was found by two
  (`Flows.Apart`), and every step keeps this (`Flows.Apart.step`).  So each gets as far as its own
  steps lead it in its sight (`Flows.Reached`).  The answers still to come are part of a sight, and
  this is why `Flows.Reached` speaks of all of them.
* A client that got somewhere step by step observed what it observes when it makes whole calls
  (`Client.Follows`), by `HandleCall.run_flow`.
-/

namespace TrackedQuery

variable {δ σ ι : Type}

/-! ## Clients -/

/-- A call that was answered. -/
structure Observed where
  call : HandleCall
  reply : call.Reply

/-- Who makes calls on a handle from one thread.  What is called next may depend on everything that
was observed before. -/
structure Client where
  thread : ThreadId
  connection : Connection
  next? : List Observed → Option HandleCall

/-- A call that was begun, and what remains of it. -/
structure Begun where
  call : HandleCall
  rest : Flow call.Reply

/-- How far a client has got. -/
structure Progress where
  /-- What it observed so far. -/
  history : List Observed
  begun : Option Begun

/-- Nothing was called yet. -/
def Progress.start : Progress := ⟨[], none⟩

namespace Client

/-- Where a client enters scopes. -/
def place (client : Client) : Place := client.connection.place client.thread

/-- A call of a client, access by access. -/
def flow (client : Client) (call : HandleCall) : Flow call.Reply :=
  call.flow client.connection client.thread

/-- What a client does without interruption: it begins a call, goes on with one by one access, or
observes what a call answers.  A client that has nothing more to call does nothing. -/
def step (client : Client) (handler : Handler σ) (progress : Progress) (state : σ) :
    Progress × σ :=
  match progress.begun with
  | none =>
      match client.next? progress.history with
      | none => (progress, state)
      | some call => ({ progress with begun := some ⟨call, client.flow call⟩ }, state)
  | some ⟨call, .done reply⟩ => (⟨progress.history ++ [⟨call, reply⟩], none⟩, state)
  | some ⟨call, .access first rest⟩ =>
      ({ progress with begun := some ⟨call, rest (handler.answer first state).1⟩ },
        (handler.answer first state).2)

/-- A step does no access or one, whatever answers it. -/
theorem step_cases (client : Client) (progress : Progress) :
    (∃ after, ∀ {σ : Type} (handler : Handler σ) (state : σ),
      client.step handler progress state = (after, state)) ∨
    ∃ (ρ : Type) (first : Access ρ) (after : ρ → Progress),
      ∀ {σ : Type} (handler : Handler σ) (state : σ),
        client.step handler progress state =
          (after (handler.answer first state).1, (handler.answer first state).2) := by
  rcases progress with ⟨history, _ | ⟨call, _ | ⟨first, rest⟩⟩⟩
  · cases next : client.next? history with
    | none => exact .inl ⟨⟨history, none⟩, fun _ _ => by simp [step, next]⟩
    | some call => exact .inl ⟨_, fun _ _ => by simp [step, next]; rfl⟩
  · exact .inl ⟨_, fun _ _ => rfl⟩
  · exact .inr ⟨_, first, fun reply => ⟨history, some ⟨call, rest reply⟩⟩, fun _ _ => rfl⟩

/-- Several steps, from the beginning. -/
def steps (client : Client) (handler : Handler σ) (state : σ) : Nat → Progress × σ
  | 0 => (.start, state)
  | count + 1 =>
      let before := client.steps handler state count
      client.step handler before.1 before.2

/-- A call of a client, in one go. -/
def perform (client : Client) (call : HandleCall) (seat : Seat δ) : call.Reply × Seat δ :=
  call.perform client.connection client.thread seat

/-- The next call in one go, and what is observed with it. -/
def whole (client : Client) (before : List Observed × Seat δ) : List Observed × Seat δ :=
  match client.next? before.1 with
  | none => before
  | some call =>
      (before.1 ++ [⟨call, (client.perform call before.2).1⟩], (client.perform call before.2).2)

/-- What a client observes with its first calls, each of them made in one go, in a world that it has
for itself and in which the database gives the listed answers. -/
def alone (client : Client) (answers : List (Result Answer)) : Nat → List Observed × Seat Script
  | 0 => ([], .start Script.database ⟨answers, []⟩)
  | count + 1 => client.whole (client.alone answers count)

theorem run_flow {client : Client} {seat : Seat δ} (sound : seat.Sound client.place)
    (call : HandleCall) :
    (client.flow call).run (Seat.handler client.place) seat = client.perform call seat :=
  call.run_flow sound

end Client

/-! ## Steps and whole calls -/

/-- With a scripted database an access is answered from what is seen. -/
theorem Seat.Sound.perform_scripted {place : Place} {seat : Seat Script} {ρ : Type}
    (sound : seat.Sound place) (scripted : seat.world.database = Script.database)
    (access : Access ρ) :
    (seat.sight place seat.world.state.answers).perform access =
        ((seat.perform place access).1,
          (seat.perform place access).2.sight place
            (seat.perform place access).2.world.state.answers) ∧
      (seat.perform place access).2.world.database = Script.database := by
  have seen := sound.perform_sight access
  -- no access but sending touches the database
  cases access with
  | lookUp =>
      have world : (seat.perform place .lookUp).2.world =
          (seat.withTracking (seat.tracking.lookUp place.thread place.manager).2).world :=
        Seat.world_find _ _
      rw [world]
      exact ⟨seen _, scripted⟩
  | current => exact ⟨seen _, scripted⟩
  | locked grip change => exact ⟨seen _, scripted⟩
  | forget grip => exact ⟨seen _, scripted⟩
  | send operation =>
      obtain ⟨found, database, ⟨answers, log⟩, tracking⟩ := seat
      cases scripted
      cases answers <;> exact ⟨rfl, rfl⟩

/-- A flow runs on a script as it runs on what is seen of it. -/
theorem Flow.run_sight {α : Type} {place : Place} {seat : Seat Script} (sound : seat.Sound place)
    (scripted : seat.world.database = Script.database) (flow : Flow α) :
    let after := flow.run (Seat.handler place) seat
    flow.run Sight.handler (seat.sight place seat.world.state.answers) =
        (after.1, after.2.sight place after.2.world.state.answers) ∧
      after.2.Sound place ∧ after.2.world.database = Script.database := by
  induction flow generalizing seat with
  | done value => exact ⟨rfl, sound, scripted⟩
  | access first rest ih =>
      obtain ⟨seen, scripted⟩ := sound.perform_scripted scripted first
      have seen : Sight.handler.answer first (seat.sight place _) = _ := seen
      simp only [Flow.run, seen]
      exact ih _ (sound.perform first) scripted

namespace Client

/-- The seat that a client has after whole calls is sound. -/
theorem alone_sound (client : Client) (answers : List (Result Answer)) (count : Nat) :
    (client.alone answers count).2.Sound client.place ∧
      (client.alone answers count).2.world.database = Script.database := by
  induction count with
  | zero => exact ⟨.start _ _ _, rfl⟩
  | succ count ih =>
      obtain ⟨sound, scripted⟩ := ih
      rw [alone, whole]
      split
      · exact ⟨sound, scripted⟩
      · next call next =>
          rw [← run_flow sound call]
          exact (Flow.run_sight sound scripted _).2

/-- The client has observed what it observes alone, and is within the call that comes next. -/
inductive Follows (client : Client) (answers : List (Result Answer)) : Progress → Sight → Prop where
  | between {history : List Observed} {seat : Seat Script}
      (alone : client.alone answers history.length = (history, seat)) :
      Follows client answers ⟨history, none⟩ (seat.sight client.place seat.world.state.answers)
  | within {history : List Observed} {seat : Seat Script} {call : HandleCall}
      {rest : Flow call.Reply} {sight : Sight}
      (alone : client.alone answers history.length = (history, seat))
      (next : client.next? history = some call)
      (same : rest.run Sight.handler sight = (client.flow call).run Sight.handler
        (seat.sight client.place seat.world.state.answers)) :
      Follows client answers ⟨history, some ⟨call, rest⟩⟩ sight

theorem Follows.step {client : Client} {answers : List (Result Answer)} {progress : Progress}
    {sight : Sight} (follows : client.Follows answers progress sight) :
    client.Follows answers (client.step Sight.handler progress sight).1
      (client.step Sight.handler progress sight).2 := by
  cases follows with
  | @between history seat alone =>
      cases next : client.next? history with
      | none =>
          simp only [Client.step, next]
          exact .between alone
      | some call =>
          simp only [Client.step, next]
          exact .within alone next rfl
  | @within history seat call rest _ alone next same =>
      cases rest with
      | access first rest => exact .within alone next same
      | done reply =>
          -- the call has ended, with the reply that the client alone gets
          obtain ⟨sound, scripted⟩ := client.alone_sound answers history.length
          rw [alone] at sound scripted
          obtain ⟨seen, -, -⟩ := Flow.run_sight sound scripted (client.flow call)
          rw [run_flow sound call] at seen
          have answered : (reply, sight) = _ := same.trans seen
          obtain ⟨rfl, rfl⟩ := Prod.mk.inj answered
          refine .between ?_
          rw [List.length_append, List.length_singleton, Client.alone, alone, whole, next]

private theorem Follows.history {client : Client} {answers : List (Result Answer)}
    {progress : Progress} {sight : Sight} (follows : client.Follows answers progress sight) :
    progress.history = (client.alone answers progress.history.length).1 := by
  cases follows with
  | between alone => rw [alone]
  | within alone _ _ => rw [alone]

private theorem follows_steps (client : Client) (answers : List (Result Answer)) (count : Nat) :
    client.Follows answers (client.steps Sight.handler (.start answers) count).1
      (client.steps Sight.handler (.start answers) count).2 := by
  induction count with
  | zero => exact @Follows.between client answers [] (.start Script.database ⟨answers, []⟩) rfl
  | succ count ih => exact ih.step

end Client

/-! ## Clients that share a world -/

/-- A client among others: how far it has got, which scopes it found, and what the database answered
to it. -/
structure Lane where
  progress : Progress
  found : List ScopeId
  heard : List (Result Answer)

/-- The clients and the world that they share. -/
structure Flows (ι δ : Type) where
  lanes : ι → Lane
  world : World δ

/-- Also remembers what the database answers. -/
def Handler.hearing (handler : Handler σ) : Handler (σ × List (Result Answer)) where
  answer access state :=
    let answered := handler.answer access state.1
    (answered.1, answered.2, state.2 ++ access.heard answered.1)

namespace Flows

/-- Nobody has done anything. -/
def start (database : Database δ) (state : δ) : Flows ι δ :=
  ⟨fun _ => ⟨.start, [], []⟩, ⟨database, state, .empty⟩⟩

/-- The world as a client sees it. -/
def seat (flows : Flows ι δ) (index : ι) : Seat δ := ⟨(flows.lanes index).found, flows.world⟩

/-- What a client makes of its seat by a step, and what it has heard then. -/
def stepped (clients : ι → Client) (flows : Flows ι δ) (index : ι) :
    Progress × Seat δ × List (Result Answer) :=
  (clients index).step (Seat.handler (clients index).place).hearing (flows.lanes index).progress
    (flows.seat index, (flows.lanes index).heard)

/-- The scopes that a client found were found by no other. -/
structure Apart (clients : ι → Client) (flows : Flows ι δ) : Prop where
  sound : ∀ index, (flows.seat index).Sound (clients index).place
  disjoint : ∀ {index other}, index ≠ other →
    ∀ scope ∈ (flows.lanes index).found, scope ∉ (flows.lanes other).found

private theorem apart_start (clients : ι → Client) (database : Database δ) (state : δ) :
    (Flows.start database state).Apart clients where
  sound _ := .start _ database state
  disjoint _ _ mem := absurd mem List.not_mem_nil

/-- What a step changes in the seat of its client, and that others do not see it. -/
theorem step_seat {client : Client} {seat : Seat δ} (sound : seat.Sound client.place)
    (progress : Progress) (heard : List (Result Answer)) :
    let stepped := client.step (Seat.handler client.place).hearing progress (seat, heard)
    stepped.2.1.Sound client.place ∧
    (∃ new, stepped.2.2 = heard ++ new ∧ ∀ rest,
      client.step Sight.handler progress (seat.sight client.place (new ++ rest)) =
        (stepped.1, stepped.2.1.sight client.place rest)) ∧
    ∀ other found, client.place ≠ other → (seat.beside found).Sound other →
      (∀ scope ∈ seat.found, scope ∉ found) → seat.Unseen other found stepped.2.1 := by
  rcases client.step_cases progress with ⟨after, same⟩ | ⟨ρ, first, after, answered⟩
  · rw [same]
    exact ⟨sound, ⟨[], (List.append_nil _).symm, fun rest => same _ _⟩,
      fun _ _ _ beside disjoint => .refl beside disjoint⟩
  · rw [answered]
    refine ⟨sound.perform first, ⟨first.heard (seat.perform client.place first).1, rfl,
      fun rest => ?_⟩,
      fun _ _ apart beside disjoint => sound.perform_unseen apart beside disjoint first⟩
    have seen : Sight.handler.answer first _ = _ := sound.perform_sight first rest
    rw [answered, seen]
    rfl

variable {clients : ι → Client} {flows : Flows ι δ}

/-- Nobody else sees a step. -/
theorem Apart.stepped_unseen (apart : flows.Apart clients)
    (places : Function.Injective fun index => (clients index).place) {index other : ι}
    (distinct : other ≠ index) :
    (flows.seat index).Unseen (clients other).place (flows.lanes other).found
      (flows.stepped clients index).2.1 :=
  (step_seat (apart.sound index) _ _).2.2 _ _ (fun same => distinct (places same).symm)
    (apart.sound other) (apart.disjoint distinct.symm)

variable [DecidableEq ι]

/-- A client makes a step. -/
def step (clients : ι → Client) (flows : Flows ι δ) (index : ι) : Flows ι δ :=
  let after := flows.stepped clients index
  { lanes := Function.update flows.lanes index ⟨after.1, after.2.1.found, after.2.2⟩
    world := after.2.1.world }

/-- Clients make steps in the given order. -/
def run (clients : ι → Client) (flows : Flows ι δ) (schedule : List ι) : Flows ι δ :=
  schedule.foldl (step clients) flows

section Stepped

variable (clients) (flows) {index other : ι}

@[simp] theorem lanes_step_self : (flows.step clients index).lanes index =
    ⟨(flows.stepped clients index).1, (flows.stepped clients index).2.1.found,
      (flows.stepped clients index).2.2⟩ :=
  Function.update_self ..

@[simp] theorem seat_step_self :
    (flows.step clients index).seat index = (flows.stepped clients index).2.1 := by
  rw [seat, lanes_step_self]
  rfl

theorem lanes_step_of_ne (distinct : other ≠ index) :
    (flows.step clients index).lanes other = flows.lanes other :=
  Function.update_of_ne distinct ..

private theorem seat_step_of_ne (distinct : other ≠ index) :
    (flows.step clients index).seat other =
      (flows.stepped clients index).2.1.beside (flows.lanes other).found := by
  rw [seat, lanes_step_of_ne clients flows distinct]
  rfl

end Stepped

/-- Every step keeps the clients apart. -/
theorem Apart.step (apart : flows.Apart clients)
    (places : Function.Injective fun index => (clients index).place) (index : ι) :
    (flows.step clients index).Apart clients where
  sound other := by
    -- only the lane that takes the step has another seat afterwards
    by_cases same : other = index
    · subst same
      rw [seat_step_self]
      exact (step_seat (apart.sound other) _ _).1
    · rw [seat_step_of_ne _ _ same]
      exact (apart.stepped_unseen places same).sound
  disjoint {first second} distinct := by
    by_cases firstSame : first = index
    · subst firstSame
      rw [lanes_step_self, lanes_step_of_ne _ _ distinct.symm]
      exact (apart.stepped_unseen places distinct.symm).disjoint
    · rw [lanes_step_of_ne _ _ firstSame]
      by_cases secondSame : second = index
      · subst secondSame
        rw [lanes_step_self]
        exact fun scope mem mem' =>
          (apart.stepped_unseen places firstSame).disjoint scope mem' mem
      · rw [lanes_step_of_ne _ _ secondSame]
        exact apart.disjoint distinct

/-- A client got where so many steps lead it, given what it heard, whatever it is still going to
hear. -/
def Reached (clients : ι → Client) (flows : Flows ι δ) (index : ι) (count : Nat) : Prop :=
  ∀ rest, (clients index).steps Sight.handler (.start ((flows.lanes index).heard ++ rest)) count =
    ((flows.lanes index).progress, (flows.seat index).sight (clients index).place rest)

private theorem Reached.step_self {index : ι} {count : Nat}
    (reached : flows.Reached clients index count) (apart : flows.Apart clients) :
    (flows.step clients index).Reached clients index (count + 1) := by
  intro rest
  obtain ⟨-, ⟨new, heard, same⟩, -⟩ := step_seat (apart.sound index)
    (flows.lanes index).progress (flows.lanes index).heard
  have heard : (flows.stepped clients index).2.2 = (flows.lanes index).heard ++ new := heard
  rw [lanes_step_self, seat_step_self, heard, List.append_assoc, Client.steps,
    reached (new ++ rest)]
  exact same rest

private theorem Reached.step_of_ne {index last : ι} {count : Nat}
    (reached : flows.Reached clients index count) (apart : flows.Apart clients)
    (places : Function.Injective fun index => (clients index).place) (distinct : index ≠ last) :
    (flows.step clients last).Reached clients index count := by
  intro rest
  rw [lanes_step_of_ne clients flows distinct, seat_step_of_ne clients flows distinct, reached rest,
    (apart.stepped_unseen places distinct).same rest]
  rfl

/-- However clients take turns, they stay apart, and each gets where its own steps lead it. -/
theorem apart_run (places : Function.Injective fun index => (clients index).place)
    (database : Database δ) (state : δ) (schedule : List ι) :
    (run clients (.start database state) schedule).Apart clients ∧
    ∀ index, (run clients (.start database state) schedule).Reached clients index
      (schedule.count index) := by
  -- each turn moves one lane by one step, and leaves the other lanes alone
  induction schedule using List.reverseRec with
  | nil => exact ⟨apart_start clients database state, fun _ _ => rfl⟩
  | append_singleton earlier last ih =>
      obtain ⟨apart, reached⟩ := ih
      have after : run clients (.start database state) (earlier ++ [last]) =
          step clients (run clients (.start database state) earlier) last :=
        List.foldl_append
      rw [after]
      refine ⟨apart.step places last, fun index => ?_⟩
      by_cases own : index = last
      · subst own
        rw [List.count_append, List.count_singleton_self]
        exact (reached index).step_self apart
      · rw [List.count_append, List.count_singleton, if_neg (by simpa using Ne.symm own)]
        exact (reached index).step_of_ne apart places own

/-- What a client observes while others are at other places, and the database answers to it as
listed.  It is what it observes when it makes its calls one after the other in a world that it has
for itself.  And it is what it observes after as many steps in any other world that it shares with
any others who call anything else, or nothing, if the database answers the same there. -/
theorem history_apart
    (places : Function.Injective fun index => (clients index).place)
    (database : Database δ) (state : δ) (schedule : List ι) (index : ι)
    (answers : List (Result Answer))
    (heard : ((run clients (.start database state) schedule).lanes index).heard <+: answers) :
    let lane := (run clients (.start database state) schedule).lanes index
    lane.progress.history = ((clients index).alone answers lane.progress.history.length).1 ∧
    ∀ {κ ε : Type} [DecidableEq κ] (others : κ → Client) (index' : κ) (database' : Database ε)
      (state' : ε) (schedule' : List κ),
      (Function.Injective fun index => (others index).place) → others index' = clients index →
      let lane' := (run others (.start database' state') schedule').lanes index'
      lane'.heard <+: answers → schedule'.count index' = schedule.count index →
        lane'.progress.history = lane.progress.history ∧ lane'.heard = lane.heard := by
  -- what was heard, with any rest, is what the lane by itself would be answered
  obtain ⟨rest, split⟩ := heard
  have steps := (apart_run places database state schedule).2 index rest
  rw [split] at steps
  constructor
  · have follows := (clients index).follows_steps answers (schedule.count index)
    rw [steps] at follows
    exact follows.history
  · intro κ ε _ others index' database' state' schedule' places' same lane' heard' count
    obtain ⟨rest', split'⟩ := heard'
    have steps' := (apart_run places' database' state' schedule').2 index' rest'
    rw [split', same, count] at steps'
    -- both lanes have taken as many steps on the same answers
    obtain ⟨progress, sight⟩ := Prod.mk.inj (steps'.symm.trans steps)
    have left : rest' = rest := congrArg Sight.answers sight
    exact ⟨congrArg Progress.history progress,
      List.append_cancel_right ((left ▸ split').trans split.symm)⟩

end Flows

namespace Example

/-- A topic is tracked, renamed and updated, and then it has no changes. -/
def renameTopic : List Observed → Option HandleCall
  | [] => some .openGuard
  | [_] => some (.addTracking ⟨"Topic", proofsRow⟩)
  | [_, _] => some (.prepare ⟨"Topic", renamedRow⟩)
  | [_, _, ⟨.prepare _, .ok prepared⟩] => some (.execute prepared)
  | [_, _, _, _] => some (.changeSet ⟨"Topic", renamedRow⟩)
  | [_, _, _, _, _] => some .depth
  | _ => none

/-- Calls that depend on nothing. -/
def calling (calls : List HandleCall) (history : List Observed) : Option HandleCall :=
  calls[history.length]?

/-- Two threads with one handle, and a clone of the handle on the first of them. -/
def clients : Fin 3 → Client
  | 0 => ⟨0, connection, renameTopic⟩
  | 1 => ⟨1, connection, calling [.enter, .addTracking ⟨"Topic", renamedRow⟩, .enter, .release]⟩
  | 2 => ⟨0, { connection with manager := 1 }, calling [.enter, .enter, .release, .release]⟩

/-- The first of them when all take turns. -/
def inTurn : Lane :=
  (Flows.run clients (.start Script.database .empty) (List.replicate 30 [0, 1, 2]).flatten).lanes 0

/-- The first of them when it is left to itself. -/
def byItself : Lane :=
  (Flows.run (fun _ : Unit => clients 0) (.start Script.database .empty)
    (List.replicate 30 ())).lanes ()

/-- It observes the same, up to the level that it is in at last. -/
theorem history_apart_turns :
    (Function.Injective fun index => (clients index).place) ∧
      inTurn.heard <+: [.ok (.count 1)] ∧ byItself.heard <+: [.ok (.count 1)] ∧
      inTurn.progress.history = ((clients 0).alone [.ok (.count 1)] 6).1 ∧
      byItself.progress.history = inTurn.progress.history ∧
      inTurn.progress.history.getLast? = some ⟨.depth, (1 : Nat)⟩ := by
  have places : Function.Injective fun index => (clients index).place := by
    intro first second
    revert first second
    decide
  have heard : inTurn.heard <+: [.ok (.count 1)] := ⟨[], by rfl⟩
  have heard' : byItself.heard <+: [.ok (.count 1)] := ⟨[], by rfl⟩
  have length : inTurn.progress.history.length = 6 := by rfl
  have last : inTurn.progress.history.getLast? = some ⟨.depth, (1 : Nat)⟩ := by rfl
  obtain ⟨whole, same⟩ := Flows.history_apart places Script.database .empty
    (List.replicate 30 [0, 1, 2]).flatten 0 [.ok (.count 1)] heard
  have whole : inTurn.progress.history =
      ((clients 0).alone [.ok (.count 1)] inTurn.progress.history.length).1 := whole
  obtain ⟨again, -⟩ := same (fun _ : Unit => clients 0) () Script.database .empty
    (List.replicate 30 ()) (fun _ _ _ => rfl) rfl heard' (by decide)
  rw [length] at whole
  exact ⟨places, heard, heard', whole, again, last⟩

end Example

end TrackedQuery
