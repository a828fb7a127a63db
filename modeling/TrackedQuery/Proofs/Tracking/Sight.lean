import TrackedQuery.Proofs.Tracking.HandleCall
import TrackedQuery.Session.Script

/-!
# What a flow sees

A flow sees the scopes that it found, which of them it is in, and what the database answers to it: a
`Sight` of the world.  Where a scope is stored and what else there is in the world is not in it.

* What an access answers, and what is seen after it, depends on what was seen before
  (`Seat.Sound.perform_sight`).
* An access at one place changes nothing of what is seen at another place where none of the same
  scopes were found (`Seat.Sound.perform_unseen`).
-/

namespace TrackedQuery

variable {δ : Type} {place other : Place} {seat : Seat δ}

/-! ## Sights -/

/-- What a flow sees of a world: the scopes that it found, the one it is in, and the answers that
the database is going to give to it. -/
structure Sight where
  scopes : List Scope
  current : Option Grip
  answers : List (Result Answer)

namespace Sight

/-- Nothing was found yet. -/
def start (answers : List (Result Answer)) : Sight := ⟨[], none, answers⟩

/-- Answers an access from what is seen.  When no answer of the database is left, it answers as a
scripted one does. -/
def perform {ρ : Type} : Access ρ → Sight → ρ × Sight
  | .lookUp, sight =>
      match sight.current with
      | some grip => (grip, sight)
      | none =>
          (sight.scopes.length,
            { sight with
              scopes := sight.scopes ++ [.fresh]
              current := some sight.scopes.length })
  | .current, sight => (sight.current, sight)
  | .locked grip change, sight =>
      let changed := change (sight.scopes[grip]?.getD .fresh)
      (changed.1, { sight with scopes := sight.scopes.set grip changed.2 })
  | .forget grip, sight =>
      ((), { sight with current := if sight.current = some grip then none else sight.current })
  | .send operation, sight =>
      match sight.answers with
      | [] => (.ok (Script.defaultAnswer operation), sight)
      | answer :: rest => (answer, { sight with answers := rest })

/-- Flows run in sights. -/
def handler : Handler Sight := ⟨perform⟩

end Sight

/-- What the database is heard to answer. -/
def Access.heard {ρ : Type} : Access ρ → ρ → List (Result Answer)
  | .send _, answer => [answer]
  | .lookUp, _ | .current, _ | .locked _ _, _ | .forget _, _ => []

/-- What a flow sees in a world that is going to give it the given answers. -/
def Seat.sight (place : Place) (answers : List (Result Answer)) (seat : Seat δ) : Sight :=
  { scopes := seat.found.map seat.tracking.scopeAt
    current := (seat.current? place).map seat.gripOf
    answers := answers }

/-! ## What an access shows to the one who does it -/

namespace Seat

private theorem scopeAt_scopeOf (seat : Seat δ) (grip : Grip) (place : Place)
    (answers : List (Result Answer)) :
    seat.tracking.scopeAt (seat.scopeOf grip) =
      (seat.sight place answers).scopes[grip]?.getD .fresh := by
  unfold scopeOf sight
  rw [List.getElem?_map]
  cases seat.found[grip]? with
  | none => exact Tracking.scopeAt_of_unknown (Nat.le_refl _)
  | some scope => rfl

/-- A fresh scope is as one that was never entered. -/
theorem scopeAt_attach (vacant : seat.current? place = none) :
    (seat.attach place).tracking.scopeAt = seat.tracking.scopeAt := by
  funext scope
  rw [← Tracking.scopeAt_lookUp seat.tracking place.thread place.manager scope, Tracking.lookUp,
    show seat.tracking.current? place.thread place.manager = none from vacant]
  rfl

/-- Whoever changes a scope sees this scope change and no other. -/
theorem Sound.sight_modifyScope (sound : seat.Sound place) (grip : Grip) (scope : Scope)
    (answers : List (Result Answer)) :
    (seat.withTracking (seat.tracking.modifyScope (seat.scopeOf grip) fun _ => scope)).sight place
        answers =
      { seat.sight place answers with
        scopes := (seat.sight place answers).scopes.set grip scope } := by
  unfold sight
  congr 1
  refine List.ext_getElem? fun index => ?_
  simp only [found_withTracking, tracking_withTracking, List.getElem?_set, List.getElem?_map,
    List.length_map]
  cases here : seat.found[index]? with
  | none =>
      have outside : ¬ index < seat.found.length := by
        simpa using List.getElem?_eq_none_iff.mp here
      split <;> simp_all
  | some found =>
      obtain ⟨inside, -⟩ := List.getElem?_eq_some_iff.mp here
      have known := sound.known found (List.mem_of_getElem? here)
      -- a grip stands for the scope that was found at its place, and for no other
      by_cases same : grip = index
      · subst same
        have named : seat.scopeOf grip = found := by simp [scopeOf, here]
        simp [named, inside, Tracking.scopeAt_modifyScope_self known]
      · have distinct : found ≠ seat.scopeOf grip := by
          rintro rfl
          exact same ((sound.gripOf_scopeOf (List.mem_of_getElem? here)).symm.trans
            (sound.gripOf_of_getElem? here))
        simp [same, Tracking.scopeAt_modifyScope_of_ne _ distinct]

/-- A fresh scope is seen behind those that were found before. -/
theorem Sound.sight_attach (sound : seat.Sound place) (vacant : seat.current? place = none)
    (answers : List (Result Answer)) :
    (seat.attach place).sight place answers =
      { seat.sight place answers with
        scopes := (seat.sight place answers).scopes ++ [.fresh]
        current := some (seat.sight place answers).scopes.length } := by
  have current := ((sound.attach vacant).attached _ List.mem_cons_self).1
  simp only [sight, current, Option.map_some, sound.gripOf_attach, List.length_map,
    scopeAt_attach vacant]
  congr 1
  show (seat.found ++ [seat.tracking.scopes.length]).map seat.tracking.scopeAt = _
  rw [List.map_append, List.map_singleton, Tracking.scopeAt_of_unknown (Nat.le_refl _)]

/-- Whoever forgets a scope stays in the current one, unless it is this scope. -/
theorem Sound.current?_forget (sound : seat.Sound place) (grip : Grip) :
    (seat.perform place (.forget grip)).2.current? place =
      (seat.current? place).filter (· ≠ seat.scopeOf grip) := by
  refine Option.ext fun scope => ?_
  rw [Option.filter_eq_some_iff, decide_eq_true_iff]
  constructor
  · intro current
    obtain ⟨here, kept⟩ := Tracking.mem_detach.mp (Tracking.mem_of_current? current)
    exact ⟨(sound.attached scope here).1, fun same => kept (by rw [same])⟩
  · rintro ⟨current, kept⟩
    refine ((sound.forget grip).attached scope (Tracking.mem_detach.mpr ⟨?_, ?_⟩)).1
    · exact Tracking.mem_of_current? current
    · exact fun same => kept (Attachment.mk.inj same).2.2

/-- Whoever forgets the current scope is in none. -/
theorem Sound.sight_forget (sound : seat.Sound place) (grip : Grip)
    (answers : List (Result Answer)) :
    (seat.perform place (.forget grip)).2.sight place answers =
      { seat.sight place answers with
        current :=
          if (seat.sight place answers).current = some grip then none
          else (seat.sight place answers).current } := by
  unfold sight
  rw [sound.current?_forget]
  congr 1
  cases current : seat.current? place with
  | none => rfl
  | some scope =>
      -- a thread holds a scope by one grip alone
      have named : seat.gripOf scope = grip ↔ scope = seat.scopeOf grip := by
        constructor
        · rintro rfl
          exact (sound.scopeOf_current current).symm
        · intro same
          rw [same]
          exact sound.gripOf_scopeOf (same ▸ sound.current_mem current)
      have same : (seat.perform place (.forget grip)).2.gripOf = seat.gripOf := rfl
      by_cases gone : seat.gripOf scope = grip
      · simp [Option.filter_some, same, ← named, gone]
      · simp [Option.filter_some, same, ← named, gone]

/-- What an access answers, and what is seen after it, depends on what was seen before. -/
theorem Sound.perform_sight {ρ : Type} (sound : seat.Sound place) (access : Access ρ)
    (rest : List (Result Answer)) :
    (seat.sight place (access.heard (seat.perform place access).1 ++ rest)).perform access =
      ((seat.perform place access).1, (seat.perform place access).2.sight place rest) := by
  -- looking a scope up is the only access that may add one
  cases access with
  | lookUp =>
      cases current : seat.current? place with
      | some scope =>
          rw [sound.lookUp_of_current current]
          simp [Sight.perform, Access.heard, sight, current]
      | none =>
          rw [sound.lookUp_of_vacant current, sound.sight_attach current]
          simp [Sight.perform, Access.heard, sight, current]
  | current => rfl
  | locked grip change =>
      simp only [Sight.perform, Seat.perform, Access.heard, List.nil_append,
        sound.sight_modifyScope, seat.scopeAt_scopeOf grip place rest]
  | forget grip =>
      rw [sound.sight_forget]
      rfl
  | send operation => rfl

end Seat

/-! ## What it shows to others -/

/-- What is attached at one place is not found at another. -/
theorem Place.elsewhere (apart : place ≠ other) :
    (place.thread == other.thread && place.manager == other.manager) = false := by
  rw [Bool.eq_false_iff]
  intro same
  simp only [Bool.and_eq_true, beq_iff_eq] at same
  exact apart (Place.ext same.1 same.2)

namespace Tracking

/-- What is forgotten at a place is forgotten nowhere else. -/
theorem current?_detach_of_ne (tracking : Tracking) (apart : place ≠ other) (scope : ScopeId) :
    (tracking.detach place.thread place.manager scope).current? other.thread other.manager =
      tracking.current? other.thread other.manager := by
  unfold current? detach
  rw [List.find?_filter]
  congr 2
  funext attachment
  by_cases here : attachment.thread = place.thread ∧ attachment.manager = place.manager
  · rw [here.1, here.2]
    simp [Place.elsewhere apart]
  · have kept : (attachment.thread == place.thread && attachment.manager == place.manager) =
        false := by
      simpa [Bool.eq_false_iff] using here
    simp only [kept, Bool.false_and, Bool.not_false, true_and, Bool.decide_eq_true]

end Tracking

namespace Seat

/-- What somebody else sees of the same world. -/
def beside (seat : Seat δ) (found : List ScopeId) : Seat δ := { seat with found := found }

/-- Nothing that a flow does is seen at another place, where other scopes were found. -/
structure Unseen (other : Place) (found : List ScopeId) (before after : Seat δ) : Prop where
  sound : (after.beside found).Sound other
  same : ∀ answers, (after.beside found).sight other answers =
    (before.beside found).sight other answers
  disjoint : ∀ scope ∈ after.found, scope ∉ found

variable {found : List ScopeId}

theorem Unseen.refl (sound : (seat.beside found).Sound other)
    (disjoint : ∀ scope ∈ seat.found, scope ∉ found) : seat.Unseen other found seat :=
  ⟨sound, fun _ => rfl, disjoint⟩

/-- A scope that is found at another place has no grip. -/
theorem scopeOf_not_mem (beside : (seat.beside found).Sound other)
    (disjoint : ∀ scope ∈ seat.found, scope ∉ found) (grip : Grip) :
    seat.scopeOf grip ∉ found := by
  unfold scopeOf
  cases here : seat.found[grip]? with
  | none => exact beside.length_not_mem
  | some scope => exact disjoint scope (List.mem_of_getElem? here)

/-- What is done to the scopes that were found here, and to what is attached here, is unseen. -/
theorem Unseen.of_withTracking (beside : (seat.beside found).Sound other)
    (disjoint : ∀ scope ∈ seat.found, scope ∉ found) {tracking : Tracking}
    (length : tracking.scopes.length = seat.tracking.scopes.length)
    (current : tracking.current? other.thread other.manager =
      seat.tracking.current? other.thread other.manager)
    (attachments : ∀ attachment ∈ tracking.attachments, attachment ∈ seat.tracking.attachments)
    (scopes : ∀ scope ∈ found, tracking.scopeAt scope = seat.tracking.scopeAt scope) :
    seat.Unseen other found (seat.withTracking tracking) where
  sound :=
    { nodup := beside.nodup
      known := fun scope mem => length ▸ beside.known scope mem
      attached := fun scope here => by
        show tracking.current? other.thread other.manager = _ ∧ _
        rw [current]
        exact beside.attached scope (attachments _ here) }
  same answers := by
    show Sight.mk (found.map tracking.scopeAt) ((tracking.current? _ _).map found.idxOf) answers = _
    rw [current, List.map_congr_left scopes]
    rfl
  disjoint := disjoint

private theorem Unseen.attach (apart : place ≠ other) (beside : (seat.beside found).Sound other)
    (disjoint : ∀ scope ∈ seat.found, scope ∉ found) (vacant : seat.current? place = none) :
    seat.Unseen other found (seat.attach place) := by
  -- the new attachment belongs to another place
  have current : (seat.attach place).tracking.current? other.thread other.manager =
      seat.tracking.current? other.thread other.manager := by
    unfold Tracking.current?
    exact congrArg _ (List.find?_cons_of_neg (by simpa using Place.elsewhere apart))
  refine ⟨⟨beside.nodup, ?_, ?_⟩, ?_, ?_⟩
  · intro scope mem
    show scope < (seat.tracking.scopes ++ [Scope.fresh]).length
    rw [List.length_append]
    exact Nat.lt_add_right 1 (beside.known scope mem)
  · intro scope here
    show (seat.attach place).tracking.current? other.thread other.manager = _ ∧ _
    rw [current]
    refine beside.attached scope ((List.mem_cons.mp here).resolve_left ?_)
    intro same
    obtain ⟨thread, manager, -⟩ := Attachment.mk.inj same
    exact apart (Place.ext thread.symm manager.symm)
  · intro answers
    show Sight.mk (found.map (seat.attach place).tracking.scopeAt)
      (((seat.attach place).tracking.current? _ _).map found.idxOf) answers = _
    rw [current, scopeAt_attach vacant]
    rfl
  · intro scope mem
    rcases List.mem_append.mp mem with mem | mem
    · exact disjoint scope mem
    · rw [List.mem_singleton.mp mem]
      exact beside.length_not_mem

/-- An access is unseen at other places. -/
theorem Sound.perform_unseen {ρ : Type} (sound : seat.Sound place) (apart : place ≠ other)
    (beside : (seat.beside found).Sound other)
    (disjoint : ∀ scope ∈ seat.found, scope ∉ found) (access : Access ρ) :
    seat.Unseen other found (seat.perform place access).2 := by
  cases access with
  | lookUp =>
      cases current : seat.current? place with
      | some scope =>
          rw [sound.lookUp_of_current current]
          exact .refl beside disjoint
      | none =>
          rw [sound.lookUp_of_vacant current]
          exact .attach apart beside disjoint current
  | current => exact .refl beside disjoint
  | locked grip change =>
      refine .of_withTracking beside disjoint (Tracking.length_modifyScope _ _ _) rfl
        (fun _ here => here) fun scope mem => Tracking.scopeAt_modifyScope_of_ne _ ?_ _
      -- a grip of one place leads to none of the scopes of another
      rintro rfl
      exact scopeOf_not_mem beside disjoint grip mem
  | forget grip =>
      exact .of_withTracking beside disjoint rfl (Tracking.current?_detach_of_ne _ apart _)
        (fun _ here => (Tracking.mem_detach.mp here).1) fun _ _ => rfl
  | send operation => exact ⟨⟨beside.nodup, beside.known, beside.attached⟩, fun _ => rfl, disjoint⟩

end Seat

end TrackedQuery
