import TrackedQuery.Proofs.Tracking.Key

/-!
# Changing one scope

Capturing a row and refreshing a key change the snapshots of one scope, and no level of any scope
(`depth_capture`, `depth_refresh`).  Only an open scope captures (`capture_eq_ok`).
-/

namespace TrackedQuery.Tracking

theorem known_of_depth {tracking : Tracking} {scope : ScopeId}
    (opened : (tracking.scopeAt scope).depth ≠ 0) : scope < tracking.scopes.length := by
  by_contra outside
  refine opened ?_
  simp [scopeAt, List.getElem?_eq_none (Nat.not_lt.mp outside), Scope.fresh]

theorem scopeAt_of_unknown {tracking : Tracking} {scope : ScopeId}
    (unknown : tracking.scopes.length ≤ scope) : tracking.scopeAt scope = .fresh := by
  simp [scopeAt, List.getElem?_eq_none unknown]

/-- A scope that captured something was entered. -/
theorem known_of_mem {tracking : Tracking} {scope : ScopeId} {entry : Snapshot}
    (stored : entry ∈ (tracking.scopeAt scope).snapshots) : scope < tracking.scopes.length := by
  by_contra outside
  rw [scopeAt_of_unknown (Nat.not_lt.mp outside)] at stored
  cases stored

theorem modifyScope_of_unknown {tracking : Tracking} {scope : ScopeId}
    (unknown : tracking.scopes.length ≤ scope) (change : Scope → Scope) :
    tracking.modifyScope scope change = tracking := by
  rw [modifyScope, List.modify_eq_self unknown]

theorem length_modifyScope (tracking : Tracking) (scope : ScopeId) (change : Scope → Scope) :
    (tracking.modifyScope scope change).scopes.length = tracking.scopes.length := by
  simp [modifyScope]

/-- A change of a scope that keeps its depth keeps all depths. -/
theorem depth_modifyScope (tracking : Tracking) {change : Scope → Scope}
    (depth : ∀ scope, (change scope).depth = scope.depth) (scope other : ScopeId) :
    ((tracking.modifyScope scope change).scopeAt other).depth = (tracking.scopeAt other).depth := by
  by_cases same : other = scope
  · subst same
    by_cases known : other < tracking.scopes.length
    · rw [scopeAt_modifyScope_self known, depth]
    · rw [modifyScope_of_unknown (Nat.not_lt.mp known)]
  · rw [scopeAt_modifyScope_of_ne tracking same]

/-- A row is captured in a scope that is open, and in no other. -/
theorem capture_eq_ok {tracking after : Tracking} {scope : ScopeId} {key : EntityKey} {record : Row}
    {operation : String} (captured : tracking.capture scope key record operation = .ok after) :
    (tracking.scopeAt scope).depth ≠ 0 ∧
      after = tracking.modifyScope scope (·.capture ⟨key, record⟩) := by
  unfold capture at captured
  split at captured
  · cases captured
  · next opened => exact ⟨opened, (Except.ok.inj captured).symm⟩

/-- Capturing a row keeps the depth of every scope. -/
theorem depth_capture {tracking after : Tracking} {scope : ScopeId} {key : EntityKey}
    {record : Row} {operation : String}
    (captured : tracking.capture scope key record operation = .ok after) (other : ScopeId) :
    (after.scopeAt other).depth = (tracking.scopeAt other).depth := by
  rw [(capture_eq_ok captured).2]
  exact depth_modifyScope tracking (fun stored => stored.depth_capture _) scope other

/-- And so does refreshing a key. -/
theorem depth_refresh (tracking : Tracking) (scope : ScopeId) (key : EntityKey) (record : Row)
    (other : ScopeId) :
    ((tracking.refresh scope key record).scopeAt other).depth = (tracking.scopeAt other).depth :=
  depth_modifyScope tracking (fun stored => stored.depth_refresh key record) scope other

/-- A scope that captured nothing has nothing to refresh. -/
theorem refresh_of_empty {tracking : Tracking} {scope : ScopeId}
    (empty : (tracking.scopeAt scope).snapshots = []) (key : EntityKey) (record : Row) :
    tracking.refresh scope key record = tracking := by
  -- there is no snapshot to rewrite in the scope
  have scopes : tracking.scopes.modify scope (·.refresh key record) = tracking.scopes := by
    refine List.ext_getElem? fun index => ?_
    rw [List.getElem?_modify]
    cases stored : tracking.scopes[index]? with
    | none => rfl
    | some found =>
        by_cases same : scope = index
        · subst same
          have nothing : found.snapshots = [] := by simpa [scopeAt, stored] using empty
          have same : found.refresh key record = found := by
            rw [Scope.refresh, nothing, Scope.refreshSnapshot, ← nothing]
          simp [same]
        · simp [same]
  rw [refresh, modifyScope, scopes]

/-- Refreshing a captured key replaces the row of its snapshot. -/
theorem snapshot?_refresh_self {tracking : Tracking} {scope : ScopeId}
    (known : scope < tracking.scopes.length) {key : EntityKey} {snapshot : Snapshot}
    (found : (tracking.scopeAt scope).snapshot? key = some snapshot) (record : Row) :
    ((tracking.refresh scope key record).scopeAt scope).snapshot? key =
      some { snapshot with record := record } := by
  have whole : key.foundUnder key = true := by
    have stored := List.find?_some found
    obtain ⟨same, -⟩ := (EntityKey.foundUnder_iff _ _).mp stored
    rwa [same] at stored
  rw [refresh, scopeAt_modifyScope_self known, Scope.snapshot?_refresh, found, Option.map_some,
    if_pos whole]

/-- Refreshing a key replaces the snapshot of no other one. -/
theorem snapshot?_refresh_of_ne (tracking : Tracking) (refreshed scope : ScopeId)
    {key probe : EntityKey} (other : key ≠ probe) (record : Row) :
    ((tracking.refresh refreshed key record).scopeAt scope).snapshot? probe =
      (tracking.scopeAt scope).snapshot? probe := by
  have elsewhere : ¬ key.foundUnder probe = true := fun found =>
    other ((EntityKey.foundUnder_iff _ _).mp found).1
  by_cases same : scope = refreshed
  · subst same
    by_cases known : scope < tracking.scopes.length
    · rw [refresh, scopeAt_modifyScope_self known, Scope.snapshot?_refresh]
      simp [elsewhere]
    · rw [refresh, modifyScope_of_unknown (Nat.not_lt.mp known)]
  · rw [refresh, scopeAt_modifyScope_of_ne tracking same]

end TrackedQuery.Tracking
