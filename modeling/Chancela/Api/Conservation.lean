import Chancela.Api.Endpoints
import Chancela.Crates.Reference

/-! # Authority is conserved

Roles are edited, assigned and delegated by principals that hold what they hand on, so a
run of requests gives nobody a verb at a target that no active principal had. Delegations
drop out of the argument: what one conveys its grantor holds via a role, so the authority
of all principals together is what their roles give them
(`Chancela.AppState.held_iff_heldViaRole`), whatever the time.
-/

namespace Chancela

/-- A request with its user and the time of it. -/
structure Call where
  user : Uuid
  now : OffsetDateTime
  request : Request

namespace AppState

/-- Some active principal's authority covers the verb at the target. -/
def Held (state : AppState) (relations : ScopeRelations) (now : OffsetDateTime)
    (permission : Permission) (target : Scope) : Prop :=
  ∃ principal user, state.users.get principal = some user ∧ user.active = true ∧
    hasPermission (state.effectivePermissionsFor principal now relations) permission target
      relations.bookScope = true

/-- Some active principal's roles cover the verb at the target. -/
def HeldViaRole (state : AppState) (relations : ScopeRelations) (permission : Permission)
    (target : Scope) : Prop :=
  ∃ principal scope, state.RoleHolds principal permission scope ∧
    scopeCovers scope target relations.bookScope = true

variable {state later : AppState} {session : Session} {request : Request}
  {relations : ScopeRelations} {now : OffsetDateTime} {permission : Permission}
  {scope target : Scope}

theorem HeldViaRole.of_covers (held : state.HeldViaRole relations permission scope)
    (covers : scopeCovers scope target relations.bookScope = true) :
    state.HeldViaRole relations permission target := by
  obtain ⟨principal, outer, holds, upper⟩ := held
  exact ⟨principal, outer, holds, relations.composes upper covers⟩

theorem heldViaRole_of_mem_delegatedGrants {principal : Uuid} (delegated : (permission, scope) ∈
      (state.effectivePermissionsFor principal now relations).delegatedGrants) :
    state.HeldViaRole relations permission scope := by
  obtain ⟨-, stored, -, -, -, -, -, authority, resolved, viaRole⟩ :=
    mem_delegatedGrants_iff.mp delegated
  obtain ⟨grantor, found, active, rfl⟩ := roleAuthority_eq_some_iff.mp resolved
  obtain ⟨outer, assigned, covers⟩ := hasViaRole_eq_true_iff.mp viaRole
  exact ⟨stored.inner.from_, outer, ⟨grantor, found, active, assigned⟩, covers⟩

theorem held_iff_heldViaRole :
    state.Held relations now permission target ↔ state.HeldViaRole relations permission target := by
  constructor
  · rintro ⟨principal, user, -, -, held⟩
    obtain ⟨scope, granted, covers⟩ := hasPermission_eq_true_iff.mp held
    rcases List.mem_append.mp granted with assigned | delegated
    · exact ⟨principal, scope, mem_roleGrants_iff.mp assigned, covers⟩
    · exact (heldViaRole_of_mem_delegatedGrants delegated).of_covers covers
  · rintro ⟨principal, scope, holds, covers⟩
    obtain ⟨user, found, active, -⟩ := id holds
    refine ⟨principal, user, found, active, hasPermission_eq_true_iff.mpr ⟨scope, ?_, covers⟩⟩
    exact List.mem_append_left _ (mem_roleGrants_iff.mpr holds)

theorem Permits.heldViaRole (permitted : state.Permits session permission scope) :
    state.HeldViaRole session.relations permission scope := by
  obtain ⟨⟨user, found, active⟩, permitted⟩ := permitted
  exact held_iff_heldViaRole.mp ⟨session.user, user, found, active, permitted⟩

theorem heldViaRole_of_author {role : Role}
    (allowed : ∀ permission ∈ role.permissionSet, state.Permits session permission .global)
    (held : ({ state with roles := state.roles.insert role } : AppState).HeldViaRole
      session.relations permission target) :
    state.HeldViaRole session.relations permission target := by
  obtain ⟨principal, scope, ⟨user, found, active, granted⟩, covers⟩ := held
  obtain ⟨assignment, listed, placed, other, known, member⟩ := mem_assignedGrants.mp granted
  rcases Table.get_insert_eq_some_iff.mp known with ⟨-, rfl⟩ | ⟨-, before⟩
  · exact (allowed permission member).heldViaRole.of_covers (scopeCovers_global _ _)
  · refine ⟨principal, scope, ⟨user, found, active, ?_⟩, covers⟩
    exact mem_assignedGrants.mpr ⟨assignment, listed, placed, other, before, member⟩

theorem heldViaRole_of_erase {id : Uuid}
    (held : ({ state with roles := RoleCatalog.without state.roles id } : AppState).HeldViaRole
      relations permission target) : state.HeldViaRole relations permission target := by
  obtain ⟨principal, scope, ⟨user, found, active, granted⟩, covers⟩ := held
  obtain ⟨assignment, listed, placed, role, known, member⟩ := mem_assignedGrants.mp granted
  refine ⟨principal, scope, ⟨user, found, active, ?_⟩, covers⟩
  exact mem_assignedGrants.mpr
    ⟨assignment, listed, placed, role, RoleCatalog.get_of_get_without known, member⟩

theorem heldViaRole_of_reassign {user : User} {assignments : List RoleAssignment}
    (present : state.users.get user.id = some user)
    (held : ({ state with
        users := state.users.insert { user with roleAssignments := assignments } } :
      AppState).HeldViaRole relations permission target) :
    state.HeldViaRole relations permission target ∨
      ∃ assignment ∈ assignments, assignment ∉ user.roleAssignments ∧
        (∃ role, state.roles.get assignment.roleId = some role ∧
          permission ∈ role.permissionSet) ∧
        scopeCovers assignment.scope target relations.bookScope = true := by
  obtain ⟨principal, scope, ⟨holder, found, active, granted⟩, covers⟩ := held
  rcases Table.get_insert_eq_some_iff.mp found with ⟨-, rfl⟩ | ⟨-, before⟩
  · obtain ⟨assignment, listed, rfl, role, known, member⟩ := mem_assignedGrants.mp granted
    by_cases old : assignment ∈ user.roleAssignments
    · refine .inl ⟨user.id, assignment.scope, ⟨user, present, active, ?_⟩, covers⟩
      exact mem_assignedGrants.mpr ⟨assignment, old, rfl, role, known, member⟩
    · exact .inr ⟨assignment, listed, old, ⟨role, known, member⟩, covers⟩
  · exact .inl ⟨principal, scope, ⟨holder, before, active, granted⟩, covers⟩

/-- **One request.** Whatever the roles cover after a request, they covered before it. -/
theorem heldViaRole_of_effect (effect : state.Effect session request later)
    (held : later.HeldViaRole session.relations permission target) :
    state.HeldViaRole session.relations permission target := by
  cases effect with
  | author role allowed written => exact heldViaRole_of_author allowed held
  | erase id => exact heldViaRole_of_erase held
  | assign user role scope found known allowed =>
      rcases heldViaRole_of_reassign found held with
        before | ⟨assignment, listed, fresh, ⟨other, resolved, member⟩, covers⟩
      · exact before
      -- the only assignment the user did not have is the one that was checked
      have same : assignment = ⟨role.id, scope⟩ := by
        rw [pushDistinct] at listed
        split at listed
        · exact (fresh listed).elim
        · exact List.mem_singleton.mp ((List.mem_append.mp listed).resolve_left fresh)
      rw [same] at resolved covers
      rw [known] at resolved
      rw [← Option.some.inj resolved] at member
      exact (allowed permission member).heldViaRole.of_covers covers
  | unassign user found kept fewer =>
      rcases heldViaRole_of_reassign found held with before | ⟨assignment, listed, fresh, -⟩
      · exact before
      · exact (fresh (fewer listed)).elim
  | grant stored unshaped delegable => exact held
  | mark existing stored found verbs revoked => exact held
  | unchanged => exact held

section Runs

variable [Crates] [TimeParse]

/-- The state after a call, under a fixed parent relation. -/
def step (relations : ScopeRelations) (state : AppState) (call : Call) : AppState :=
  state.afterRequest ⟨call.user, call.now, relations⟩ call.request

/-- **Authority is conserved over runs.** Whatever some active principal holds after any
sequence of requests, at whatever time it is asked, some active principal held at the
start. -/
theorem held_of_held_after_run (relations : ScopeRelations) (start : AppState) (calls : List Call)
    (before after : OffsetDateTime) (permission : Permission) (target : Scope)
    (held : (calls.foldl (step relations) start).Held relations after permission target) :
    start.Held relations before permission target := by
  have conserved := @Run.forall_mem_states_of_kept AppState Call (step relations)
    (fun state => ∀ permission target, state.HeldViaRole relations permission target →
      start.HeldViaRole relations permission target)
    (fun state call sound permission target afterwards => sound permission target
      (heldViaRole_of_effect (effect_afterRequest state ⟨call.user, call.now, relations⟩
        call.request) afterwards))
    start (fun _ _ held => held) calls
  rw [held_iff_heldViaRole] at held ⊢
  exact conserved _ (Run.foldl_mem_states start calls) permission target held

end Runs

def clerk : Role := ⟨⟨7⟩, "Clerk", {.roleAssign, .actRead}, false⟩

def office : AppState where
  users := (Table.empty.insert ⟨⟨1⟩, true, [⟨⟨7⟩, .global⟩]⟩).insert ⟨⟨2⟩, true, []⟩
  roles := Table.empty.insert clerk
  delegations := Table.empty
  signupDefaultRole := ⟨9⟩

/-- The first clerk makes the second a clerk of one tenant. -/
def appointments : List Call :=
  [⟨⟨1⟩, unixEpoch, .assignRole ⟨2⟩ ⟨7⟩ (.tenant ⟨3⟩)⟩]

open scoped Reference in
theorem held_of_held_after_run_office :
    (appointments.foldl (step .unrelated) office).Held .unrelated unixEpoch .actRead
        (.tenant ⟨3⟩) ∧
      office.Held .unrelated unixEpoch .actRead (.tenant ⟨3⟩) := by
  have after : (appointments.foldl (step .unrelated) office).Held .unrelated unixEpoch .actRead
      (.tenant ⟨3⟩) := ⟨⟨2⟩, ⟨⟨2⟩, true, [⟨⟨7⟩, .tenant ⟨3⟩⟩]⟩, by decide, rfl, by decide⟩
  exact ⟨after, held_of_held_after_run .unrelated office appointments unixEpoch unixEpoch _ _ after⟩

end AppState

end Chancela
