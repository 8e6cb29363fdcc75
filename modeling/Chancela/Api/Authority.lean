import Chancela.Authz.Escalation

/-! # The authority of a principal

The state the authorization layer reads: the users with their assignments, the role
catalog and the stored delegations. A principal's authority is resolved from it at every
request; each verb a delegation conveys is checked again against what its grantor holds
via roles at that moment (`Chancela.AppState.mem_delegatedGrants_iff`).
-/

namespace Chancela

/-- A snapshot of the parent relations the stores represent. -/
structure ScopeRelations where
  books : Uuid → Option Uuid
  tenants : Uuid → Option Uuid
  acts : Uuid → Option Uuid
  templateLibraries : Uuid → Option Uuid
  integrations : Uuid → Option Uuid
  repositories : Uuid → Option Uuid
  archives : Uuid → Option Uuid

namespace ScopeRelations

/-- `impl BookScope for ScopeRelations`. Folders have no parent here. -/
def bookScope (relations : ScopeRelations) : BookScope where
  entityOf := relations.books
  tenantOf := relations.tenants
  bookOfAct := relations.acts
  parentOfTemplateLibrary id := (relations.templateLibraries id).map .tenant
  parentOfIntegration id := (relations.integrations id).map .tenant
  parentOfRepository id := (relations.repositories id).map .tenant
  parentOfArchive id := (relations.archives id).map .repository

def depth : Scope → Nat
  | .global | .tenant _ | .folder _ => 0
  | .entity _ | .templateLibrary _ | .integration _ | .repository _ => 1
  | .book _ | .archive _ => 2
  | .act _ => 3

theorem depth_lt_of_parentScope {relations : ScopeRelations} {low above : Scope}
    (parent : relations.bookScope.parentScope low = some above) : depth above < depth low := by
  cases low with
  | global | tenant id | folder id => cases parent
  | entity id | book id | act id | templateLibrary id | archive id | integration id
  | repository id =>
      obtain ⟨owner, -, rfl⟩ := Option.map_eq_some_iff.mp parent
      simp only [depth, Nat.lt_add_one]

theorem withinReach (relations : ScopeRelations) : relations.bookScope.WithinReach := by
  refine BookScope.withinReach_of_rank depth ?_ ?_ rfl
  · intro scope
    cases scope <;> simp only [depth] <;> omega
  · intro low above
    exact depth_lt_of_parentScope

theorem composes (relations : ScopeRelations) : relations.bookScope.Composes :=
  relations.withinReach.composes

def unrelated : ScopeRelations :=
  ⟨fun _ => none, fun _ => none, fun _ => none, fun _ => none, fun _ => none, fun _ => none,
    fun _ => none⟩

end ScopeRelations

/-- What the authorization layer reads of a user. -/
structure User where
  id : Uuid
  active : Bool
  roleAssignments : List RoleAssignment
deriving DecidableEq

/-- A delegation with the fields of its audit. -/
structure StoredDelegation where
  id : Uuid
  grantedAt : String
  revokedAt : Option String
  revokedBy : Option Uuid
  inner : Delegation
deriving DecidableEq

/-- The stores the authorization layer reads and writes, and the configured
`auth.signup.default_role`. -/
structure AppState where
  users : Table User.id
  roles : RoleCatalog
  delegations : Table StoredDelegation.id
  signupDefaultRole : Uuid

namespace AppState

/-- A delegation of the verbs that were retained, if any were. -/
def residual (delegation : Delegation) : List Permission → Option Delegation
  | [] => none
  | first :: rest =>
      some { delegation with permission := some first, extraPermissions := rest, roles := [] }

def roleAuthority (state : AppState) (id : Uuid) (now : OffsetDateTime) :
    Option ScopedPermissionSet :=
  match state.users.get id with
  | some user =>
      if user.active then
        some (effectivePermissions id user.roleAssignments state.roles [] now)
      else none
  | none => none

/-- The verbs of a delegation its grantor still holds via roles, as a delegation of these
verbs. -/
def revalidate (state : AppState) (now : OffsetDateTime) (relations : ScopeRelations)
    (delegation : Delegation) : Option Delegation :=
  (state.roleAuthority delegation.from_ now).bind fun authority =>
    residual delegation ((delegation.grantedPermissions state.roles).filter fun permission =>
      authority.hasViaRole permission delegation.scope relations.bookScope)

/-- `effective_permissions_for_with_relations`. -/
def effectivePermissionsFor (state : AppState) (principal : Uuid) (now : OffsetDateTime)
    (relations : ScopeRelations) : ScopedPermissionSet :=
  let stored := (state.delegations.values.map StoredDelegation.inner).filter (·.to_ = principal)
  match state.users.get principal with
  | some user =>
      if user.active then
        effectivePermissions principal user.roleAssignments state.roles
          (stored.filterMap (state.revalidate now relations)) now
      else .new
  | none => .new

variable {state : AppState} {principal : Uuid} {now : OffsetDateTime}
  {relations : ScopeRelations} {permission : Permission} {scope target : Scope}

/-- A verb at a scope that some active user holds by an assignment of a known role. -/
def RoleHolds (state : AppState) (id : Uuid) (permission : Permission) (scope : Scope) : Prop :=
  ∃ user, state.users.get id = some user ∧ user.active = true ∧
    (permission, scope) ∈ assignedGrants user.roleAssignments state.roles

theorem roleAuthority_eq_some_iff {id : Uuid} {authority : ScopedPermissionSet} :
    state.roleAuthority id now = some authority ↔
      ∃ user, state.users.get id = some user ∧ user.active = true ∧
        effectivePermissions id user.roleAssignments state.roles [] now = authority := by
  rw [roleAuthority]
  cases state.users.get id with
  | none => simp only [reduceCtorEq, false_and, exists_false]
  | some user =>
      by_cases active : user.active = true
      · simp only [active, ↓reduceIte, Option.some.injEq, exists_eq_left', true_and]
      · simp only [active, ↓reduceIte, Option.some.injEq, reduceCtorEq, exists_eq_left',
          Bool.false_eq_true, false_and]

theorem exists_residual_iff {delegation : Delegation} {retained : List Permission}
    (catalog : RoleCatalog) :
    (∃ left, residual delegation retained = some left ∧ left.to_ = principal ∧
      left.isActive now = true ∧ left.scope = scope ∧
      permission ∈ left.grantedPermissions catalog) ↔
    delegation.to_ = principal ∧ delegation.isActive now = true ∧ delegation.scope = scope ∧
      permission ∈ retained := by
  cases retained with
  | nil => simp only [residual, reduceCtorEq, false_and, exists_false, List.not_mem_nil, and_false]
  | cons first rest =>
      simp only [residual, Option.some.injEq, exists_eq_left', Delegation.mem_grantedPermissions,
        Delegation.mem_permissions, List.not_mem_nil, false_and, exists_false, or_false,
        List.mem_cons]
      rw [eq_comm (a := first)]
      rfl

theorem exists_revalidate_iff {delegation : Delegation} (catalog : RoleCatalog) :
    (∃ left, state.revalidate now relations delegation = some left ∧ left.to_ = principal ∧
      left.isActive now = true ∧ left.scope = scope ∧
      permission ∈ left.grantedPermissions catalog) ↔
    delegation.to_ = principal ∧ delegation.isActive now = true ∧ delegation.scope = scope ∧
      permission ∈ delegation.grantedPermissions state.roles ∧
      ∃ authority, state.roleAuthority delegation.from_ now = some authority ∧
        authority.hasViaRole permission scope relations.bookScope = true := by
  rw [revalidate]
  cases state.roleAuthority delegation.from_ now with
  | none => simp only [Option.bind_none, reduceCtorEq, false_and, exists_false, and_false]
  | some authority =>
      simp only [Option.bind_some, exists_residual_iff, List.mem_filter, Option.some.injEq,
        exists_eq_left']
      constructor
      · rintro ⟨addressed, active, rfl, granted, viaRole⟩
        exact ⟨addressed, active, rfl, granted, viaRole⟩
      · rintro ⟨addressed, active, rfl, granted, viaRole⟩
        exact ⟨addressed, active, rfl, granted, viaRole⟩

theorem mem_delegatedGrants_iff :
    (permission, scope) ∈ (state.effectivePermissionsFor principal now relations).delegatedGrants ↔
      (∃ user, state.users.get principal = some user ∧ user.active = true) ∧
      ∃ stored ∈ state.delegations.values, stored.inner.to_ = principal ∧
        stored.inner.isActive now = true ∧ stored.inner.scope = scope ∧
        permission ∈ stored.inner.grantedPermissions state.roles ∧
        ∃ authority, state.roleAuthority stored.inner.from_ now = some authority ∧
          authority.hasViaRole permission scope relations.bookScope = true := by
  rw [effectivePermissionsFor]
  cases state.users.get principal with
  | none => simp only [ScopedPermissionSet.new, List.not_mem_nil, reduceCtorEq, false_and,
      exists_false]
  | some user =>
      by_cases active : user.active = true
      · simp only [active, ↓reduceIte, Option.some.injEq, exists_eq_left', true_and,
          effectivePermissions, mem_conveyedGrants, List.mem_filterMap]
        constructor
        · rintro ⟨residual, ⟨delegation, listed, resolved⟩, conveys⟩
          obtain ⟨inside, -⟩ := List.mem_filter.mp listed
          obtain ⟨stored, kept, rfl⟩ := List.mem_map.mp inside
          exact ⟨stored, kept, (exists_revalidate_iff _).mp ⟨residual, resolved, conveys⟩⟩
        · rintro ⟨stored, kept, conveys⟩
          obtain ⟨residual, resolved, rest⟩ :=
            (exists_revalidate_iff state.roles).mpr conveys
          refine ⟨residual, ⟨stored.inner, ?_, resolved⟩, rest⟩
          exact List.mem_filter.mpr
            ⟨List.mem_map_of_mem kept, decide_eq_true conveys.1⟩
      · simp only [active, ↓reduceIte, ScopedPermissionSet.new, List.not_mem_nil,
          Option.some.injEq, exists_eq_left', Bool.false_eq_true, false_and]

theorem mem_roleGrants_iff :
    (permission, scope) ∈ (state.effectivePermissionsFor principal now relations).roleGrants ↔
      state.RoleHolds principal permission scope := by
  rw [effectivePermissionsFor, RoleHolds]
  cases state.users.get principal with
  | none => simp only [ScopedPermissionSet.new, List.not_mem_nil, reduceCtorEq, false_and,
      exists_false]
  | some user =>
      by_cases active : user.active = true
      · simp only [active, ↓reduceIte, Option.some.injEq, exists_eq_left', true_and,
          effectivePermissions]
      · simp only [active, ↓reduceIte, ScopedPermissionSet.new, List.not_mem_nil,
          Option.some.injEq, exists_eq_left', Bool.false_eq_true, false_and]

end AppState

end Chancela
