import Chancela.Authz.Role
import Chancela.Foundation.Outcome

/-! # Effective authority

A principal holds what the roles assigned to it grant, and what active delegations
addressed to it convey, in two buckets. The checks before a role is authored, assigned
or delegated read these buckets.
-/

namespace Chancela

/-- `push` unless the vector contains the value already. -/
def pushDistinct {α : Type*} [DecidableEq α] (values : List α) (value : α) : List α :=
  if value ∈ values then values else values ++ [value]

theorem mem_foldl_pushDistinct {α : Type*} [DecidableEq α] {items values : List α} {value : α} :
    value ∈ items.foldl pushDistinct values ↔ value ∈ values ∨ value ∈ items := by
  induction items generalizing values with
  | nil => simp only [List.foldl_nil, List.not_mem_nil, or_false]
  | cons item rest ih =>
      rw [List.foldl_cons, ih, List.mem_cons, ← or_assoc]
      apply or_congr_left
      rw [pushDistinct]
      split
      case isTrue present =>
        exact ⟨.inl, fun either => either.elim id fun same => same ▸ present⟩
      case isFalse => rw [List.mem_append, List.mem_singleton]

/-- A delegated set of roles sharing one grantor, grantee, scope and lifetime. Records of
an older shape carry verbs instead of roles. -/
structure Delegation where
  from_ : Uuid
  to_ : Uuid
  permission : Option Permission
  extraPermissions : List Permission
  roles : List Uuid
  scope : Scope
  startsAt : OffsetDateTime
  expiresAt : Option OffsetDateTime
  legalBasis : Option String
  revoked : Bool
  suspended : Bool
deriving DecidableEq

def unixEpoch : OffsetDateTime := ⟨1970, 1, 1, 0, 0, 0, 0, 0⟩

namespace Delegation

/-- `Delegation::with_roles`: duplicates collapse in first-seen order, and a delegation
of no role is not representable. -/
def withRoles (from_ to_ : Uuid) (roles : List Uuid) (scope : Scope) : Option Delegation :=
  let distinct := roles.foldl pushDistinct []
  if distinct = [] then none
  else some
    { from_, to_, permission := none, extraPermissions := [], roles := distinct, scope,
      startsAt := unixEpoch, expiresAt := none, legalBasis := none, revoked := false,
      suspended := false }

/-- `Delegation::permissions`: the verbs an older record carries itself. -/
def permissions (delegation : Delegation) : List Permission :=
  delegation.extraPermissions.foldl pushDistinct delegation.permission.toList

/-- `Delegation::granted_permissions`: the verbs of the record, then the live contents of
its roles. -/
def grantedPermissions (delegation : Delegation) (catalog : RoleCatalog) : List Permission :=
  delegation.roles.foldl (fun granted id =>
    match catalog.get id with
    | none => granted
    | some role => role.permissions.foldl pushDistinct granted) delegation.permissions

def hasStarted (delegation : Delegation) (now : OffsetDateTime) : Bool :=
  delegation.startsAt.unixTimestampNanos ≤ now.unixTimestampNanos

def isExpired (delegation : Delegation) (now : OffsetDateTime) : Bool :=
  match delegation.expiresAt with
  | some expiry => expiry.unixTimestampNanos ≤ now.unixTimestampNanos
  | none => false

def isActive (delegation : Delegation) (now : OffsetDateTime) : Bool :=
  delegation.hasStarted now && !delegation.revoked && !delegation.suspended &&
    !delegation.isExpired now

theorem mem_permissions {delegation : Delegation} {permission : Permission} :
    permission ∈ delegation.permissions ↔
      delegation.permission = some permission ∨ permission ∈ delegation.extraPermissions := by
  rw [permissions, mem_foldl_pushDistinct, Option.mem_toList]

theorem mem_grantedPermissions {delegation : Delegation} {catalog : RoleCatalog}
    {permission : Permission} :
    permission ∈ delegation.grantedPermissions catalog ↔ permission ∈ delegation.permissions ∨
      ∃ id ∈ delegation.roles, ∃ role, catalog.get id = some role ∧
        permission ∈ role.permissionSet := by
  rw [grantedPermissions]
  -- on the roles named, over what is collected so far
  generalize delegation.permissions = granted
  induction delegation.roles generalizing granted with
  | nil => simp only [List.foldl_nil, List.not_mem_nil, false_and, exists_false, or_false]
  | cons id rest ih =>
      rw [List.foldl_cons, ih, List.exists_mem_cons_iff, ← or_assoc]
      apply or_congr_left
      cases catalog.get id with
      | none => simp only [reduceCtorEq, false_and, exists_false, or_false]
      | some role =>
          simp only [mem_foldl_pushDistinct, Role.mem_permissions, Option.some.injEq,
            exists_eq_left']

theorem withRoles_eq_some_iff {from_ to_ : Uuid} {roles : List Uuid} {scope : Scope}
    {delegation : Delegation} :
    withRoles from_ to_ roles scope = some delegation ↔ roles.foldl pushDistinct [] ≠ [] ∧
      { from_, to_, permission := none, extraPermissions := [],
        roles := roles.foldl pushDistinct [], scope, startsAt := unixEpoch, expiresAt := none,
        legalBasis := none, revoked := false, suspended := false } = delegation := by
  rw [withRoles]
  by_cases empty : roles.foldl pushDistinct [] = []
  · simp only [empty, ↓reduceIte, reduceCtorEq, ne_eq, not_true_eq_false, false_and]
  · simp only [empty, ↓reduceIte, Option.some.injEq, ne_eq, not_false_eq_true, true_and]

end Delegation

/-- The grants of a principal, by whether a role or a delegation gave them. -/
structure ScopedPermissionSet where
  roleGrants : List (Permission × Scope)
  delegatedGrants : List (Permission × Scope)
deriving DecidableEq

namespace ScopedPermissionSet

def new : ScopedPermissionSet := ⟨[], []⟩

def allGrants (effective : ScopedPermissionSet) : List (Permission × Scope) :=
  effective.roleGrants ++ effective.delegatedGrants

def hasViaRole (effective : ScopedPermissionSet) (permission : Permission) (target : Scope)
    (books : BookScope) : Bool :=
  effective.roleGrants.any fun grant => grant.1 = permission && scopeCovers grant.2 target books

end ScopedPermissionSet

/-- What the assigned roles grant. A role missing from the catalog grants nothing. -/
def assignedGrants (assignments : List RoleAssignment) (roles : RoleCatalog) :
    List (Permission × Scope) :=
  assignments.flatMap fun assignment =>
    match roles.get assignment.roleId with
    | some role => role.permissions.map (·, assignment.scope)
    | none => []

def conveyedGrants (principal : Uuid) (roles : RoleCatalog) (delegations : List Delegation)
    (now : OffsetDateTime) : List (Permission × Scope) :=
  delegations.flatMap fun delegation =>
    if delegation.to_ = principal ∧ delegation.isActive now then
      (delegation.grantedPermissions roles).map (·, delegation.scope)
    else []

def effectivePermissions (principal : Uuid) (assignments : List RoleAssignment)
    (roles : RoleCatalog) (delegations : List Delegation) (now : OffsetDateTime) :
    ScopedPermissionSet where
  roleGrants := assignedGrants assignments roles
  delegatedGrants := conveyedGrants principal roles delegations now

def hasPermission (effective : ScopedPermissionSet) (permission : Permission) (target : Scope)
    (books : BookScope) : Bool :=
  effective.allGrants.any fun grant => grant.1 = permission && scopeCovers grant.2 target books

/-- `can_define_role`: every verb within the actor's authority at `Global`. -/
def canDefineRole (actor : ScopedPermissionSet) (permissionSet : Finset Permission)
    (books : BookScope) : Bool :=
  decide (∀ permission ∈ permissionSet, hasPermission actor permission .global books = true)

/-- `can_assign_role`: every verb within the actor's authority at the scope. -/
def canAssignRole (actor : ScopedPermissionSet) (role : Role) (scope : Scope)
    (books : BookScope) : Bool :=
  role.permissions.all fun permission => hasPermission actor permission scope books

def canDelegate (actor : ScopedPermissionSet) (permission : Permission) (scope : Scope)
    (books : BookScope) : Bool :=
  !permission.isMeta && actor.hasViaRole permission scope books

inductive DelegationRefusal where
  | meta_ (permission : Permission)
  | notHeldViaRole (permission : Permission)
  | unknownRole (id : Uuid)
deriving DecidableEq

/-- `can_delegate_all`: the first verb that may not be delegated refuses them all. -/
def canDelegateAll (actor : ScopedPermissionSet) (permissions : List Permission) (scope : Scope)
    (books : BookScope) : Except DelegationRefusal Unit :=
  Outcome.checkAll (fun permission => do
    Outcome.rejectIf permission.isMeta (.meta_ permission)
    Outcome.rejectIf (!actor.hasViaRole permission scope books) (.notHeldViaRole permission))
    permissions

def canDelegateRole (actor : ScopedPermissionSet) (role : Role) (scope : Scope)
    (books : BookScope) : Except DelegationRefusal Unit :=
  canDelegateAll actor role.permissions scope books

def canDelegateRoles (actor : ScopedPermissionSet) (roles : List Uuid) (catalog : RoleCatalog)
    (scope : Scope) (books : BookScope) : Except DelegationRefusal Unit :=
  Outcome.checkAll (fun id =>
    match catalog.get id with
    | none => .error (.unknownRole id)
    | some role => canDelegateRole actor role scope books) roles

section Membership

variable {assignments : List RoleAssignment} {roles : RoleCatalog} {delegations : List Delegation}
  {principal : Uuid} {now : OffsetDateTime} {permission : Permission} {scope target : Scope}
  {books : BookScope} {actor effective : ScopedPermissionSet}

theorem mem_assignedGrants :
    (permission, scope) ∈ assignedGrants assignments roles ↔
      ∃ assignment ∈ assignments, assignment.scope = scope ∧
        ∃ role, roles.get assignment.roleId = some role ∧ permission ∈ role.permissionSet := by
  rw [assignedGrants, List.mem_flatMap]
  apply exists_congr
  intro assignment
  apply and_congr_right
  intro _
  cases roles.get assignment.roleId with
  | none => simp only [List.not_mem_nil, reduceCtorEq, false_and, exists_false, and_false]
  | some role =>
      simp only [List.mem_map, Role.mem_permissions, Prod.mk.injEq, Option.some.injEq,
        exists_eq_left']
      constructor
      · rintro ⟨_, member, rfl, same⟩
        exact ⟨same, member⟩
      · rintro ⟨same, member⟩
        exact ⟨permission, member, rfl, same⟩

theorem mem_conveyedGrants :
    (permission, scope) ∈ conveyedGrants principal roles delegations now ↔
      ∃ delegation ∈ delegations, delegation.to_ = principal ∧ delegation.isActive now = true ∧
        delegation.scope = scope ∧ permission ∈ delegation.grantedPermissions roles := by
  rw [conveyedGrants, List.mem_flatMap]
  apply exists_congr
  intro delegation
  apply and_congr_right
  intro _
  by_cases conveys : delegation.to_ = principal ∧ delegation.isActive now = true
  · rw [if_pos conveys, List.mem_map]
    constructor
    · rintro ⟨_, granted, same⟩
      obtain ⟨rfl, rfl⟩ := Prod.mk.inj same
      exact ⟨conveys.1, conveys.2, rfl, granted⟩
    · rintro ⟨-, -, rfl, granted⟩
      exact ⟨permission, granted, rfl⟩
  · rw [if_neg conveys]
    constructor
    · intro member
      cases member
    · rintro ⟨addressed, active, -⟩
      exact (conveys ⟨addressed, active⟩).elim

theorem hasViaRole_eq_true_iff :
    effective.hasViaRole permission target books = true ↔
      ∃ scope, (permission, scope) ∈ effective.roleGrants ∧
        scopeCovers scope target books = true := by
  rw [ScopedPermissionSet.hasViaRole, List.any_eq_true]
  simp only [Bool.and_eq_true, decide_eq_true_eq, Prod.exists]
  constructor
  · rintro ⟨_, scope, member, rfl, covers⟩
    exact ⟨scope, member, covers⟩
  · rintro ⟨scope, member, covers⟩
    exact ⟨permission, scope, member, rfl, covers⟩

theorem hasPermission_eq_true_iff :
    hasPermission effective permission target books = true ↔
      ∃ scope, (permission, scope) ∈ effective.allGrants ∧
        scopeCovers scope target books = true := by
  rw [hasPermission, List.any_eq_true]
  simp only [Bool.and_eq_true, decide_eq_true_eq, Prod.exists]
  constructor
  · rintro ⟨_, scope, member, rfl, covers⟩
    exact ⟨scope, member, covers⟩
  · rintro ⟨scope, member, covers⟩
    exact ⟨permission, scope, member, rfl, covers⟩

theorem canDefineRole_eq_true_iff {permissionSet : Finset Permission} :
    canDefineRole actor permissionSet books = true ↔
      ∀ permission ∈ permissionSet, hasPermission actor permission .global books = true := by
  rw [canDefineRole, decide_eq_true_eq]

theorem canAssignRole_eq_true_iff {role : Role} :
    canAssignRole actor role scope books = true ↔
      ∀ permission ∈ role.permissionSet, hasPermission actor permission scope books = true := by
  simp only [canAssignRole, List.all_eq_true, Role.mem_permissions]

theorem canDelegate_eq_true_iff :
    canDelegate actor permission scope books = true ↔
      permission.isMeta = false ∧ actor.hasViaRole permission scope books = true := by
  rw [canDelegate, Bool.and_eq_true, Bool.not_eq_true']

theorem canDelegateAll_eq_ok_iff {permissions : List Permission} :
    canDelegateAll actor permissions scope books = .ok ⟨⟩ ↔
      ∀ permission ∈ permissions, canDelegate actor permission scope books = true := by
  simp only [canDelegateAll, Outcome.checkAll_eq_ok_iff, Outcome.check_bind_eq_ok_iff,
    Outcome.rejectIf_eq_ok_iff, canDelegate_eq_true_iff, Bool.not_eq_true,
    Bool.not_eq_eq_eq_not, Bool.not_true, Bool.not_eq_false]

theorem canDelegateRoles_eq_ok_iff {ids : List Uuid} :
    canDelegateRoles actor ids roles scope books = .ok ⟨⟩ ↔
      ∀ id ∈ ids, ∃ role, roles.get id = some role ∧
        ∀ permission ∈ role.permissionSet, canDelegate actor permission scope books = true := by
  rw [canDelegateRoles, Outcome.checkAll_eq_ok_iff]
  apply forall₂_congr
  intro id _
  cases roles.get id with
  | none => simp only [reduceCtorEq, false_and, exists_false]
  | some role =>
      simp only [canDelegateRole, canDelegateAll_eq_ok_iff, Role.mem_permissions,
        Option.some.injEq, exists_eq_left']

end Membership

end Chancela
