import Chancela.Api.Authority
import Chancela.Foundation.Run
import Chancela.Foundation.Text

/-! # Role and delegation endpoints

The requests that change who holds what: roles are created, edited and deleted, assigned
and unassigned, and delegations granted, revoked, suspended and resumed. A refused
request changes nothing; `Chancela.AppState.effect_of_perform` lists what an accepted one
can write, with the checks that stood before it.
-/

namespace Chancela

open Outcome

inductive ApiError where
  | notFound
  | forbidden (message : String)
  | conflict (message : String)
  | unprocessable (message : String)
deriving DecidableEq

def forbidden : ApiError := .forbidden "sem permissão para esta operação neste âmbito"

/-- `OffsetDateTime::parse(_, &Rfc3339)`. -/
class TimeParse where
  parseRfc3339 : String → Option OffsetDateTime

namespace Reference

/-- Reads no timestamp: enough for requests that carry none. -/
scoped instance timeParse : TimeParse := ⟨fun _ => none⟩

end Reference

/-- Who asks, when the clock is read, and the parent relations at that moment. -/
structure Session where
  user : Uuid
  now : OffsetDateTime
  relations : ScopeRelations

/-- A resolved principal with its authority and the relation it is judged by. -/
structure Authorizer where
  principal : Uuid
  eff : ScopedPermissionSet
  relations : ScopeRelations

namespace Authorizer

variable (authz : Authorizer)

def permits (permission : Permission) (scope : Scope) : Bool :=
  hasPermission authz.eff permission scope authz.relations.bookScope

def require (permission : Permission) (scope : Scope) : Except ApiError Unit :=
  rejectIf (!authz.permits permission scope) forbidden

def canDefineRole (permissionSet : Finset Permission) : Bool :=
  Chancela.canDefineRole authz.eff permissionSet authz.relations.bookScope

def canAssignRole (role : Role) (scope : Scope) : Bool :=
  Chancela.canAssignRole authz.eff role scope authz.relations.bookScope

def canDelegateRoles (roles : List Uuid) (catalog : RoleCatalog) (scope : Scope) :
    Except DelegationRefusal Unit :=
  Chancela.canDelegateRoles authz.eff roles catalog scope authz.relations.bookScope

end Authorizer

def validateRoleName (raw : String) : Except ApiError String := do
  let name := Text.trim raw
  rejectIf (name = "") (.unprocessable "role name must not be empty")
  rejectIf (name.length > 64) (.unprocessable "role name must be at most 64 characters")
  return name

def refuseSignupDefaultRoleEdit [Crates] (configured : Uuid) (resulting : Role) :
    Except ApiError Unit :=
  if resulting.id ≠ configured then .ok ()
  else
    match resulting.signupDefaultRefusal with
    | none => .ok ()
    | some refusal => .error (.unprocessable (debugStr resulting.name ++
        " is the configured auth.signup.default_role, so this edit would hand every " ++
        "self-signed-up account authority it must never have: " ++ refusal.display ++
        ". Point auth.signup.default_role at another role first, then edit this one"))

def requestedRoles (roles : List Uuid) : Except ApiError (List Uuid) :=
  let requested := roles.foldl pushDistinct []
  if requested = [] then
    .error (.unprocessable "uma delegação tem de indicar pelo menos uma função")
  else .ok requested

/-- `refusal`: the text of a refused delegation. -/
def DelegationRefusal.toApiError (refusal : DelegationRefusal) : ApiError :=
  let detail := match refusal with
    | .meta_ permission => "a função contém «" ++ permission.asStr ++
        "», que é uma meta-permissão e não é delegável"
    | .notHeldViaRole permission => "a função contém «" ++ permission.asStr ++
        "», que não detém através de uma função neste âmbito, logo não a pode delegar"
    | .unknownRole id => "a função «" ++ id.display ++ "» não existe no catálogo"
  .forbidden ("delegação recusada na íntegra: " ++ detail)

def parseOptionalRfc3339 [TimeParse] (value : Option String) (field : String) :
    Except ApiError (Option OffsetDateTime) :=
  match value with
  | none => .ok none
  | some text =>
      match TimeParse.parseRfc3339 text with
      | some instant => .ok (some instant)
      | none => .error (.unprocessable (field ++ " must be an RFC 3339 timestamp"))

def normalizeGrantLegalBasis (value : Option String) : Except ApiError String :=
  match value with
  | none => .error (.unprocessable "legal_basis is required for new delegations")
  | some raw => do
      let trimmed := Text.trim raw
      rejectIf (trimmed = "") (.unprocessable "legal_basis must not be empty")
      rejectIf (trimmed.length > 1024)
        (.unprocessable "legal_basis must be at most 1024 characters")
      return trimmed

structure CreateRole where
  name : String
  permissions : List Permission

structure PatchRole where
  name : Option String
  permissions : Option (List Permission)

structure GrantDelegation where
  to_ : Uuid
  roles : List Uuid
  permission : Option Permission
  permissions : List Permission
  scope : Scope
  startsAt : Option String
  expiresAt : Option String
  legalBasis : Option String

/-- The value, or the error of an absent one: `ok_or(ApiError::NotFound)`. -/
def okOrNotFound {α : Type} : Option α → Except ApiError α
  | none => .error .notFound
  | some value => .ok value

/-- Lift a refused delegation to the response it becomes. -/
def refusedAsForbidden : Except DelegationRefusal Unit → Except ApiError Unit
  | .error refusal => .error refusal.toApiError
  | .ok _ => .ok ()

namespace AppState

variable (state : AppState) (session : Session)

/-- `authorizer`, for a session that names a user. -/
def authorizer : Except ApiError Authorizer :=
  match state.users.get session.user with
  | some user =>
      if user.active then
        .ok ⟨user.id, state.effectivePermissionsFor user.id session.now session.relations,
          session.relations⟩
      else .error (.forbidden "sessão sem utilizador ativo")
  | none => .error (.forbidden "sessão sem utilizador ativo")

/-- `create_role`, with the identifier it draws. -/
def createRole (request : CreateRole) (id : Uuid) : Except ApiError AppState := do
  let name ← validateRoleName request.name
  let permissionSet := request.permissions.toFinset
  let authz ← state.authorizer session
  authz.require .roleManage .global
  rejectIf (!authz.canDefineRole permissionSet) forbidden
  return { state with roles := state.roles.insert ⟨id, name, permissionSet, false⟩ }

def patchedName (existing : Role) : Option String → Except ApiError String
  | some name => validateRoleName name
  | none => .ok existing.name

def patchRole [Crates] (id : Uuid) (request : PatchRole) : Except ApiError AppState := do
  let authz ← state.authorizer session
  authz.require .roleManage .global
  let existing ← okOrNotFound (state.roles.get id)
  rejectIf existing.protected_ forbidden
  let newName ← patchedName existing request.name
  let newPerms := match request.permissions with
    | some permissions => permissions.toFinset
    | none => existing.permissionSet
  rejectIf (!authz.canDefineRole newPerms) forbidden
  let updated : Role := ⟨id, newName, newPerms, false⟩
  refuseSignupDefaultRoleEdit state.signupDefaultRole updated
  return { state with roles := state.roles.insert updated }

def deleteRole (id : Uuid) : Except ApiError AppState := do
  let authz ← state.authorizer session
  authz.require .roleManage .global
  let target ← okOrNotFound (state.roles.get id)
  rejectIf (!target.canBeDeleted) forbidden
  return { state with roles := RoleCatalog.without state.roles id }

def assignRole (user roleId : Uuid) (scope : Scope) : Except ApiError AppState := do
  let authz ← state.authorizer session
  authz.require .roleAssign scope
  let role ← okOrNotFound (state.roles.get roleId)
  rejectIf (!authz.canAssignRole role scope) forbidden
  let target ← okOrNotFound (state.users.get user)
  let changed : User :=
    { target with roleAssignments := pushDistinct target.roleAssignments ⟨roleId, scope⟩ }
  return { state with users := state.users.insert changed }

/-- `count_owner_admin_holders` over the active users. -/
def countOwnerAdminHolders : Nat :=
  let assigned := (state.users.values.filter User.active).flatMap fun user =>
    user.roleAssignments.map (user.id, ·)
  ((assigned.filter fun pair => pair.2.isOwnerAdmin).map Prod.fst).dedup.length

/-- `unassign_role`; the last active Owner keeps its assignment. -/
def unassignRole (user roleId : Uuid) (scope : Scope) : Except ApiError AppState := do
  let authz ← state.authorizer session
  authz.require .roleAssign scope
  let assignment : RoleAssignment := ⟨roleId, scope⟩
  let target ← okOrNotFound (state.users.get user)
  rejectIf (assignment ∈ target.roleAssignments ∧ assignment.isOwnerAdmin ∧
    ¬state.countOwnerAdminHolders > 1) (.conflict "não pode remover o último Proprietário")
  let changed : User :=
    { target with roleAssignments := target.roleAssignments.filter (· ≠ assignment) }
  return { state with users := state.users.insert changed }

/-- `grant_delegation`, with the identifier it draws and the time it reads for the
grant. -/
def grantDelegation [Crates] [TimeParse] (request : GrantDelegation) (id : Uuid)
    (grantedAtTime : OffsetDateTime) : Except ApiError AppState := do
  rejectIf (request.permission.isSome ∨ request.permissions ≠ [])
    (.unprocessable ("uma delegação atribui uma função, não permissões avulsas: indique " ++
      "«roles» com os identificadores das funções a delegar"))
  let requested ← requestedRoles request.roles
  let authz ← state.authorizer session
  authz.require .delegationGrant request.scope
  refusedAsForbidden (authz.canDelegateRoles requested state.roles request.scope)
  rejectIf ((state.users.get request.to_).isNone) .notFound
  let legalBasis ← normalizeGrantLegalBasis request.legalBasis
  let startsAt ← parseOptionalRfc3339 request.startsAt "starts_at"
  let expiresAt ← parseOptionalRfc3339 request.expiresAt "expires_at"
  match Delegation.withRoles authz.principal request.to_ requested request.scope with
  | none => .error (.unprocessable "uma delegação tem de indicar pelo menos uma função")
  | some inner =>
      let stored : StoredDelegation :=
        { id, grantedAt := (formatRfc3339 grantedAtTime).getD "", revokedAt := none,
          revokedBy := none, inner := { inner with
            startsAt := startsAt.getD grantedAtTime, expiresAt, legalBasis := some legalBasis } }
      return { state with delegations := state.delegations.insert stored }

/-- The grantor may withdraw its own delegation; anyone else needs `delegation.revoke` at
its scope. -/
def mayWithdraw (authz : Authorizer) (existing : StoredDelegation) : Except ApiError Unit :=
  if existing.inner.from_ ≠ authz.principal then
    authz.require .delegationRevoke existing.inner.scope
  else .ok ()

/-- `revoke_delegation`, with the time it reads for the revocation. -/
def revokeDelegation [Crates] (id : Uuid) (revokedAtTime : OffsetDateTime) :
    Except ApiError AppState := do
  let authz ← state.authorizer session
  let existing ← okOrNotFound (state.delegations.get id)
  mayWithdraw authz existing
  if existing.inner.revoked then return state
  let updated : StoredDelegation :=
    { existing with
      inner := { existing.inner with revoked := true }
      revokedAt := some ((formatRfc3339 revokedAtTime).getD "")
      revokedBy := some authz.principal }
  return { state with delegations := state.delegations.insert updated }

def setSuspended (id : Uuid) (suspended : Bool) : Except ApiError AppState := do
  let authz ← state.authorizer session
  let existing ← okOrNotFound (state.delegations.get id)
  mayWithdraw authz existing
  rejectIf existing.inner.revoked
    (.unprocessable "uma delegação revogada não pode ser suspensa nem retomada")
  if existing.inner.suspended = suspended then return state
  let updated : StoredDelegation := { existing with inner := { existing.inner with suspended } }
  return { state with delegations := state.delegations.insert updated }

def suspendDelegation (id : Uuid) : Except ApiError AppState := state.setSuspended session id true

def resumeDelegation (id : Uuid) : Except ApiError AppState := state.setSuspended session id false

end AppState

/-- A request, with what its handler draws and reads. -/
inductive Request where
  | createRole (request : CreateRole) (id : Uuid)
  | patchRole (id : Uuid) (request : PatchRole)
  | deleteRole (id : Uuid)
  | assignRole (user roleId : Uuid) (scope : Scope)
  | unassignRole (user roleId : Uuid) (scope : Scope)
  | grantDelegation (request : GrantDelegation) (id : Uuid) (grantedAtTime : OffsetDateTime)
  | revokeDelegation (id : Uuid) (revokedAtTime : OffsetDateTime)
  | suspendDelegation (id : Uuid)
  | resumeDelegation (id : Uuid)

namespace AppState

variable [Crates] [TimeParse]

def perform (state : AppState) (session : Session) : Request → Except ApiError AppState
  | .createRole request id => state.createRole session request id
  | .patchRole id request => state.patchRole session id request
  | .deleteRole id => state.deleteRole session id
  | .assignRole user roleId scope => state.assignRole session user roleId scope
  | .unassignRole user roleId scope => state.unassignRole session user roleId scope
  | .grantDelegation request id grantedAtTime =>
      state.grantDelegation session request id grantedAtTime
  | .revokeDelegation id revokedAtTime => state.revokeDelegation session id revokedAtTime
  | .suspendDelegation id => state.suspendDelegation session id
  | .resumeDelegation id => state.resumeDelegation session id

/-- The state after a request; a refused one leaves the state alone. -/
def afterRequest (state : AppState) (session : Session) (request : Request) : AppState :=
  match state.perform session request with
  | .ok later => later
  | .error _ => state

/-- The session's user is active and its authority covers the verb at the scope. -/
def Permits (state : AppState) (session : Session) (permission : Permission) (scope : Scope) :
    Prop :=
  (∃ user, state.users.get session.user = some user ∧ user.active = true) ∧
    hasPermission (state.effectivePermissionsFor session.user session.now session.relations)
      permission scope session.relations.bookScope = true

end AppState

/-- The identifier and the verbs a request asks to put under it. An edit that leaves the
verbs alone asks for none. -/
def Request.authored : Request → Option (Uuid × Finset Permission)
  | .createRole request id => some (id, request.permissions.toFinset)
  | .patchRole id request => request.permissions.map fun permissions => (id, permissions.toFinset)
  | _ => none

namespace AppState

/-- What an accepted request may write, and what was checked for it. -/
inductive Effect (state : AppState) (session : Session) (request : Request) : AppState → Prop
  /-- A role is created or edited. -/
  | author (role : Role)
      (allowed : ∀ permission ∈ role.permissionSet, state.Permits session permission .global)
      (written : request.authored = some (role.id, role.permissionSet) ∨
        ∃ existing, state.roles.get role.id = some existing ∧
          existing.permissionSet = role.permissionSet) :
      Effect state session request { state with roles := state.roles.insert role }
  /-- A role is deleted. -/
  | erase (id : Uuid) :
      Effect state session request { state with roles := RoleCatalog.without state.roles id }
  /-- A known role is assigned at a scope. -/
  | assign (target : User) (role : Role) (scope : Scope)
      (found : state.users.get target.id = some target)
      (known : state.roles.get role.id = some role)
      (allowed : ∀ permission ∈ role.permissionSet, state.Permits session permission scope) :
      Effect state session request { state with users := state.users.insert { target with
        roleAssignments := pushDistinct target.roleAssignments ⟨role.id, scope⟩ } }
  /-- A user keeps some of its assignments. -/
  | unassign (target : User) (found : state.users.get target.id = some target)
      (kept : List RoleAssignment) (fewer : kept ⊆ target.roleAssignments) :
      Effect state session request
        { state with users := state.users.insert { target with roleAssignments := kept } }
  /-- A delegation of known roles without a meta verb is stored. -/
  | grant (stored : StoredDelegation) (unshaped : stored.inner.permissions = [])
      (delegable : ∀ id ∈ stored.inner.roles, ∃ role, state.roles.get id = some role ∧
        ∀ permission ∈ role.permissionSet, permission.isMeta = false) :
      Effect state session request
        { state with delegations := state.delegations.insert stored }
  /-- A stored delegation is revoked, suspended or resumed. -/
  | mark (existing stored : StoredDelegation)
      (found : state.delegations.get existing.id = some existing)
      (verbs : ∀ catalog,
        stored.inner.grantedPermissions catalog = existing.inner.grantedPermissions catalog)
      (revoked : stored.inner.revoked = false → existing.inner.revoked = false) :
      Effect state session request
        { state with delegations := state.delegations.insert stored }
  /-- The request asked for what was already so. -/
  | unchanged : Effect state session request state

variable {state later : AppState} {session : Session} {request : Request} {authz : Authorizer}

theorem authorizer_eq_ok_iff :
    state.authorizer session = .ok authz ↔
      (∃ user, state.users.get session.user = some user ∧ user.active = true) ∧
        ⟨session.user, state.effectivePermissionsFor session.user session.now session.relations,
          session.relations⟩ = authz := by
  rw [authorizer]
  cases found : state.users.get session.user with
  | none => simp only [reduceCtorEq, false_and, exists_false]
  | some user =>
      rw [← Table.key_of_get found]
      by_cases active : user.active = true
      · simp only
        [active, ↓reduceIte, Except.ok.injEq, Option.some.injEq, exists_eq_left', true_and]
      · simp only [active, ↓reduceIte, reduceCtorEq, Option.some.injEq, exists_eq_left',
          Bool.false_eq_true, false_and]

theorem permits_of_authorizer (resolved : state.authorizer session = .ok authz)
    {permission : Permission} {scope : Scope} (permitted :
      hasPermission authz.eff permission scope authz.relations.bookScope = true) :
    state.Permits session permission scope := by
  obtain ⟨active, rfl⟩ := authorizer_eq_ok_iff.mp resolved
  exact ⟨active, permitted⟩

theorem okOrNotFound_eq_ok_iff {α : Type} {value : Option α} {result : α} :
    okOrNotFound value = .ok result ↔ value = some result := by
  cases value with
  | none => simp only [okOrNotFound, reduceCtorEq]
  | some value => simp only [okOrNotFound, Except.ok.injEq, Option.some.injEq]

theorem permits_of_canDefineRole (resolved : state.authorizer session = .ok authz)
    {permissionSet : Finset Permission}
    (definable : rejectIf (!authz.canDefineRole permissionSet) forbidden = .ok ⟨⟩) :
    ∀ permission ∈ permissionSet, state.Permits session permission .global := by
  intro permission member
  rw [rejectIf_eq_ok_iff, Bool.not_eq_true', Bool.not_eq_false] at definable
  exact permits_of_authorizer resolved (canDefineRole_eq_true_iff.mp definable permission member)

theorem effect_of_createRole {body : CreateRole} {id : Uuid}
    (accepted : state.createRole session body id = .ok later) :
    state.Effect session (.createRole body id) later := by
  rw [createRole] at accepted
  obtain ⟨name, -, rest⟩ := bind_eq_ok_iff.mp accepted
  obtain ⟨authz, resolved, rest⟩ := bind_eq_ok_iff.mp rest
  obtain ⟨-, rest⟩ := check_bind_eq_ok_iff.mp rest
  obtain ⟨definable, written⟩ := check_bind_eq_ok_iff.mp rest
  obtain rfl := Except.ok.inj written
  exact .author ⟨id, name, _, false⟩ (permits_of_canDefineRole resolved definable) (.inl rfl)

theorem effect_of_patchRole [Crates] {body : PatchRole} {id : Uuid}
    (accepted : state.patchRole session id body = .ok later) :
    state.Effect session (.patchRole id body) later := by
  rw [patchRole] at accepted
  obtain ⟨authz, resolved, rest⟩ := bind_eq_ok_iff.mp accepted
  obtain ⟨-, rest⟩ := check_bind_eq_ok_iff.mp rest
  obtain ⟨existing, found, rest⟩ := bind_eq_ok_iff.mp rest
  obtain ⟨-, rest⟩ := check_bind_eq_ok_iff.mp rest
  obtain ⟨name, -, rest⟩ := bind_eq_ok_iff.mp rest
  obtain ⟨definable, rest⟩ := check_bind_eq_ok_iff.mp rest
  obtain ⟨-, written⟩ := check_bind_eq_ok_iff.mp rest
  obtain rfl := Except.ok.inj written
  refine .author ⟨id, name, _, false⟩ (permits_of_canDefineRole resolved definable) ?_
  cases asked : body.permissions with
  | some permissions => exact .inl (by simp only [Request.authored, asked, Option.map_some])
  | none => exact .inr ⟨existing, okOrNotFound_eq_ok_iff.mp found, rfl⟩

theorem effect_of_deleteRole {id : Uuid} (accepted : state.deleteRole session id = .ok later) :
    state.Effect session (.deleteRole id) later := by
  rw [deleteRole] at accepted
  obtain ⟨authz, -, rest⟩ := bind_eq_ok_iff.mp accepted
  obtain ⟨-, rest⟩ := check_bind_eq_ok_iff.mp rest
  obtain ⟨target, -, rest⟩ := bind_eq_ok_iff.mp rest
  obtain ⟨-, written⟩ := check_bind_eq_ok_iff.mp rest
  obtain rfl := Except.ok.inj written
  exact .erase id

theorem effect_of_assignRole {user roleId : Uuid} {scope : Scope}
    (accepted : state.assignRole session user roleId scope = .ok later) :
    state.Effect session (.assignRole user roleId scope) later := by
  rw [assignRole] at accepted
  obtain ⟨authz, resolved, rest⟩ := bind_eq_ok_iff.mp accepted
  obtain ⟨-, rest⟩ := check_bind_eq_ok_iff.mp rest
  obtain ⟨role, known, rest⟩ := bind_eq_ok_iff.mp rest
  obtain ⟨assignable, rest⟩ := check_bind_eq_ok_iff.mp rest
  obtain ⟨target, found, written⟩ := bind_eq_ok_iff.mp rest
  obtain rfl := Except.ok.inj written
  rw [okOrNotFound_eq_ok_iff] at known found
  rw [rejectIf_eq_ok_iff, Bool.not_eq_true', Bool.not_eq_false] at assignable
  obtain rfl : role.id = roleId := Table.key_of_get known
  obtain rfl : target.id = user := Table.key_of_get found
  refine .assign target role scope found known ?_
  intro permission member
  exact permits_of_authorizer resolved (canAssignRole_eq_true_iff.mp assignable permission member)

theorem effect_of_unassignRole {user roleId : Uuid} {scope : Scope}
    (accepted : state.unassignRole session user roleId scope = .ok later) :
    state.Effect session (.unassignRole user roleId scope) later := by
  rw [unassignRole] at accepted
  obtain ⟨authz, -, rest⟩ := bind_eq_ok_iff.mp accepted
  obtain ⟨-, rest⟩ := check_bind_eq_ok_iff.mp rest
  obtain ⟨target, found, rest⟩ := bind_eq_ok_iff.mp rest
  obtain ⟨-, written⟩ := check_bind_eq_ok_iff.mp rest
  obtain rfl := Except.ok.inj written
  rw [okOrNotFound_eq_ok_iff] at found
  obtain rfl : target.id = user := Table.key_of_get found
  exact .unassign target found _ (List.filter_subset_self _)

theorem effect_of_grantDelegation [Crates] [TimeParse] {body : GrantDelegation} {id : Uuid}
    {grantedAtTime : OffsetDateTime}
    (accepted : state.grantDelegation session body id grantedAtTime = .ok later) :
    state.Effect session (.grantDelegation body id grantedAtTime) later := by
  rw [grantDelegation] at accepted
  obtain ⟨-, rest⟩ := check_bind_eq_ok_iff.mp accepted
  obtain ⟨requested, -, rest⟩ := bind_eq_ok_iff.mp rest
  obtain ⟨authz, -, rest⟩ := bind_eq_ok_iff.mp rest
  obtain ⟨-, rest⟩ := check_bind_eq_ok_iff.mp rest
  obtain ⟨delegable, rest⟩ := check_bind_eq_ok_iff.mp rest
  obtain ⟨-, rest⟩ := check_bind_eq_ok_iff.mp rest
  obtain ⟨legalBasis, -, rest⟩ := bind_eq_ok_iff.mp rest
  obtain ⟨startsAt, -, rest⟩ := bind_eq_ok_iff.mp rest
  obtain ⟨expiresAt, -, rest⟩ := bind_eq_ok_iff.mp rest
  split at rest
  case h_1 => cases rest
  case h_2 inner built =>
    obtain rfl := Except.ok.inj rest
    obtain ⟨-, rfl⟩ := Delegation.withRoles_eq_some_iff.mp built
    refine .grant _ rfl ?_
    intro id named
    have listed : id ∈ requested := (mem_foldl_pushDistinct.mp named).resolve_left (by simp)
    have checked : authz.canDelegateRoles requested state.roles body.scope = .ok ⟨⟩ := by
      cases outcome : authz.canDelegateRoles requested state.roles body.scope with
      | error refusal => rw [outcome] at delegable; cases delegable
      | ok => rfl
    obtain ⟨role, known, verbs⟩ := canDelegateRoles_eq_ok_iff.mp checked id listed
    refine ⟨role, known, fun permission member => ?_⟩
    exact (canDelegate_eq_true_iff.mp (verbs permission member)).1

theorem effect_of_revokeDelegation [Crates] {id : Uuid} {revokedAtTime : OffsetDateTime}
    (accepted : state.revokeDelegation session id revokedAtTime = .ok later) :
    state.Effect session (.revokeDelegation id revokedAtTime) later := by
  rw [revokeDelegation] at accepted
  obtain ⟨authz, -, rest⟩ := bind_eq_ok_iff.mp accepted
  obtain ⟨existing, found, rest⟩ := bind_eq_ok_iff.mp rest
  obtain ⟨-, rest⟩ := check_bind_eq_ok_iff.mp rest
  rw [okOrNotFound_eq_ok_iff] at found
  split at rest
  · obtain rfl := Except.ok.inj rest
    exact .unchanged
  · obtain rfl := Except.ok.inj rest
    refine .mark existing _ (Table.key_of_get found ▸ found) (fun _ => rfl) ?_
    intro kept
    cases kept

theorem effect_of_setSuspended {id : Uuid} {suspended : Bool}
    (accepted : state.setSuspended session id suspended = .ok later) :
    state.Effect session request later := by
  rw [setSuspended] at accepted
  obtain ⟨authz, -, rest⟩ := bind_eq_ok_iff.mp accepted
  obtain ⟨existing, found, rest⟩ := bind_eq_ok_iff.mp rest
  obtain ⟨-, rest⟩ := check_bind_eq_ok_iff.mp rest
  obtain ⟨-, rest⟩ := check_bind_eq_ok_iff.mp rest
  rw [okOrNotFound_eq_ok_iff] at found
  split at rest
  · obtain rfl := Except.ok.inj rest
    exact .unchanged
  · obtain rfl := Except.ok.inj rest
    exact .mark existing _ (Table.key_of_get found ▸ found) (fun _ => rfl) fun kept => kept

/-- **What an accepted request writes.** -/
theorem effect_of_perform [Crates] [TimeParse]
    (accepted : state.perform session request = .ok later) :
    state.Effect session request later := by
  cases request with
  | createRole body id => exact effect_of_createRole accepted
  | patchRole id body => exact effect_of_patchRole accepted
  | deleteRole id => exact effect_of_deleteRole accepted
  | assignRole user roleId scope => exact effect_of_assignRole accepted
  | unassignRole user roleId scope => exact effect_of_unassignRole accepted
  | grantDelegation body id grantedAtTime => exact effect_of_grantDelegation accepted
  | revokeDelegation id revokedAtTime => exact effect_of_revokeDelegation accepted
  | suspendDelegation id => exact effect_of_setSuspended accepted
  | resumeDelegation id => exact effect_of_setSuspended accepted

theorem effect_afterRequest [Crates] [TimeParse] (state : AppState) (session : Session)
    (request : Request) : state.Effect session request (state.afterRequest session request) := by
  rw [afterRequest]
  split
  case h_1 later accepted => exact effect_of_perform accepted
  case h_2 => exact .unchanged

end AppState

end Chancela
