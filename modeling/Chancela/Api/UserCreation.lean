import Chancela.Api.Endpoints

/-! # Creating users

`POST /v1/users` in its sections: whether this is the first run, the authority of the
creator, the checks of the request's own fields, the authority once more, and the insertion
under the write lock. Where a role is named, the creator's authority is checked to contain
it; the default assignment is not compared with anything, so it stays within the creator
exactly when the creator could have assigned it
(`Chancela.UserDirectory.Creates.within_iff`).
-/

namespace Chancela

open Outcome

def companyOwnerRoleId : Uuid := ⟨0x636f6f776e720000_000000000000000a⟩

/-- `POST /v1/users` body. -/
structure CreateUser where
  username : String
  displayName : Option String
  email : Option String
  password : String
  role : Option RoleAssignment
  sendWelcomeEmail : Bool
  language : String

/-- What a user record holds besides what the authorization layer reads. -/
structure Profile where
  username : String
  displayName : String
  email : Option String
  createdAt : String
  passwordHash : String
  attestationKey : String
  forcePasswordChange : Bool
  language : String
deriving DecidableEq

/-- How a request to create a user is refused. -/
inductive UserApiError where
  | unauthorized (message : String)
  | refused (fault : ApiError)
  | internal
deriving DecidableEq

/-- What is done with the fields of a request that reads nothing of the users: the address,
the password and its policy are checked, and the credentials are prepared. -/
class UserChecks where
  /-- `normalize_optional_email`. -/
  normalizeOptionalEmail : Option String → Except ApiError (Option String)
  /-- `validate_secret`, then `password_policy::enforce` against the user's name. -/
  checkPassword : String → String → Except ApiError Unit

/-- Where the directory of users is kept: in rows of a database, in memory alone, or in
`users.json`, which is there or not. -/
inductive UsersFile where
  | sidecarsDbBacked
  | ephemeral
  | dataDir (exists_ : Bool)
deriving DecidableEq

/-- The users with all their fields. -/
structure UserDirectory where
  state : AppState
  profile : Uuid → Profile
  usersFile : UsersFile

def eqIgnoreAsciiCase (first second : String) : Bool :=
  first.toList.map Char.toLower == second.toList.map Char.toLower

def validateUsername (raw : String) : Except ApiError String := do
  let name := Text.trim raw
  rejectIf (name = "") (.unprocessable "username must not be empty")
  rejectIf (Text.byteLen name > 64) (.unprocessable "username must be at most 64 characters")
  rejectIf (name.toList.all (fun c =>
      c.isLower || c.isDigit || c == '.' || c == '_' || c == '-') = false)
    (.unprocessable "username must be a lowercase slug of a-z, 0-9, '.', '_' or '-'")
  return name

def bootstrapAssignment (bootstrap : Bool) : RoleAssignment :=
  if bootstrap then ⟨ownerRoleId, .global⟩ else ⟨companyOwnerRoleId, .global⟩

/-- Who a request was found to come from: the name of its session, and whether this is the
first run. -/
structure Admission where
  sessionUsername : Option String
  isBootstrap : Bool
deriving DecidableEq

/-- The fields of a request that passed the checks, with the credentials prepared for it. -/
structure Prepared where
  username : String
  displayName : String
  email : Option String
  passwordHash : String
  attestationKey : String

/-- A user as inserted: whether it was inserted as the first of all. -/
structure Inserted where
  user : User
  bootstrap : Bool
deriving DecidableEq

/-- What the handler finds and draws outside the users: what the session resolves to at each
of the two lookups, the clock and the parent relations, the credentials, the new identifier,
the text of the time, and how the write of the directory ends. -/
structure CreationSurroundings where
  resolved : Except UserApiError (Option String)
  resolvedAgain : Except UserApiError (Option String)
  now : OffsetDateTime
  relations : ScopeRelations
  credentials : Except ApiError (String × String)
  newId : Uuid
  createdAt : String
  persisted : Bool

namespace UserDirectory

variable (directory : UserDirectory)

def isUninitialisedInstance : Bool :=
  match directory.usersFile with
  | .sidecarsDbBacked | .ephemeral => true
  | .dataDir exists_ => !exists_

/-- `users.len() == 0`. -/
def noUsers : Bool := directory.state.users.values.isEmpty

/-- The lookup of the session behind a token, made only if there is one. -/
def sessionBehind (token : Option String) (resolved : Except UserApiError (Option String)) :
    Except UserApiError (Option String) :=
  match token with
  | some _ => resolved
  | none => .error (.unauthorized "sessão requerida")

/-- The first section of `create_user`, once the users were counted: the first run needs no
session. -/
def admitRequest (counted : Bool) (token : Option String)
    (resolved : Except UserApiError (Option String)) : Except UserApiError Admission :=
  if counted && directory.isUninitialisedInstance then .ok ⟨none, true⟩
  else (sessionBehind token resolved).map fun username => ⟨username, false⟩

/-- `resolve_principal_id` for a session: the active user of that name. -/
def principalOf (username : String) : Option Uuid :=
  (directory.state.users.values.find? fun user =>
    user.active && (directory.profile user.id).username = username).map User.id

/-- `authorizer` for the actor of a session. -/
def authorizer (sessionUsername : Option String) (now : OffsetDateTime)
    (relations : ScopeRelations) : Except UserApiError Authorizer :=
  match sessionUsername with
  | none => .error (.unauthorized "sessão requerida")
  | some username =>
      match directory.principalOf username with
      | none => .error (.refused (.forbidden "sessão sem utilizador ativo"))
      | some principal =>
          .ok ⟨principal, directory.state.effectivePermissionsFor principal now relations,
            relations⟩

/-- `authorize_user_creation` past the first run: `user.manage` at `Global`, and for a named
role the checks of its assignment. -/
def authorizeRole (authz : Authorizer) (requestedRole : Option RoleAssignment) :
    Except ApiError (Option RoleAssignment) := do
  authz.require .userManage .global
  match requestedRole with
  | none => return none
  | some assignment => do
      authz.require .roleAssign assignment.scope
      let role ← okOrNotFound (directory.state.roles.get assignment.roleId)
      rejectIf (!authz.canAssignRole role assignment.scope) forbidden
      return some assignment

def authorizeUserCreation (admission : Admission) (requestedRole : Option RoleAssignment)
    (now : OffsetDateTime) (relations : ScopeRelations) :
    Except UserApiError (Option RoleAssignment) :=
  if admission.isBootstrap then
    match requestedRole with
    | some _ => .error (.refused
        (.unprocessable "the first user is always Owner at global scope; omit `role`"))
    | none => .ok none
  else do
    let authz ← directory.authorizer admission.sessionUsername now relations
    (directory.authorizeRole authz requestedRole).mapError .refused

/-- The checks of the request's own fields, and the credentials. -/
def prepare [UserChecks] (request : CreateUser) (credentials : Except ApiError (String × String)) :
    Except ApiError Prepared := do
  let username ← validateUsername request.username
  let displayName :=
    ((request.displayName.map Text.trim).filter fun name => name ≠ "").getD username
  let email ← UserChecks.normalizeOptionalEmail request.email
  UserChecks.checkPassword request.password username
  let (passwordHash, attestationKey) ← credentials
  return ⟨username, displayName, email, passwordHash, attestationKey⟩

/-- The session of a request once more, after the credential work; the first run has none. -/
def admitAgain (admission : Admission) (token : Option String)
    (resolved : Except UserApiError (Option String)) : Except UserApiError Admission :=
  if admission.isBootstrap then .ok ⟨none, true⟩
  else (sessionBehind token resolved).map fun username => ⟨username, false⟩

def bootstrapStateForInsert (initialBootstrap hasAuthenticatedActor : Bool) :
    Except UserApiError Bool :=
  if directory.noUsers then .ok true
  else if initialBootstrap && !hasAuthenticatedActor then .error (.unauthorized "sessão requerida")
  else .ok false

def insertUser [Crates] (request : CreateUser) (admission : Admission) (prepared : Prepared)
    (assignment : Option RoleAssignment) (newId : Uuid) (createdAt : String) :
    Except UserApiError (UserDirectory × Inserted) := do
  rejectIf (directory.state.users.values.any (fun user =>
      eqIgnoreAsciiCase (directory.profile user.id).username prepared.username) = true)
    (.refused (.conflict ("a user named " ++ debugStr prepared.username ++ " already exists")))
  let bootstrap ← directory.bootstrapStateForInsert admission.isBootstrap
    admission.sessionUsername.isSome
  let user : User := ⟨newId, true, [assignment.getD (bootstrapAssignment bootstrap)]⟩
  let profile : Profile :=
    { username := prepared.username
      displayName := prepared.displayName
      email := prepared.email
      createdAt
      passwordHash := prepared.passwordHash
      attestationKey := prepared.attestationKey
      forcePasswordChange := request.sendWelcomeEmail && !admission.isBootstrap
      language := request.language }
  return ({ directory with
      state := { directory.state with users := directory.state.users.insert user }
      profile := Function.update directory.profile newId profile }, ⟨user, bootstrap⟩)

/-- `create_user` with nothing else going on, up to the insertion. -/
def createUser [Crates] [UserChecks] (request : CreateUser) (token : Option String)
    (around : CreationSurroundings) : Except UserApiError (UserDirectory × Inserted) := do
  let admission ← directory.admitRequest directory.noUsers token around.resolved
  let _ ← directory.authorizeUserCreation admission request.role around.now around.relations
  let prepared ← (prepare request around.credentials).mapError .refused
  let readmission ← admitAgain admission token around.resolvedAgain
  let assignment ←
    directory.authorizeUserCreation readmission request.role around.now around.relations
  directory.insertUser request readmission prepared assignment around.newId around.createdAt

variable {directory}

theorem eq_readmission {admission readmission : Admission} {token : Option String}
    {resolved : Except UserApiError (Option String)}
    (found : admitAgain admission token resolved = .ok readmission) :
    readmission.isBootstrap = admission.isBootstrap := by
  rw [admitAgain] at found
  split at found
  · rename_i first
    obtain rfl := Except.ok.inj found
    exact first.symm
  · rename_i later
    rw [Bool.not_eq_true] at later
    cases behind : sessionBehind token resolved with
    | error fault => rw [behind] at found; cases found
    | ok username =>
        rw [behind] at found
        obtain rfl := Except.ok.inj found
        exact later.symm

variable {assignment : Option RoleAssignment}

theorem exists_creator {admission : Admission} {role : Option RoleAssignment} {now : OffsetDateTime}
    {relations : ScopeRelations} (later : admission.isBootstrap = false)
    (authorized : directory.authorizeUserCreation admission role now relations = .ok assignment) :
    ∃ username creator, admission.sessionUsername = some username ∧
      directory.principalOf username = some creator ∧
      directory.authorizeRole ⟨creator,
        directory.state.effectivePermissionsFor creator now relations, relations⟩ role =
          .ok assignment := by
  unfold authorizeUserCreation at authorized
  rw [later, if_neg Bool.false_ne_true] at authorized
  obtain ⟨authz, resolved, lifted⟩ := bind_eq_ok_iff.mp authorized
  unfold authorizer at resolved
  split at resolved
  · cases resolved
  rename_i username named
  split at resolved
  · cases resolved
  rename_i creator found
  obtain rfl := Except.ok.inj resolved
  refine ⟨username, creator, named, found, ?_⟩
  cases outcome : directory.authorizeRole ⟨creator,
      directory.state.effectivePermissionsFor creator now relations, relations⟩ role with
  | error fault =>
      rw [outcome] at lifted
      cases lifted
  | ok value =>
      rw [outcome] at lifted
      exact congrArg _ (Except.ok.inj lifted)

theorem eq_of_authorizeRole {authz : Authorizer} {role : Option RoleAssignment}
    (authorized : directory.authorizeRole authz role = .ok assignment) :
    assignment = role ∧ ∀ named ∈ role, ∃ held,
      directory.state.roles.get named.roleId = some held ∧
        authz.canAssignRole held named.scope = true := by
  unfold authorizeRole at authorized
  obtain ⟨-, rest⟩ := check_bind_eq_ok_iff.mp authorized
  cases role with
  | none =>
      obtain rfl := Except.ok.inj rest
      exact ⟨rfl, fun _ member => nomatch member⟩
  | some named =>
      obtain ⟨-, rest⟩ := check_bind_eq_ok_iff.mp rest
      obtain ⟨held, known, rest⟩ := bind_eq_ok_iff.mp rest
      obtain ⟨assignable, written⟩ := check_bind_eq_ok_iff.mp rest
      obtain rfl := Except.ok.inj written
      rw [rejectIf_eq_ok_iff, Bool.not_eq_true', Bool.not_eq_false] at assignable
      refine ⟨rfl, fun other member => ?_⟩
      obtain rfl := Option.mem_some_iff.mp member
      refine ⟨held, ?_, assignable⟩
      cases found : directory.state.roles.get named.roleId with
      | none => rw [found] at known; cases known
      | some role =>
          rw [found] at known
          exact congrArg _ (Except.ok.inj known)

theorem insertUser_eq_ok [Crates] {request : CreateUser} {admission : Admission}
    {prepared : Prepared} {newId : Uuid} {createdAt : String} {later : UserDirectory}
    {inserted : Inserted}
    (accepted : directory.insertUser request admission prepared assignment newId createdAt =
      .ok (later, inserted)) :
    inserted.bootstrap = directory.noUsers ∧
      (directory.noUsers = false →
        (admission.isBootstrap && !admission.sessionUsername.isSome) = false) ∧
      inserted.user =
        ⟨newId, true, [assignment.getD (bootstrapAssignment directory.noUsers)]⟩ ∧
      later.state = { directory.state with users := directory.state.users.insert inserted.user } ∧
      later.usersFile = directory.usersFile := by
  obtain ⟨-, rest⟩ := check_bind_eq_ok_iff.mp accepted
  obtain ⟨bootstrap, decided, written⟩ := bind_eq_ok_iff.mp rest
  obtain ⟨rfl, rfl⟩ := Prod.mk.inj (Except.ok.inj written)
  have first : bootstrap = directory.noUsers ∧ (directory.noUsers = false →
      (admission.isBootstrap && !admission.sessionUsername.isSome) = false) := by
    rw [bootstrapStateForInsert] at decided
    split at decided
    · rename_i empty
      rw [empty]
      exact ⟨(Except.ok.inj decided).symm, fun occupied => nomatch occupied⟩
    · rename_i occupied
      split at decided
      · cases decided
      · rename_i fresh
        rw [Bool.not_eq_true] at occupied fresh
        rw [occupied]
        exact ⟨(Except.ok.inj decided).symm, fun _ => fresh⟩
  exact ⟨first.1, first.2, by rw [first.1], rfl, rfl⟩

theorem noUsers_of_insertUser [Crates] {request : CreateUser} {admission : Admission}
    {prepared : Prepared} {newId : Uuid} {createdAt : String} {made : UserDirectory × Inserted}
    (accepted : directory.insertUser request admission prepared assignment newId createdAt =
      .ok made) : made.1.noUsers = false := by
  obtain ⟨-, -, -, written, -⟩ := insertUser_eq_ok accepted
  have member : made.2.user ∈ made.1.state.users.values := by
    rw [written]
    exact Table.mem_values_of_get Table.get_insert_self
  rw [noUsers, List.isEmpty_eq_false_iff]
  exact List.ne_nil_of_mem member

/-- What a successful request did: who asked, with which checks, and what was inserted. -/
structure Creates [Crates] [UserChecks] (directory : UserDirectory) (request : CreateUser)
    (around : CreationSurroundings) (later : UserDirectory) (inserted : Inserted)
    (creator : Uuid) : Prop where
  checked : ∀ named ∈ request.role, ∃ held,
    directory.state.roles.get named.roleId = some held ∧
      canAssignRole (directory.state.effectivePermissionsFor creator around.now around.relations)
        held named.scope around.relations.bookScope = true
  user : inserted.user =
    ⟨around.newId, true, [request.role.getD (bootstrapAssignment false)]⟩
  written : later.state =
    { directory.state with users := directory.state.users.insert inserted.user }

theorem exists_creates [Crates] [UserChecks] {request : CreateUser} {token : Option String}
    {around : CreationSurroundings} {later : UserDirectory} {inserted : Inserted}
    (occupied : directory.noUsers = false)
    (accepted : directory.createUser request token around = .ok (later, inserted)) :
    ∃ username creator, around.resolvedAgain = .ok (some username) ∧
      directory.principalOf username = some creator ∧
      Creates directory request around later inserted creator := by
  obtain ⟨admission, admitted, rest⟩ := bind_eq_ok_iff.mp accepted
  obtain ⟨-, -, rest⟩ := bind_eq_ok_iff.mp rest
  obtain ⟨prepared, -, rest⟩ := bind_eq_ok_iff.mp rest
  obtain ⟨readmission, readmitted, rest⟩ := bind_eq_ok_iff.mp rest
  obtain ⟨assignment, authorized, accepted⟩ := bind_eq_ok_iff.mp rest
  have ordinary : admission.isBootstrap = false := by
    rw [admitRequest, occupied, Bool.false_and, if_neg Bool.false_ne_true] at admitted
    cases behind : sessionBehind token around.resolved with
    | error fault => rw [behind] at admitted; cases admitted
    | ok username =>
        rw [behind] at admitted
        obtain rfl := Except.ok.inj admitted
        rfl
  obtain ⟨username, creator, named, found, checks⟩ :=
    exists_creator ((eq_readmission readmitted).trans ordinary) authorized
  obtain ⟨rfl, checked⟩ := eq_of_authorizeRole checks
  obtain ⟨-, -, user, written, -⟩ := insertUser_eq_ok accepted
  rw [occupied] at user
  refine ⟨username, creator, ?_, found, checked, user, written⟩
  rw [admitAgain, ordinary, if_neg Bool.false_ne_true] at readmitted
  cases token with
  | none => cases readmitted
  | some text =>
      rw [sessionBehind] at readmitted
      cases resolved : around.resolvedAgain with
      | error fault => rw [resolved] at readmitted; cases readmitted
      | ok name =>
          rw [resolved] at readmitted
          obtain rfl := Except.ok.inj readmitted
          exact congrArg Except.ok named

theorem hasPermission_of_fresh {state : AppState} {user : User} {now : OffsetDateTime}
    {relations : ScopeRelations} {permission : Permission} {target : Scope}
    (active : user.active = true)
    (unaddressed : ∀ stored ∈ state.delegations.values, stored.inner.to_ ≠ user.id) :
    hasPermission
        (({ state with users := state.users.insert user } : AppState).effectivePermissionsFor
        user.id now relations) permission target relations.bookScope = true ↔
      ∃ assignment ∈ user.roleAssignments, ∃ role, state.roles.get assignment.roleId = some role ∧
        permission ∈ role.permissionSet ∧
        scopeCovers assignment.scope target relations.bookScope = true := by
  rw [hasPermission_eq_true_iff]
  constructor
  · rintro ⟨scope, granted, covers⟩
    rcases List.mem_append.mp granted with viaRole | delegated
    · obtain ⟨held, found, -, assigned⟩ := AppState.mem_roleGrants_iff.mp viaRole
      rw [Table.get_insert_self] at found
      obtain rfl := Option.some.inj found
      obtain ⟨assignment, member, rfl, role, known, holds⟩ := mem_assignedGrants.mp assigned
      exact ⟨assignment, member, role, known, holds, covers⟩
    · obtain ⟨-, stored, kept, addressed, -⟩ := AppState.mem_delegatedGrants_iff.mp delegated
      exact absurd addressed (unaddressed stored kept)
  · rintro ⟨assignment, member, role, known, holds, covers⟩
    refine ⟨assignment.scope, List.mem_append_left _ ?_, covers⟩
    apply AppState.mem_roleGrants_iff.mpr
    exact ⟨user, Table.get_insert_self, active,
      mem_assignedGrants.mpr ⟨assignment, member, rfl, role, known, holds⟩⟩

/-- An identifier nothing in the stores refers to, as a drawn one is. -/
structure Fresh (directory : UserDirectory) (id : Uuid) : Prop where
  unused : directory.state.users.get id = none
  unaddressed : ∀ stored ∈ directory.state.delegations.values, stored.inner.to_ ≠ id

def Within (before : AppState) (creator : Uuid) (after : AppState) (created : Uuid)
    (now : OffsetDateTime) (relations : ScopeRelations) : Prop :=
  ∀ permission target,
    hasPermission (after.effectivePermissionsFor created now relations) permission target
      relations.bookScope = true →
    hasPermission (before.effectivePermissionsFor creator now relations) permission target
      relations.bookScope = true

/-- The creator could itself have assigned the role a request without one is given. -/
def HoldsDefault (state : AppState) (creator : Uuid) (now : OffsetDateTime)
    (relations : ScopeRelations) : Prop :=
  ∀ role, state.roles.get companyOwnerRoleId = some role →
    canAssignRole (state.effectivePermissionsFor creator now relations) role .global
      relations.bookScope = true

/-- **What a created user conveys.** A named role was checked against the creator; the
default one is within the creator exactly where the check would have passed. -/
theorem Creates.within_iff [Crates] [UserChecks] {request : CreateUser}
    {around : CreationSurroundings} {later : UserDirectory} {inserted : Inserted} {creator : Uuid}
    (creates : Creates directory request around later inserted creator)
    (fresh : Fresh directory around.newId) :
    Within directory.state creator later.state inserted.user.id around.now around.relations ↔
      request.role.isSome = true ∨
        HoldsDefault directory.state creator around.now around.relations := by
  have id : inserted.user.id = around.newId := congrArg User.id creates.user
  have active : inserted.user.active = true := congrArg User.active creates.user
  have assigned : inserted.user.roleAssignments =
      [request.role.getD (bootstrapAssignment false)] :=
    congrArg User.roleAssignments creates.user
  have unaddressed : ∀ stored ∈ directory.state.delegations.values,
      stored.inner.to_ ≠ inserted.user.id := id ▸ fresh.unaddressed
  have holds : ∀ permission target,
      hasPermission (later.state.effectivePermissionsFor inserted.user.id around.now
        around.relations) permission target around.relations.bookScope = true ↔
      ∃ role, directory.state.roles.get
          (request.role.getD (bootstrapAssignment false)).roleId = some role ∧
        permission ∈ role.permissionSet ∧
        scopeCovers (request.role.getD (bootstrapAssignment false)).scope target
          around.relations.bookScope = true := by
    intro permission target
    rw [creates.written, hasPermission_of_fresh active unaddressed, assigned]
    simp only [List.mem_singleton, exists_eq_left]
  cases named : request.role with
  | some assignment =>
      rw [named] at holds
      refine ⟨fun _ => .inl rfl, fun _ permission target held => ?_⟩
      obtain ⟨role, known, inside, covers⟩ := (holds permission target).mp held
      obtain ⟨checkedRole, checkedKnown, assignable⟩ := creates.checked assignment named
      obtain rfl := Option.some.inj (known.symm.trans checkedKnown)
      exact hasPermission_of_covers around.relations.composes
        (canAssignRole_eq_true_iff.mp assignable permission inside) covers
  | none =>
      rw [named] at holds
      constructor
      · intro within
        refine .inr fun role known => canAssignRole_eq_true_iff.mpr fun permission inside => ?_
        apply within permission .global
        apply (holds permission .global).mpr
        exact ⟨role, known, inside, scopeCovers_global .global around.relations.bookScope⟩
      · rintro (absent | held) permission target granted
        · cases absent
        · obtain ⟨role, known, inside, covers⟩ := (holds permission target).mp granted
          exact hasPermission_of_covers around.relations.composes
            (canAssignRole_eq_true_iff.mp (held role known) permission inside) covers

end UserDirectory

end Chancela
