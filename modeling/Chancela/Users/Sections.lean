import Chancela.Api.UserCreation
import Chancela.Users.Credentials

/-! # Sections under the users lock

What the account endpoints do to the users while they hold the write lock. A section finds a
record, may refuse, and changes the record field by field; a refusal in the middle leaves the
fields changed so far as they are. Every section leaves the users alone or replaces one record
(`Chancela.LockedSection.run_cases`).
-/

namespace Chancela

/-- The users a section leaves, and the record it answers with. -/
abbrev SectionOutcome := UserMap × Except AccountError UserRecord

namespace UserMap

/-- The record under an identifier, put through a change that may be refused half-way. -/
def edit (users : UserMap) (target : Uuid)
    (change : UserRecord → UserRecord × Except AccountError Unit) : SectionOutcome :=
  match users.get target with
  | none => (users, .error .notFound)
  | some user =>
      match change user with
      | (changed, .ok ()) => (users.insert changed, .ok changed)
      | (changed, .error fault) => (users.insert changed, .error fault)

end UserMap

/-- The fields of a new account that passed the checks of `create_user`, with what was found
before the lock: who asks, and the role to be assigned. -/
structure NewUser where
  username : String
  displayName : String
  email : Option String
  passwordHash : SecretHash
  attestationKey : AttestationKeyBlob
  forcePasswordChange : Bool
  language : UserLanguage
  assignment : Option RoleAssignment
  isBootstrap : Bool
  hasAuthenticatedActor : Bool

/-- A section under the write lock, with the values its handler brings to it. -/
inductive LockedSection where
  | assignRole (target : Uuid) (assignment : RoleAssignment)
  | unassignRole (target : Uuid) (assignment : RoleAssignment)
  | patchUser (target : Uuid) (request : PatchUser)
  | patchMeProfile (me : Uuid) (request : PatchMyProfile)
  | suspendMe (me : Uuid)
  | createUser (fields : NewUser)
  | credential (target : Uuid) (change : CredentialChange)

/-- `assign_role` under the lock. -/
def assignRole (users : UserMap) (target : Uuid) (assignment : RoleAssignment) : SectionOutcome :=
  users.edit target fun user =>
    ({ user with roleAssignments := pushDistinct user.roleAssignments assignment }, .ok ())

/-- `unassign_role` under the lock; the last active Owner keeps its assignment. -/
def unassignRole (users : UserMap) (target : Uuid) (assignment : RoleAssignment) :
    SectionOutcome :=
  match users.get target with
  | none => (users, .error .notFound)
  | some user =>
      if assignment ∈ user.roleAssignments ∧ assignment.isOwnerAdmin = true ∧
          lastOwnerGuard users.countOwnerAdminHolders = false then
        (users, .error (.conflict "não pode remover o último Proprietário" none))
      else users.edit target fun user =>
        ({ user with roleAssignments := user.roleAssignments.filter (· ≠ assignment) }, .ok ())

/-- The refusal of `patch_user` to deactivate an account. -/
def DeactivationBlock.refusedPatch : DeactivationBlock → AccountError
  | .lastActiveUser => .conflict "não pode desativar o último utilizador ativo" none
  | .lastActiveOwner => .conflict "não pode desativar o último Proprietário" none

/-- The refusal of `suspend_me`. -/
def DeactivationBlock.refusedSuspension : DeactivationBlock → AccountError
  | .lastActiveUser =>
      .conflict ("não pode suspender a sua conta: é o único utilizador ativo desta instância, e "
        ++ "uma instância sem utilizadores ativos não permite iniciar sessão nem reativar a conta")
        (some "self_suspend_last_active_user")
  | .lastActiveOwner =>
      .conflict ("não pode suspender a sua conta: é o único Proprietário ativo, e só um "
        ++ "Proprietário pode levantar uma suspensão — ninguém ficaria com autoridade para "
        ++ "reativar a conta. Atribua a função de Proprietário a outra conta ativa antes de "
        ++ "suspender esta")
        (some "self_suspend_last_active_owner")

/-- `patch_user` on the record: the name is written before the address is looked at. -/
def PatchUser.change (request : PatchUser) (user : UserRecord) :
    UserRecord × Except AccountError Unit :=
  let named := user.patchDisplayName request.displayName
  match named.patchEmail request.email with
  | .error fault => (named, .error fault)
  | .ok addressed =>
      (((addressed.patchActive request.active).patchLanguage request.language)
        |>.patchTwoFactorRequired request.twoFactorRequired, .ok ())

/-- Why a request to deactivate an account is refused before it changes anything. -/
def patchRefusal (users : UserMap) (target : Uuid) (request : PatchUser) : Option AccountError :=
  if request.active = some false then
    match users.get target with
    | none => some .notFound
    | some user => (deactivationBlock users user).map DeactivationBlock.refusedPatch
  else none

/-- `patch_user` under the lock. -/
def patchUser (users : UserMap) (target : Uuid) (request : PatchUser) : SectionOutcome :=
  match patchRefusal users target request with
  | some fault => (users, .error fault)
  | none => users.edit target request.change

/-- `patch_me_profile` on the record. -/
def PatchMyProfile.change (request : PatchMyProfile) (user : UserRecord) :
    UserRecord × Except AccountError Unit :=
  let named := user.patchDisplayName request.displayName
  match named.patchEmail request.email with
  | .error fault => (named, .error fault)
  | .ok addressed => (addressed.patchLanguage request.language, .ok ())

def suspensionRefusal (users : UserMap) (user : UserRecord) : Option AccountError :=
  if !user.active then
    some (.conflict "a conta já está suspensa" (some "account_already_suspended"))
  else (deactivationBlock users user).map DeactivationBlock.refusedSuspension

/-- `suspend_me` under the lock. -/
def suspendMe (users : UserMap) (me : Uuid) : SectionOutcome :=
  match users.get me with
  | none => (users, .error .notFound)
  | some user =>
      match suspensionRefusal users user with
      | some fault => (users, .error fault)
      | none => users.edit me fun user => ({ user with active := false }, .ok ())

/-- Why a new account is refused under the lock: its name is taken, or it is no first run
any more. -/
def creationRefusal [Crates] (users : UserMap) (fields : NewUser) : Option AccountError :=
  if users.values.any (fun user => eqIgnoreAsciiCase user.username fields.username) then
    some (.conflict ("a user named " ++ debugStr fields.username ++ " already exists") none)
  else if !users.values.isEmpty && fields.isBootstrap && !fields.hasAuthenticatedActor then
    some (.unauthorized "sessão requerida" none)
  else none

def NewUser.record (fields : NewUser) (bootstrap : Bool) (newId : Uuid) (createdAt : String) :
    UserRecord where
  id := newId
  username := fields.username
  displayName := fields.displayName
  email := fields.email
  createdAt := createdAt
  active := true
  passwordHash := some fields.passwordHash
  attestationKey := some fields.attestationKey
  retiredAttestationKeys := []
  secretSource := .password
  recoveryHash := none
  roleAssignments := [fields.assignment.getD (bootstrapAssignment bootstrap)]
  language := fields.language
  totp := none
  twoFactorRequired := false
  forcePasswordChange := fields.forcePasswordChange
  passkeys := []

/-- `create_user` under the lock. -/
def createUser [Crates] (users : UserMap) (fields : NewUser) (newId : Uuid) (createdAt : String) :
    SectionOutcome :=
  match creationRefusal users fields with
  | some fault => (users, .error fault)
  | none =>
      let user := fields.record users.values.isEmpty newId createdAt
      (users.insert user, .ok user)

namespace LockedSection

/-- The section run on the users, with the identifier and the time a new account draws. -/
def run [Crates] (section_ : LockedSection) (users : UserMap) (newId : Uuid) (createdAt : String) :
    SectionOutcome :=
  match section_ with
  | .assignRole target assignment => Chancela.assignRole users target assignment
  | .unassignRole target assignment => Chancela.unassignRole users target assignment
  | .patchUser target request => Chancela.patchUser users target request
  | .patchMeProfile me request => users.edit me request.change
  | .suspendMe me => Chancela.suspendMe users me
  | .createUser fields => Chancela.createUser users fields newId createdAt
  | .credential target change => users.edit target fun user => (change.apply user, .ok ())

def target (newId : Uuid) : LockedSection → Uuid
  | .assignRole target _ | .unassignRole target _ | .patchUser target _
  | .patchMeProfile target _ | .suspendMe target | .credential target _ => target
  | .createUser _ => newId

end LockedSection

/-! ### The changes keep the identifier -/

namespace UserRecord

variable {user : UserRecord}

@[simp] theorem id_patchDisplayName {displayName : Option String} :
    (user.patchDisplayName displayName).id = user.id := by
  unfold patchDisplayName
  split
  · rfl
  · dsimp only
    split <;> rfl

@[simp] theorem isActiveOwner_patchDisplayName {displayName : Option String} :
    (user.patchDisplayName displayName).isActiveOwner = user.isActiveOwner := by
  unfold patchDisplayName
  split
  · rfl
  · dsimp only
    split <;> rfl

theorem eq_of_patchEmail {email : Option (Option String)} {addressed : UserRecord}
    (accepted : user.patchEmail email = .ok addressed) :
    ∃ written, addressed = { user with email := written } := by
  unfold patchEmail at accepted
  split at accepted
  · exact ⟨user.email, (Except.ok.inj accepted).symm⟩
  · rename_i email
    cases normalized : normalizeOptionalEmail email "email" with
    | error fault =>
        rw [normalized] at accepted
        cases accepted
    | ok written =>
        rw [normalized] at accepted
        exact ⟨written, (Except.ok.inj accepted).symm⟩

@[simp] theorem id_patchLanguage {language : Option UserLanguage} :
    (user.patchLanguage language).id = user.id := by
  cases language <;> rfl

@[simp] theorem isActiveOwner_patchLanguage {language : Option UserLanguage} :
    (user.patchLanguage language).isActiveOwner = user.isActiveOwner := by
  cases language <;> rfl

@[simp] theorem id_patchTwoFactorRequired {required : Option Bool} :
    (user.patchTwoFactorRequired required).id = user.id := by
  cases required <;> rfl

@[simp] theorem isActiveOwner_patchTwoFactorRequired {required : Option Bool} :
    (user.patchTwoFactorRequired required).isActiveOwner = user.isActiveOwner := by
  cases required <;> rfl

@[simp] theorem id_patchActive {active : Option Bool} : (user.patchActive active).id = user.id := by
  cases active <;> rfl

@[simp] theorem id_retireAttestationKey {retiredAt : String} :
    (user.retireAttestationKey retiredAt).id = user.id := by
  unfold retireAttestationKey
  split <;> rfl

@[simp] theorem isActiveOwner_retireAttestationKey {retiredAt : String} :
    (user.retireAttestationKey retiredAt).isActiveOwner = user.isActiveOwner := by
  unfold retireAttestationKey isActiveOwner
  split <;> rfl

end UserRecord

section Changes

variable {user : UserRecord}

@[simp] theorem PatchUser.id_change {request : PatchUser} :
    (request.change user).1.id = user.id := by
  unfold change
  dsimp only
  split
  · exact UserRecord.id_patchDisplayName
  · rename_i addressed accepted
    obtain ⟨written, rfl⟩ := UserRecord.eq_of_patchEmail accepted
    simp only [UserRecord.id_patchTwoFactorRequired, UserRecord.id_patchLanguage,
      UserRecord.id_patchActive, UserRecord.id_patchDisplayName]

def PatchMyProfile.patch (request : PatchMyProfile) : PatchUser :=
  ⟨request.displayName, request.email, none, request.language, none⟩

theorem PatchMyProfile.change_eq {request : PatchMyProfile} :
    request.change user = request.patch.change user := rfl

@[simp] theorem PatchMyProfile.id_change {request : PatchMyProfile} :
    (request.change user).1.id = user.id := by
  rw [change_eq, PatchUser.id_change]

@[simp] theorem CredentialChange.id_apply {change : CredentialChange} :
    (change.apply user).id = user.id := by
  cases change with
  | setSecret rewrapped dropKey newHash source consumes retiredAt =>
      cases rewrapped <;> cases dropKey <;>
        simp [apply]
  | _ => simp [apply]

end Changes

/-! ### What a section leaves -/

namespace UserMap

variable {users : UserMap} {target : Uuid} {record : UserRecord} {fault : AccountError}
  {change : UserRecord → UserRecord × Except AccountError Unit}

theorem edit_of_get_eq_some {user : UserRecord} (found : users.get target = some user) :
    users.edit target change = (users.insert (change user).1, (change user).2.map fun _ =>
      (change user).1) := by
  unfold edit
  rw [found]
  dsimp only
  split
  · rename_i changed outcome
    rw [outcome]
    rfl
  · rename_i changed fault outcome
    rw [outcome]
    rfl

theorem insert_of_edit_ok (accepted : (users.edit target change).2 = .ok record) :
    (users.edit target change).1 = users.insert record := by
  cases found : users.get target with
  | none =>
      rw [edit, found] at accepted
      cases accepted
  | some user =>
      rw [edit_of_get_eq_some found] at accepted ⊢
      dsimp only at accepted ⊢
      cases outcome : (change user).2 with
      | error fault =>
          rw [outcome] at accepted
          cases accepted
      | ok _ =>
          rw [outcome] at accepted
          rw [← Except.ok.inj accepted]

theorem get_edit_of_ne (named : ∀ user, (change user).1.id = user.id) {id : Uuid}
    (apart : id ≠ target) : (users.edit target change).1.get id = users.get id := by
  cases found : users.get target with
  | none => rw [edit, found]
  | some user =>
      have keyed : (change user).1.id = target := (named user).trans (Table.key_of_get found)
      rw [edit_of_get_eq_some found, Table.get_insert, if_neg (keyed ▸ apart)]

end UserMap

namespace LockedSection

variable [Crates] {section_ : LockedSection} {users : UserMap} {newId : Uuid}
  {createdAt : String} {record : UserRecord}

/-- **An accepted section** put in the record it answers with. -/
theorem insert_of_run_ok (accepted : (section_.run users newId createdAt).2 = .ok record) :
    (section_.run users newId createdAt).1 = users.insert record := by
  cases section_ with
  | assignRole target assignment => exact UserMap.insert_of_edit_ok accepted
  | patchMeProfile me request => exact UserMap.insert_of_edit_ok accepted
  | credential target change => exact UserMap.insert_of_edit_ok accepted
  | unassignRole target assignment =>
      simp only [run, Chancela.unassignRole] at accepted ⊢
      split at accepted
      · cases accepted
      · split at accepted
        · cases accepted
        · rename_i allowed
          rw [if_neg allowed]
          exact UserMap.insert_of_edit_ok accepted
  | patchUser target request =>
      simp only [run, Chancela.patchUser] at accepted ⊢
      split at accepted
      · cases accepted
      · exact UserMap.insert_of_edit_ok accepted
  | suspendMe me =>
      simp only [run, Chancela.suspendMe] at accepted ⊢
      split at accepted
      · cases accepted
      · rename_i user found
        cases refused : suspensionRefusal users user with
        | some fault =>
            rw [refused] at accepted
            cases accepted
        | none =>
            rw [refused] at accepted
            exact UserMap.insert_of_edit_ok accepted
  | createUser fields =>
      simp only [run, Chancela.createUser] at accepted ⊢
      split at accepted
      · cases accepted
      · rw [← Except.ok.inj accepted]

/-- **A section touches the record of its target only.** -/
theorem get_run_of_ne {id : Uuid} (apart : id ≠ section_.target newId) :
    (section_.run users newId createdAt).1.get id = users.get id := by
  cases section_ with
  | assignRole target assignment => exact UserMap.get_edit_of_ne (fun _ => rfl) apart
  | patchMeProfile me request =>
      exact UserMap.get_edit_of_ne (fun _ => PatchMyProfile.id_change) apart
  | credential target change =>
      exact UserMap.get_edit_of_ne (fun _ => CredentialChange.id_apply) apart
  | unassignRole target assignment =>
      simp only [run, Chancela.unassignRole]
      split
      · rfl
      · split
        · rfl
        · exact UserMap.get_edit_of_ne (fun _ => rfl) apart
  | patchUser target request =>
      simp only [run, Chancela.patchUser]
      split
      · rfl
      · exact UserMap.get_edit_of_ne (fun _ => PatchUser.id_change) apart
  | suspendMe me =>
      simp only [run, Chancela.suspendMe]
      split
      · rfl
      · split
        · rfl
        · exact UserMap.get_edit_of_ne (fun _ => rfl) apart
  | createUser fields =>
      simp only [run, Chancela.createUser]
      split
      · rfl
      · rw [Table.get_insert, if_neg]
        exact apart

end LockedSection

end Chancela
